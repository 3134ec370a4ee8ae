/-
# Calling the interpreter of scripts

The installed program `sh` is told by its arguments which script it runs: the argument behind `-c`,
a file, or what is on its standard input; other options are those of the script.  The variables that
it is given become variables of the script, if their names are names of variables.
-/
import CommandShell.Machine.Script.Builtin.Finding
import CommandShell.Machine.Script.Builtin.Variables
import CommandShell.Machine.Tool

namespace CommandShell.Script

/-! ## 1. The first state -/

/-- The variables that every script has.  The process that started it has no number of its own. -/
def firstVariables : List (String × String) :=
  [("IFS", defaultSeparators), ("OPTIND", "1"), ("PATH", Finding.defaultPath), ("PPID", "1"),
    ("PS1", "# "), ("PS2", "> "), ("PS4", "+ ")]

/-- The variables that have their first values whatever a script is given. -/
def resetVariables : List String := ["IFS", "OPTIND", "PPID"]

/-- The variables of a script together with one that it is given. -/
def importVariable (vars : Variables) (entry : ByteText) : Variables :=
  match assignment? entry with
  | some (name, value) =>
    let value := if resetVariables.contains name then firstVariables.lookup name else some value
    vars.insert name { value, exported := true }
  | none => vars

/-- The state of a script before its first command. -/
def State.first (name : ByteText) (environment : List ByteText) : State where
  name := name
  vars := environment.foldl importVariable
    (firstVariables.foldl (fun vars (name, value) => vars.insert name { value := some value }) ∅)

/-! ## 2. Arguments -/

/-- What the arguments ask for, as far as they were read. -/
structure Asking where
  options : List Char := []
  /-- Whether the script is an argument. -/
  given : Bool := false
deriving Repr, DecidableEq

/-- The options after one has been set or taken back. -/
def Asking.set (a : Asking) (on : Bool) (c : Char) : Asking :=
  let others := a.options.filter (· != c)
  { a with options := if on then c :: others else others }

/-- Reads the letters of an argument; gives the arguments that are left, or what is wrong. -/
def Asking.letters (on : Bool) : Asking → List Char → List ByteText →
    Except ByteText (Asking × List ByteText)
  | a, [], rest => .ok (a, rest)
  | a, 'c' :: cs, rest => letters on { a with given := true } cs rest
  | a, 'l' :: cs, rest => letters on a cs rest
  | a, 'o' :: cs, rest =>
    match rest with
    | [] => letters on a cs []
    | name :: rest =>
      match Variables.optionNames.lookup name with
      | some (some c) => letters on (a.set on c) cs rest
      | some none => letters on a cs rest
      | none => .error ("Illegal option -o " ++ name)
  | a, c :: cs, rest =>
    if Expansion.optionLetters.contains c then letters on (a.set on c) cs rest
    else .error ("Illegal option -" ++ String.singleton c)

/-- Reads the options at the start of arguments; the number bounds how many there are. -/
def Asking.read : Nat → Asking → List ByteText → Except ByteText (Asking × List ByteText)
  | 0, a, args => .ok (a, args)
  | _, a, [] => .ok (a, [])
  | n + 1, a, arg :: rest => do
    match arg.toList with
    | ['-'] | ['-', '-'] => .ok (a, rest)
    | '-' :: cs =>
      let (a, rest) ← a.letters true cs rest
      read n a rest
    | '+' :: cs =>
      let (a, rest) ← a.letters false cs rest
      read n a rest
    | _ => .ok (a, arg :: rest)

/-- The task that arguments ask for. -/
def Task.start (name : ByteText) (args environment : List ByteText) : Except Farewell Task :=
  let refuse (message : ByteText) : Except Farewell Task :=
    .error { complaint := name ++ ": 0: " ++ message ++ "\n", status := 2 }
  match Asking.read (args.length + 1) {} args with
  | .error message => refuse message
  | .ok (asking, operands) =>
    let state := { State.first name environment with options := asking.options }
    if asking.given then
      match operands with
      | [] => refuse "-c requires an argument"
      | source :: rest =>
        .ok (.given source { state with
          name := rest.head?.getD name
          parameters := rest.drop 1 })
    else
      match operands with
      | path :: rest =>
        if asking.options.contains 's' then .ok (.input { state with parameters := operands })
        else .ok (.file path { state with parameters := rest })
      | [] => .ok (.input (({ state with options := (asking.set true 's').options })))

end CommandShell.Script
