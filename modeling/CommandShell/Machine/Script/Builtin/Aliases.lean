/-
# Aliases

An alias is a word that stands for a text where a command begins.  The command `alias` of the script
language sets and shows aliases, and `unalias` takes them away.
-/
import CommandShell.Machine.Script.Builtin.Finding

namespace CommandShell.Script.Aliases

open Runner

/-- How many groups the names of aliases fall into. -/
def groups : Nat := 39

/-- The aliases, group by group. -/
def shown (s : State) : List (ByteText × ByteText) :=
  (List.range groups).flatMap fun n => s.aliases.filter fun entry =>
    Finding.code entry.1 % groups = n

/-- Complains that a name is no alias, in the name of a command. -/
def refuse (command name : ByteText) : Runner Nat := do
  say (Routine.complain (command ++ ": " ++ name ++ " not found\n"))
  pure 1

/-- Lets a name stand for a text. -/
def define (name text : ByteText) : Runner Unit :=
  modify fun s =>
    let changed := s.aliases.map fun entry => if entry.1 = name then (name, text) else entry
    { s with aliases :=
      if (s.aliases.lookup name).isSome then changed else s.aliases ++ [(name, text)] }

/-- Sets an alias or shows it; an equals sign at the start of the name belongs to the name. -/
def treat (arg : ByteText) : Runner Nat := do
  let cs := arg.toList
  let name := cs.take 1 ++ (cs.drop 1).takeWhile (· ≠ '=')
  match cs.drop name.length with
  | _ :: text =>
    define (String.ofList name) (String.ofList text)
    pure 0
  | [] =>
    match (← get).aliases.lookup arg with
    | some text =>
      emit (Finding.aliasLine arg text)
      pure 0
    | none => refuse "alias" arg

/-- The command `alias`. -/
def set (args : List ByteText) : Runner Nat := do
  if args.isEmpty then
    emit (String.join ((shown (← get)).map fun (name, text) => Finding.aliasLine name text))
  let statuses ← args.mapM treat
  pure (statuses.foldl (· ||| ·) 0)

/-- The command `unalias`. -/
def unset (args : List ByteText) : Runner Nat := do
  let (found, names) ← Letters.read "a" "" args
  if !found.isEmpty then
    modify fun s => { s with aliases := [] }
    pure 0
  else
    let statuses ← names.mapM fun name => do
      if ((← get).aliases.lookup name).isSome then
        modify fun s => { s with aliases := s.aliases.filter (·.1 ≠ name) }
        pure 0
      else refuse "unalias" name
    pure (statuses.foldl (· ||| ·) 0)

end CommandShell.Script.Aliases
