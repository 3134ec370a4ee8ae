/-
# Finding commands

A name without a slash is a keyword of the script language, an alias, a function, a command of the
language, or the name of a program on the list of directories in the variable `PATH`.  The commands
`type`, `command -v` and `hash` tell which one it is.
-/
import CommandShell.Machine.Script.Builtin.Variables
import CommandShell.Machine.Script.Reader

namespace CommandShell.Script.Finding

open Runner

def ownCommands : List String :=
  specialBuiltins ++
    ["[", "alias", "bg", "cd", "chdir", "command", "echo", "false", "fg", "getopts", "hash", "jobs",
      "kill", "printf", "pwd", "read", "test", "true", "type", "ulimit", "umask", "unalias", "wait"]

/-- The list of directories of a script without one of its own. -/
def defaultPath : ByteText := "/usr/local/sbin:/usr/local/bin:/usr/sbin:/usr/bin:/sbin:/bin"

/-- The paths that a name may stand for. -/
def candidates (s : State) (name : ByteText) : List ByteText :=
  (((s.value? "PATH").getD "").splitOn ":").map fun dir =>
    if dir = "" then name else dir ++ "/" ++ name

/-- The number of the path that leads to a program, from among some paths, the first of which has
number `place`.  `before` is the number of the one where it was found before; an absolute path up
to that one need not be tried again.  `problem` is why the last one was none. -/
def search (before : Option Nat) : Nat → OsError → List ByteText → Runner (Except OsError Nat)
  | _, problem, [] => pure (.error problem)
  | place, problem, path :: rest => do
    if path.toList.head? = some '/' && before.any (place ≤ ·) then
      if before = some place then pure (.ok place) else search before (place + 1) problem rest
    else
      match ← say (Routine.examine path) with
      | .ok found =>
        if (found.kind == .file || found.kind == .device) && found.executable then
          pure (.ok place)
        else search before (place + 1) .denied rest
      | .error e =>
        search before (place + 1) (if e = .notFound || e = .notDirectory then problem else e) rest

/-- The number of the directory in which a program is found. -/
def locate (name : ByteText) : Runner (Except OsError Nat) := do
  let s ← get
  match s.programs.lookup name with
  | some ⟨place, false⟩ => pure (.ok place)
  | old =>
    let result ← search (old.map (·.place)) 0 .notFound (candidates s name)
    modify (·.notice name result.toOption)
    pure result

/-- What a name stands for. -/
inductive Kind
  | keyword
  /-- A word that stands for a text. -/
  | shorthand (text : ByteText)
  | function
  | own
  /-- A program, which may have been found before. -/
  | program (path : ByteText) (known : Bool)
  | nothing
deriving Repr, DecidableEq

/-- Whether a name stands for a function or a command of the language. -/
def isCommand (s : State) (name : ByteText) : Bool :=
  ownCommands.contains name || s.functions.contains name

/-- Finds out what a name stands for. -/
def find (name : ByteText) : Runner Kind := do
  let s ← get
  if keywords.contains name then pure .keyword
  else if let some text := s.aliases.lookup name then pure (.shorthand text)
  else if specialBuiltins.contains name then pure .own
  else if s.functions.contains name then pure .function
  else if ownCommands.contains name then pure .own
  else if name.toList.contains '/' then
    match ← say (Routine.examine name) with
    | .ok _ => pure (.program name false)
    | .error _ => pure .nothing
  else
    let path (place : Nat) : ByteText := ((candidates s name)[place]?).getD name
    match s.programs.lookup name with
    | some found => pure (.program (path found.place) true)
    | none =>
      match ← locate name with
      | .ok place => pure (.program (path place) false)
      | .error _ => pure .nothing

/-- An alias as a line of a script. -/
def aliasLine (name text : ByteText) : ByteText :=
  name ++ "=" ++ Variables.quoted text ++ "\n"

/-- Tells what a name stands for, in words; gives the status. -/
def describe (name : ByteText) : Runner Nat := do
  let told (text : ByteText) : Runner Nat := do
    emit (name ++ text ++ "\n")
    pure 0
  match ← find name with
  | .keyword => told " is a shell keyword"
  | .shorthand text => told (" is an alias for " ++ text)
  | .function => told " is a shell function"
  | .own =>
    told (if specialBuiltins.contains name then " is a special shell builtin"
      else " is a shell builtin")
  | .program path known => told ((if known then " is a tracked alias for " else " is ") ++ path)
  | .nothing =>
    emit (name ++ ": not found\n")
    pure 127

/-- Tells how a name is called; gives the status. -/
def identify (name : ByteText) : Runner Nat := do
  match ← find name with
  | .program path _ =>
    emit (path ++ "\n")
    pure 0
  | .shorthand text =>
    emit ("alias " ++ aliasLine name text)
    pure 0
  | .nothing => pure 127
  | _ =>
    emit (name ++ "\n")
    pure 0

/-- The command `type`. -/
def type (args : List ByteText) : Runner Nat := do
  let statuses ← args.mapM describe
  pure (statuses.foldl (· ||| ·) 0)

/-- A number by which names fall into groups. -/
def code (name : ByteText) : Nat :=
  let codes := (ByteText.toBytes name).map UInt8.toNat
  codes.foldl (· + ·) (16 * codes.headD 0)

/-- How many groups the names of programs fall into. -/
def groups : Nat := 31

/-- The group of the name of a program. -/
def group (name : ByteText) : Nat := code name % 32768 % groups

/-- The programs that were found, group by group. -/
def shownPrograms (s : State) : List ByteText :=
  (List.range groups).flatMap fun n =>
    (s.programs.filter fun entry => group entry.1 = n).map fun (name, found) =>
      ((candidates s name)[found.place]?).getD name ++ (if found.stale then "*" else "")

/-- Looks for a program again; gives the status. -/
def renew (name : ByteText) : Runner Nat := do
  modify (·.notice name none)
  if name.toList.contains '/' || isCommand (← get) name then pure 0
  else
    match ← locate name with
    | .ok _ => pure 0
    | .error e =>
      complain (name ++ ": " ++ startingProblem e)
      pure 1

/-- The command `hash`. -/
def hash (args : List ByteText) : Runner Nat := do
  let (found, names) ← Letters.read "r" "" args
  if !found.isEmpty then
    modify fun s => { s with programs := [] }
    pure 0
  else if names.isEmpty then
    emit (String.join ((shownPrograms (← get)).map (· ++ "\n")))
    pure 0
  else
    let statuses ← names.mapM renew
    pure (statuses.foldl (· ||| ·) 0)

end CommandShell.Script.Finding
