/-
# What the built-in commands do

`Builtin.perform` carries a command out and gives its status, or fails; `Builtin.run` reports a
failure on the error stream and turns it into the status 1.  So a command that has been run fails
only when its report cannot be written.
-/
import CommandShell.Builtin.Command
import CommandShell.Builtin.Job

namespace CommandShell.Builtin

open Deed

/-! ## 1. Changing the directory -/

/-- The path that a target of `cd` stands for: a `~` in front of a slash, or alone, is the value of
HOME. -/
def expandHome (env : Environment) (target : String) : Except Failure String :=
  let inHome (rest : String) : Except Failure String :=
    match env.value? "HOME" with
    | some home => .ok (Path.join home rest)
    | none => .error (.noDirectory target)
  match target.toList with
  | ['~'] => inHome ""
  | '~' :: '/' :: rest => inHome (String.ofList rest)
  | _ => .ok target

/-- The location of the directory that `cd` changes to.  It is entered by its own path. -/
def destination (s : Session) (target : String) : Except Failure Location := do
  let path := Path.join s.env.directory (← expandHome s.env target)
  match s.world.files.locateStepwise s.world.directory path with
  | none => .error (.noDirectory target)
  | some loc =>
    if s.world.files.nameable.node? loc = some .directory then .ok loc
    else .error (.noDirectory target)

/-- Makes a location the current directory of the shell and of its machine. -/
def enter (s : Session) (loc : Location) : Session :=
  { env := { s.env with directory := loc.path }, world := { s.world with directory := loc } }

/-- Changes the directory.  Without a target, or with an empty one, HOME is the target; without
HOME nothing is done. -/
def performCd (target : Option String) : Deed Int := do
  let home := (← env).value? "HOME"
  match (target.filter (· ≠ "")).or home with
  | none => pure 0
  | some target =>
    let s := (← get).session
    setSession (enter s (← orFail (destination s target)))
    pure 0

/-! ## 2. Looking up names -/

/-- What `type` prints about a name, and whether it is a command. -/
def describe (s : Session) (name : String) : String × Bool × Session :=
  match BuiltinName.ofText? name with
  | some _ => (name ++ " is a shell builtin\n", true, s)
  | none =>
    match s.resolve name with
    | (some path, s) => (name ++ " is " ++ path ++ "\n", true, s)
    | (none, s) => (name ++ ": not found\n", false, s)

/-- Describes names in order; the status tells whether all were commands. -/
def performType : List String → Int → Deed Int
  | [], status => pure status
  | name :: rest, status => do
    let (text, known, s) := describe (← get).session name
    setSession s
    print .stdout text
    performType rest (if known then status else 1)

/-! ## 3. The history -/

/-- A number in five columns or more. -/
def entryNumber (n : Nat) : String :=
  let digits := toString n
  String.ofList (List.replicate (5 - digits.length) ' ') ++ digits

/-- How many entries a count asks to skip. -/
def skipped (count : Option String) (total : Nat) : Nat :=
  match count.map (Numeral.readNat Numeral.countLimit) with
  | some (.ok n) => if 0 < n then total - n else 0
  | _ => 0

/-- The entries with their numbers, from 1. -/
def numbered (session : List String) : List (Nat × String) :=
  session.zipIdx.map fun (line, i) => (i + 1, line)

def printEntries : List (Nat × String) → Deed Unit
  | [] => pure ()
  | (n, line) :: rest => do
    print .stdout (entryNumber n ++ "  " ++ line ++ "\n")
    printEntries rest

/-- Writes, reads or extends a history file, or lists the history. -/
def performHistory (r : HistoryRequest) : Deed Int := do
  let env ← env
  let w ← world
  let path (p : String) := Path.join env.directory p
  match r.write, r.read, r.append with
  | some p, _, _ =>
    setWorld { w with files := ← orFail (env.history.writeTo w.files w.directory (path p)) }
  | none, some p, _ =>
    setEnv { env with history := ← orFail (env.history.readFrom w.files w.directory (path p)) }
  | none, none, some p =>
    let (remembered, written) := env.history.appendNewTo w.files w.directory (path p)
    setEnv { env with history := remembered }
    setWorld { w with files := ← orFail written }
  | none, none, none =>
    let session := env.history.session
    printEntries ((numbered session).drop (skipped r.count session.length))
  pure 0

/-! ## 4. All commands -/

def perform : Builtin → Deed Int
  | .cd target => performCd target
  | .echo words => do
    print .stdout (" ".intercalate words ++ "\n")
    pure 0
  | .exit status => do
    setEnv ((← env).requestExit status)
    pure status
  | .history request => performHistory request
  | .pwd => do
    print .stdout ((← env).directory ++ "\n")
    pure 0
  | .type names => do
    if names = [] then
      print .stderr "type: missing argument\n"
      pure 1
    else performType names 0
  | .help text => do
    print .stdout (Text.trimEnd text ++ "\n")
    pure 0
  | .refuse message => do
    print .stderr (Text.trimEnd message ++ "\n")
    pure 1

/-- Whether the command only prints something about its arguments; what keeps it from that is not
reported in turn. -/
def isNotice : Builtin → Bool
  | .help _ => true
  | .refuse _ => true
  | _ => false

/-- Carries out a command, and reports its failure. -/
def run (b : Builtin) : Deed Int :=
  if b.isNotice then b.perform
  else
    tryCatch b.perform fun failure => do
      print .stderr (failure.message ++ "\n")
      pure 1

end CommandShell.Builtin
