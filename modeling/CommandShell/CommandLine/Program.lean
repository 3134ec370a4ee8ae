/-
# The program

The shell as a program: its arguments, the variables it reads, and its exit status.  With a line
among its arguments it runs that line and exits; otherwise it runs the read-eval loop on its input.
The history file is the one named by an option, by a variable, or the default one; a history file
that cannot be read is not used.
-/
import CommandShell.CommandLine.LogFilter
import CommandShell.Repl
import CommandShell.Text.Quoted

namespace CommandShell.Program

/-! ## 1. Arguments -/

def grammar : Grammar String where
  command := "pipesh"
  about := "An interactive shell with pipelines and output redirection."
  options := [
    { long := "command", short := some 'c', about := "execute this line and exit." },
    { long := "histfile", about := "history file, written on exit; overrides $HISTFILE." },
    { long := "log-level", about := "log filter used when $PIPESH_LOG is not set." }]
  operands := .none

/-- What the program is asked to do. -/
structure Request where
  command : Option String := none
  historyFile : Option String := none
  logFilter : String := "warn"
deriving Repr, DecidableEq

/-- What some arguments ask for. -/
inductive Asked
  | run (request : Request)
  | help
  | refused (complaint : Complaint)
deriving Repr, DecidableEq

def readArgs (args : List String) : Asked :=
  match grammar.read args with
  | .error c => .refused c
  | .ok r =>
    if r.helpWanted then .help
    else .run
      { command := r.values.lookup "command"
        historyFile := r.values.lookup "histfile"
        logFilter := (r.values.lookup "log-level").getD "warn" }

/-- The report of refused arguments. -/
def refusal (c : Complaint) : String :=
  c.message ++ "\nRun " ++ grammar.command ++ " --help for more information.\n"

/-- What keeps the program from starting. -/
inductive Obstacle
  /-- An error with its causes. -/
  | error (causes : List String)
  /-- The program breaks off. -/
  | breakdown
deriving Repr, DecidableEq

/-- Checks the log filter: the one of the variable, if that can be read, or else the one among the
arguments.  If neither will do, the causes of the error are those of the latter; but a filter that
would be cut inside a character is not survived. -/
def checkLogFilter (inherited : Inherited) (request : Request) : Except Obstacle Unit :=
  match (inherited.value? "PIPESH_LOG").map LogFilter.check with
  | some (.ok _) => .ok ()
  | some (.error .cut) => .error .breakdown
  | _ =>
    match LogFilter.check request.logFilter with
    | .ok _ => .ok ()
    | .error .cut => .error .breakdown
    | .error p =>
      .error (.error (("invalid log filter " ++ Text.quoted request.logFilter) :: p.causes))

/-! ## 2. Running -/

/-- The history that the program starts with. -/
def openHistory (request : Request) (env : Environment) (w : World) : History :=
  let configured := request.historyFile.or (env.value? "HISTFILE")
  let (path, mode) := History.locate configured env.directory
  match History.load w.files w.directory path mode with
  | .ok h => h
  | .error _ => {}

/-- The session that the program starts with. -/
def start (request : Request) (inherited : Inherited) (w : World) : Session :=
  let env := Environment.start inherited w
  { env := { env with history := openHistory request env w }, world := w }

/-- Runs one line and flushes the history; gives the status of the program. -/
def runCommand (patience : Nat) (line : String) (s : Session) :
    Option (Except Failure Int × Session) :=
  (s.executeLine patience line).map fun (outcome, s) =>
    match Repl.flushHistory s, outcome with
    | (.error f, s), _ => (.error f, s)
    | (.ok _, s), .ok _ => (.ok (Repl.status s), s)
    | (.ok _, s), .error f => (.ok 1, Repl.report f s)

/-- Takes all input from the terminal. -/
def takeInput (s : Session) : Bytes × Session :=
  let t := s.world.terminal
  (t.input, { s with world := { s.world with terminal := { t with input := [] } } })

/-- Runs the read-eval loop on the input. -/
def runLoop (patience : Nat) (s : Session) : Option (Except Failure Int × Session) :=
  let (input, s) := takeInput s
  Repl.run patience (Repl.isPlainTerminal (s.env.value? "TERM")) (Repl.inputLines input) s

def runRequest (patience : Nat) (request : Request) (inherited : Inherited)
    (w : World) : Option (Except Failure Int × Session) :=
  let s := start request inherited w
  match request.command with
  | some line => runCommand patience line s
  | none => runLoop patience s

/-- The status that the system keeps of the one a program ends with. -/
def exitStatus (status : Int) : Nat := (status % 256).toNat

/-- The status of the program when it breaks off. -/
def breakdownStatus : Nat := 101

/-- Runs the program; gives its exit status and the machine it leaves behind, or nothing if it
does not come to an end. -/
def run (patience : Nat) (args : List String) (inherited : Inherited) (w : World) :
    Option (Nat × World) :=
  match readArgs args with
  | .help => some (0, w.say .stdout (grammar.help ++ "\n"))
  | .refused c => some (1, w.say .stderr (refusal c))
  | .run request =>
    match checkLogFilter inherited request with
    | .error (.error causes) => some (1, w.say .stderr (errorReport causes))
    | .error .breakdown => some (breakdownStatus, w)
    | .ok _ =>
      (runRequest patience request inherited w).map fun
        | (.ok status, s) => (exitStatus status, s.world)
        | (.error f, s) => (1, s.world.say .stderr (errorReport f.causes))

end CommandShell.Program
