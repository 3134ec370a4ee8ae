/-
# The state of a shell

What a shell keeps between two lines (`Environment`), and that together with the machine it acts on
(`Session`).  An action of the shell either gives a value or fails; what it did before it failed
stays done (`Action`).
-/
import CommandShell.History
import CommandShell.Inherited
import CommandShell.Machine.World
import CommandShell.Search

namespace CommandShell

/-- What a shell keeps between two lines. -/
structure Environment where
  /-- The variables, which every program that is started gets. -/
  vars : Std.ExtTreeMap String String := ∅
  /-- What the shell itself was started with. -/
  inherited : Inherited := { entries := [] }
  /-- The current directory, from which commands and redirections take relative paths. -/
  directory : String
  search : Search := {}
  history : History := {}
  /-- The status that the shell has been asked to exit with. -/
  exitRequest : Option Int := none

/-- A shell and the machine it runs on. -/
structure Session where
  env : Environment
  world : World

/-- Something a shell does, which may fail. -/
abbrev Action := ExceptT Failure (StateM Session)

namespace Environment

/-- A shell that is started with some variables, in the machine's current directory. -/
def start (inherited : Inherited) (w : World) : Environment :=
  { vars := inherited.vars
    inherited
    directory := w.directory.path
    search := Search.ofPath (inherited.vars.getD "PATH" "") }

/-- The value that is found under a name: that of a variable, or else what the shell was started
with. -/
def value? (env : Environment) (name : String) : Option String :=
  env.vars[name]? <|> env.inherited.value? name

def assign (env : Environment) (name value : String) : Environment :=
  { env with vars := env.vars.insert name value }

def requestExit (env : Environment) (status : Int) : Environment :=
  { env with exitRequest := some status }

def shouldExit (env : Environment) : Bool := env.exitRequest.isSome

end Environment

namespace Session

/-- Looks up the program of a command, and remembers what was found. -/
def resolve (s : Session) (name : String) : Option String × Session :=
  let (found, search) :=
    s.env.search.resolve s.world.files s.world.directory name s.env.directory
  (found, { s with env := { s.env with search } })

/-- Records an accepted line.  The line is in the history even if its file cannot take it. -/
def record (s : Session) (line : String) : Session :=
  let (history, written) := s.env.history.add s.world.files s.world.directory line
  let files := match written with
    | .ok files => files
    | .error _ => s.world.files
  { env := { s.env with history }, world := { s.world with files } }

end Session
end CommandShell
