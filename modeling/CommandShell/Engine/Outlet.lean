/-
# The streams of a stage

Before a stage runs, the targets of its streams are opened.  A stage takes two numbers for open
files, one for each stream, so that it does not matter to what the streams are connected which of
them is opened first.
-/
import CommandShell.Builtin.Run
import CommandShell.Machine.Launch
import CommandShell.Syntax.Stage

namespace CommandShell

def Action.onWorld (f : World → World) : Action Unit :=
  modify fun s => { s with world := f s.world }

namespace World

/-- The channel of a stream that is not redirected. -/
def standard : Stream → Channel
  | .stdout => .terminalOutput
  | .stderr => .terminalError

/-- The number under which a stage opens the target of a stream, `first` being its first one. -/
def outletNumber (first : Nat) : Stream → Nat
  | .stdout => first
  | .stderr => first + 1

/-- Opens the target of a redirection. -/
def openOutlet (w : World) (directory : String) (first : Nat) (stream : Stream)
    (redirection : Option Redirection) : Except Failure (Channel × World) :=
  match redirection with
  | none => .ok (standard stream, w)
  | some r =>
    (w.openAs (outletNumber first stream) w.directory (Path.join directory r.target)
      (.write r.mode)).mapError (.redirection r.target)

end World

namespace Action

/-- Takes the two numbers of a stage. -/
def takeNumbers : Action Nat := do
  let first := (← get).world.nextFile
  onWorld fun w => { w with nextFile := first + 2 }
  pure first

def openOutlet (first : Nat) (stream : Stream) (redirection : Option Redirection) :
    Action Channel := do
  let s ← get
  match s.world.openOutlet s.env.directory first stream redirection with
  | .ok (c, world) =>
    set { s with world }
    pure c
  | .error f => throw f

/-- Looks up the program of a command. -/
def resolve (name : String) : Action (Option String) := do
  let (found, s) := (← get).resolve name
  set s
  pure found

/-- Runs a built-in command on two sinks; gives what became of the first. -/
def runBuiltin (b : Builtin) (stdout stderr : Sink) : Action Sink := do
  let (result, job) := b.run.run.run { session := ← get, stdout, stderr }
  set job.session
  match result with
  | .ok _ => pure job.stdout
  | .error f => throw f

def reportMissing (name : String) (stderr : Channel) : Action Unit := do
  let s ← get
  match Sink.write s.world (.channel stderr) (Text.encode (name ++ ": command not found\n")) with
  | .ok (_, world) => set { s with world }
  | .error f => throw f

/-- The request that starts the program of a stage. -/
def launchOf (env : Environment) (program : String) (stage : Stage)
    (stdin stdout stderr : Channel) : Launch :=
  { program, name := stage.name, args := stage.args, directory := env.directory,
    vars := env.vars.toList, stdin, stdout, stderr }

/-- Starts a program; gives its process, if it could be started. -/
def launch (program : String) (stage : Stage) (stdin stdout stderr : Channel) :
    Action (Option Nat) := do
  let s ← get
  match s.world.launch (launchOf s.env program stage stdin stdout stderr) with
  | some (process, world) =>
    set { s with world }
    pure (some process)
  | none => pure none

end Action
end CommandShell
