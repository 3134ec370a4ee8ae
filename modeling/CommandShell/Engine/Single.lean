/-
# Single commands

A command alone on its line runs to its end before anything else happens.  The targets of its
streams are opened first, the standard output before the standard error; if one cannot be opened
the command does not run.  A command that does not exist opens only the target of the stream on
which it is reported.  A program that cannot be started is passed over in silence.
-/
import CommandShell.Engine.Outlet
import CommandShell.Engine.Wait

namespace CommandShell

/-- Begins a command; gives the process to wait for, if there is one. -/
def Action.beginSingle (stage : Stage) : Action (Option Nat) := do
  match Builtin.lookup stage.name stage.args with
  | some b =>
    let first ← takeNumbers
    let stdout ← openOutlet first .stdout stage.stdout
    let stderr ← openOutlet first .stderr stage.stderr
    let _ ← runBuiltin b (.channel stdout) (.channel stderr)
    pure none
  | none =>
    match ← resolve stage.name with
    | none =>
      let first ← takeNumbers
      reportMissing stage.name (← openOutlet first .stderr stage.stderr)
      pure none
    | some program =>
      let first ← takeNumbers
      let stdout ← openOutlet first .stdout stage.stdout
      let stderr ← openOutlet first .stderr stage.stderr
      launch program stage .terminalInput stdout stderr

/-- What became of a line, and the session after it; none if the machine did not come to an end. -/
abbrev Ending := Option (Except Failure Unit × Session)

/-- Runs a command to its end. -/
def Session.runSingle (patience : Nat) (stage : Stage) (s : Session) : Ending :=
  match (Action.beginSingle stage).run.run s with
  | (.error f, s) => some (.error f, s)
  | (.ok none, s) => some (.ok (), s)
  | (.ok (some process), s) =>
    (s.world.waitFor patience process).map fun world => (.ok (), { s with world })

end CommandShell
