/-
# The command line

The shell as a program that can be run.  It acts on a machine of its own, on which the usual
programs are installed; what it is typed and what it says are the standard streams of this program.
-/
import CommandShell.CommandLine.Program
import CommandShell.Machine.Install

namespace CommandShell.Main

/-- How many rounds the machine may run for one line. -/
def patience : Nat := 1000000

/-- The variables that the shell is started with. -/
def variableNames : List String := ["HISTFILE", "HOME", "PATH", "PIPESH_LOG", "TERM"]

/-- The variables of this program that the shell is started with. -/
def inherited : IO Inherited := do
  let vars ← variableNames.filterMapM fun name => do
    return (← IO.getEnv name).map fun value => (name, value)
  return .ofVars vars

/-- All that can be read from a stream. -/
partial def readAll (stream : IO.FS.Stream) (before : ByteArray) : IO ByteArray := do
  let bytes ← stream.read 65536
  if bytes.isEmpty then return before else readAll stream (before ++ bytes)

def write (stream : IO.FS.Stream) (bytes : Bytes) : IO Unit := do
  stream.write ⟨bytes.toArray⟩
  stream.flush

end CommandShell.Main

open CommandShell in
/-- Runs the shell on a fresh machine; its exit status is that of the shell. -/
def main (args : List String) : IO UInt32 := do
  let input ← Main.readAll (← IO.getStdin) .empty
  let w := { World.booted FileSystem.installed [] with terminal := { input := input.data.toList } }
  match Program.run Main.patience args (← Main.inherited) w with
  | none => return 1
  | some (status, w) =>
    Main.write (← IO.getStdout) w.terminal.output
    Main.write (← IO.getStderr) w.terminal.errors
    return status.toUInt32
