/-
# Running lines

A line that asks for nothing changes nothing.  Any other line is recorded in the history first,
whatever becomes of it, and then run.
-/
import CommandShell.Engine.Pipeline
import CommandShell.Syntax.Line

namespace CommandShell.Session

def execute (patience : Nat) (line : Line) (s : Session) : Ending :=
  match line with
  | .single stage => if stage.isEmpty then some (.ok (), s) else s.runSingle patience stage
  | .pipeline stages => s.runPipeline patience stages

/-- Accepts a line of input: records it and runs it.  A carriage return at its end does not
count. -/
def executeLine (patience : Nat) (input : String) (s : Session) : Ending :=
  let text := Text.dropReturn input
  let line := Line.parse text
  if line.isBlank then some (.ok (), s) else (s.record text).execute patience line

end CommandShell.Session
