/-
# Lines

A line is one command or a pipeline.  It is cut at its bare pipe characters; when there are at
least two segments and each names a command, the line is the pipeline of their stages.  In every
other case the whole line is one command, in which pipe characters are ordinary characters.
-/
import CommandShell.Syntax.Segment
import CommandShell.Syntax.Stage

namespace CommandShell

/-- What a line asks for. -/
inductive Line
  /-- One command, or nothing when its name is empty. -/
  | single (stage : Stage)
  /-- Commands connected by pipes, in order. -/
  | pipeline (stages : List Stage)
deriving Repr, DecidableEq

namespace Line

def parse (text : String) : Line :=
  let stages := (Segment.split text).map Stage.parse
  if stages.length < 2 || stages.any Stage.isEmpty then .single (Stage.parse text)
  else .pipeline stages

/-- Whether the line asks for nothing. -/
def isBlank : Line → Bool
  | .single stage => stage.isEmpty
  | .pipeline _ => false

end Line
end CommandShell
