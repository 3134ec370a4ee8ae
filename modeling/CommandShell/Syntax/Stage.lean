/-
# Stages

A stage is one command: its name, its arguments and the targets of its two output streams.  The
first word is the name, whatever it looks like; of the words after it, operator words and their
targets are taken out and the rest are the arguments, in order.  An operator without a target,
which can only be the last word, is an ordinary argument.  Of several redirections of one stream
the last counts.
-/
import CommandShell.Syntax.Redirection

namespace CommandShell

/-- One command of a line.  A stage without a name stands for no command at all. -/
structure Stage where
  name : String := ""
  args : List String := []
  stdout : Option Redirection := none
  stderr : Option Redirection := none
deriving Repr, DecidableEq

namespace Stage

/-- The stage with one more argument in front. -/
def consArg (s : Stage) (arg : String) : Stage := { s with args := arg :: s.args }

/-- The stage with a redirection that stands before those it has: it counts only if the stream has
none yet. -/
def consRedirection (s : Stage) (stream : Stream) (r : Redirection) : Stage :=
  match stream with
  | .stdout => { s with stdout := s.stdout <|> some r }
  | .stderr => { s with stderr := s.stderr <|> some r }

/-- The arguments and redirections of the words after the name. -/
def ofOperands : List Word → Stage
  | [] => {}
  | w :: rest =>
    match Operator.ofWord? w with
    | none => (ofOperands rest).consArg w.text
    | some op =>
      if op.glued = "" then
        match rest with
        | [] => ({} : Stage).consArg w.text
        | target :: rest => (ofOperands rest).consRedirection op.stream ⟨target.text, op.mode⟩
      else (ofOperands rest).consRedirection op.stream ⟨op.glued, op.mode⟩

/-- The stage of a list of words. -/
def ofWords : List Word → Stage
  | [] => {}
  | name :: operands => { ofOperands operands with name := name.text }

/-- The stage that a text stands for, pipe characters being ordinary characters. -/
def parse (text : String) : Stage := ofWords (Word.readAll text)

/-- Whether the stage holds no command. -/
def isEmpty (s : Stage) : Bool := s.name == ""

end Stage
end CommandShell
