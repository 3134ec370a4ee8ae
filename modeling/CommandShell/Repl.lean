/-
# The read-eval loop

Without a line to run, the shell reads lines from its input until one of them asks it to exit or the
input is over.  A line that fails is reported and the next one is read; an input line that is not a
text ends the loop at once.  After the loop the history is flushed, and the status is the one that
was asked for, or 0.
-/
import CommandShell.Engine.Line
import CommandShell.Text.Bytes
import CommandShell.Text.Grapheme

namespace CommandShell.Repl

/-! ## 1. Lines of input -/

/-- The lines of the rest of the input, where `line` is the one begun so far, in reverse. -/
def cutFrom : Bytes → Bytes → List Bytes
  | [], [] => []
  | line, [] => [line.reverse]
  | line, b :: rest =>
    if b = 10 then (b :: line).reverse :: cutFrom [] rest else cutFrom (b :: line) rest

/-- The text without the end of the line. -/
def dropLineEnd (s : String) : String :=
  if s.toList.getLast? = some '\n' then Text.dropReturn (String.ofList s.toList.dropLast) else s

/-- What was typed of a line: its characters, the last one first, and the sizes in bytes of its
clusters that a backspace can still take back. -/
structure Typed where
  chars : List Char := []
  sizes : List Nat := []

/-- Reads one cluster.  A backspace takes back the cluster before it; the size of a cluster is kept
in one byte, so it counts only up to multiples of 256. -/
def Typed.read (t : Typed) (cluster : List Char) : Typed :=
  if cluster = ['\x08'] then
    match t.sizes with
    | [] => t
    | size :: sizes => { chars := Text.dropBytes size t.chars, sizes }
  else
    { chars := cluster.reverse ++ t.chars
      sizes := (String.ofList cluster).utf8ByteSize % 256 :: t.sizes }

/-- Applies the backspaces of a line. -/
def applyBackspaces (s : String) : String :=
  let typed : Typed := (Text.Grapheme.clusters s.toList).foldl Typed.read ⟨[], []⟩
  String.ofList typed.chars.reverse

/-- The text of one line of input. -/
def readLine (line : Bytes) : Except Failure String :=
  match Text.decode? line with
  | some text => .ok (applyBackspaces (dropLineEnd text))
  | none => .error (.input .notText)

def inputLines (input : Bytes) : List (Except Failure String) :=
  (cutFrom [] input).map readLine

/-! ## 2. The terminal -/

/-- Writes to the terminal. -/
def say (stream : Stream) (text : String) (s : Session) : Session :=
  { s with world := s.world.say stream text }

def prompt : String := "$ "

/-- Whether lines are asked for with a prompt although nobody can edit them: on terminals that
cannot do more. -/
def isPlainTerminal (name : Option String) : Bool :=
  ["dumb", "cons25", "emacs"].contains ((name.getD "").map Char.toLower)

/-- Asks for a line. -/
def ask (prompting : Bool) (s : Session) : Session :=
  if prompting then say .stdout prompt s else s

/-- Reports that a line failed. -/
def report (f : Failure) (s : Session) : Session :=
  say .stderr ("pipesh: " ++ f.message ++ "\n") s

/-! ## 3. The loop -/

/-- Runs one line and reports its failure. -/
def runLine (patience : Nat) (line : String) (s : Session) : Option Session :=
  (s.executeLine patience line).map fun
    | (.ok _, s) => s
    | (.error f, s) => report f s

/-- Reads and runs lines until the shell is asked to exit or the input is over. -/
def loop (patience : Nat) (prompting : Bool) : List (Except Failure String) → Session → Ending
  | [], s => some (.ok (), ask prompting s)
  | .error f :: _, s => some (.error f, ask prompting s)
  | .ok line :: rest, s =>
    match runLine patience line (ask prompting s) with
    | none => none
    | some s => if s.env.shouldExit then some (.ok (), s) else loop patience prompting rest s

/-- Writes the pending entries of the history to its file. -/
def flushHistory (s : Session) : Except Failure Unit × Session :=
  match s.env.history.flush s.world.files s.world.directory with
  | (history, .ok files) =>
    (.ok (), { env := { s.env with history }, world := { s.world with files } })
  | (history, .error f) => (.error f, { s with env := { s.env with history } })

/-- The status that was asked for, or 0. -/
def status (s : Session) : Int := s.env.exitRequest.getD 0

/-- Runs the loop on lines of input; gives the status of the shell. -/
def run (patience : Nat) (prompting : Bool) (lines : List (Except Failure String)) (s : Session) :
    Option (Except Failure Int × Session) :=
  (loop patience prompting lines s).map fun
    | (.error f, s) => (.error f, s)
    | (.ok _, s) =>
      match flushHistory s with
      | (.error f, s) => (.error f, s)
      | (.ok _, s) => (.ok (status s), s)

end CommandShell.Repl
