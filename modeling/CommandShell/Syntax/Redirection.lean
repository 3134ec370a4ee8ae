/-
# Redirections

A redirection sends one output stream of a command to a file.  On the line it is an operator word
followed by its target: `>` and `1>` replace the target with the standard output, `>>` and `1>>`
extend it, `2>` and `2>>` do the same with the standard error.  The target may be glued to the
operator.  A word that holds a quoted part is never an operator.

`Operator.ofWord?` recognises operator words.  The spellings are tried longest first, so that
`1>>f` is read as `1>>` with the target `f`.
-/
import CommandShell.Syntax.Word

namespace CommandShell

/-! ## 1. Streams, modes, redirections -/

/-- The two output streams of a command. -/
inductive Stream
  | stdout
  | stderr
deriving Repr, DecidableEq

/-- What happens to the old content of a redirection's target. -/
inductive WriteMode
  /-- It is replaced. -/
  | overwrite
  /-- It is kept, and extended. -/
  | append
deriving Repr, DecidableEq

/-- The target of one output stream. -/
structure Redirection where
  /-- The file name as written on the line. -/
  target : String
  mode : WriteMode
deriving Repr, DecidableEq

/-! ## 2. Operator words -/

/-- An operator word, taken apart. -/
structure Operator where
  stream : Stream
  mode : WriteMode
  /-- What follows the operator in its word: the target, unless it is empty. -/
  glued : String
deriving Repr, DecidableEq

namespace Operator

/-- The spellings of the operators, longer ones before those that begin them. -/
def spellings : List (String × Stream × WriteMode) :=
  [("1>>", .stdout, .append), ("2>>", .stderr, .append), (">>", .stdout, .append),
   ("1>", .stdout, .overwrite), ("2>", .stderr, .overwrite), (">", .stdout, .overwrite)]

/-- What is left of `text` after `start`, if it begins with it. -/
def after? (start text : String) : Option String :=
  if start.toList.isPrefixOf text.toList then
    some (String.ofList (text.toList.drop start.toList.length))
  else none

/-- The operator that a word is, if it is one. -/
def ofWord? (w : Word) : Option Operator :=
  if w.quoted then none
  else spellings.findSome? fun (start, stream, mode) =>
    (after? start w.text).map fun rest => ⟨stream, mode, rest⟩

end Operator
end CommandShell
