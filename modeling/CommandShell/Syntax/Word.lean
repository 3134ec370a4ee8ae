/-
# Words of a command line

A line is read character by character into words.  Outside quotes a separator ends a word, a
backslash takes the next character as it is, and a quote opens a quoted span; spans that touch
belong to one word.  Single quotes take everything up to the next single quote; in double quotes
a backslash counts only before a backslash or a double quote.  Reading never fails: a quote that
is not closed runs to the end of the line, and a backslash that ends the line stands for itself.

`Word.readAll` is the reader.  It walks the line once, with the place it stands in (`Place`) and
the word begun so far.
-/
import CommandShell.Text.Blank

namespace CommandShell

/-! ## 1. Words -/

structure Word where
  /-- The characters the word stands for, without its quotes and escapes. -/
  text : String := ""
  /-- Whether any part of the word was quoted or escaped.  Such a word is never an operator. -/
  quoted : Bool := false
deriving Repr, DecidableEq

namespace Word

/-- The word with one more character. -/
def push (w : Word) (c : Char) : Word := { w with text := w.text.push c }

/-- The word, marked as holding a quoted part. -/
def quote (w : Word) : Word := { w with quoted := true }

/-! ## 2. The reader -/

/-- Where the reader stands in the line. -/
inductive Place
  /-- Between two words. -/
  | gap
  /-- In a word, outside quotes. -/
  | bare
  /-- In a span of single quotes. -/
  | single
  /-- In a span of double quotes. -/
  | double
deriving Repr, DecidableEq

/-- The words of the rest of a line, where `w` is the word begun so far. -/
def readFrom : Place → Word → List Char → List Word
  | .gap, _, [] => []
  | .bare, w, [] => [w]
  | .single, w, [] => [w]
  | .double, w, [] => [w]
  | .single, w, c :: cs =>
    if c = '\'' then readFrom .bare w cs else readFrom .single (w.push c) cs
  | .double, w, '\\' :: '\\' :: cs => readFrom .double (w.push '\\') cs
  | .double, w, '\\' :: '"' :: cs => readFrom .double (w.push '"') cs
  | .double, w, c :: cs =>
    if c = '"' then readFrom .bare w cs else readFrom .double (w.push c) cs
  | .gap, w, '\\' :: c :: cs => readFrom .bare (w.push c).quote cs
  | .gap, w, c :: cs =>
    if Text.isSeparator c then readFrom .gap w cs
    else if c = '\'' then readFrom .single w.quote cs
    else if c = '"' then readFrom .double w.quote cs
    else readFrom .bare (w.push c) cs
  | .bare, w, '\\' :: c :: cs => readFrom .bare (w.push c).quote cs
  | .bare, w, c :: cs =>
    if Text.isSeparator c then w :: readFrom .gap {} cs
    else if c = '\'' then readFrom .single w.quote cs
    else if c = '"' then readFrom .double w.quote cs
    else readFrom .bare (w.push c) cs

/-- The words of a line, in order. -/
def readAll (line : String) : List Word := readFrom .gap {} line.toList

end Word
end CommandShell
