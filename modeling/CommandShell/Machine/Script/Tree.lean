/-
# Scripts as trees

The installed program `sh` runs scripts in the standard command language.  A command of a script is
a tree (`Tree`) whose words are lists of pieces (`Piece`), because expansion treats what was quoted
and what was not differently.  Words and commands contain each other: a word may stand for what a
script writes.  All texts in a tree are byte texts.

The text of a here-document follows the line on which it is asked for, so a redirection only holds
its number (`Redirect.document`); the texts are kept beside the tree.
-/
import CommandShell.Machine.ByteText
import CommandShell.Syntax.Redirection

namespace CommandShell.Script

/-! ## 1. Words -/

/-- What takes the place of the value of a parameter. -/
inductive Instead
  /-- A word in place of a value that is missing. -/
  | default
  /-- A word, which also becomes the value, in place of a value that is missing. -/
  | assigned
  /-- A complaint about a value that is missing. -/
  | refused
  /-- A word in place of a value that is there. -/
  | alternative
deriving Repr, DecidableEq

mutual

/-- A piece of a word. -/
inductive Piece
  /-- Characters that stand for themselves. -/
  | text (s : ByteText) (quoted : Bool)
  /-- Quotation marks, with which a word stands for a field even if it is empty. -/
  | mark
  /-- What a parameter stands for. -/
  | parameter (name : ByteText) (use : Use) (quoted : Bool)
  /-- What a script writes. -/
  | output (script : Option Tree) (quoted : Bool)
  /-- The value of an expression. -/
  | arithmetic (expression : List Piece) (quoted : Bool)

/-- How a parameter is used. -/
inductive Use
  | value
  | length
  /-- `orEmpty` tells whether an empty value counts as missing. -/
  | substitute (what : Instead) (orEmpty : Bool) (word : List Piece)
  /-- The value without its shortest or longest part that matches a pattern, at the end or at the
  start. -/
  | trim (atEnd longest : Bool) (pattern : List Piece)
  /-- A use that has no meaning. -/
  | malformed

inductive Redirect
  | read (fd : Nat) (target : List Piece)
  /-- `force` tells whether a file that exists may be emptied in any case. -/
  | write (fd : Nat) (mode : WriteMode) (force : Bool) (target : List Piece)
  /-- Opened for reading and writing. -/
  | update (fd : Nat) (target : List Piece)
  /-- The descriptor becomes a copy of another one, or is closed when the word is `-`. -/
  | copy (fd : Nat) (source : List Piece)
  | document (fd : Nat) (number : Nat)

/-- A command. -/
inductive Tree
  /-- Assignments, words and redirections, on a line of the script. -/
  | simple (line : Nat) (assignments : List (ByteText × List Piece)) (words : List (List Piece))
      (redirects : List Redirect)
  | pipeline (stages : List Tree) (background : Bool)
  | sequence (first second : Tree)
  /-- The second runs if the first succeeds. -/
  | both (first second : Tree)
  /-- The second runs if the first fails. -/
  | either (first second : Tree)
  | negate (body : Tree)
  | background (line : Nat) (body : Tree) (redirects : List Redirect)
  | subshell (line : Nat) (body : Tree) (redirects : List Redirect)
  | redirected (line : Nat) (body : Tree) (redirects : List Redirect)
  | branch (condition : Tree) (yes no : Option Tree)
  /-- Repeats the body as long as the condition has the given outcome. -/
  | loop (outcome : Bool) (condition body : Tree)
  /-- Runs the body for each field of the words. -/
  | each (line : Nat) (name : ByteText) (words : List (List Piece)) (body : Tree)
  /-- Runs the command of the first pattern that the word matches. -/
  | choose (line : Nat) (word : List Piece) (cases : List (List (List Piece) × Option Tree))
  | define (name : ByteText) (body : Tree)
  | skip

end

/-- A word before expansion. -/
abbrev Word := List Piece

/-- The texts of here-documents by their numbers. -/
abbrev Documents := List (Nat × Word)

/-- The characters of a word in which nothing is quoted or expanded. -/
def Word.plain? : Word → Option ByteText
  | [] => some ""
  | .text s false :: rest => (plain? rest).map (s ++ ·)
  | _ => none

/-- The descriptor that a text names which is to be copied; none if one is to be closed. -/
def copied? (s : ByteText) : Option (Option Nat) :=
  match s.toList with
  | ['-'] => some none
  | [c] => if c.isDigit then some (some (c.toNat - '0'.toNat)) else none
  | _ => none

/-! ## 2. Names -/

/-- Whether a character may begin a name. -/
def isNameStart (c : Char) : Bool := c.isAlpha || c == '_'

/-- Whether a character may stand in a name. -/
def isNameChar (c : Char) : Bool := c.isAlphanum || c == '_'

def isName (s : ByteText) : Bool :=
  match s.toList with
  | c :: cs => isNameStart c && cs.all isNameChar
  | [] => false

/-- The commands of the language that no function can replace, and whose failure ends a script. -/
def specialBuiltins : List String :=
  [".", ":", "break", "continue", "eval", "exec", "exit", "export", "local", "readonly", "return",
    "set", "shift", "times", "trap", "unset"]

/-- Whether a character names a parameter by itself. -/
def isSpecial (c : Char) : Bool := c.isDigit || "@*#?$!-".toList.contains c

/-- The name and the value of a text that assigns a value. -/
def assignment? (s : ByteText) : Option (ByteText × ByteText) :=
  let name := s.toList.takeWhile (· ≠ '=')
  if isName (String.ofList name) && name.length < s.length then
    some (String.ofList name, String.ofList (s.toList.drop (name.length + 1)))
  else none

end CommandShell.Script
