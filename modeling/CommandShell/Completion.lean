/-
# Completing a command name

Only the first word of a line is completed.  It is the text between the blanks at the start of the
line and the cursor; when it is empty or holds a blank there is nothing to complete.  The
candidates are the built-in commands and the programs of the search list whose names begin with
it, each once and in order.  A candidate that stands alone is completed with a space behind it.
-/
import CommandShell.Builtin.Name
import CommandShell.Search

namespace CommandShell

/-- One way to complete a word. -/
structure Candidate where
  display : String
  replacement : String
deriving Repr, DecidableEq

/-- The ways to complete a line. -/
structure Completion where
  /-- The byte at which the replaced text starts. -/
  start : Nat
  candidates : List Candidate := []
deriving Repr, DecidableEq

/-- What completion knows of the shell: the search list it follows. -/
structure Completer where
  dirs : List String := []
deriving Repr, DecidableEq

namespace Completer

/-- Follows a search list.  A list that differs in the spelling of its paths alone is the same. -/
def follow (c : Completer) (dirs : List String) : Completer :=
  if c.dirs.map Path.components = dirs.map Path.components then c else ⟨dirs⟩

/-- The names of commands that begin with `start`, in order. -/
def commandNames (c : Completer) (fs : FileSystem) (base : Location) (start : String) :
    List String :=
  let builtins := (BuiltinName.all.map BuiltinName.text).filter (Search.beginsWith start)
  ((Search.executables c.dirs fs base start).insertMany builtins).toList

/-- The characters that fill at most `n` bytes at the start of a text. -/
def takeBytes : Nat → List Char → List Char
  | _, [] => []
  | n, c :: cs => if c.utf8Size ≤ n then c :: takeBytes (n - c.utf8Size) cs else []

/-- Completes a line at the byte offset of the cursor. -/
def complete (c : Completer) (fs : FileSystem) (base : Location) (line : String) (cursor : Nat) :
    Completion :=
  let head := String.ofList (takeBytes cursor line.toList)
  let word := Text.trimStart head
  if word = "" ∨ word.toList.any Text.isBlank then ⟨cursor, []⟩
  else
    let start := head.utf8ByteSize - word.utf8ByteSize
    match c.commandNames fs base word with
    | [name] => ⟨start, [⟨name, name ++ " "⟩]⟩
    | names => ⟨start, names.map fun name => ⟨name, name⟩⟩

end Completer
end CommandShell
