/-
# Tokens

The text of a script is seen as tokens: words, operators, arrows of redirections and ends of lines.
`Cursor` is the place that reading has got to.  A reader gives up because the text does not hold the
whole line of commands (`Trouble.more`) or because of what is there.  The text of a here-document
begins on the line after its arrow and is read up to the line that ends it.

A word may be an alias: the text that it stands for takes its place and is read in its turn, but the
alias means nothing in its own text (`Inserted`).
-/
import CommandShell.Machine.Script.Tree

namespace CommandShell.Script

/-! ## 1. Tokens -/

/-- The arrows of redirections. -/
inductive Arrow
  | read | update | write (mode : WriteMode) (force : Bool) | copy
  /-- A here-document, of which the tabs at the starts of lines may not count. -/
  | document (unindented : Bool)
deriving Repr, DecidableEq

inductive Token
  | endOfFile
  | newline
  | operator (text : String)
  | redirection (fd : Nat) (arrow : Arrow)
  | word (pieces : Word)
  | keyword (text : String)

/-- The words that belong to constructs where a command may begin. -/
def keywords : List String :=
  ["!", "case", "do", "done", "elif", "else", "esac", "fi", "for", "if", "in", "then", "until",
    "while", "\x7b", "\x7d"]

/-- The token in a message. -/
def Token.shown : Token → String
  | .endOfFile => "end of file"
  | .newline => "newline"
  | .operator text => "\"" ++ text ++ "\""
  | .redirection _ _ => "redirection"
  | .word _ => "word"
  | .keyword text => "\"" ++ text ++ "\""

def Token.isOperator (text : String) : Token → Bool
  | .operator t => t == text
  | _ => false

def Token.isKeyword (text : String) : Token → Bool
  | .keyword t => t == text
  | _ => false

/-- Whether two tokens are the same operator or the same keyword. -/
def Token.isSame (t : Token) : Token → Bool
  | .operator text => t.isOperator text
  | .keyword text => t.isKeyword text
  | _ => false

/-- Whether a token ends a list of commands inside a construct. -/
def Token.endsList : Token → Bool
  | .endOfFile => true
  | .operator t => [")", ";;"].contains t
  | .keyword t => ["do", "done", "elif", "else", "esac", "fi", "then", "\x7d"].contains t
  | _ => false

/-- What the place of a token makes of it. -/
structure Wishes where
  /-- Whether ends of lines are skipped. -/
  skipsLines : Bool := false
  /-- Whether keywords count. -/
  keywords : Bool := false
  /-- Whether aliases count. -/
  aliases : Bool := false
deriving Repr, DecidableEq

namespace Wishes

/-- Where a command may begin. -/
def command : Wishes := { keywords := true, aliases := true }

/-- Where a command may begin, perhaps on a later line. -/
def line : Wishes := { skipsLines := true, keywords := true, aliases := true }

/-- Where a pattern may begin, perhaps on a later line. -/
def pattern : Wishes := { skipsLines := true, keywords := true }

end Wishes

/-! ## 2. Places in a script -/

/-- A here-document that is still to be read. -/
structure Asked where
  number : Nat
  delimiter : ByteText
  unindented : Bool
  /-- Whether parameters are expanded in it. -/
  expanded : Bool
deriving Repr, DecidableEq

/-- The words that stand for texts. -/
abbrev Aliases := List (ByteText × ByteText)

/-- The text of an alias that was put in front of what is left of a script. -/
structure Inserted where
  name : ByteText
  /-- The number of characters that are left behind it. -/
  behind : Nat
  /-- Whether it ends in a blank, so that the word behind it may be an alias, too. -/
  inviting : Bool
deriving Repr, DecidableEq

/-- What is left of a script. -/
structure Cursor where
  rest : List Char
  aliases : Aliases := []
  inserted : List Inserted := []
  line : Nat := 1
  /-- Whether nothing follows the text that is left. -/
  complete : Bool := true
  /-- A token that was read and put back. -/
  back : Option Token := none
  /-- The word that was read last. -/
  word : Word := []
  asked : List Asked := []
  /-- The here-document that is being read: the line that ends it ends the text. -/
  ending : Option Asked := none
  /-- What follows the here-document whose end was reached. -/
  beyond : List Char := []
  /-- Whether the text is that of a here-document. -/
  inDocument : Bool := false
  documents : Documents := []
  /-- The number of the next here-document. -/
  next : Nat := 0

/-! ## 3. Aliases -/

/-- The texts of aliases that are still being read.  One is read until more has been taken than the
character that shows where it ends. -/
def Cursor.reading (c : Cursor) : List Inserted := c.inserted.filter (·.behind ≤ c.rest.length)

/-- The text that a word stands for, unless it is part of that text. -/
def Cursor.meaning? (c : Cursor) (word : ByteText) : Option ByteText :=
  if c.reading.any (·.name = word) then none else c.aliases.lookup word

/-- What is left when a word is replaced by the text that it stands for. -/
def Cursor.insert (c : Cursor) (word text : ByteText) : Cursor :=
  let inviting := match text.toList.getLast? with
    | some last => last == ' ' || last == '\t'
    | none => false
  { c with
    rest := text.toList ++ c.rest
    inserted := if text = "" then c.reading
      else { name := word, behind := c.rest.length, inviting } :: c.reading }

/-- Whether a token that began when so much was left is invited by an alias in front of it. -/
def Cursor.isInvited (c : Cursor) (before : Nat) : Bool :=
  c.inserted.any fun i => i.inviting && c.rest.length ≤ i.behind && i.behind < before

/-- The cursor with more of the script behind what is left. -/
def Cursor.extend (c : Cursor) (more : List Char) : Cursor :=
  { c with
    rest := c.rest ++ more
    inserted := c.reading.map fun i => { i with behind := i.behind + more.length } }

/-- A cursor on a text of its own.  What is being read further out is being read here, too. -/
def Cursor.within (c : Cursor) (text : List Char) : Cursor :=
  { c with
    rest := text, line := 1, complete := true, back := none, asked := [], ending := none
    inDocument := false
    inserted := c.reading.map fun i => { i with behind := 0, inviting := false } }

/-! ## 4. The reader -/

/-- Why reading ends early. -/
inductive Trouble
  /-- The text does not hold the whole line of commands. -/
  | more
  | malformed (line : Nat) (message : String)
deriving Repr, DecidableEq

/-- Something that reads a part of a script. -/
abbrev Reader := StateT Cursor (Except Trouble)

namespace Reader

/-- Gives up because of the text at hand. -/
def refuse {α : Type} (message : String) : Reader α := do throw (.malformed (← get).line message)

/-- Gives up because of a token. -/
def unexpected {α : Type} (t : Token) : Reader α := refuse (t.shown ++ " unexpected")

/-- Gives up because of a token where another one is due. -/
def expected {α : Type} (due t : Token) : Reader α :=
  refuse (t.shown ++ " unexpected (expecting " ++ due.shown ++ ")")

/-- The next character, if there is one. -/
def raw? : Reader (Option Char) := do
  let c ← get
  match c.rest with
  | x :: _ => pure (some x)
  | [] => if c.complete then pure none else throw .more

/-- Ends the text if the line that ends a here-document comes next. -/
def endAt (a : Asked) : Reader Unit := do
  let c ← get
  let cs := if a.unindented then c.rest.dropWhile (· == '\t') else c.rest
  let line := cs.takeWhile (· ≠ '\n')
  if !c.complete && line.length = cs.length then throw .more
  if String.ofList line == a.delimiter then
    set { c with
      rest := [], beyond := cs.drop (line.length + 1), ending := none, complete := true
      line := c.line + 1 }
  else set { c with rest := cs }

def skip : Reader Unit := do
  let c ← get
  match c.rest with
  | '\n' :: rest =>
    set { c with rest, line := c.line + 1 }
    if let some a := c.ending then endAt a
  | rest => set { c with rest := rest.drop 1 }

/-- A text without the joined ends of lines at its start, and how many there were. -/
def joinLines : List Char → Nat → List Char × Nat
  | '\\' :: '\n' :: cs, n => joinLines cs (n + 1)
  | cs, n => (cs, n)

/-- The next character after joined ends of lines. -/
def peek? : Reader (Option Char) := do
  let c ← get
  let (rest, n) := joinLines c.rest 0
  if rest = ['\\'] && !c.complete then throw .more
  set { c with rest, line := c.line + n }
  raw?

/-- Takes the next character if it is the given one. -/
def accept (x : Char) : Reader Bool := do
  if (← peek?) = some x then
    skip
    pure true
  else pure false

/-- The characters that satisfy a condition, through joined ends of lines; the number bounds how
many. -/
def takeWhile (p : Char → Bool) : Nat → Reader (List Char)
  | 0 => pure []
  | n + 1 => do
    match ← peek? with
    | some c =>
      if p c then
        skip
        return c :: (← takeWhile p n)
      else pure []
    | none => pure []

/-- The characters in front of a single quote, which is taken as well, and whether there is one; the
number bounds how many. -/
def untilQuote : Nat → Reader (List Char × Bool)
  | 0 => pure ([], false)
  | n + 1 => do
    match ← raw? with
    | some '\'' =>
      skip
      pure ([], true)
    | some c =>
      skip
      let (more, closed) ← untilQuote n
      pure (c :: more, closed)
    | none => pure ([], false)

def putBack (t : Token) : Reader Unit := modify fun c => { c with back := some t }

/-- The text without blanks and a comment at its start, and how many joined ends of lines it
lost. -/
def skipBlanks : List Char → Nat → List Char × Nat
  | ' ' :: cs, n => skipBlanks cs n
  | '\t' :: cs, n => skipBlanks cs n
  | '\\' :: '\n' :: cs, n => skipBlanks cs (n + 1)
  | '#' :: cs, n => (cs.dropWhile (· ≠ '\n'), n)
  | cs, n => (cs, n)

/-! ## 5. Here-documents -/

/-- Takes the whole text that is left; the number bounds its length. -/
def takeRest : Nat → Reader (List Char)
  | 0 => pure []
  | n + 1 => do
    match ← raw? with
    | some c =>
      skip
      return c :: (← takeRest n)
    | none => pure []

/-- Reads a here-document: what reads its text finds the end of the text at the line that ends
it. -/
def withDocument {α : Type} (a : Asked) (read : Reader α) : Reader α := do
  let outer ← get
  set { outer with back := none, asked := [], ending := some a, beyond := [], inDocument := true }
  endAt a
  let found ← read
  modify fun c => { outer with
    rest := c.beyond, line := c.line, documents := c.documents, next := c.next }
  pure found

end Reader
end CommandShell.Script
