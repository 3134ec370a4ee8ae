/-
# Words of a script

The characters of a word mean different things between quotation marks, in the word of a parameter,
in an arithmetic expression and in a here-document (`Context`).  A backslash at the end of a line
joins the line to the next one almost everywhere.
-/
import CommandShell.Machine.Script.Token

namespace CommandShell.Script.Reader

/-! ## 1. Contexts -/

/-- Where characters of a word stand. -/
inductive Context
  | bare
  /-- Between double quotation marks. -/
  | double
  /-- In the word of a parameter; `inner` tells whether quotation marks of its own are open. -/
  | braces (quoted inner : Bool)
  | document
  /-- In an arithmetic expression, with the number of parentheses that are open. -/
  | sum (depth : Nat)
  /-- In the word that ends a here-document. -/
  | delimiter
deriving Repr, DecidableEq

/-- Whether what stands here is quoted. -/
def Context.isQuoted : Context → Bool
  | .bare => false
  | .braces quoted _ => quoted
  | .delimiter => false
  | _ => true

def endsWord (c : Char) : Bool := " \t\n;&|<>()".toList.contains c

/-- The characters that a backslash protects between quotation marks. -/
def Context.protects (ctx : Context) (c : Char) : Bool :=
  match c with
  | '\\' | '\x60' | '$' => true
  | '"' => ctx != .document
  | '\x7d' => match ctx with
    | .braces _ _ => true
    | _ => false
  | _ => false

/-- Puts characters behind the pieces of a word, which are in reverse order. -/
def addText (s : List Char) (quoted : Bool) : Word → Word
  | .text t q :: rest =>
    if q = quoted then .text (t ++ String.ofList s) q :: rest
    else .text (String.ofList s) quoted :: .text t q :: rest
  | word => .text (String.ofList s) quoted :: word

/-- The pieces of a quoted string as part of a word.  All the parameters alone make no field where
there are none. -/
def quotedPieces (inner : Word) : Word :=
  match inner with
  | [.parameter "@" .value true] => inner
  | _ => .mark :: inner

/-- Complains that the text ends between quotation marks, which a here-document only has within
braces. -/
def unclosedQuote {α : Type} : Reader α := do
  refuse (if (← get).inDocument then "Missing '\x7d'" else "Unterminated quoted string")

/-- Ends a word at the end of the text. -/
def atEnd (ctx : Context) (word : Word) : Reader Word :=
  match ctx with
  | .bare | .document | .delimiter => pure word.reverse
  | .sum _ => refuse "Missing '))'"
  | .double | .braces true _ => unclosedQuote
  | .braces false _ => refuse "Missing '\x7d'"

/-- The word that stands for all parameters. -/
def allParameters : Word := [.parameter "@" .value true]

/-! ## 2. What a word says -/

/-- The text of a word without its quotes. -/
def wordText (word : Word) : ByteText :=
  String.join (word.map fun
    | .text s _ => s
    | _ => "")

/-- The assignment that a word is, if it is one. -/
def wordAssignment? : Word → Option (ByteText × Word)
  | .text s false :: rest => (assignment? s).map fun (name, value) =>
      (name, if value = "" then rest else .text value false :: rest)
  | _ => none

/-- The characters in front of a back quote, with the backslashes dropped that protect characters
from it, and what follows; nothing if there is no back quote. -/
def untilBackQuote (quoted : Bool) : List Char → Option (List Char × List Char)
  | [] => none
  | '\x60' :: cs => some ([], cs)
  | '\\' :: '\n' :: cs => untilBackQuote quoted cs
  | '\\' :: c :: cs =>
    (untilBackQuote quoted cs).map fun (inner, after) =>
      if c = '\\' || c = '\x60' || c = '$' || (quoted && c = '"') then (c :: inner, after)
      else ('\\' :: c :: inner, after)
  | c :: cs => (untilBackQuote quoted cs).map fun (inner, after) => (c :: inner, after)

/-! ## 3. Operators -/

/-- The operator at the place, if there is one. -/
def operator? : Reader (Option Token) := do
  let pair (one two : Char) (text : String) : Reader (Option Token) := do
    skip
    if ← accept two then pure (some (.operator (text ++ text)))
    else pure (some (.operator (String.singleton one)))
  match ← peek? with
  | some '&' => pair '&' '&' "&"
  | some '|' => pair '|' '|' "|"
  | some ';' => pair ';' ';' ";"
  | some '(' =>
    skip
    pure (some (.operator "("))
  | some ')' =>
    skip
    pure (some (.operator ")"))
  | some '\n' =>
    skip
    pure (some .newline)
  | none => pure (some .endOfFile)
  | _ => pure none

/-- The arrow of a redirection, of which the first character is given. -/
def arrow (first : Char) (fd : Option Nat) : Reader Token := do
  skip
  if first = '>' then
    let kind : Arrow ←
      if ← accept '>' then pure (.write .append false)
      else if ← accept '|' then pure (.write .overwrite true)
      else if ← accept '&' then pure .copy
      else pure (.write .overwrite false)
    pure (.redirection (fd.getD 1) kind)
  else
    let kind : Arrow ←
      if ← accept '<' then pure (.document (← accept '-'))
      else if ← accept '&' then pure .copy
      else if ← accept '>' then pure .update
      else pure .read
    pure (.redirection (fd.getD 0) kind)

/-- The descriptor that a word in front of an arrow names. -/
def descriptor? : Word → Option (Option Nat)
  | [] => some none
  | [.text s false] =>
    match s.toList with
    | [c] => if c.isDigit then some (some (c.toNat - '0'.toNat)) else none
    | _ => none
  | _ => none

/-! ## 4. Parameters in braces -/

/-- The name of a parameter in braces, where `counted` tells whether its length is asked for, and
whether the use has a meaning so far. -/
def bracedName : Reader (ByteText × Bool × Bool) := do
  let n := (← get).rest.length
  let name : Reader ByteText := do
    match ← peek? with
    | some c =>
      if isNameStart c then return String.ofList (← takeWhile isNameChar n)
      else if c.isDigit then return String.ofList (← takeWhile Char.isDigit n)
      else pure ""
    | none => pure ""
  let found ← name
  if found ≠ "" then return (found, false, true)
  match ← peek? with
  | none => pure ("", false, false)
  | some '\x7d' => pure ("", false, false)
  | some '#' =>
    skip
    let counted ← name
    if counted ≠ "" then return (counted, true, true)
    let saved ← get
    match ← peek? with
    | some c =>
      if c = '\x7d' then pure ("#", false, true)
      else
        skip
        if (← peek?) = some '\x7d' then pure (String.singleton c, true, isSpecial c)
        else
          set saved
          pure ("#", false, true)
    | none => pure ("#", false, true)
  | some c =>
    skip
    pure (String.singleton c, false, isSpecial c)

/-- How a parameter in braces is used, as far as its first characters tell, and whether a word
follows. -/
inductive Usage
  | plain
  | substitute (what : Instead) (orEmpty : Bool)
  | trim (atEnd longest : Bool)
  /-- The value, with a word behind it that does not count. -/
  | ignored
  | malformed
deriving Repr, DecidableEq

/-- How the parameter is used whose name was read. -/
def usage : Reader Usage := do
  let orEmpty ← accept ':'
  match ← peek? with
  | some '\x7d' =>
    skip
    pure (if orEmpty then .ignored else .plain)
  | some '-' =>
    skip
    pure (.substitute .default orEmpty)
  | some '=' =>
    skip
    pure (.substitute .assigned orEmpty)
  | some '?' =>
    skip
    pure (.substitute .refused orEmpty)
  | some '+' =>
    skip
    pure (.substitute .alternative orEmpty)
  | some '%' =>
    if orEmpty then
      skip
      pure .malformed
    else
      skip
      pure (.trim true (← accept '%'))
  | some '#' =>
    if orEmpty then
      skip
      pure .malformed
    else
      skip
      pure (.trim false (← accept '#'))
  | some _ =>
    modify fun c => { c with rest := c.rest.drop 1 }
    pure .malformed
  | none => pure .malformed

end CommandShell.Script.Reader
