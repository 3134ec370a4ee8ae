/-
# How regular expressions are written

There are two styles of writing a regular expression.  In the plain one `\(`, `\)`, `\{`, `\}`,
`\|`, `\+` and `\?` have a meaning, in the extended one the same characters without the backslash; a
character that has none stands for itself.  `Regex.read` reads either, or tells what is wrong.
-/
import CommandShell.Machine.ByteText
import CommandShell.Machine.Regex

namespace CommandShell

/-- How a regular expression is written and meant. -/
structure RegexStyle where
  extended : Bool := false
  /-- Whether small letters count as capital ones. -/
  folded : Bool := false
  /-- Whether lines inside a text have starts and ends of their own. -/
  lines : Bool := false
deriving Repr, DecidableEq

/-- What is wrong with a regular expression. -/
inductive RegexFault
  | backReference
  | brackets
  | braces
  | classOutside
  | className
  | closing
  | collation
  | content
  | opening
  | preceding
  | range
  | tooBig
  | trailing
deriving Repr, DecidableEq

def RegexFault.text : RegexFault → ByteText
  | .backReference => "Invalid back reference"
  | .brackets => "Unmatched [, [^, [:, [., or [="
  | .braces => "Unmatched \\\x7b"
  | .classOutside => "character class syntax is [[:space:]], not [:space:]"
  | .className => "Invalid character class name"
  | .closing => "Unmatched ) or \\)"
  | .collation => "Invalid collation character"
  | .content => "Invalid content of \\\x7b\\\x7d"
  | .opening => "Unmatched ( or \\("
  | .preceding => "Invalid preceding regular expression"
  | .range => "Invalid range end"
  | .tooBig => "Regular expression too big"
  | .trailing => "Trailing backslash"

namespace Regex

/-! ## 1. Brackets -/

/-- An element between brackets. -/
inductive BracketItem
  | one (c : Char)
  | several (bytes : Bytes)

/-- Splits a text at a character that is followed by a closing bracket. -/
def splitAtClosing (mark : Char) : List Char → Option (List Char × List Char)
  | c :: ']' :: rest =>
    if c = mark then some ([], rest)
    else (splitAtClosing mark (']' :: rest)).map fun (name, rest) => (c :: name, rest)
  | c :: rest => (splitAtClosing mark rest).map fun (name, rest) => (c :: name, rest)
  | [] => none

/-- The element at the start of a text, and what follows. -/
def bracketItem : List Char → Except RegexFault (BracketItem × List Char)
  | [] => .error .brackets
  | '[' :: ':' :: cs =>
    match splitAtClosing ':' cs with
    | none => .error .brackets
    | some (name, rest) =>
      match byteClass? (String.ofList name) with
      | some p => .ok (.several (allBytes.filter p), rest)
      | none => .error .className
  | '[' :: '=' :: cs =>
    match splitAtClosing '=' cs with
    | none => .error .brackets
    | some ([c], rest) => .ok (.several [ByteText.byteOf c], rest)
    | some _ => .error .collation
  | '[' :: '.' :: cs =>
    match splitAtClosing '.' cs with
    | none => .error .brackets
    | some ([c], rest) => .ok (.one c, rest)
    | some _ => .error .collation
  | c :: cs => .ok (.one c, cs)

/-- The bytes that the elements between brackets stand for, and what follows the closing bracket.
`first` tells whether nothing was read yet, so that a closing bracket stands for itself, and the
number bounds how many elements there are. -/
def bracketMembers : Nat → Bool → List Char → Except RegexFault (Bytes × List Char)
  | 0, _, _ => .error .brackets
  | n + 1, first, cs =>
    match cs with
    | ']' :: rest =>
      if first then rangeFrom n ']' rest else .ok ([], rest)
    | '-' :: rest => if first || rest.head? = some ']' then rangeFrom n '-' rest else .error .range
    | cs =>
      match bracketItem cs with
      | .error e => .error e
      | .ok (.several bytes, rest) => do
        let (more, rest) ← bracketMembers n false rest
        pure (bytes ++ more, rest)
      | .ok (.one c, rest) => rangeFrom n c rest
where
  /-- Goes on behind a character, with which a range may begin. -/
  rangeFrom (n : Nat) (c : Char) (rest : List Char) : Except RegexFault (Bytes × List Char) :=
    let single : Except RegexFault (Bytes × List Char) := do
      let (more, rest) ← bracketMembers n false rest
      pure (ByteText.byteOf c :: more, rest)
    match rest with
    | '-' :: ']' :: _ => single
    | '-' :: after =>
      match bracketItem after with
      | .error e => .error e
      | .ok (.several _, _) => .error .range
      | .ok (.one d, after) =>
        if d < c then .error .range
        else do
          let (more, rest) ← bracketMembers n false after
          pure (byteRange (ByteText.byteOf c) (ByteText.byteOf d) ++ more, rest)
    | _ => single

/-- Whether what stands between brackets looks like the name of a class. -/
def looksLikeClass (inside : List Char) : Bool :=
  inside.head? == some ':' && inside.getLast? == some ':' && 2 < inside.length
    && (inside.drop 1).dropLast.all Char.isAlpha

/-- Bytes with both forms of their letters. -/
def bothForms (bytes : Bytes) : Bytes := bytes ++ bytes.map capital ++ bytes.map small

/-- The bytes that stand for one another in a style. -/
def oneOf (s : RegexStyle) (negated : Bool) (bytes : Bytes) : Regex :=
  .one negated ((if s.folded then bothForms bytes else bytes)
    ++ if negated && s.lines then [10] else [])

/-- Reads what follows an opening bracket. -/
def readBracket (s : RegexStyle) (cs : List Char) : Except RegexFault (Regex × List Char) := do
  let negated := cs.head? = some '^'
  let inner := if negated then cs.drop 1 else cs
  let (bytes, rest) ← bracketMembers (inner.length + 1) true inner
  if looksLikeClass (cs.take (cs.length - rest.length - 1)) then throw .classOutside
  pure (oneOf s negated bytes, rest)

/-! ## 2. Tokens -/

inductive Token
  | literal (c : Char)
  | set (negated : Bool) (bytes : Bytes)
  | bracket
  | opening
  | closing
  | bar
  /-- A sign of repetition, with how often it asks for what is in front of it. -/
  | repetition (sign : Char) (least : Nat) (most : Option Nat)
  | brace
  | again (number : Nat)
  | anchor (condition : Anchor)
  | trailing
  | over

/-- The token for a character that has a meaning in one of the styles. -/
def sign? : Char → Option Token
  | '(' => some .opening
  | ')' => some .closing
  | '|' => some .bar
  | '{' => some .brace
  | '+' => some (.repetition '+' 1 none)
  | '?' => some (.repetition '?' 0 (some 1))
  | _ => none

def classBytes (name : String) : Bytes := allBytes.filter ((byteClass? name).getD fun _ => false)

/-- The token for a character behind a backslash that means the same in both styles. -/
def escaped (c : Char) : Token :=
  let word := classBytes "alnum" ++ [95]
  match c with
  | 'w' => .set false word
  | 'W' => .set true word
  | 's' => .set false (classBytes "space")
  | 'S' => .set true (classBytes "space")
  | 'b' => .anchor .edge
  | 'B' => .anchor .noEdge
  | '<' => .anchor .wordStart
  | '>' => .anchor .wordEnd
  | '\x60' => .anchor .start
  | '\'' => .anchor .stop
  | c => if c.isDigit && c ≠ '0' then .again (c.toNat - '0'.toNat) else .literal c

/-- The token at the start of a text, and what follows.  `first` tells whether the text begins an
alternative. -/
def token (s : RegexStyle) (first : Bool) : List Char → Token × List Char
  | [] => (.over, [])
  | ['\\'] => (.trailing, [])
  | '\\' :: c :: rest =>
    match if s.extended then none else sign? c with
    | some t => (t, rest)
    | none => (if (sign? c).isSome then .literal c else escaped c, rest)
  | c :: rest =>
    match if s.extended then sign? c else none with
    | some t => (t, rest)
    | none =>
      match c with
      | '[' => (.bracket, rest)
      | '.' => (.set true [], rest)
      | '*' => (.repetition '*' 0 none, rest)
      | '^' =>
        (if s.extended || first then .anchor (if s.lines then .lineStart else .start)
          else .literal c, rest)
      | '$' =>
        let last := match rest with
          | [] => true
          | '\\' :: c :: _ => c = ')' || c = '|'
          | _ => false
        (if s.extended || last then .anchor (if s.lines then .lineEnd else .stop)
          else .literal c, rest)
      | c => (.literal c, rest)

/-! ## 3. Repetitions -/

/-- How often something may be repeated at most. -/
def repetitionLimit : Nat := 32767

def splitAtBrace (s : RegexStyle) : List Char → Option (List Char × List Char)
  | [] => none
  | '\\' :: '}' :: rest =>
    if s.extended then (splitAtBrace s rest).map fun (inner, rest) => ('\\' :: '}' :: inner, rest)
    else some ([], rest)
  | c :: rest =>
    if s.extended && c = '}' then some ([], rest)
    else (splitAtBrace s rest).map fun (inner, rest) => (c :: inner, rest)

def readNumber? (digits : List Char) : Option Nat :=
  if digits = [] then none
  else some (digits.foldl (fun n c => 10 * n + (c.toNat - '0'.toNat)) 0)

/-- Reads what follows an opening brace: how often something is repeated. -/
def readInterval (s : RegexStyle) (cs : List Char) :
    Except RegexFault (Nat × Option Nat × List Char) := do
  let some (inner, rest) := splitAtBrace s cs | throw .braces
  let digits := inner.takeWhile Char.isDigit
  let least := readNumber? digits
  let (least, most) ← match inner.drop digits.length, least with
    | [], some n => pure (n, some n)
    | ',' :: more, least =>
      if more.all Char.isDigit then pure (least.getD 0, readNumber? more) else throw .content
    | _, _ => throw .content
  if most.any (· < least) then throw .content
  if repetitionLimit < most.getD least then throw .tooBig
  pure (least, most, rest)

/-! ## 4. Expressions -/

/-- What is left of a text that is being read, and the groups that were opened and closed. -/
structure Reading where
  rest : List Char
  opened : Nat := 0
  closed : List Nat := []

/-- One expression after another, where nothing is left out if it is empty. -/
def followedBy (r : Regex) : Regex → Regex
  | .empty => r
  | s => .both r s

/-- Reads the repetitions behind an expression; the number bounds how many there are. -/
def readRepetitions (s : RegexStyle) : Nat → Regex → Reading →
    Except RegexFault (Regex × Reading)
  | 0, r, input => .ok (r, input)
  | n + 1, r, input => do
    let found ← match token s false input.rest with
      | (.repetition _ least most, rest) => pure (some (least, most, rest))
      | (.brace, rest) => do
        let interval ← readInterval s rest
        pure (some interval)
      | _ => pure none
    match found with
    | none => pure (r, input)
    | some (least, most, rest) =>
      match s.extended, token s false rest with
      | false, (.repetition '*' _ _, _) | false, (.brace, _) => throw .preceding
      | _, _ => readRepetitions s n (.repeated least most r) { input with rest }

mutual

/-- Reads alternatives; `inside` tells whether they stand in a group, and the number bounds how
deep the expression is. -/
def readAlternatives (s : RegexStyle) : Nat → Bool → Reading →
    Except RegexFault (Regex × Reading)
  | 0, _, _ => .error .tooBig
  | n + 1, inside, input => do
    let (r, input) ← readSequence s n inside true input
    match token s false input.rest with
    | (.bar, rest) =>
      let (other, input) ← readAlternatives s n inside { input with rest }
      pure (.either r other, input)
    | _ => pure (r, input)

/-- Reads expressions that follow each other; `first` tells whether nothing was read yet. -/
def readSequence (s : RegexStyle) : Nat → Bool → Bool → Reading →
    Except RegexFault (Regex × Reading)
  | 0, _, _, _ => .error .tooBig
  | n + 1, inside, first, input => do
    match (token s first input.rest).1 with
    | .over | .bar => pure (.empty, input)
    | .closing => if inside then pure (.empty, input) else throw .closing
    | _ =>
      let (r, input) ← readSingle s n first input
      let (more, input) ← readSequence s n inside false input
      pure (followedBy r more, input)

/-- Reads an expression with its repetitions. -/
def readSingle (s : RegexStyle) : Nat → Bool → Reading → Except RegexFault (Regex × Reading)
  | 0, _, _ => .error .tooBig
  | n + 1, first, input => do
    let (t, rest) := token s first input.rest
    let go (r : Regex) (input : Reading) : Except RegexFault (Regex × Reading) :=
      readRepetitions s (input.rest.length + 1) r input
    match t with
    | .literal c => go (oneOf s false [ByteText.byteOf c]) { input with rest }
    | .set negated bytes => go (oneOf s negated bytes) { input with rest }
    | .bracket =>
      let (r, rest) ← readBracket s rest
      go r { input with rest }
    | .opening =>
      let number := input.opened + 1
      let (r, input) ← readAlternatives s n true { input with rest, opened := number }
      match token s false input.rest with
      | (.closing, rest) =>
        go (.group number r) { input with rest, closed := number :: input.closed }
      | _ => throw .opening
    | .again number =>
      if input.closed.contains number then go (.again number s.folded) { input with rest }
      else throw .backReference
    | .anchor a => pure (.anchor a, { input with rest })
    | .repetition sign .. =>
      if s.extended then throw .preceding
      else go (oneOf s false [ByteText.byteOf sign]) { input with rest }
    | .brace => throw .preceding
    | .trailing => throw .trailing
    | .closing | .bar | .over => pure (.empty, input)

end

/-- Reads a regular expression; tells how many groups it has. -/
def read (s : RegexStyle) (cs : List Char) : Except RegexFault (Regex × Nat) := do
  let (r, input) ← readAlternatives s (3 * cs.length + 3) false { rest := cs }
  pure (r, input.opened)

end Regex
end CommandShell
