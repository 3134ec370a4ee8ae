/-
# Reading field patterns

A pattern is read from the left, one character after the other, and the first thing that is wrong
with it is reported.  The text of a field ends at the first closing brace, so that whatever has to
be closed by one -- a count of repetitions, a character by its number in braces, a property by its
name, a special word boundary -- never is closed.

Loose patterns may hold blanks and comments that mean nothing.
-/
import CommandShell.FieldPattern.Tree
import CommandShell.Text.Blank
import CommandShell.Text.CharacterClass
import CommandShell.Text.Width

namespace CommandShell.FieldPattern

/-! ## 1. The cursor -/

/-- Where a reader stands. -/
structure Cursor where
  rest : List Char
  place : Position := {}
  /-- Whether the pattern is loose here. -/
  loose : Bool := false
  /-- The names of the groups so far. -/
  names : List (String × Span) := []

/-- Reads a part of a pattern. -/
abbrev Reader := StateT Cursor (Except Fault)

namespace Reader

def refuse {α : Type} (flaw : Flaw) (span : Span) (clash : Option Span := none) : Reader α :=
  throw ⟨flaw, span, clash⟩

/-- The next character. -/
def peek? : Reader (Option Char) := return (← get).rest.head?

/-- The place of the next character. -/
def place : Reader Position := return (← get).place

/-- The part that the next character takes up. -/
def charSpan : Reader Span := do
  let c ← get
  return ⟨c.place, c.place.after (c.rest.head?.getD ' ')⟩

def atEnd : Reader Bool := return (← get).rest.isEmpty

/-- Steps over one character. -/
def bump : Reader Unit :=
  modify fun c =>
    match c.rest with
    | [] => c
    | first :: rest => { c with rest, place := c.place.after first }

def bumps : Nat → Reader Unit
  | 0 => pure ()
  | n + 1 => do bump; bumps n

/-- The rest of a loose pattern after blanks and comments, and its place; tells first whether a
comment has begun. -/
def dropLoose : Bool → Position → List Char → Position × List Char
  | _, p, [] => (p, [])
  | true, p, c :: cs => dropLoose (c != '\n') (p.after c) cs
  | false, p, c :: cs =>
    if Text.isBlank c then dropLoose false (p.after c) cs
    else if c = '#' then dropLoose true (p.after c) cs
    else (p, c :: cs)

/-- Steps over blanks and comments in a loose pattern. -/
def skip : Reader Unit :=
  modify fun c =>
    if c.loose then
      let (place, rest) := dropLoose false c.place c.rest
      { c with place, rest }
    else c

/-- Steps over one character and what means nothing after it. -/
def advance : Reader Unit := do bump; skip

/-- The first character that is no blank; in a loose pattern the sign of a comment does not count
either, but what stands in the comment does. -/
def beyond? : Bool → List Char → Option Char
  | _, [] => none
  | inComment, c :: cs =>
    if Text.isBlank c then beyond? inComment cs
    else if c = '#' && !inComment then beyond? true cs
    else some c

/-- The character after the next one. -/
def peekBeyond? : Reader (Option Char) := do
  let c ← get
  let rest := c.rest.drop 1
  return if c.loose then (beyond? false rest).or rest.head? else rest.head?

/-- Steps over a text if it comes next; tells whether it does. -/
def bumpIf (text : String) : Reader Bool := do
  if text.toList.isPrefixOf (← get).rest then
    bumps text.length
    return true
  else return false

/-! ## 2. Escapes -/

/-- The value of a hexadecimal digit. -/
def hexValue? (c : Char) : Option Nat :=
  if c.isDigit then some (c.toNat - '0'.toNat)
  else if 'a' ≤ c && c ≤ 'f' then some (c.toNat - 'a'.toNat + 10)
  else if 'A' ≤ c && c ≤ 'F' then some (c.toNat - 'A'.toNat + 10)
  else none

/-- Reads so many hexadecimal digits after those that made up a value. -/
def readHexDigits : Nat → Nat → Reader Nat
  | 0, value => return value
  | n + 1, value => do
    match ← peek? with
    | none => refuse .escapeEnd (.at (← place))
    | some c =>
      match hexValue? c with
      | none => refuse .hexDigit (← charSpan)
      | some digit =>
        advance
        readHexDigits n (16 * value + digit)

/-- Reads the digits after an opening brace; there is no brace to close them. -/
def refuseHexBrace {α : Type} (brace : Position) : Nat → Reader α
  | 0 => do refuse .escapeEnd ⟨brace, ← place⟩
  | n + 1 => do
    advance
    match ← peek? with
    | none => refuse .escapeEnd ⟨brace, ← place⟩
    | some c =>
      if (hexValue? c).isNone then refuse .hexDigit (← charSpan) else refuseHexBrace brace n

/-- Reads a character by its number, of so many digits. -/
def readHex (start : Position) (digits : Nat) : Reader Tree := do
  advance
  match ← peek? with
  | none => refuse .escapeEnd (.at (← place))
  | some '\x7b' => refuseHexBrace (← place) (← get).rest.length
  | some _ =>
    let first ← place
    let value ← readHexDigits digits 0
    let stop ← place
    if value < 0x110000 && !(0xD800 ≤ value && value < 0xE000) then
      return .literal { span := ⟨start, stop⟩, char := Char.ofNat value, isByte := digits == 2 }
    else refuse .hexScalar ⟨first, stop⟩

def bumpAll : Reader Unit := do bumps (← get).rest.length

def readProperty (start : Position) : Reader Tree := do
  advance
  match ← peek? with
  | none => refuse .escapeEnd (.at (← place))
  | some '\x7b' =>
    bumpAll
    refuse .escapeEnd (.at (← place))
  | some '\\' => refuse .propertyInvalid (← charSpan)
  | some _ =>
    advance
    return .property ⟨start, ← place⟩

/-- Whether a character may stand in the name of a special word boundary. -/
def isBoundaryLetter (c : Char) : Bool := c.isAlpha || c == '-'

/-- Steps over the letters of a special word boundary. -/
def bumpBoundaryLetters : Nat → Reader Unit
  | 0 => pure ()
  | n + 1 => do
    if (← peek?).any isBoundaryLetter then
      advance
      bumpBoundaryLetters n

/-- Refuses a special word boundary; what cannot be one is left for a count of repetitions. -/
def refuseSpecialBoundary (start : Position) : Reader Unit := do
  let before ← get
  if before.rest.head? = some '\x7b' then
    advance
    match ← peek? with
    | none => refuse .boundaryEnd ⟨start, ← place⟩
    | some c =>
      if isBoundaryLetter c then
        bumpBoundaryLetters (← get).rest.length
        refuse .openBoundary ⟨before.place, ← place⟩
      else set before

/-- The control characters that are written as a letter. -/
def controlEscape? : Char → Option Char
  | 'a' => some '\x07'
  | 'f' => some '\x0c'
  | 't' => some '\t'
  | 'n' => some '\n'
  | 'r' => some '\r'
  | 'v' => some '\x0b'
  | _ => none

def readEscape : Reader Tree := do
  let start ← place
  bump
  match ← peek? with
  | none => refuse .escapeEnd ⟨start, ← place⟩
  | some c =>
    if c.isDigit then refuse .backreference ⟨start, (← charSpan).stop⟩
    else if c = 'x' then readHex start 2
    else if c = 'u' then readHex start 4
    else if c = 'U' then readHex start 8
    else if c = 'p' || c = 'P' then readProperty start
    else
      bump
      let span := ⟨start, ← place⟩
      if "dswDSW".contains c then return .shorthand span c.isUpper
      else if c.toNat < 0x80 && !c.isAlpha && c ≠ '<' && c ≠ '>' then
        return .literal { span, char := c }
      else if c = 'A' || c = 'z' then return .condition span false
      else if c = 'b' then
        refuseSpecialBoundary start
        return .condition span true
      else if c = 'B' || c = '<' || c = '>' then return .condition span true
      else match controlEscape? c with
        | some char => return .literal { span, char }
        | none => refuse .escapeUnknown span

/-! ## 3. Classes -/

/-- A class in brackets that is being read. -/
structure Opened where
  span : Span
  negated : Bool

/-- The members of a class so far, the last one first. -/
structure Union where
  start : Position
  members : List Member

/-- The members as one. -/
def Union.join (u : Union) : Member :=
  match u.members with
  | [] => .nothing (.at u.start)
  | [m] => m
  | last :: rest =>
    .union ⟨(rest.getLast?.getD last).span.start, last.span.stop⟩ u.members.reverse

/-- The members so far as a set, with the set that an operation joins them to. -/
def Union.close (u : Union) : Option CharSet → CharSet
  | none => .member u.join
  | some left => .operation ⟨left.span.start, u.join.span.stop⟩ left (.member u.join)

/-- Reads hyphens at the begin of a class that begins somewhere. -/
def readHyphens (start : Position) : Nat → Union → Reader Union
  | 0, u => return u
  | n + 1, u => do
    if (← peek?) = some '-' then
      let span ← charSpan
      advance
      if ← atEnd then refuse .openClass (.at start)
      readHyphens start n { u with members := .literal { span, char := '-' } :: u.members }
    else return u

/-- Reads the begin of a class. -/
def openClass : Reader (Opened × Union) := do
  let start ← place
  advance
  if ← atEnd then refuse .openClass ⟨start, ← place⟩
  let negated := (← peek?) = some '^'
  if negated then
    advance
    if ← atEnd then refuse .openClass ⟨start, ← place⟩
  let u ← readHyphens start (← get).rest.length ⟨← place, []⟩
  if u.members.isEmpty && (← peek?) = some ']' then
    let span ← charSpan
    advance
    if ← atEnd then refuse .openClass ⟨start, ← place⟩
    return (⟨⟨start, ← place⟩, negated⟩, { u with members := [.literal { span, char := ']' }] })
  else return (⟨⟨start, ← place⟩, negated⟩, u)

/-- The names of the classes of ASCII characters. -/
def classNames : List String :=
  ["alnum", "alpha", "ascii", "blank", "cntrl", "digit", "graph", "lower", "print", "punct",
    "space", "upper", "word", "xdigit"]

/-- Whether a class of ASCII characters is negated and how many characters name it, if one is
named at the begin of a text. -/
def namedClass? : List Char → Option (Bool × Nat)
  | '[' :: ':' :: rest =>
    let negated := rest.head? = some '^'
    let rest := if negated then rest.drop 1 else rest
    let name := rest.takeWhile (· ≠ ':')
    if (rest.drop name.length).take 2 = [':', ']'] && classNames.contains (String.ofList name) then
      some (negated, name.length + if negated then 5 else 4)
    else none
  | _ => none

def readNamed? : Reader (Option Member) := do
  match namedClass? (← get).rest with
  | none => return none
  | some (negated, length) =>
    let start ← place
    bumps length
    return some (.named ⟨start, ← place⟩ negated)

/-- Reads one character or escape of a class. -/
def readItem : Reader Tree := do
  match ← peek? with
  | some '\\' => readEscape
  | c =>
    let span ← charSpan
    bump
    return .literal { span, char := c.getD ' ' }

/-- What was read, as a member of a class. -/
def asMember : Tree → Reader Member
  | .literal l => return .literal l
  | .property s => return .property s
  | .shorthand s n => return .shorthand s n
  | t => refuse .classEscape t.span

/-- What was read, as a bound of a range. -/
def asBound : Tree → Reader Literal
  | .literal l => return l
  | t => refuse .rangeBound t.span

/-- Reads a member of a class that is neither a class itself nor an operation. -/
def readMember (opened : Opened) : Reader Member := do
  let first ← readItem
  skip
  match ← peek? with
  | none => refuse .openClass opened.span
  | some c =>
    let beyond ← peekBeyond?
    if c ≠ '-' || beyond = some ']' || beyond = some '-' then asMember first
    else
      advance
      if ← atEnd then refuse .openClass opened.span
      let last ← readItem
      let span := ⟨first.span.start, last.span.stop⟩
      let low ← asBound first
      let high ← asBound last
      if high.char < low.char then refuse .rangeOrder span
      return .range span low high

/-- Whether two equal characters at the begin of a text are an operation on sets. -/
def isOperation : List Char → Bool
  | a :: b :: _ => a == b && (a == '&' || a == '-' || a == '~')
  | _ => false

mutual

/-- Reads a class in brackets: what it takes up, whether it is negated, and its set. -/
def readClass : Nat → Reader (Span × Bool × CharSet)
  | 0 => do refuse .openClass (.at (← place))
  | n + 1 => do
    let (opened, u) ← openClass
    let set ← readMembers n opened none u
    bump
    return (⟨opened.span.start, ← place⟩, opened.negated, set)

/-- Reads the members of a class, up to the bracket that closes it. -/
def readMembers : Nat → Opened → Option CharSet → Union → Reader CharSet
  | 0, opened, _, _ => refuse .openClass opened.span
  | n + 1, opened, left, u => do
    skip
    match ← peek? with
    | none => refuse .openClass opened.span
    | some ']' => return u.close left
    | some '[' =>
      match ← readNamed? with
      | some m => readMembers n opened left { u with members := m :: u.members }
      | none =>
        let (span, negated, set) ← readClass n
        readMembers n opened left { u with members := .bracket span negated set :: u.members }
    | some _ =>
      if isOperation (← get).rest then
        bumps 2
        readMembers n opened (some (u.close left)) ⟨← place, []⟩
      else
        let m ← readMember opened
        readMembers n opened left { u with members := m :: u.members }

end

/-! ## 4. Groups -/

/-- Whether a character may stand in the name of a group, as its first or a later one. -/
def isNameCharacter (first : Bool) (c : Char) : Bool :=
  if first then c == '_' || Text.isAlphabetic c
  else c == '_' || c == '.' || c == '[' || c == ']' || Text.isAlphanumeric c

/-- Reads the rest of a name, up to the bracket that closes it. -/
def readNameRest : Nat → String → Reader String
  | 0, _ => do refuse .nameEnd (.at (← place))
  | n + 1, name => do
    match ← peek? with
    | none => refuse .nameEnd (.at (← place))
    | some '>' => return name
    | some c =>
      if isNameCharacter (name == "") c then
        bump
        readNameRest n (name.push c)
      else refuse .nameCharacter (← charSpan)

/-- Reads the name of a group, which must be a new one. -/
def readName : Reader Unit := do
  let start ← place
  let name ← readNameRest ((← get).rest.length + 1) ""
  let span := ⟨start, ← place⟩
  bump
  if name = "" then refuse .nameEmpty (.at start)
  match (← get).names.lookup name with
  | some other => refuse .nameTwice span (some other)
  | none => modify fun c => { c with names := (name, span) :: c.names }

def flagLetters : String := "imsUuRx"

/-- Reads flags, up to what closes them. -/
def readFlags : Nat → List (FlagItem × Span) → Reader (List FlagItem)
  | 0, _ => do refuse .flagEnd (.at (← place))
  | n + 1, read => do
    let span ← charSpan
    match ← peek? with
    | none => refuse .flagEnd (.at (← place))
    | some c =>
      if c = ':' || c = ')' then
        match read with
        | (.negation, span) :: _ => refuse .flagDangling span
        | _ => return read.reverse.map Prod.fst
      else
        let item : FlagItem := if c = '-' then .negation else .flag c
        if c ≠ '-' && !flagLetters.contains c then refuse .flagUnknown span
        match read.lookup item with
        | some other =>
          refuse (if c = '-' then .flagNegatedTwice else .flagTwice) span (some other)
        | none =>
          bump
          readFlags n ((item, span) :: read)

/-- How a group begins. -/
inductive Head
  /-- Flags for the rest of the group around. -/
  | flags (span : Span) (items : List FlagItem)
  /-- A group with flags of its own. -/
  | group (items : List FlagItem)

def refuseLookAround (start : Position) : Reader Unit := do
  let found ← (bumpIf "?=" <||> bumpIf "?!" <||> bumpIf "?<=" <||> bumpIf "?<!")
  if found then refuse .lookAround ⟨start, ← place⟩

def openGroup (opened : Span) : Reader Head := do
  advance
  refuseLookAround opened.start
  let inner ← place
  if ← (bumpIf "?P<" <||> bumpIf "?<") then
    readName
    return .group []
  else if ← bumpIf "?" then
    if ← atEnd then refuse .openGroup opened
    let items ← readFlags ((← get).rest.length + 1) []
    let closed := (← peek?) = some ')'
    bump
    if !closed then return .group items
    if items.isEmpty then refuse .repetition (.at inner)
    return .flags ⟨opened.start, ← place⟩ items
  else return .group []

/-! ## 5. Patterns -/

/-- The alternatives so far, the last one first, and the parts of the one that is being read. -/
structure Body where
  start : Position
  branches : List Tree := []
  branchStart : Position
  parts : List Tree := []

/-- A body of which nothing is read. -/
def Body.at (p : Position) : Body := { start := p, branchStart := p }

def Body.add (b : Body) (t : Tree) : Body := { b with parts := t :: b.parts }

/-- The alternative that is being read, if it ends at a place. -/
def Body.branch (b : Body) (stop : Position) : Tree :=
  .ofParts ⟨b.branchStart, stop⟩ b.parts.reverse

/-- The body, if it ends at a place. -/
def Body.close (b : Body) (stop : Position) : Tree :=
  if b.branches.isEmpty then b.branch stop
  else .alternatives ⟨b.start, stop⟩ (b.branch stop :: b.branches).reverse

/-- Takes the last part, which is to be repeated, from a body. -/
def takeRepeated (b : Body) : Reader (Tree × Body) := do
  match b.parts with
  | [] | .nothing _ :: _ | .flags _ _ :: _ => refuse .repetition (.at (← place))
  | t :: parts => return (t, { b with parts })

/-- Reads a sign of repetition. -/
def readRepetition (b : Body) : Reader Body := do
  let (t, b) ← takeRepeated b
  bump
  if (← peek?) = some '?' then bump
  return b.add (.repeated ⟨t.span.start, ← place⟩ t)

def bumpBlanks (step : Reader Unit) : Nat → Reader Unit
  | 0 => pure ()
  | n + 1 => do
    if (← peek?).any Text.isBlank then
      step
      bumpBlanks step n

/-- Reads digits, which come first in the result. -/
def readDigits : Nat → String → Reader String
  | 0, digits => return digits
  | n + 1, digits => do
    match ← peek? with
    | some c =>
      if c.isDigit then
        advance
        readDigits n (digits.push c)
      else return digits
    | none => return digits

/-- Reads the begin of a count of repetitions, which is never closed. -/
def refuseCount {α : Type} (b : Body) : Reader α := do
  let _ ← takeRepeated b
  let start ← place
  advance
  if ← atEnd then refuse .openCount ⟨start, ← place⟩
  bumpBlanks bump (← get).rest.length
  let first ← place
  let digits ← readDigits (← get).rest.length ""
  let span := ⟨first, ← place⟩
  bumpBlanks advance (← get).rest.length
  if ← atEnd then refuse .openCount ⟨start, ← place⟩
  if digits = "" then refuse .countMissing span
  if Width.values 32 ≤ digits.toNat?.getD 0 then refuse .decimalInvalid span
  refuse .openCount ⟨start, ← place⟩

/-- Reads a character, an escape or a sign that stands for some character or a condition. -/
def readSimple : Reader Tree := do
  let span ← charSpan
  match ← peek? with
  | some '\\' => readEscape
  | c =>
    bump
    match c with
    | some '.' => return .dot span
    | some '^' | some '$' => return .condition span false
    | c => return .literal { span, char := c.getD ' ' }

mutual

def readGroup : Nat → Reader Tree
  | 0 => do refuse .openGroup (.at (← place))
  | n + 1 => do
    let opened ← charSpan
    let loose := (← get).loose
    match ← openGroup opened with
    | .flags span items =>
      modify fun c => { c with loose := (switch? 'x' true items).getD loose }
      return .flags span items
    | .group items =>
      modify fun c => { c with loose := (switch? 'x' true items).getD loose }
      let body ← readBody n (some opened) (.at (← place))
      modify fun c => { c with loose }
      bump
      return .group ⟨opened.start, ← place⟩ items body

/-- Reads the alternatives of a group, up to what closes it, or those of the whole pattern. -/
def readBody : Nat → Option Span → Body → Reader Tree
  | 0, _, b => do return b.close (← place)
  | n + 1, opened, b => do
    skip
    match ← peek?, opened with
    | none, some span => refuse .openGroup span
    | none, none => return b.close (← place)
    | some ')', none => refuse .closedGroup (← charSpan)
    | some ')', some _ => return b.close (← place)
    | some '|', _ =>
      let branch := b.branch (← place)
      bump
      readBody n opened
        { b with branches := branch :: b.branches, branchStart := ← place, parts := [] }
    | some '(', _ => readBody n opened (b.add (← readGroup n))
    | some '[', _ =>
      let (span, negated, set) ← readClass n
      readBody n opened (b.add (.bracket span negated set))
    | some '?', _ | some '*', _ | some '+', _ => readBody n opened (← readRepetition b)
    | some '\x7b', _ => refuseCount b
    | some _, _ => readBody n opened (b.add (← readSimple))

end

end Reader

def read (pattern : String) : Except Fault Tree :=
  ((Reader.readBody (2 * pattern.length + 2) none (.at {})).run { rest := pattern.toList }).map
    Prod.fst

end CommandShell.FieldPattern
