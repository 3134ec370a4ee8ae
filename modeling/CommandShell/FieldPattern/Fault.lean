/-
# Faults of field patterns

What can be wrong with a pattern, where in the pattern it is wrong (`Span`), and how it is reported:
the pattern is shown line by line, with marks under the part that is to blame (`Fault.report`).
-/
import CommandShell.Text.Lines

namespace CommandShell.FieldPattern

/-! ## 1. Places in a pattern -/

/-- A place between two characters: its line and its column, both counted from 1. -/
structure Position where
  line : Nat := 1
  column : Nat := 1
deriving Repr, DecidableEq

def Position.after (p : Position) (c : Char) : Position :=
  if c = '\n' then { line := p.line + 1, column := 1 } else { p with column := p.column + 1 }

def Position.isBefore (p q : Position) : Bool :=
  p.line < q.line || (p.line == q.line && p.column < q.column)

/-- A part of a pattern. -/
structure Span where
  start : Position
  stop : Position
deriving Repr, DecidableEq

/-- The empty part at a place. -/
def Span.at (p : Position) : Span := ⟨p, p⟩

def Span.isBefore (s t : Span) : Bool :=
  s.start.isBefore t.start || (s.start == t.start && s.stop.isBefore t.stop)

/-! ## 2. Faults -/

/-- What is wrong with a pattern. -/
inductive Flaw
  | classEscape
  | rangeOrder
  | rangeBound
  | openClass
  | decimalInvalid
  | hexDigit
  | hexScalar
  | escapeEnd
  | escapeUnknown
  | flagDangling
  | flagTwice
  | flagNegatedTwice
  | flagEnd
  | flagUnknown
  | nameTwice
  | nameEmpty
  | nameCharacter
  | nameEnd
  | openGroup
  | closedGroup
  | tooDeep (limit : Nat)
  | countMissing
  | openCount
  | repetition
  | openBoundary
  | boundaryEnd
  | propertyInvalid
  | backreference
  | lookAround
  | invalidText
  | notUnicode
  | propertyUnknown
  | shorthandUnknown
  | caseUnknown
deriving Repr, DecidableEq

def Flaw.message : Flaw → String
  | .classEscape => "invalid escape sequence found in character class"
  | .rangeOrder => "invalid character class range, the start must be <= the end"
  | .rangeBound => "invalid range boundary, must be a literal"
  | .openClass => "unclosed character class"
  | .decimalInvalid => "decimal literal invalid"
  | .hexDigit => "invalid hexadecimal digit"
  | .hexScalar => "hexadecimal literal is not a Unicode scalar value"
  | .escapeEnd => "incomplete escape sequence, reached end of pattern prematurely"
  | .escapeUnknown => "unrecognized escape sequence"
  | .flagDangling => "dangling flag negation operator"
  | .flagTwice => "duplicate flag"
  | .flagNegatedTwice => "flag negation operator repeated"
  | .flagEnd => "expected flag but got end of regex"
  | .flagUnknown => "unrecognized flag"
  | .nameTwice => "duplicate capture group name"
  | .nameEmpty => "empty capture group name"
  | .nameCharacter => "invalid capture group character"
  | .nameEnd => "unclosed capture group name"
  | .openGroup => "unclosed group"
  | .closedGroup => "unopened group"
  | .tooDeep limit =>
    "exceed the maximum number of nested parentheses/brackets (" ++ toString limit ++ ")"
  | .countMissing => "repetition quantifier expects a valid decimal"
  | .openCount => "unclosed counted repetition"
  | .repetition => "repetition operator missing expression"
  | .openBoundary =>
    "special word boundary assertion is either unclosed or contains an invalid character"
  | .boundaryEnd =>
    "found either the beginning of a special word boundary or a bounded repetition on a \\b "
      ++ "with an opening brace, but no closing brace"
  | .propertyInvalid => "invalid Unicode character class"
  | .backreference => "backreferences are not supported"
  | .lookAround => "look-around, including look-ahead and look-behind, is not supported"
  | .invalidText => "pattern can match invalid UTF-8"
  | .notUnicode => "Unicode not allowed here"
  | .propertyUnknown => "Unicode property not found"
  | .shorthandUnknown =>
    "Unicode-aware Perl class not found (make sure the unicode-perl feature is enabled)"
  | .caseUnknown =>
    "Unicode-aware case insensitivity matching is not available "
      ++ "(make sure the unicode-case feature is enabled)"

/-- A flaw, the part of the pattern that has it, and an earlier part that it clashes with. -/
structure Fault where
  flaw : Flaw
  span : Span
  clash : Option Span := none
deriving Repr, DecidableEq

/-! ## 3. The report -/

/-- The text of so many equal characters. -/
def stretch (c : Char) (n : Nat) : String := String.ofList (List.replicate n c)

/-- The marks under a line for some of its parts, from a column on. -/
def marks : Nat → List Span → String
  | _, [] => ""
  | column, s :: rest =>
    let gap := s.start.column - column
    let length := max 1 (s.stop.column - s.start.column)
    stretch ' ' gap ++ stretch '^' length ++ marks (column + gap + length) rest

/-- The parts of the pattern that a fault shows, in their order. -/
def Fault.spans (f : Fault) : List Span :=
  match f.clash with
  | none => [f.span]
  | some c => if c.isBefore f.span then [c, f.span] else [f.span, c]

/-- How many digits the line numbers of a pattern have; a single line is not numbered. -/
def numberWidth (pattern : String) : Nat :=
  let count := (Text.lines pattern).length + (if pattern.endsWith "\n" then 1 else 0)
  if count ≤ 1 then 0 else (toString count).length

/-- One line of the pattern, by its number, and the marks under it. -/
def Fault.showLine (f : Fault) (width : Nat) (number : Nat) (line : String) : String :=
  let head :=
    if width = 0 then "    "
    else stretch ' ' (width - (toString number).length) ++ toString number ++ ": "
  let marked := f.spans.filter fun s => s.start.line == number && s.stop.line == number
  head ++ line ++ "\n"
    ++ if marked = [] then ""
      else stretch ' ' (if width = 0 then 4 else width + 2) ++ marks 1 marked ++ "\n"

/-- The pattern with marks. -/
def Fault.showPattern (f : Fault) (pattern : String) : String :=
  String.join ((Text.lines pattern).mapIdx fun i line =>
    f.showLine (numberWidth pattern) (i + 1) line)

/-- The note on a part that is on several lines. -/
def Span.note (s : Span) : String :=
  let shown (line column : Nat) := "line " ++ toString line ++ " (column " ++ toString column ++ ")"
  "on " ++ shown s.start.line s.start.column ++ " through " ++ shown s.stop.line (s.stop.column - 1)

/-- The report of a fault of a pattern. -/
def Fault.report (f : Fault) (pattern : String) : String :=
  let shown := f.showPattern pattern
  "regex parse error:\n"
    ++ (if pattern.contains '\n' then
        let divider := stretch '~' 79 ++ "\n"
        let long := f.spans.filter fun s => s.start.line != s.stop.line
        divider ++ shown ++ divider
          ++ if long = [] then "" else "\n".intercalate (long.map Span.note) ++ "\n"
      else shown)
    ++ "error: " ++ f.flaw.message

end CommandShell.FieldPattern
