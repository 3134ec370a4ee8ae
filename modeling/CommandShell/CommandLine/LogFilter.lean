/-
# Log filters

A log filter says which messages a program logs.  It is a list of directives, separated by commas;
a directive is a level, or a target with an optional span in brackets and an optional level.  A span
may have fields in braces; the value of a field is a truth value, a number, or else a pattern.  The
shell only has to know whether a filter can be read (`LogFilter.check`): if not, it says why and
does not start.
-/
import CommandShell.FieldPattern.Check
import CommandShell.Text.Blank
import CommandShell.Text.Bytes
import CommandShell.Text.CharacterClass
import CommandShell.Text.Lines
import CommandShell.Text.Numeral

namespace CommandShell.LogFilter

/-! ## 1. Problems -/

/-- What is wrong with a directive. -/
inductive Problem
  /-- It has no form that a directive may have. -/
  | directive
  /-- The value of a field is a pattern that is of no use. -/
  | pattern (text : String) (problem : FieldPattern.Problem)
  /-- What should be a level is none. -/
  | level
  /-- A part of it would begin or end inside a character. -/
  | cut
deriving Repr, DecidableEq

/-- The causes of an error in a field, for the first of them. -/
def fieldCauses (cause : String) (others : List String) : List String :=
  ("invalid field filter: " ++ cause) :: cause :: others

/-- The problem, as a list of causes; nothing is said about a cut. -/
def Problem.causes : Problem → List String
  | .directive => ["invalid filter directive"]
  | .pattern text (.fault f) =>
    fieldCauses "error building NFA" ["error parsing regex", f.report text]
  | .pattern _ .boundary =>
    fieldCauses ("unsupported regex feature for DFAs: cannot build DFAs for regexes with Unicode "
      ++ "word boundaries; switch to ASCII word boundaries, or heuristically enable Unicode word "
      ++ "boundaries or use a different regex engine") []
  | .level => List.replicate 2 ("error parsing level filter: expected one of \"off\", \"error\", "
      ++ "\"warn\", \"info\", \"debug\", \"trace\", or a number 0-5")
  | .cut => []

/-! ## 2. Levels and values -/

/-- The names of the levels. -/
def levels : List String := ["off", "error", "warn", "info", "debug", "trace"]

def isLevel (s : String) : Bool :=
  match Numeral.readNat 5 s with
  | .ok _ => true
  | .error _ => s == "" || levels.contains (s.map Char.toLower)

/-- Whether a text is an optional sign and digits. -/
def isExponent (cs : List Char) : Bool :=
  let digits := match cs with
    | '+' :: rest | '-' :: rest => rest
    | cs => cs
  !digits.isEmpty && digits.all Char.isDigit

/-- Whether a text is a number without a sign: digits, of which a point may stand before, between or
after, and an optional exponent. -/
def isUnsigned (cs : List Char) : Bool :=
  let whole := cs.takeWhile Char.isDigit
  let rest := cs.drop whole.length
  let fraction := if rest.head? = some '.' then (rest.drop 1).takeWhile Char.isDigit else []
  let rest := if rest.head? = some '.' then rest.drop (fraction.length + 1) else rest
  !(whole.isEmpty && fraction.isEmpty)
    && match rest with
      | [] => true
      | 'e' :: exponent | 'E' :: exponent => isExponent exponent
      | _ => false

/-- Whether a text is a number; the infinite ones and what is no number have names. -/
def isNumber (s : String) : Bool :=
  let unsigned := match s.toList with
    | '+' :: rest | '-' :: rest => rest
    | cs => cs
  isUnsigned unsigned
    || ["inf", "infinity", "nan"].contains (String.ofList (unsigned.map Char.toLower))

/-- Checks a field: a name, an equals sign and a value.  A name alone will do, and what stands after
a second equals sign does not count. -/
def checkField (field : String) : Except Problem Unit :=
  match Text.fields '=' field with
  | _ :: value :: _ =>
    if value == "true" || value == "false" || isNumber value then .ok ()
    else match FieldPattern.check value with
      | .ok _ => .ok ()
      | .error p => .error (.pattern value p)
  | _ => if field = "" then .error .directive else .ok ()

/-! ## 3. Directives -/

/-- Where the reader stands in a directive; numbers are positions in it. -/
inductive Place
  | start
  | target
  | span (start : Nat)
  | field (start : Nat)
  | fields
  | afterSpan
  | level (start : Nat)
deriving Repr, DecidableEq

/-- Whether a character may begin a directive. -/
def mayBegin (c : Char) : Bool :=
  c == '-' || c == ':' || c == '_' || Text.isAlphanumeric c

/-- Reads one character of a directive, at a position.  The positions count bytes of the directive
without the blanks around it, but `part` cuts at them in the directive with its blanks. -/
def step (part : Nat → Nat → Except Problem String) (position : Nat) (c : Char) :
    Place → Except Problem Place
  | .start =>
    if c = '[' then .ok (.span (position + 1))
    else if mayBegin c then .ok .target
    else .error .directive
  | .target =>
    if c = '=' then (part 0 position).map fun _ => .level (position + 1)
    else if c = '[' then (part 0 position).map fun _ => .span (position + 1)
    else .ok .target
  | .span start =>
    if c = ']' then (part start position).map fun _ => .afterSpan
    else if c = '\x7b' then (part start position).map fun _ => .field (position + 1)
    else .ok (.span start)
  | .field start =>
    if c = '\x7d' then do
      checkField (← part start position)
      pure .fields
    else .ok (.field start)
  | .fields => if c = ']' then .ok .afterSpan else .error .directive
  | .afterSpan => if c = '=' then .ok (.level (position + 1)) else .error .directive
  | .level start => .ok (.level start)

/-- Reads the characters of a directive from a position on. -/
def steps (part : Nat → Nat → Except Problem String) :
    Nat → Place → List Char → Except Problem Place
  | _, place, [] => .ok place
  | position, place, c :: cs =>
    match step part position c place with
    | .ok place => steps part (position + c.utf8Size) place cs
    | .error p => .error p

/-- The part of a text between two positions, which count bytes and must not be inside a
character. -/
def part (s : String) (start stop : Nat) : Except Problem String :=
  match Text.dropBytes? start s.toList with
  | none => .error .cut
  | some rest =>
    match Text.dropBytes? (stop - start) rest with
    | none => .error .cut
    | some after => .ok (String.ofList (rest.take (rest.length - after.length)))

/-- Checks a directive.  Blanks around it are skipped, but not where it is cut. -/
def checkDirective (s : String) : Except Problem Unit :=
  match steps (part s) 0 .start (Text.trim s).toList with
  | .error p => .error p
  | .ok (.level start) =>
    match part s start s.utf8ByteSize with
    | .error p => .error p
    | .ok level => if isLevel level then .ok () else .error .level
  | .ok .target | .ok .afterSpan => .ok ()
  | .ok _ => .error .directive

/-- Checks the directives of a filter; the first problem counts. -/
def checkAll : List String → Except Problem Unit
  | [] => .ok ()
  | s :: rest =>
    match checkDirective s with
    | .ok _ => checkAll rest
    | .error p => .error p

/-- Checks a filter.  Empty directives do not count. -/
def check (filter : String) : Except Problem Unit :=
  checkAll ((Text.fields ',' filter).filter (· ≠ ""))

end CommandShell.LogFilter
