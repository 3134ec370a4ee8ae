/-
# `tr`

`tr` replaces, deletes and squeezes the bytes of its input.  A set of bytes is written as
characters, ranges, classes and repetitions (`TranslateSet`); when bytes are replaced, the members
of one set stand against the members of another in order, and the classes of capital and small
letters stand for a change of case when they stand against each other.
-/
import CommandShell.Machine.ByteClass
import CommandShell.Machine.NameQuoting
import CommandShell.Machine.Switches
import CommandShell.Machine.Tool
import CommandShell.Text.Width

namespace CommandShell

namespace Translate

/-! ## 1. Sets -/

/-- An element of a set. -/
inductive Element
  | char (b : UInt8)
  | range (first last : UInt8)
  | named (name : String)
  /-- A class that holds a single byte. -/
  | single (b : UInt8)
  /-- A byte so many times; none is as often as needed. -/
  | repeated (b : UInt8) (count : Nat)
deriving Repr, DecidableEq

/-- A byte of a set as it is written, with whether it was escaped. -/
abbrev Written := List (UInt8 × Bool)

def isOctal (b : UInt8) : Bool := 48 ≤ b && b ≤ 55

/-- The byte that a letter stands for behind a backslash. -/
def letter? (b : UInt8) : Option UInt8 :=
  [(92, 92), (97, 7), (98, 8), (102, 12), (110, 10), (114, 13), (116, 9), (118, 11)].lookup b

/-- The bytes of a set with its escapes resolved, and what there is to warn of; the number bounds
how many bytes there are. -/
def resolve : Nat → Bytes → Written × List ByteText
  | 0, _ => ([], [])
  | _, [] => ([], [])
  | _, [92] => ([(92, false)], ["warning: an unescaped backslash at end of string is not portable"])
  | n + 1, 92 :: a :: rest =>
    let one (value : UInt8) (rest : Bytes) : Written × List ByteText :=
      let (written, warnings) := resolve n rest
      ((value, true) :: written, warnings)
    let digit (b : UInt8) : Nat := b.toNat - 48
    if isOctal a then
      match rest with
      | b :: c :: rest' =>
        if !isOctal b then one (a - 48) rest
        else
          let two := 8 * digit a + digit b
          if !isOctal c then one (UInt8.ofNat two) (c :: rest')
          else if 8 * two + digit c < 256 then one (UInt8.ofNat (8 * two + digit c)) rest'
          else
            let (written, warnings) := one (UInt8.ofNat two) (c :: rest')
            let shown := ByteText.ofBytes
            (written, ("warning: the ambiguous octal escape \\" ++ shown [a, b, c]
              ++ " is being\n\tinterpreted as the 2-byte sequence \\0" ++ shown [a, b] ++ ", "
              ++ shown [c]) :: warnings)
      | [b] => if isOctal b then one (UInt8.ofNat (8 * digit a + digit b)) [] else one (a - 48) [b]
      | [] => one (a - 48) []
    else one ((letter? a).getD a) rest
  | n + 1, b :: rest =>
    let (written, warnings) := resolve n rest
    ((b, false) :: written, warnings)

/-- A byte in a message. -/
def shownByte (b : UInt8) : ByteText :=
  match [((92 : UInt8), "\\\\"), (7, "\\a"), (8, "\\b"), (12, "\\f"), (10, "\\n"), (13, "\\r"),
    (9, "\\t"), (11, "\\v")].lookup b with
  | some s => s
  | none =>
    if 32 ≤ b && b < 127 then ByteText.ofBytes [b]
    else "\\" ++ toString (b / 64) ++ toString (b / 8 % 8) ++ toString (b % 8)

def shownBytes (s : Written) : ByteText := String.join (s.map (shownByte ·.1))

/-- The end of a range in a message. -/
def shownEnd (b : UInt8) : ByteText :=
  if b = 92 then "\\" else if 32 ≤ b && b < 127 then ByteText.ofBytes [b]
  else "\\" ++ toString (b / 64) ++ toString (b / 8 % 8) ++ toString (b % 8)

/-- Bytes up to a delimiter and a closing bracket, and what follows these. -/
def untilClosing (delimiter : UInt8) : Written → Option (Written × Written)
  | a :: b :: rest =>
    if a = (delimiter, false) ∧ b = (93, false) then some ([], rest)
    else (untilClosing delimiter (b :: rest)).map fun (inner, after) => (a :: inner, after)
  | _ => none

/-- The value of digits in a base, if they are all digits. -/
def value? (base : Nat) (digits : Bytes) : Option Nat :=
  digits.foldl (fun n b => n.bind fun n =>
    if 48 ≤ b && b.toNat < 48 + base then some (base * n + (b.toNat - 48)) else none) (some 0)

/-- The number above which a byte cannot be repeated. -/
def repeatLimit : Nat := Width.values 64 - 1

/-- The repetition at the start, if there is one, and what follows it. -/
def repetition? : Written → Except ByteText (Option (Element × Written))
  | (c, _) :: (42, false) :: rest =>
    let digits := rest.takeWhile (· ≠ (93, false))
    match rest.drop digits.length with
    | [] => .ok none
    | _ :: after =>
      let text := digits.map (·.1)
      let base := if text.head? = some 48 then 8 else 10
      match value? base text with
      | some n =>
        if n < repeatLimit then .ok (some (.repeated c n, after))
        else .error ("invalid repeat count '" ++ shownBytes digits ++ "' in [c*n] construct")
      | none => .error ("invalid repeat count '" ++ shownBytes digits ++ "' in [c*n] construct")
  | _ => .ok none

/-- Whether a star, digits and a closing bracket stand at the start. -/
def isCount : Written → Bool
  | (42, false) :: rest =>
    (rest.dropWhile fun p => 48 ≤ p.1 && p.1 ≤ 57).head? == some (93, false)
  | _ => false

/-- The class at the start, behind its opening bracket, if there is one, and what follows it. -/
def class? : Written → Except ByteText (Option (Element × Written))
  | (58, false) :: rest =>
    match untilClosing 58 rest with
    | none => .ok none
    | some ([], _) => .error "missing character class name '[::]'"
    | some (inner, after) =>
      let name := ByteText.ofBytes (inner.map (·.1))
      if (byteClass? name).isSome then .ok (some (.named name, after))
      else if isCount rest then .ok none
      else .error ("invalid character class '" ++ shownBytes inner ++ "'")
  | (61, false) :: rest =>
    match untilClosing 61 rest with
    | none => .ok none
    | some ([], _) => .error "missing equivalence class character '[==]'"
    | some ([(b, _)], after) => .ok (some (.single b, after))
    | some (inner, _) =>
      if isCount rest then .ok none
      else .error (shownBytes inner ++ ": equivalence class operand must be a single character")
  | _ => .ok none

/-- The elements of a set; the number bounds how many. -/
def elements : Nat → Written → Except ByteText (List Element)
  | 0, _ => .ok []
  | n + 1, s =>
    match s with
    | a :: b :: c :: rest => do
      let construct ←
        if a = (91, false) then do
          match ← class? (b :: c :: rest) with
          | some found => pure (some found)
          | none => repetition? (b :: c :: rest)
        else pure none
      match construct with
      | some (e, rest) => return e :: (← elements n rest)
      | none =>
        if b = (45, false) then
          if c.1 < a.1 then
            throw ("range-endpoints of '" ++ shownEnd a.1 ++ "-" ++ shownEnd c.1
              ++ "' are in reverse collating sequence order")
          else return .range a.1 c.1 :: (← elements n rest)
        else return .char a.1 :: (← elements n (b :: c :: rest))
    | s => .ok (s.map fun p => .char p.1)

/-- Reads a set, and says what there is to warn of. -/
def readSet (source : ByteText) : Except ByteText (List Element) × List ByteText :=
  let bytes := ByteText.toBytes source
  let (written, warnings) := resolve (bytes.length + 1) bytes
  (elements (written.length + 1) written, warnings)

/-! ## 2. Members -/

/-- The members of an element in order. -/
def Element.members : Element → Bytes
  | .char b => [b]
  | .range a b => byteRange a b
  | .named name => allBytes.filter ((byteClass? name).getD fun _ => false)
  | .single b => [b]
  | .repeated b n => List.replicate (min n 100000) b

/-- The members of a set in order. -/
def members (s : List Element) : Bytes := s.flatMap Element.members

/-- The change of case that a class may stand for: to capital letters or to small ones. -/
def Element.letters? : Element → Option Bool
  | .named "upper" => some true
  | .named "lower" => some false
  | _ => none

/-- Whether an element is a class with a name. -/
def Element.isNamed : Element → Bool
  | .named _ => true
  | _ => false

/-- Whether an element is a byte that is repeated as often as needed. -/
def Element.isEndless : Element → Bool
  | .repeated _ 0 => true
  | _ => false

/-- The members that are not in a set. -/
def complement (s : Bytes) : Bytes := allBytes.filter fun b => !s.contains b

/-- A member of a set against which others stand: its byte, the case it stands for, whether it is
the first of its element, and how many of its element follow. -/
structure Member where
  byte : UInt8
  letters : Option Bool
  first : Bool
  more : Nat

/-- The members of elements with what is known of their elements. -/
def memberList (s : List Element) : List Member :=
  s.flatMap fun e =>
    let bytes := e.members
    bytes.mapIdx fun i b => ⟨b, e.letters?, i == 0, bytes.length - 1 - i⟩

/-- Two member lists against each other: which byte becomes which, or that classes do not stand
against classes.  Behind classes the rest of both elements is left out. -/
def align : Nat → List Member → List Member → Except Unit (List (UInt8 × UInt8))
  | 0, _, _ => .ok []
  | n + 1, a :: as, b :: bs =>
    if b.first && b.letters.isSome && !(a.first && a.letters.isSome) then .error ()
    else do
      let here : List (UInt8 × UInt8) :=
        match a.letters, b.letters with
        | some false, some true => (byteRange 97 122).map fun c => (c, c - 32)
        | some true, some false => (byteRange 65 90).map fun c => (c, c + 32)
        | _, _ => [(a.byte, b.byte)]
      let rest ← if b.letters.isSome then align n (as.drop a.more) (bs.drop b.more)
        else align n as bs
      pure (here ++ rest)
  | _, [], b :: _ => if b.first && b.letters.isSome then .error () else .ok []
  | _, _, _ => .ok []

/-- How many members count for the length of a set when classes stand against classes. -/
def alignedLengths : Nat → List Member → List Member → Nat × Nat
  | 0, _, _ => (0, 0)
  | _, [], bs => (0, bs.length)
  | _, as, [] => (as.length, 0)
  | n + 1, a :: as, b :: bs =>
    let (x, y) := if b.letters.isSome then alignedLengths n (as.drop a.more) (bs.drop b.more)
      else alignedLengths n as bs
    (x + 1, y + 1)

end Translate

/-! ## 3. The program -/

/-- `tr` at work. -/
structure Translate where
  /-- What each byte becomes. -/
  table : List (UInt8 × UInt8) := []
  deleted : Bytes := []
  squeezed : Bytes := []
  /-- The byte that was written last. -/
  last : Option UInt8 := none
  output : Output := {}
  /-- What there is to warn of. -/
  warnings : List ByteText := []
deriving Repr

namespace Translate

def switches : Switches where
  letters := Switches.plain "AcCdst"
  names := [("complement", .nothing, 'c'), ("delete", .nothing, 'd'),
    ("squeeze-repeats", .nothing, 's'), ("truncate-set1", .nothing, 't')]

/-- The table that replaces the members of one set by those of another, and the members of the other
set once it is as long as it has to be. -/
def tableOf (complemented truncated : Bool) (first second : List Element) :
    Except ByteText (List (UInt8 × UInt8) × Bytes) := do
  let firstBytes := if complemented then complement (members first) else members first
  let endless := second.filter Element.isEndless
  if 1 < endless.length then throw "only one [c*] repeat construct may appear in string2"
  let rest := (members (second.filter (!·.isEndless))).length
  let second := second.map fun e => match e with
    | .repeated b 0 => .repeated b (firstBytes.length - rest)
    | e => e
  if second.any fun | .single _ => true | _ => false then
    throw "[=c=] expressions may not appear in string2 when translating"
  if second.any fun e => e.isNamed && e.letters?.isNone then
    throw ("when translating, the only character classes that may appear in\n"
      ++ "string2 are 'upper' and 'lower'")
  let firstMembers : List Member :=
    if complemented then firstBytes.map fun b => ⟨b, none, true, 0⟩ else memberList first
  let secondMembers := memberList second
  let cased := !complemented && second.any (·.isNamed)
  let fuel := firstMembers.length + secondMembers.length + 1
  if cased then
    match align fuel firstMembers secondMembers with
    | .error _ => throw "misaligned [:upper:] and/or [:lower:] construct"
    | .ok _ => pure ()
  let (m, n) := if cased then alignedLengths fuel firstMembers secondMembers
    else (firstMembers.length, secondMembers.length)
  let extended ←
    if m ≤ n || truncated then pure secondMembers
    else match second.getLast? with
      | none => throw "when not truncating set1, string2 must be non-empty"
      | some last =>
        if last.isNamed then
          throw ("when translating with string1 longer than string2,\n"
            ++ "the latter string must not end with a character class")
        else match (members second).getLast? with
          | none => throw "when not truncating set1, string2 must be non-empty"
          | some b => pure (secondMembers ++ List.replicate (m - n) ⟨b, none, true, 0⟩)
  if complemented && first.any (·.isNamed)
      && !(extended.length == firstMembers.length
        && extended.all fun x => extended.head?.all (·.byte == x.byte)) then
    throw ("when translating with complemented character classes,\n"
      ++ "string2 must map all characters in the domain to one")
  match align (fuel + m) firstMembers
      (if cased then extended else extended.map fun x => { x with letters := none }) with
  | .ok table => pure (table.reverse, extended.map (·.byte))
  | .error _ => throw "misaligned [:upper:] and/or [:lower:] construct"

/-- `tr` with its arguments. -/
def start (t : Tool) (args : List ByteText) : Except Farewell Translate :=
  let found := switches.readInFront args
  let has (c : Char) := found.switches.any fun s => s.1 == c || (c == 'c' && s.1 == 'C')
  let (deletes, squeezes) := (has 'd', has 's')
  match found.operands with
  | .error problem => .error (t.misuse problem)
  | .ok operands =>
    let least := if deletes == squeezes then 2 else 1
    let most := if deletes && !squeezes then 1 else 2
    if operands = [] then .error (t.misuse "missing operand")
    else if operands.length < least then
      let last := NameQuoting.inSingleQuotes (operands.getLastD "")
      .error (t.misuse ("missing operand after " ++ last
        ++ if squeezes then
          "\nTwo strings must be given when both deleting and squeezing repeats."
        else "\nTwo strings must be given when translating."))
    else if most < operands.length then
      .error (t.misuse ("extra operand " ++ NameQuoting.inSingleQuotes (operands.getD most "")
        ++ if operands.length = 2 then
          "\nOnly one string may be given when deleting without squeezing repeats."
        else ""))
    else
      let (first, warnings) := readSet (operands.headD "")
      let stop (warnings : List ByteText) (problem : ByteText) : Except Farewell Translate :=
        .error { complaint := String.join ((warnings ++ [problem]).map t.message), status := 1 }
      match first with
      | .error problem => stop warnings problem
      | .ok first =>
        let set := if has 'c' then complement (members first) else members first
        let endlessFirst := first.any Element.isEndless
        let problem := "the [c*] repeat construct may not appear in string1"
        match operands with
        | [_, source] =>
          let (second, more) := readSet source
          let warnings := warnings ++ more
          match second with
          | .error problem => stop warnings problem
          | .ok second =>
            if endlessFirst then stop warnings problem
            else if deletes then
              if second.any Element.isEndless then
                stop warnings "the [c*] construct may appear in string2 only when translating"
              else .ok { deleted := set, squeezed := members second, warnings }
            else match tableOf (has 'c') (has 't') first second with
              | .error problem => stop warnings problem
              | .ok (table, members) =>
                .ok { table, squeezed := if squeezes then members else [], warnings }
        | _ =>
          if endlessFirst then stop warnings problem
          else if deletes then .ok { deleted := set, warnings }
          else .ok { squeezed := set, warnings }

/-- What a piece of input becomes. -/
def transform (t : Translate) (s : Bytes) : Bytes × Option UInt8 :=
  s.foldr (fun b next last =>
    if t.deleted.contains b then next last
    else
      let c := (t.table.lookup b).getD b
      if t.squeezed.contains c && last == some c then next last
      else
        let (out, last) := next (some c)
        (c :: out, last)) (fun last => ([], last)) t.last

open Routine

/-- How much is read at once. -/
def pieceSize : Nat := 8192

def round (tool : Tool) (t : Translate) : Routine Translate := do
  match t.warnings with
  | warning :: warnings =>
    complain (tool.message warning)
    pure { t with warnings }
  | [] =>
    match ← read 0 pieceSize with
    | .error e =>
      let output ← tool.warn t.output ("read error: " ++ e.text)
      tool.finish output 1
      pure t
    | .ok [] =>
      tool.finish t.output 0
      pure t
    | .ok bytes =>
      let (out, last) := t.transform bytes
      return { t with output := ← tool.write t.output out, last }

end Translate
end CommandShell
