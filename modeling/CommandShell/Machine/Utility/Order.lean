/-
# Orders of lines

The ways in which `sort` compares lines: byte by byte, as numbers of several kinds, as names of
months and as versions.  A key (`SortKey`) takes a part of a line and says how these parts compare;
where all keys leave two lines equal, their bytes decide, unless nothing but the keys is to count.
-/
import CommandShell.Machine.ByteClass
import CommandShell.Machine.ByteText

namespace CommandShell

/-- How the parts of lines are compared. -/
inductive SortKind
  | bytes | number | general | human | month | version
deriving Repr, DecidableEq

/-- The bytes that count in a comparison. -/
inductive SortScope
  | everything
  /-- Blanks, letters and digits. -/
  | dictionary
  /-- Bytes that print. -/
  | printing
deriving Repr, DecidableEq

/-- How lines compare. -/
structure SortOrder where
  kinds : List SortKind := []
  scope : SortScope := .everything
  /-- Whether small letters count as capital ones. -/
  folded : Bool := false
  reversed : Bool := false
  /-- Whether blanks at the start of a key do not count, and whether they do not at its end. -/
  blankStart : Bool := false
  blankEnd : Bool := false
deriving Repr, DecidableEq

/-- A part of a line that is compared. -/
structure SortKey where
  order : SortOrder := {}
  /-- The fields and the bytes in front of the key. -/
  start : Nat × Nat := (0, 0)
  /-- The fields in front of the last one and the bytes of that one, where no bytes are the whole
  field, unless the key ends with the line. -/
  stop : Option (Nat × Nat) := none
deriving Repr, DecidableEq

namespace SortOrder

/-- Whether nothing but the direction is asked for. -/
def isDefault (o : SortOrder) : Bool :=
  { o with reversed := false } == ({} : SortOrder)

/-! ## 1. Bytes -/

def isBlank (b : UInt8) : Bool := b == 32 || b == 9 || b == 10

def isDigit (b : UInt8) : Bool := 48 ≤ b && b ≤ 57

def isLetter (b : UInt8) : Bool := (65 ≤ b && b ≤ 90) || (97 ≤ b && b ≤ 122)

def compareBytes : Bytes → Bytes → Ordering
  | [], [] => .eq
  | [], _ => .lt
  | _, [] => .gt
  | a :: as, b :: bs => if a = b then compareBytes as bs else compare a b

/-! ## 2. Numbers -/

/-- A decimal number: its sign, its whole digits and the digits of its fraction, without zeros that
do not matter. -/
structure Decimal where
  negative : Bool
  whole : Bytes
  fraction : Bytes
deriving Repr, DecidableEq

/-- Bytes without the zeros at their start. -/
def dropZeros (s : Bytes) : Bytes := s.dropWhile (· == 48)

/-- The decimal number at the start of some bytes, behind blanks, and what follows it. -/
def Decimal.read (s : Bytes) : Decimal × Bytes :=
  let s := s.dropWhile isBlank
  let (negative, s) : Bool × Bytes := match s with
    | 45 :: rest => (true, rest)
    | s => (false, s)
  let whole := s.takeWhile isDigit
  let rest := s.drop whole.length
  let (fraction, rest) : Bytes × Bytes := match rest with
    | 46 :: rest => (rest.takeWhile isDigit, rest.dropWhile isDigit)
    | rest => ([], rest)
  let whole := dropZeros whole
  let fraction := (dropZeros fraction.reverse).reverse
  (⟨negative && !(whole.isEmpty && fraction.isEmpty), whole, fraction⟩, rest)

/-- Compares the sizes of two decimal numbers. -/
def Decimal.compareSize (a b : Decimal) : Ordering :=
  ((compare a.whole.length b.whole.length).then (compareBytes a.whole b.whole)).then
    (compareBytes a.fraction b.fraction)

def Decimal.compare (a b : Decimal) : Ordering :=
  match a.negative, b.negative with
  | false, false => a.compareSize b
  | true, true => b.compareSize a
  | true, false => .lt
  | false, true => .gt

/-- The rank of the unit behind a number. -/
def unitRank (d : Decimal) (rest : Bytes) : Int :=
  let rank : Nat := match rest with
    | 75 :: _ | 107 :: _ => 1
    | 77 :: _ => 2
    | 71 :: _ => 3
    | 84 :: _ => 4
    | 80 :: _ => 5
    | 69 :: _ => 6
    | 90 :: _ => 7
    | 89 :: _ => 8
    | 82 :: _ => 9
    | 81 :: _ => 10
    | _ => 0
  if d.whole.isEmpty && d.fraction.isEmpty then 0
  else if d.negative then -(rank : Int) else rank

/-- A number that may be written with an exponent. -/
inductive General
  /-- No number at all. -/
  | nothing
  | undefined
  | belowAll
  /-- A number of tens. -/
  | value (mantissa : Int) (exponent : Int)
  | aboveAll
deriving Repr, DecidableEq

/-- The rank of a number among those that are no ordinary ones. -/
def General.rank : General → Nat
  | .nothing => 0
  | .undefined => 1
  | .belowAll => 2
  | .value _ _ => 3
  | .aboveAll => 4

/-- The greatest exponent of a number that is not beyond all. -/
def exponentLimit : Nat := 4932

/-- The value of digits in base ten. -/
def digitsValue (s : Bytes) : Nat := s.foldl (fun n b => 10 * n + (b.toNat - 48)) 0

/-- The number at the start of some bytes. -/
def General.read (s : Bytes) : General :=
  let s := s.dropWhile fun b => b == 32 || (9 ≤ b && b ≤ 13)
  let (negative, s) : Bool × Bytes := match s with
    | 45 :: rest => (true, rest)
    | 43 :: rest => (false, rest)
    | s => (false, s)
  let word := ByteText.ofBytes ((s.take 3).map capital)
  if word = "INF" then if negative then .belowAll else .aboveAll
  else if word = "NAN" then .undefined
  else
    let whole := s.takeWhile isDigit
    let rest := s.drop whole.length
    let (fraction, rest) : Bytes × Bytes := match rest with
      | 46 :: rest => (rest.takeWhile isDigit, rest.dropWhile isDigit)
      | rest => ([], rest)
    if whole.isEmpty && fraction.isEmpty then .nothing
    else
      let exponent : Int := match rest with
        | e :: rest =>
          if e = 101 || e = 69 then
            let (minus, rest) : Bool × Bytes := match rest with
              | 45 :: rest => (true, rest)
              | 43 :: rest => (false, rest)
              | rest => (false, rest)
            let n : Int := digitsValue (rest.takeWhile isDigit)
            if minus then -n else n
          else 0
        | [] => 0
      let size := digitsValue (whole ++ fraction)
      let mantissa : Int := if negative then -(size : Int) else size
      let exponent := exponent - fraction.length
      if size = 0 then .value 0 0
      else if exponentLimit < exponent + (dropZeros (whole ++ fraction)).length then
        if negative then .belowAll else .aboveAll
      else if exponent < -(2 * exponentLimit : Int) then .value 0 0
      else .value mantissa exponent

def General.compare (a b : General) : Ordering :=
  match a, b with
  | .value m e, .value n f =>
    if e ≤ f then Ord.compare m (n * Nat.pow 10 (f - e).toNat)
    else Ord.compare (m * Nat.pow 10 (e - f).toNat) n
  | a, b => Ord.compare a.rank b.rank

/-! ## 3. Months and versions -/

/-- The number of the month whose name stands at the start, or 0. -/
def month (s : Bytes) : Nat :=
  let name := ((s.dropWhile isBlank).take 3).map capital
  match ["JAN", "FEB", "MAR", "APR", "MAY", "JUN", "JUL", "AUG", "SEP", "OCT", "NOV", "DEC"].idxOf?
    (ByteText.ofBytes name) with
  | some i => i + 1
  | none => 0

/-- The rank of the first byte in a version that is no digit; the end comes before everything but a
tilde. -/
def versionRank : Bytes → Int
  | [] => -1
  | b :: _ =>
    if isDigit b then 0 else if isLetter b then b.toNat else if b = 126 then -2 else b.toNat + 256

/-- Compares two versions, number by number; the first argument bounds how many steps are taken. -/
def compareVersions : Nat → Bytes → Bytes → Ordering
  | 0, _, _ => .eq
  | _, [], [] => .eq
  | n + 1, a, b =>
    let begins (s : Bytes) : Bool := s.head?.any (!isDigit ·)
    if begins a || begins b then
      (compare (versionRank a) (versionRank b)).then (compareVersions n (a.drop 1) (b.drop 1))
    else
      let number (s : Bytes) : Bytes := dropZeros (s.takeWhile isDigit)
      (((compare (number a).length (number b).length).then
        (compareBytes (number a) (number b)))).then
          (compareVersions n (a.dropWhile isDigit) (b.dropWhile isDigit))

/-- Whether some bytes are endings of a file name, each with a letter behind its dot. -/
def isEndings : Nat → Bytes → Bool
  | 0, _ => false
  | _, [] => true
  | n + 1, 46 :: b :: rest =>
    (isLetter b || b == 126)
      && isEndings n (rest.dropWhile fun b => isLetter b || isDigit b || b == 126)
  | _, _ => false

/-- A file name without its endings; something is always left of it. -/
def withoutEndings (s : Bytes) : Bytes :=
  match ((List.range s.length).drop 1).find? fun i => isEndings (s.length + 1) (s.drop i) with
  | some i => s.take i
  | none => s

/-- Compares two file names with versions in them. -/
def compareVersionNames (a b : Bytes) : Ordering :=
  let rank (s : Bytes) : Nat :=
    if s = [] then 0 else if s = [46] then 1 else if s = [46, 46] then 2
    else if s.head? = some 46 then 3 else 4
  let fuel := a.length + b.length + 2
  ((compare (rank a) (rank b)).then
    (compareVersions fuel (withoutEndings a) (withoutEndings b))).then (compareVersions fuel a b)

/-! ## 4. Parts of lines -/

/-- The bytes of a part that count. -/
def counted (o : SortOrder) (s : Bytes) : Bytes :=
  let kept := match o.scope with
    | .everything => s
    | .dictionary => s.filter fun b => isLetter b || isDigit b || b == 32 || b == 9
    | .printing => s.filter fun b => 32 ≤ b && b < 127
  if o.folded then kept.map capital else kept

def compareParts (o : SortOrder) (a b : Bytes) : Ordering :=
  let found := match o.kinds.head? with
    | some .number => (Decimal.read a).1.compare (Decimal.read b).1
    | some .general => (General.read a).compare (General.read b)
    | some .human =>
      let (x, restX) := Decimal.read a
      let (y, restY) := Decimal.read b
      (compare (unitRank x restX) (unitRank y restY)).then (x.compare y)
    | some .month => compare (month (o.counted a)) (month (o.counted b))
    | some .version => compareVersionNames (o.counted a) (o.counted b)
    | _ => compareBytes (o.counted a) (o.counted b)
  if o.reversed then found.swap else found

end SortOrder

namespace SortKey

open SortOrder

/-- What follows the first field of some bytes, together with what separates it from the next. -/
def skipField (separator : Option UInt8) (s : Bytes) : Bytes :=
  match separator with
  | some t => (s.dropWhile (· != t)).drop 1
  | none => (s.dropWhile isBlank).dropWhile (!isBlank ·)

def skipFields (separator : Option UInt8) : Nat → Bytes → Bytes
  | 0, s => s
  | _, [] => []
  | n + 1, s => skipFields separator n (skipField separator s)

/-- The part of a line that a key takes. -/
def part (k : SortKey) (separator : Option UInt8) (line : Bytes) : Bytes :=
  let rest := skipFields separator k.start.1 line
  let rest := if k.order.blankStart then rest.dropWhile isBlank else rest
  let start := line.length - (rest.drop k.start.2).length
  let stop := match k.stop with
    | none => line.length
    | some (fields, 0) =>
      let rest := skipFields separator fields line
      let field := match separator with
        | some t => rest.takeWhile (· != t)
        | none =>
          let blanks := rest.takeWhile isBlank
          blanks ++ (rest.drop blanks.length).takeWhile (!isBlank ·)
      line.length - rest.length + field.length
    | some (fields, bytes) =>
      let rest := skipFields separator fields line
      let rest := if k.order.blankEnd then rest.dropWhile isBlank else rest
      line.length - (rest.drop bytes).length
  (line.take stop).drop start

/-- Compares two lines by keys. -/
def compareBy (separator : Option UInt8) : List SortKey → Bytes → Bytes → Ordering
  | [], _, _ => .eq
  | k :: keys, a, b =>
    (k.order.compareParts (k.part separator a) (k.part separator b)).then
      (compareBy separator keys a b)

end SortKey
end CommandShell
