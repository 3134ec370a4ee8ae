/-
# Floating-point numbers

A floating-point number is a whole number times a power of two, where the whole number has at most
as many binary digits as its precision allows (`Precision`).  A numeral stands for the number next
to its exact value, and for the even one of two that are equally near (`Precision.nearest`), so it
is read as a fraction first.  Numerals are decimal or hexadecimal, and there are words for the
infinite and for what is no number.
-/
import CommandShell.Machine.ByteText
import CommandShell.Text.Width

namespace CommandShell

/-- A floating-point number: the mantissa times a power of two, or one of the two that are not
finite. -/
inductive Floating
  | finite (negative : Bool) (mantissa : Nat) (exponent : Int)
  | infinite (negative : Bool)
  | undefined (negative : Bool)
deriving Repr, DecidableEq

/-- The reach of a kind of floating-point numbers. -/
structure Precision where
  /-- The number of binary digits of the mantissa. -/
  digits : Nat
  /-- The least exponent. -/
  least : Int
  /-- The greatest exponent. -/
  greatest : Int
deriving Repr, DecidableEq

namespace Precision

/-- Numbers of eight bytes. -/
def double : Precision := ⟨53, -1074, 971⟩

/-- Numbers of ten bytes. -/
def extended : Precision := ⟨64, -16445, 16320⟩

end Precision

/-! ## 1. Rounding -/

/-- A quotient as a whole number, where a half goes to the even neighbour. -/
def roundHalfEven (num den : Nat) : Nat :=
  let q := num / den
  let r := 2 * (num % den)
  if den < r || (r == den && q % 2 == 1) then q + 1 else q

/-- A fraction times a power of a base, as a fraction. -/
def scaled (num den base : Nat) (power : Int) : Nat × Nat :=
  if 0 ≤ power then (num * Nat.pow base power.toNat, den)
  else (num, den * Nat.pow base (-power).toNat)

namespace Precision

/-- The number nearest to a fraction, and whether the fraction is out of reach. -/
def nearest (p : Precision) (negative : Bool) (num den : Nat) : Floating × Bool :=
  if num = 0 then (.finite negative 0 0, false)
  else
    let guess : Int := (Nat.log2 num : Int) - Nat.log2 den - p.digits
    let (a, b) := scaled num den 2 (-guess)
    let exponent := max p.least (if Width.values p.digits ≤ a / b then guess + 1 else guess)
    let (a, b) := scaled num den 2 (-exponent)
    let mantissa := roundHalfEven a b
    if p.greatest < exponent || (exponent == p.greatest && Width.values p.digits ≤ mantissa) then
      (.infinite negative, true)
    else
      (.finite negative mantissa exponent,
        mantissa < Width.values (p.digits - 1) && a % b != 0)

end Precision

/-! ## 2. Numerals -/

namespace Numeral

/-- The value of a digit, of any base up to 36. -/
def digit? (c : Char) : Option Nat :=
  if c.isDigit then some (c.toNat - '0'.toNat)
  else if c.isLower then some (c.toNat - 'a'.toNat + 10)
  else if c.isUpper then some (c.toNat - 'A'.toNat + 10)
  else none

def isDigitOf (base : Nat) (c : Char) : Bool := (digit? c).any (· < base)

/-- The number that digits stand for. -/
def value (base : Nat) (digits : List Char) : Nat :=
  digits.foldl (fun n c => n * base + (digit? c).getD 0) 0

/-- Whether a character separates words. -/
def isSpace (c : Char) : Bool := c == ' ' || ('\t' ≤ c && c ≤ '\r')

/-- A sign, and what follows it. -/
def sign : List Char → Bool × List Char
  | '-' :: cs => (true, cs)
  | '+' :: cs => (false, cs)
  | cs => (false, cs)

/-- Whether a text begins with a word, in any case; gives what follows. -/
def word? (word : String) (cs : List Char) : Option (List Char) :=
  if (cs.take word.length).map Char.toLower = word.toList then some (cs.drop word.length) else none

/-- The exponents beyond which it does not matter how great an exponent is. -/
def exponentLimit : Nat := 100000

/-- An exponent behind its letter, and what follows it. -/
def exponent (letter : Char) (cs : List Char) : Int × List Char :=
  match cs with
  | c :: rest =>
    if c.toLower == letter then
      let (negative, digits) := sign rest
      let found := digits.takeWhile Char.isDigit
      if found = [] then (0, cs)
      else
        let n : Int := min exponentLimit (value 10 found)
        (if negative then -n else n, digits.drop found.length)
    else (0, cs)
  | [] => (0, cs)

/-- A numeral with digits of a base: the digits without the point, how many stand behind it, and
what follows. -/
def mantissa (base : Nat) (cs : List Char) : List Char × Nat × List Char :=
  let whole := cs.takeWhile (isDigitOf base)
  match cs.drop whole.length with
  | '.' :: rest =>
    let part := rest.takeWhile (isDigitOf base)
    if whole = [] && part = [] then ([], 0, cs)
    else (whole ++ part, part.length, rest.drop part.length)
  | rest => (whole, 0, rest)

/-- The number of a numeral without a sign, whether it is out of reach, and what follows it. -/
def unsignedFloating? (p : Precision) (negative : Bool) (cs : List Char) :
    Option ((Floating × Bool) × List Char) :=
  match word? "infinity" cs <|> word? "inf" cs, word? "nan" cs with
  | some rest, _ => some ((.infinite negative, false), rest)
  | _, some rest =>
    let inner := rest.drop 1 |>.takeWhile fun c => c.isAlphanum || c == '_'
    let rest := if rest.head? = some '(' && (rest.drop (1 + inner.length)).head? = some ')' then
        rest.drop (2 + inner.length)
      else rest
    some ((.undefined negative, false), rest)
  | none, none =>
    let hexadecimal : Option ((Floating × Bool) × List Char) :=
      match word? "0x" cs with
      | some rest =>
        let (digits, places, rest) := mantissa 16 rest
        if digits = [] then none
        else
          let (power, rest) := exponent 'p' rest
          let (num, den) := scaled (value 16 digits) 1 2 (power - 4 * places)
          some (p.nearest negative num den, rest)
      | none => none
    match hexadecimal with
    | some found => some found
    | none =>
      let (digits, places, rest) := mantissa 10 cs
      if digits = [] then none
      else
        let (power, rest) := exponent 'e' rest
        let (num, den) := scaled (value 10 digits) 1 10 (power - places)
        some (p.nearest negative num den, rest)

/-- The number at the start of a text, if there is one, whether it is out of reach, and what follows
it. -/
def floating? (p : Precision) (cs : List Char) : Option ((Floating × Bool) × List Char) :=
  let (negative, cs) := sign (cs.dropWhile isSpace)
  unsignedFloating? p negative cs

/-- The whole number at the start of a text, whose base its own start tells, and what follows it. -/
def integer? (cs : List Char) : Option (Int × List Char) :=
  let (negative, cs) := sign (cs.dropWhile isSpace)
  let based (base : Nat) (cs : List Char) : Option (Int × List Char) :=
    let digits := cs.takeWhile (isDigitOf base)
    if digits = [] then none
    else
      let n : Int := value base digits
      some (if negative then -n else n, cs.drop digits.length)
  let binary := (word? "0b" cs).bind (based 2)
  let hexadecimal := (word? "0x" cs).bind (based 16)
  hexadecimal <|> binary <|> based (if cs.head? = some '0' then 8 else 10) cs

end Numeral
end CommandShell
