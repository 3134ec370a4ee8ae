/-
# Formatted values

A conversion tells how a value is written (`Conversion`): what kind of value it is, how wide the
text is at least, how many digits or characters it shows, and how signs, bases and blanks are
written.  Numbers are written exactly as they are before they are rounded to the digits asked for.
-/
import CommandShell.Machine.Floating

namespace CommandShell

/-- How a value is written. -/
structure Conversion where
  /-- Blanks stand on the right. -/
  left : Bool := false
  /-- A number that is not negative has a plus sign. -/
  plus : Bool := false
  /-- A number that is not negative has a blank in the place of its sign. -/
  blank : Bool := false
  /-- The base is shown, and the point of a number in any case. -/
  alternative : Bool := false
  /-- Zeros take the place of blanks on the left. -/
  zero : Bool := false
  width : Nat := 0
  precision : Option Nat := none
  /-- The letter of the conversion. -/
  letter : Char := 's'
deriving Repr, DecidableEq

namespace Conversion

/-! ## 1. Flags -/

def flags : List Char := ['-', '+', ' ', '#', '0']

/-- The conversion with a flag; other characters do not count. -/
def addFlag (c : Conversion) : Char → Conversion
  | '-' => { c with left := true }
  | '+' => { c with plus := true }
  | ' ' => { c with blank := true }
  | '#' => { c with alternative := true }
  | '0' => { c with zero := true }
  | _ => c

/-- The conversion with a width; a negative one puts the blanks on the right. -/
def setWidth (c : Conversion) (n : Int) : Conversion :=
  { c with width := n.natAbs, left := c.left || n < 0 }

/-! ## 2. Padding -/

/-- Some copies of a character. -/
def copies (n : Nat) (c : Char) : List Char := List.replicate n c

/-- A text with blanks around it. -/
def pad (c : Conversion) (s : List Char) : List Char :=
  let missing := copies (c.width - s.length) ' '
  if c.left then s ++ missing else missing ++ s

/-- A number with its sign in front and blanks or zeros around it. -/
def padNumber (c : Conversion) (zeros : Bool) (sign digits : List Char) : List Char :=
  if zeros && c.zero && !c.left then
    sign ++ copies (c.width - sign.length - digits.length) '0' ++ digits
  else c.pad (sign ++ digits)

def sign (c : Conversion) (negative : Bool) : List Char :=
  if negative then ['-'] else if c.plus then ['+'] else if c.blank then [' '] else []

/-! ## 3. Texts and whole numbers -/

def text (c : Conversion) (s : ByteText) : List Char :=
  c.pad (match c.precision with
    | some n => s.toList.take n
    | none => s.toList)

def digits (base : Nat) (upper : Bool) (n : Nat) : List Char :=
  let ds := Nat.toDigits base n
  if upper then ds.map Char.toUpper else ds

/-- The digits of a number, as many as the conversion asks for. -/
def digitsOf (c : Conversion) (base : Nat) (n : Nat) : List Char :=
  let ds := if n = 0 && c.precision == some 0 then [] else digits base (c.letter == 'X') n
  let ds := copies (c.precision.getD 1 - ds.length) '0' ++ ds
  if base = 8 && c.alternative && ds.head? != some '0' then '0' :: ds else ds

def signed (c : Conversion) (n : Int) : List Char :=
  c.padNumber c.precision.isNone (c.sign (n < 0)) (c.digitsOf 10 n.natAbs)

def unsigned (c : Conversion) (n : Nat) : List Char :=
  let base := match c.letter with
    | 'o' => 8
    | 'x' | 'X' => 16
    | _ => 10
  let front := if base = 16 && c.alternative && n ≠ 0 then ['0', c.letter] else []
  c.padNumber c.precision.isNone front (c.digitsOf base n)

/-! ## 4. Floating-point numbers -/

/-- The number of digits behind the point when none is asked for. -/
def defaultPlaces : Nat := 6

/-- Digits with a point in front of the last so many. -/
def pointed (c : Conversion) (digits : List Char) (places : Nat) : List Char :=
  let digits := copies (places + 1 - digits.length) '0' ++ digits
  let whole := digits.take (digits.length - places)
  if places = 0 then if c.alternative then whole ++ ['.'] else whole
  else whole ++ '.' :: digits.drop (digits.length - places)

/-- A fraction with so many digits behind the point. -/
def fixed (c : Conversion) (num den places : Nat) : List Char :=
  c.pointed (Nat.toDigits 10 (roundHalfEven (num * Nat.pow 10 places) den)) places

/-- The power of ten of the first digit of a fraction, which the number bounds. -/
def magnitude (num den : Nat) : Int :=
  let guess : Int := (Nat.toDigits 10 num).length - (Nat.toDigits 10 den).length
  let (a, b) := scaled num den 10 (-guess)
  if a < b then guess - 1 else guess

/-- The digits of a fraction from its first one on, with so many behind the first, and the power of
ten of the first. -/
def leading (num den places : Nat) : List Char × Int :=
  if num = 0 then (copies (places + 1) '0', 0)
  else
    let power := magnitude num den
    let (a, b) := scaled num den 10 (places - power)
    let ds := Nat.toDigits 10 (roundHalfEven a b)
    if places + 1 < ds.length then (ds.take (places + 1), power + 1) else (ds, power)

/-- The exponent behind a number. -/
def exponentText (letter : Char) (least : Nat) (power : Int) : List Char :=
  let ds := Nat.toDigits 10 power.natAbs
  letter :: (if power < 0 then '-' else '+') :: copies (least - ds.length) '0' ++ ds

/-- A number without the zeros at the end of its places, and without a point that is left alone. -/
def trimZeros (s : List Char) : List Char :=
  if s.contains '.' then
    let s := (s.reverse.dropWhile (· == '0')).reverse
    if s.getLast? = some '.' then s.dropLast else s
  else s

/-- A fraction in the shorter of the two notations. -/
def general (c : Conversion) (num den : Nat) (letter : Char) : List Char :=
  let precision := max 1 (c.precision.getD defaultPlaces)
  let (ds, power) := leading num den (precision - 1)
  let tidy (s : List Char) := if c.alternative then s else trimZeros s
  if power < precision && -4 ≤ power then
    tidy (c.fixed num den (precision - 1 - power).toNat)
  else tidy (c.pointed ds (precision - 1)) ++ exponentText letter 2 power

/-- A mantissa and an exponent in hexadecimal notation.  The first digit is not zero, except for
numbers that are too small for that. -/
def hexadecimal (c : Conversion) (p : Precision) (mantissa : Nat) (exponent : Int) : List Char :=
  let lead := if p.digits % 4 = 0 then 4 else 1
  let places := (p.digits - lead) / 4
  let shift := if exponent = p.least then 0 else p.digits - 1 - Nat.log2 mantissa
  let normal := mantissa * Nat.pow 2 shift
  let power : Int := if mantissa = 0 then 0 else exponent - shift + 4 * places
  let ds := Nat.toDigits 16 normal
  let all := copies (places + 1 - ds.length) '0' ++ ds
  let (shown, power) : List Char × Int := match c.precision with
    | some n =>
      if n < places then
        let cut := roundHalfEven normal (Nat.pow 16 (places - n))
        let ds := Nat.toDigits 16 cut
        if n + 1 < ds.length then (ds.take (n + 1), power + 4)
        else (copies (n + 1 - ds.length) '0' ++ ds, power)
      else (all ++ copies (n - places) '0', power)
    | none => ((all.take 1 ++ ((all.drop 1).reverse.dropWhile (· == '0')).reverse), power)
  c.pointed shown (shown.length - 1) ++ exponentText 'p' 1 power

def floating (c : Conversion) (p : Precision) (x : Floating) : List Char :=
  let upper := c.letter.isUpper
  let cased (s : List Char) := if upper then s.map Char.toUpper else s
  match x with
  | .infinite negative => c.pad (c.sign negative ++ cased ['i', 'n', 'f'])
  | .undefined negative => c.pad (c.sign negative ++ cased ['n', 'a', 'n'])
  | .finite negative mantissa exponent =>
    let (num, den) := scaled mantissa 1 2 exponent
    let places := c.precision.getD defaultPlaces
    match c.letter.toLower with
    | 'f' => c.padNumber true (c.sign negative) (c.fixed num den places)
    | 'e' =>
      let (ds, power) := leading num den places
      c.padNumber true (c.sign negative) (cased (c.pointed ds places ++ exponentText 'e' 2 power))
    | 'a' =>
      c.padNumber true (c.sign negative ++ cased ['0', 'x'])
        (cased (c.hexadecimal p mantissa exponent))
    | _ => c.padNumber true (c.sign negative) (cased (c.general num den 'e'))

end Conversion

/-! ## 5. Directives -/

/-- A conversion as a format asks for it. -/
structure Directive where
  /-- The flags as they are written. -/
  flags : List Char
  conversion : Conversion
  /-- Whether an argument gives the width. -/
  takesWidth : Bool
  /-- Whether an argument gives the precision. -/
  takesPrecision : Bool
  /-- Whether a letter ends it. -/
  complete : Bool
  /-- The whole directive as it is written. -/
  written : ByteText
deriving Repr, DecidableEq

namespace Directive

/-- A number, or the star that stands for an argument, and what follows. -/
def number (cs : List Char) : Bool × Nat × List Char :=
  match cs with
  | '*' :: rest => (true, 0, rest)
  | cs =>
    let digits := cs.takeWhile Char.isDigit
    (false, Numeral.value 10 digits, cs.drop digits.length)

/-- Reads what follows a percent sign, where some flags are known, and some letters in front of the
last one do not count. -/
def read (known ignored : List Char) (cs : List Char) : Directive × List Char :=
  let flags := cs.takeWhile known.contains
  let (takesWidth, width, rest) := number (cs.drop flags.length)
  let (takesPrecision, precision, rest) : Bool × Option Nat × List Char := match rest with
    | '.' :: rest =>
      let (asked, n, rest) := number rest
      (asked, some n, rest)
    | rest => (false, none, rest)
  let rest := rest.dropWhile ignored.contains
  let conversion := flags.foldl Conversion.addFlag
    { width, precision, letter := rest.head?.getD '\x00' }
  ({ flags, conversion, takesWidth, takesPrecision, complete := !rest.isEmpty
     written := String.ofList ('%' :: cs.take (cs.length - rest.length + 1)) }, rest.drop 1)

end Directive
end CommandShell
