/-
# Classes of bytes

The bytes of ASCII characters fall into classes that have names (`byteClass?`), such as the letters
or the digits; the bytes from 128 on belong to none.  A letter has a capital and a small form.
-/
import CommandShell.Text.Bytes

namespace CommandShell

/-- The named classes of bytes. -/
def byteClass? (name : String) : Option (UInt8 → Bool) :=
  let upper (b : UInt8) := 65 ≤ b && b ≤ 90
  let lower (b : UInt8) := 97 ≤ b && b ≤ 122
  let digit (b : UInt8) := 48 ≤ b && b ≤ 57
  let alnum (b : UInt8) := upper b || lower b || digit b
  let graph (b : UInt8) := 33 ≤ b && b ≤ 126
  match name with
  | "alnum" => some alnum
  | "alpha" => some fun b => upper b || lower b
  | "blank" => some fun b => b == 32 || b == 9
  | "cntrl" => some fun b => b < 32 || b == 127
  | "digit" => some digit
  | "graph" => some graph
  | "lower" => some lower
  | "print" => some fun b => graph b || b == 32
  | "punct" => some fun b => graph b && !alnum b
  | "space" => some fun b => b == 32 || (9 ≤ b && b ≤ 13)
  | "upper" => some upper
  | "xdigit" => some fun b => digit b || (65 ≤ b && b ≤ 70) || (97 ≤ b && b ≤ 102)
  | _ => none

def allBytes : Bytes := (List.range 256).map UInt8.ofNat

def byteRange (a b : UInt8) : Bytes :=
  (List.range (b.toNat + 1 - a.toNat)).map fun i => UInt8.ofNat (a.toNat + i)

/-- A byte with a small letter made a capital one. -/
def capital (b : UInt8) : UInt8 := if 97 ≤ b && b ≤ 122 then b - 32 else b

/-- A byte with a capital letter made a small one. -/
def small (b : UInt8) : UInt8 := if 65 ≤ b && b ≤ 90 then b + 32 else b

end CommandShell
