/-
# Decimal numerals with a limit

A numeral is an optional sign and at least one ASCII digit.  It is read from the left; the first
thing that is wrong with it decides how it is refused, so that a numeral which has grown past its
limit is too large whatever follows.
-/
import CommandShell.Text.Width

namespace CommandShell.Numeral

/-- Why a text is no numeral in its range. -/
inductive Problem
  | empty
  | invalidDigit
  | tooLarge
  | tooSmall
deriving Repr, DecidableEq

def Problem.message : Problem → String
  | .empty => "cannot parse integer from empty string"
  | .invalidDigit => "invalid digit found in string"
  | .tooLarge => "number too large to fit in target type"
  | .tooSmall => "number too small to fit in target type"

/-- Reads digits after those that made up `value`; `past` is the reason for a value beyond
`limit`. -/
def readDigits (limit : Nat) (past : Problem) : Nat → List Char → Except Problem Nat
  | value, [] => .ok value
  | value, c :: cs =>
    if c.isDigit then
      let value := 10 * value + (c.toNat - '0'.toNat)
      if limit < value then .error past else readDigits limit past value cs
    else .error .invalidDigit

/-- Reads a numeral that has no minus sign and is at most `limit`. -/
def readNat (limit : Nat) (s : String) : Except Problem Nat :=
  match s.toList with
  | [] => .error .empty
  | ['+'] => .error .invalidDigit
  | '+' :: digits => readDigits limit .tooLarge 0 digits
  | digits => readDigits limit .tooLarge 0 digits

/-- Reads a numeral from `-(limit + 1)` to `limit`. -/
def readInt (limit : Nat) (s : String) : Except Problem Int :=
  match s.toList with
  | ['-'] => .error .invalidDigit
  | '-' :: digits =>
    (readDigits (limit + 1) .tooSmall 0 digits).map fun value => -(value : Int)
  | _ => (readNat limit s).map Int.ofNat

/-- The largest exit status a command may name. -/
def statusLimit : Nat := Width.values 31 - 1

/-- The largest count a command may name. -/
def countLimit : Nat := Width.values 64 - 1

end CommandShell.Numeral
