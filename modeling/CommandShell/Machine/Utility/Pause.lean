/-
# `sleep`

`sleep` waits for as long as its arguments say together.  Each of them is a number with an optional
unit: seconds, minutes, hours or days.
-/
import CommandShell.Machine.Floating
import CommandShell.Machine.NameQuoting
import CommandShell.Machine.Switches
import CommandShell.Machine.Tool

namespace CommandShell

/-- `sleep` at work: how many milliseconds it waits; for ever without a number. -/
structure Pause where
  duration : Option Nat
deriving Repr, DecidableEq

namespace Pause

/-- The number of milliseconds that a unit stands for. -/
def unit? : List Char → Option Nat
  | [] | ['s'] => some 1000
  | ['m'] => some (60 * 1000)
  | ['h'] => some (60 * 60 * 1000)
  | ['d'] => some (24 * 60 * 60 * 1000)
  | _ => none

/-- A quotient as a whole number, rounded up. -/
def roundUp (num den : Nat) : Nat := (num + den - 1) / den

/-- The number of milliseconds that an argument stands for, if it means anything; no number is
given for one without end. -/
def interval? (s : ByteText) : Option (Option Nat) := do
  let ((x, _), rest) ← Numeral.floating? .double s.toList
  let unit ← unit? rest
  match x with
  | .finite negative mantissa exponent =>
    if negative && mantissa ≠ 0 then none
    else
      let (num, den) := scaled (mantissa * unit) 1 2 exponent
      some (some (roundUp num den))
  | .infinite false => some none
  | _ => none

/-- `sleep` with its arguments. -/
def start (t : Tool) (args : List ByteText) : Except Farewell Pause :=
  match (({} : Switches).read args).operands with
  | .error problem => .error (t.misuse problem)
  | .ok operands =>
    if args = [] then .error (t.misuse "missing operand")
    else
      match operands.filter fun s => (interval? s).isNone with
      | [] =>
        let intervals := operands.filterMap interval?
        let total := (intervals.filterMap id).foldl (· + ·) 0
        .ok ⟨if intervals.all Option.isSome then some total else none⟩
      | invalid =>
        let problems := invalid.map fun s =>
          "invalid time interval " ++ NameQuoting.inSingleQuotes s
        .error (t.misuse (("\n" ++ t.name ++ ": ").intercalate problems))

open Routine

def round (p : Pause) : Routine Pause := do
  match p.duration with
  | some n =>
    let _ ← ask (.sleep n)
    Routine.exit 0 p
  | none =>
    let _ ← ask .sleepForever
    pure p

end Pause
end CommandShell
