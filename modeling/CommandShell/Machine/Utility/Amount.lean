/-
# Amounts

`head` and `tail` are told how many lines or bytes are meant by a number with an optional unit: `b`
is 512, a letter as `k` or `M` is a power of 1024, and of 1000 when a `B` follows it.  A unit
without a number counts once.
-/
import CommandShell.Machine.NameQuoting
import CommandShell.Text.Width

namespace CommandShell.Amount

/-- Why a text is no amount. -/
inductive Problem
  | invalid
  | tooLarge
deriving Repr, DecidableEq

/-- The first number that is too large. -/
def limit : Nat := Width.values 64

/-- The power of the base that a unit letter stands for. -/
def power? (c : Char) : Option Nat :=
  [('k', 1), ('K', 1), ('m', 2), ('M', 2), ('G', 3), ('T', 4), ('P', 5), ('E', 6), ('Z', 7),
    ('Y', 8), ('R', 9), ('Q', 10)].lookup c

/-- The factor that a unit stands for, and what follows it. -/
def unit? : List Char → Option (Nat × List Char)
  | 'b' :: rest => some (512, rest)
  | c :: rest =>
    (power? c).map fun n =>
      match rest with
      | 'i' :: 'B' :: rest => (Nat.pow 1024 n, rest)
      | 'B' :: rest => (Nat.pow 1000 n, rest)
      | 'D' :: rest => (Nat.pow 1000 n, rest)
      | rest => (Nat.pow 1024 n, rest)
  | [] => none

def read (s : ByteText) : Except Problem Nat :=
  let cs := s.toList.dropWhile fun c => c == ' ' || ('\t' ≤ c && c ≤ '\r')
  let cs := match cs with
    | '+' :: rest => rest
    | cs => cs
  let digits := cs.takeWhile Char.isDigit
  let rest := cs.drop digits.length
  let number := digits.foldl (fun n c => 10 * n + (c.toNat - '0'.toNat)) 0
  match digits, rest with
  | [], [] => .error .invalid
  | _, [] => if number < limit then .ok number else .error .tooLarge
  | digits, rest =>
    match unit? rest with
    | some (factor, []) =>
      let amount := (if digits = [] then 1 else number) * factor
      if amount < limit then .ok amount else .error .tooLarge
    | _ => .error .invalid

/-- What is said about a text that is no amount. -/
def complaint (what s : ByteText) (p : Problem) : ByteText :=
  what ++ ": " ++ NameQuoting.inSingleQuotes s ++ match p with
    | .invalid => ""
    | .tooLarge => ": Value too large for defined data type"

end CommandShell.Amount
