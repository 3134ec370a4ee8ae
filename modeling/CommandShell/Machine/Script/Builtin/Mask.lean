/-
# The rights of new files

The command `umask` of the script language shows or changes the rights that new files are refused.
They are given as an octal number, or as changes of the rights that new files get: whose rights,
one of `=`, `+` and `-`, and which rights, as in `u=rw,go-x`.
-/
import CommandShell.Machine.Floating
import CommandShell.Machine.Script.Builtin.Letters

namespace CommandShell.Script.Mask

open Runner

/-! ## 1. Rights -/

/-- All rights of everybody. -/
def allRights : Nat := 0o777

/-- What one right of one kind is multiplied with to give it to a class of users. -/
def place? : Char → Option Nat
  | 'u' => some 0o100
  | 'g' => some 0o010
  | 'o' => some 0o001
  | 'a' => some 0o111
  | _ => none

/-- The places of several classes of users; nobody means everybody. -/
def places (classes : List Char) : Nat :=
  if classes = [] then 0o111 else (classes.filterMap place?).foldl (· ||| ·) 0

/-- The rights that a letter means, where some rights were given before. -/
def right? (old : Nat) : Char → Option Nat
  | 'r' => some 4
  | 'w' => some 2
  | 'x' => some 1
  | 'X' => some (if old &&& 0o111 = 0 then 0 else 1)
  | 'u' => some (old / 0o100 % 8)
  | 'g' => some (old / 0o010 % 8)
  | 'o' => some (old % 8)
  | 's' => some 0
  | _ => none

def without (given rights : Nat) : Nat := given &&& (allRights ^^^ (rights &&& allRights))

/-- The rights after one change.  Letters refer to the rights before all changes. -/
def change (old given places : Nat) (sign : Char) (letters : List Char) : Nat :=
  let rights := places * (letters.filterMap (right? old)).foldl (· ||| ·) 0
  match sign with
  | '+' => given ||| rights
  | '-' => without given rights
  | _ => without given (places * 7) ||| rights

/-- The rights after some changes, if the text can be read; the number bounds its length.  `before`
is for the classes that a change is for which has none of its own. -/
def changes (old : Nat) : Nat → Nat → List Char → Nat → Option Nat
  | 0, _, _, given => some given
  | _, _, [], given => some given
  | n + 1, before, cs, given =>
    let classes := cs.takeWhile fun c => (place? c).isSome
    let places := before ||| (if classes = [] && before ≠ 0 then 0 else places classes)
    match cs.drop classes.length with
    | [] => none
    | sign :: rest =>
      if sign = '=' || sign = '+' || sign = '-' then
        let letters := rest.takeWhile fun c => (right? old c).isSome
        let given := change old given places sign letters
        match rest.drop letters.length with
        | ',' :: rest => changes old n 0 rest given
        | rest =>
          if rest.head?.any fun c => c ≠ '=' && c ≠ '+' && c ≠ '-' then none
          else changes old n places rest given
      else none

/-! ## 2. Showing rights -/

/-- A number in octal digits, at least four of them. -/
def octal (n : Nat) : String :=
  let digits := Nat.toDigits 8 n
  String.ofList (List.replicate (4 - digits.length) '0' ++ digits)

/-- The letters of the rights of one class. -/
def letters (rights : Nat) : String :=
  (if rights / 4 % 2 = 1 then "r" else "") ++ (if rights / 2 % 2 = 1 then "w" else "")
    ++ (if rights % 2 = 1 then "x" else "")

/-- The rights that new files get, by classes. -/
def symbolic (given : Nat) : String :=
  "u=" ++ letters (given / 0o100) ++ ",g=" ++ letters (given / 0o010) ++ ",o=" ++ letters given

/-! ## 3. The command -/

def umask (args : List ByteText) : Runner Nat := do
  let (found, args) ← Letters.read "S" "" args
  let mask := (← get).mask
  let given := allRights ^^^ mask
  match args with
  | [] => emit ((if found.isEmpty then octal mask else symbolic given) ++ "\n")
  | arg :: _ =>
    let cs := arg.toList
    if cs.head?.any Char.isDigit then
      if !cs.all (Numeral.isDigitOf 8) then fail ("Illegal number: " ++ arg)
      modify fun s => { s with mask := Numeral.value 8 cs % (allRights + 1) }
    else
      match changes given (cs.length + 1) 0 cs given with
      | some given => modify fun s => { s with mask := allRights ^^^ given }
      | none => fail ("Illegal mode: " ++ arg)
  pure 0

end CommandShell.Script.Mask
