/-
# What the stream editor does to text

How matches are replaced (`Substitution.apply`) and how bytes are shown that cannot be seen
(`shown`).
-/
import CommandShell.Machine.Utility.Edit.Script

namespace CommandShell.Edit

/-! ## 1. Replacing -/

/-- A byte as a capital or a small letter. -/
def LetterCase.change : LetterCase → UInt8 → UInt8
  | .capitals => capital
  | .smalls => small

/-- Text with the letters changed as parts of a replacement have asked for. -/
def changeLetters (all next : Option LetterCase) (bytes : Bytes) : Bytes :=
  let changed := match all with
    | some c => bytes.map c.change
    | none => bytes
  match next, bytes, changed with
  | some c, b :: _, _ :: rest => c.change b :: rest
  | _, _, changed => changed

/-- What parts of a replacement put in the place of a match. -/
def expand (text : Bytes) (f : Regex.Found) :
    Option LetterCase → Option LetterCase → List Part → Bytes
  | _, _, [] => []
  | all, next, part :: parts =>
    let put (bytes : Bytes) : Bytes :=
      changeLetters all next bytes ++ expand text f all (if bytes = [] then next else none) parts
    match part with
    | .text bytes => put bytes
    | .group n => put (f.group text n)
    | .fold change => expand text f change none parts
    | .foldNext change => expand text f all (some change) parts

/-- Replaces matches from a position on: `count` of them were found before, the last of which ended
at `last`.  A match that holds nothing does not count where the one before it ended.  Tells whether
anything was replaced; the number bounds how many matches there are. -/
def Substitution.replaceFrom (s : Substitution) (r : Regex) (text : Bytes) :
    Nat → Nat → Nat → Option Nat → Bytes × Bool
  | 0, position, _, _ => (text.drop position, false)
  | n + 1, position, count, last =>
    match if position ≤ text.length then r.search text position else none with
    | none => (text.drop position, false)
    | some f =>
      let skipped := (text.drop position).take (f.start - position)
      let isEmpty := f.start = f.stop
      let more (count : Nat) : Bytes × Bool :=
        if isEmpty then
          let (rest, done) := s.replaceFrom r text n (f.stop + 1) count (some f.stop)
          ((text.drop f.stop).take 1 ++ rest, done)
        else s.replaceFrom r text n f.stop count (some f.stop)
      if isEmpty && last = some f.start then
        let (rest, done) := more count
        (skipped ++ rest, done)
      else if count + 1 < s.number then
        let (rest, done) := more (count + 1)
        (skipped ++ f.group text 0 ++ rest, done)
      else
        let put := skipped ++ expand text f none none s.parts
        if s.all then (put ++ (more (count + 1)).1, true)
        else (put ++ text.drop f.stop, true)

/-- The text with matches replaced, if anything was. -/
def Substitution.apply? (s : Substitution) (r : Regex) (text : Bytes) : Option Bytes :=
  let (replaced, done) := s.replaceFrom r text (text.length + 2) 0 0 none
  if done then some replaced else none

/-! ## 2. Showing -/

/-- A byte as it is shown. -/
def shownByte (b : UInt8) : String :=
  match [(92, "\\\\"), (7, "\\a"), (8, "\\b"), (12, "\\f"), (10, "\\n"), (13, "\\r"), (9, "\\t"),
      (11, "\\v")].lookup b with
  | some s => s
  | none =>
    if 32 ≤ b && b < 127 then String.singleton (Char.ofNat b.toNat)
    else
      let digit (n : Nat) : Char := Char.ofNat ('0'.toNat + n % 8)
      String.ofList ['\\', digit (b.toNat / 64), digit (b.toNat / 8), digit b.toNat]

/-- Shown bytes in lines of some width, without a limit if it is zero; `column` is where the next
byte stands. -/
def shownFrom (width column : Nat) : Bytes → String
  | [] => "$"
  | b :: rest =>
    let s := shownByte b
    if width ≠ 0 && width - 1 < column + s.length then
      "\\\n" ++ s ++ shownFrom width s.length rest
    else s ++ shownFrom width (column + s.length) rest

/-- A text as it is shown in lines of some width. -/
def shown (width : Nat) (text : Bytes) : Bytes := ByteText.toBytes (shownFrom width 0 text)

end CommandShell.Edit
