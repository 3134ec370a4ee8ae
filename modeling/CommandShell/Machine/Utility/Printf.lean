/-
# `printf`

`printf` writes its arguments as its first one tells, the format: characters stand for themselves,
escapes for other characters, and directives for arguments.  The format is used again as long as
arguments are left.

What the program does is a list of events (`Printf.Event`), texts that it writes and complaints, in
the order in which they come; it may end before its format does.
-/
import CommandShell.Machine.Conversion
import CommandShell.Machine.NameQuoting
import CommandShell.Machine.Tool

namespace CommandShell

namespace Printf

/-! ## 1. Printing -/

/-- Something that the program does. -/
inductive Event
  | text (s : ByteText)
  | complaint (s : ByteText)
deriving Repr, DecidableEq

/-- What was done so far, the last event first, and the arguments that are left. -/
structure Printed where
  events : List Event := []
  status : Nat := 0
  args : List ByteText := []
deriving Repr, DecidableEq

/-- Something that prints, and may end the program. -/
abbrev Printer := ExceptT Unit (StateM Printed)

namespace Printer

/-- Writes characters. -/
def emit (s : List Char) : Printer Unit :=
  modify fun p => { p with events := .text (String.ofList s) :: p.events }

def warn (s : ByteText) : Printer Unit :=
  modify fun p => { p with events := .complaint s :: p.events }

/-- Complains about an argument, which makes the program fail in the end. -/
def reject (argument problem : ByteText) : Printer Unit := do
  warn (NameQuoting.inSingleQuotes argument ++ ": " ++ problem)
  modify fun p => { p with status := 1 }

/-- Complains and ends the program. -/
def refuse {α : Type} (s : ByteText) : Printer α := do
  warn s
  modify fun p => { p with status := 1 }
  throw ()

def stop {α : Type} : Printer α := do
  modify fun p => { p with status := 0 }
  throw ()

/-- The next argument, if there is one. -/
def next? : Printer (Option ByteText) := do
  match (← get).args with
  | a :: rest =>
    modify fun p => { p with args := rest }
    pure (some a)
  | [] => pure none

end Printer

open Printer

/-! ## 2. Escapes -/

/-- The character that a letter stands for behind a backslash. -/
def letter? (c : Char) : Option Char :=
  [('"', '"'), ('\\', '\\'), ('a', '\x07'), ('b', '\x08'), ('e', '\x1b'), ('f', '\x0c'),
    ('n', '\n'), ('r', '\r'), ('t', '\t'), ('v', '\x0b')].lookup c

def isOctal (c : Char) : Bool := Numeral.isDigitOf 8 c

/-- The byte that a number stands for. -/
def byte (n : Nat) : Char := Char.ofNat (n % 256)

/-- A character that is named by its number: itself if it is ASCII, else the escape for it. -/
def character (c : Char) (n : Nat) : Printer Unit :=
  let digits := (Nat.toDigits 16 n)
  let filled (k : Nat) (ds : List Char) := List.replicate (k - ds.length) '0' ++ ds
  if 0xd800 ≤ n && n ≤ 0xdfff then
    refuse ("invalid universal character name \\"
      ++ String.ofList (c :: filled (if c = 'u' then 4 else 8) digits))
  else if n < 128 then emit [Char.ofNat n]
  else if n < 0x10000 then emit ('\\' :: 'u' :: filled 4 (digits.map Char.toUpper))
  else emit ('\\' :: 'U' :: filled 8 (digits.map Char.toUpper))

/-- Writes what an escape stands for, which begins behind its backslash; `zero` tells whether a zero
in front of an octal number does not count.  Gives what follows. -/
def escape (zero : Bool) (cs : List Char) : Printer (List Char) := do
  match cs with
  | [] =>
    emit ['\\']
    pure []
  | 'x' :: rest =>
    let digits := (rest.take 2).takeWhile (Numeral.isDigitOf 16)
    if digits = [] then refuse "missing hexadecimal number in escape"
    emit [byte (Numeral.value 16 digits)]
    pure (rest.drop digits.length)
  | 'c' :: _ => stop
  | c :: rest =>
    if isOctal c then
      let ds := if zero && c = '0' then rest else cs
      let digits := (ds.take 3).takeWhile isOctal
      emit [byte (Numeral.value 8 digits)]
      pure (ds.drop digits.length)
    else if c = 'u' || c = 'U' then
      let size := if c = 'u' then 4 else 8
      let digits := (rest.take size).takeWhile (Numeral.isDigitOf 16)
      if digits.length < size then refuse "missing hexadecimal number in escape"
      character c (Numeral.value 16 digits)
      pure (rest.drop size)
    else
      emit (match letter? c with
        | some found => [found]
        | none => ['\\', c])
      pure rest

/-- Writes a text with its escapes; the number bounds its length. -/
def escaped : Nat → List Char → Printer Unit
  | 0, _ => pure ()
  | n + 1, cs => do
    let plain := cs.takeWhile (· ≠ '\\')
    if plain ≠ [] then emit plain
    match cs.drop plain.length with
    | _ :: rest => escaped n (← escape true rest)
    | [] => pure ()

/-! ## 3. Arguments -/

/-- The character that an argument names behind a quotation mark. -/
def constant? (s : ByteText) : Option (Nat × ByteText) :=
  match s.toList with
  | '"' :: c :: rest | '\'' :: c :: rest => some (c.toNat, String.ofList rest)
  | _ => none

/-- The number of an argument, which is read by a given reader that also tells whether it is out of
reach. -/
def numberOf {α : Type} (ofNat : Nat → α) (reader : List Char → Option ((α × Bool) × List Char))
    (s : ByteText) : Printer α := do
  match constant? s with
  | some (n, rest) =>
    if rest ≠ "" then
      warn ("warning: " ++ rest ++ ": character(s) following character constant have been ignored")
    pure (ofNat n)
  | none =>
    match reader s.toList with
    | none =>
      if s ≠ "" then reject s "expected a numeric value"
      pure (ofNat 0)
    | some ((n, outside), rest) =>
      if outside then reject s "Numerical result out of range"
      else if rest ≠ [] then reject s "value not completely converted"
      pure n

/-- A whole number with a sign, within its reach. -/
def clampSigned (n : Int) : Int × Bool :=
  (Width.clamp 64 n, !Width.holds 64 n)

/-- A whole number without a sign, within its reach; a negative one counts from the top. -/
def clampUnsigned (n : Int) : Nat × Bool :=
  if Width.values 64 ≤ n.natAbs then (Width.values 64 - 1, true) else (Width.lowest 64 n, false)

def signedOf : ByteText → Printer Int :=
  numberOf Int.ofNat fun cs => (Numeral.integer? cs).map fun (n, rest) => (clampSigned n, rest)

def unsignedOf : ByteText → Printer Nat :=
  numberOf id fun cs => (Numeral.integer? cs).map fun (n, rest) => (clampUnsigned n, rest)

def floatingOf : ByteText → Printer Floating :=
  numberOf (.finite false · 0) (Numeral.floating? .extended)

/-! ## 4. Directives -/

/-- The letters of conversions. -/
def letters : List Char := "aAcdeEfFgGiosuxX".toList

/-- The letters that a flag rules out. -/
def ruledOut : Char → List Char
  | 'I' | '\'' => "aAceEosxX".toList
  | '#' => "cdisu".toList
  | '0' => "cs".toList
  | _ => []

/-- Whether a directive has a meaning. -/
def isMeaningful (d : Directive) : Bool :=
  let c := d.conversion.letter
  letters.contains c && d.flags.all (fun f => !(ruledOut f).contains c)
    && !(c == 'c' && d.conversion.precision.isSome)

/-- The greatest width. -/
def greatest : Int := Width.greatest 32

/-- A number that belongs to a directive. -/
def measure : Printer (ByteText × Int) := do
  match ← next? with
  | some s => return (s, ← signedOf s)
  | none => pure ("", 0)

/-- The conversion of a directive, with the numbers that arguments give. -/
def complete (d : Directive) : Printer Conversion := do
  let mut c := d.conversion
  if d.takesWidth then
    let (s, n) ← measure
    if n < -greatest - 1 || greatest < n then
      refuse ("invalid field width: " ++ NameQuoting.inSingleQuotes s)
    c := c.setWidth n
  if d.takesPrecision then
    let (s, n) ← measure
    if greatest < n then refuse ("invalid precision: " ++ NameQuoting.inSingleQuotes s)
    c := { c with precision := if n < 0 then none else some n.toNat }
  pure c

/-- Writes an argument as a directive tells. -/
def direct (d : Directive) : Printer Unit := do
  let c ← complete d
  if !isMeaningful d then refuse (d.written ++ ": invalid conversion specification")
  let s := (← next?).getD ""
  match c.letter with
  | 'c' => emit (c.pad [s.toList.head?.getD '\x00'])
  | 's' => emit (c.text s)
  | 'd' | 'i' => emit (c.signed (← signedOf s))
  | 'o' | 'u' | 'x' | 'X' => emit (c.unsigned (← unsignedOf s))
  | _ => emit (c.floating .extended (← floatingOf s))

/-! ## 5. The format -/

/-- Writes what a format tells, once; the number bounds its length. -/
def formatted : Nat → List Char → Printer Unit
  | 0, _ => pure ()
  | n + 1, cs => do
    match cs with
    | [] => pure ()
    | '\\' :: rest => formatted n (← escape false rest)
    | '%' :: '%' :: rest =>
      emit ['%']
      formatted n rest
    | '%' :: 'b' :: rest =>
      if let some s ← next? then escaped (s.length + 1) s.toList
      formatted n rest
    | '%' :: 'q' :: rest =>
      if let some s ← next? then emit (NameQuoting.quotedIfNeeded s).toList
      formatted n rest
    | '%' :: rest =>
      let (d, rest) := Directive.read "I'-+ #0".toList "lLhjtz".toList rest
      direct d
      formatted n rest
    | cs =>
      let plain := cs.takeWhile fun c => c ≠ '\\' && c ≠ '%'
      emit plain
      formatted n (cs.drop plain.length)

/-- Writes what a format tells as long as it uses up arguments; the number bounds how often. -/
def repeated (format : ByteText) : Nat → Printer Unit
  | 0 => pure ()
  | n + 1 => do
    let before := (← get).args.length
    formatted (format.length + 1) format.toList
    let after := (← get).args
    if after.length < before && after ≠ [] then repeated format n
    else
      match after with
      | a :: _ =>
        warn ("warning: ignoring excess arguments, starting with " ++ NameQuoting.inSingleQuotes a)
      | [] => pure ()

/-- What the program does for a format and arguments. -/
def run (format : ByteText) (args : List ByteText) : Printed :=
  let (_, p) := (repeated format (args.length + 1)).run.run { args }
  { p with events := p.events.reverse }

end Printf

/-- `printf` at work: what is still to be done, and the output so far. -/
structure Printf where
  waiting : List Printf.Event
  status : Nat
  output : Output := {}
deriving Repr, DecidableEq

namespace Printf

/-- `printf` with its arguments. -/
def start (t : Tool) (args : List ByteText) : Except Farewell Printf :=
  let args := if args.head? = some "--" then args.drop 1 else args
  match args with
  | [] => .error (t.misuse "missing operand")
  | format :: args =>
    let p := run format args
    .ok { waiting := p.events, status := p.status }

def round (t : Tool) (p : Printf) : Routine Printf := do
  match p.waiting with
  | [] =>
    t.finish p.output p.status
    pure p
  | .text s :: waiting =>
    let output ← t.write p.output (ByteText.toBytes s)
    pure { p with waiting, output }
  | .complaint s :: waiting =>
    let output ← t.warn p.output s
    pure { p with waiting, output }

end Printf
end CommandShell
