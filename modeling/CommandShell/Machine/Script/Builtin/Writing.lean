/-
# Writing texts

The commands `echo` and `printf` of the script language.  Both know escapes: `\c` ends everything
that is written, a zero and up to three octal digits name a byte, and a letter names a character
that does not print.  In the format of `printf` octal digits need no zero in front of them, and `\c`
means nothing.
-/
import CommandShell.Machine.Conversion
import CommandShell.Machine.Script.Runner

namespace CommandShell.Script.Writing

open Runner

/-! ## 1. Escapes -/

/-- The character that a letter stands for behind a backslash. -/
def letter? (c : Char) : Option Char :=
  [('\\', '\\'), ('a', '\x07'), ('b', '\x08'), ('e', '\x1b'), ('f', '\x0c'), ('n', '\n'),
    ('r', '\r'), ('t', '\t'), ('v', '\x0b')].lookup c

def isOctal (c : Char) : Bool := Numeral.isDigitOf 8 c

/-- The character that an escape stands for, which begins behind its backslash, and what follows. -/
def escape (cs : List Char) : Char × List Char :=
  let digits := (cs.take 3).takeWhile isOctal
  match digits, cs with
  | [], c :: rest =>
    match letter? c with
    | some found => (found, rest)
    | none => ('\\', cs)
  | [], [] => ('\\', [])
  | digits, cs => (Char.ofNat (Numeral.value 8 digits % 256), cs.drop digits.length)

/-- The characters of a text with escapes, and whether more may follow; the number bounds its
length. -/
def unescape : Nat → List Char → List Char × Bool
  | 0, _ => ([], true)
  | _, [] => ([], true)
  | n + 1, '\\' :: cs =>
    match cs with
    | 'c' :: _ => ([], false)
    | cs =>
      let cs := match cs with
        | '0' :: rest => if rest.head?.any isOctal then rest else cs
        | cs => cs
      let (c, rest) := escape cs
      let (more, goesOn) := unescape n rest
      (c :: more, goesOn)
  | n + 1, c :: cs =>
    let (more, goesOn) := unescape n cs
    (c :: more, goesOn)

/-- The characters of a text with escapes, and whether more may follow. -/
def unescaped (s : ByteText) : List Char × Bool := unescape (s.length + 1) s.toList

/-! ## 2. `echo` -/

/-- What `echo` writes for arguments; `newline` tells whether a line ends at the end. -/
def echoed (newline : Bool) : List ByteText → List Char
  | [] => if newline then ['\n'] else []
  | [a] =>
    let (out, goesOn) := unescaped a
    out ++ if goesOn && newline then ['\n'] else []
  | a :: rest =>
    let (out, goesOn) := unescaped a
    if goesOn then out ++ ' ' :: echoed newline rest else out

def echo (args : List ByteText) : Runner Nat := do
  emit (String.ofList (match args with
    | "-n" :: rest => echoed false rest
    | args => echoed true args))
  pure 0

/-! ## 3. `printf` -/

/-- The arguments of `printf` that are left, and the status so far. -/
structure Printing where
  args : List ByteText
  status : Nat := 0

/-- Something that `printf` does; nothing is given when it ends early. -/
abbrev Printer := StateT Printing Runner

/-- The next argument, if there is one. -/
def next? : Printer (Option ByteText) := do
  let p ← get
  set { p with args := p.args.drop 1 }
  pure p.args.head?

def reject (s problem : ByteText) : Printer Unit := do
  complain (s ++ ": " ++ problem)
  modify fun p => { p with status := 1 }

/-- Complains about what follows a number. -/
def checkRest (s : ByteText) (converted outside : Bool) (rest : List Char) : Printer Unit := do
  if rest ≠ [] then
    reject s (if converted then "not completely converted" else "expected numeric value")
  else if outside then reject s "Numerical result out of range"

/-- The character behind a quotation mark at the start of an argument. -/
def quotedCharacter? (s : ByteText) : Option Nat :=
  match s.toList with
  | '"' :: rest | '\'' :: rest => some ((rest.head?.map Char.toNat).getD 0)
  | _ => none

/-- A whole number within given bounds. -/
def integer (least greatest : Int) : Printer Int := do
  match ← next? with
  | none => pure 0
  | some s =>
    match quotedCharacter? s with
    | some n => pure n
    | none =>
      let found := Numeral.integer? s.toList
      let (n, rest) := found.getD (0, s.toList)
      let clamped := if least = 0 && n < 0 && -greatest ≤ n then n else max least (min n greatest)
      let outside := clamped ≠ n
      checkRest s found.isSome outside rest
      pure (if least = 0 && clamped < 0 then greatest + 1 + clamped
        else if least = 0 && outside then greatest else clamped)

def signed : Printer Int := integer (Width.least 64) (Width.greatest 64)

def unsigned : Printer Int := integer 0 (Width.values 64 - 1)

def floating : Printer Floating := do
  match ← next? with
  | none => pure (.finite false 0 0)
  | some s =>
    match quotedCharacter? s with
    | some n => pure (.finite false n 0)
    | none =>
      let found := Numeral.floating? .double s.toList
      let ((x, outside), rest) := found.getD ((.finite false 0 0, false), s.toList)
      checkRest s found.isSome outside rest
      pure x

/-- An argument as a number of 32 bits. -/
def narrow : Printer Int := return Width.wrap 32 (← signed)

/-- The conversion of a directive, with the numbers that arguments give. -/
def complete (d : Directive) : Printer Conversion := do
  let mut c := d.conversion
  if d.takesWidth then c := c.setWidth (← narrow)
  if d.takesPrecision then
    let n ← narrow
    c := { c with precision := if n < 0 then none else some n.toNat }
  pure c

/-- Writes an argument as a directive tells; tells whether more may follow. -/
def direct (d : Directive) : Printer Bool := do
  let c ← complete d
  if !d.complete then fail "missing format character"
  let put (s : List Char) : Printer Bool := do
    emit (String.ofList s)
    pure true
  match c.letter with
  | 'b' =>
    let (out, goesOn) := unescaped ((← next?).getD "")
    let _ ← put (c.text (String.ofList out))
    pure goesOn
  | 'c' => put (c.pad [((← next?).getD "").toList.head?.getD '\x00'])
  | 's' => put (c.text ((← next?).getD ""))
  | 'd' | 'i' => put (c.signed (← signed))
  | 'o' | 'u' | 'x' | 'X' => put (c.unsigned (← unsigned).toNat)
  | 'a' | 'A' | 'e' | 'E' | 'f' | 'F' | 'g' | 'G' => put (c.floating .double (← floating))
  | _ => fail (d.written ++ ": invalid directive")

/-- Writes what a format tells, once; the number bounds its length.  Tells whether more may
follow. -/
def formatted : Nat → List Char → Printer Bool
  | 0, _ => pure true
  | _, [] => pure true
  | n + 1, '\\' :: cs => do
    let (c, rest) := escape cs
    emit (String.singleton c)
    formatted n rest
  | n + 1, '%' :: '%' :: cs => do
    emit "%"
    formatted n cs
  | n + 1, '%' :: cs => do
    let (d, rest) := Directive.read Conversion.flags [] cs
    if ← direct d then formatted n rest else pure false
  | n + 1, c :: cs => do
    emit (String.singleton c)
    formatted n cs

/-- Writes what a format tells as long as it uses up arguments; the number bounds how often. -/
def repeated (format : ByteText) : Nat → Printer Unit
  | 0 => pure ()
  | n + 1 => do
    let before := (← get).args.length
    let goesOn ← formatted (format.length + 1) format.toList
    let after := (← get).args.length
    if goesOn && after < before && after ≠ 0 then repeated format n

def printf (args : List ByteText) : Runner Nat := do
  match args with
  | [] => fail "usage: printf format [arg ...]"
  | format :: args =>
    let (_, p) ← (repeated format (args.length + 1)).run { args }
    pure p.status

end CommandShell.Script.Writing
