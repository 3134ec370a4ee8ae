/-
# `wc`

`wc` counts the lines, words and bytes of its inputs, and the columns of their longest lines.  A
word is made of bytes that print; the other bytes that are no space neither begin nor end one.  The
numbers stand in columns wide enough for the sizes of all inputs together.
-/
import CommandShell.Machine.Choice
import CommandShell.Machine.Switches
import CommandShell.Machine.Tool

namespace CommandShell

/-- What has been counted of an input. -/
structure Tally where
  lines : Nat := 0
  words : Nat := 0
  bytes : Nat := 0
  /-- The columns of the longest line. -/
  longest : Nat := 0
  /-- The column in the current line. -/
  column : Nat := 0
  inWord : Bool := false
deriving Repr, DecidableEq

namespace Tally

/-- The count with a space, which ends a word and moves on to a column. -/
def space (t : Tally) (column : Nat) : Tally :=
  { t with
    words := if t.inWord then t.words + 1 else t.words
    bytes := t.bytes + 1
    longest := max t.longest t.column
    column
    inWord := false }

/-- Counts one byte. -/
def step (t : Tally) (b : UInt8) : Tally :=
  match b with
  | 10 => { t.space 0 with lines := t.lines + 1 }
  | 12 | 13 => t.space 0
  | 9 => t.space (t.column + (8 - t.column % 8))
  | 32 => t.space (t.column + 1)
  | 11 => t.space t.column
  | b =>
    let t := { t with bytes := t.bytes + 1 }
    if 32 ≤ b && b < 127 then { t with column := t.column + 1, inWord := true } else t

/-- The count at the end of an input. -/
def finish (t : Tally) : Tally :=
  { t with
    words := if t.inWord then t.words + 1 else t.words
    longest := max t.longest t.column }

def add (s t : Tally) : Tally :=
  { lines := s.lines + t.lines, words := s.words + t.words, bytes := s.bytes + t.bytes,
    longest := max s.longest t.longest }

end Tally

/-- The columns that are shown. -/
structure CountStyle where
  lines : Bool := false
  words : Bool := false
  characters : Bool := false
  bytes : Bool := false
  longest : Bool := false
deriving Repr, DecidableEq

/-- When the sum of all counts is shown. -/
inductive TotalMode
  | several | always | only | never
deriving Repr, DecidableEq

/-- `wc` at work. -/
structure Count where
  style : CountStyle
  mode : TotalMode := .several
  /-- The width of a column, once it is known. -/
  width : Option Nat := none
  inputs : Inputs
  /-- How many inputs were asked for. -/
  number : Nat
  now : Tally := {}
  total : Tally := {}
  output : Output := {}
  readsStandard : Bool := false
  status : Nat := 0
deriving Repr

namespace Count

/-! ## 1. Arguments -/

def switches : Switches where
  letters := Switches.plain "cLlmw"
  names := [("bytes", .nothing, 'c'), ("chars", .nothing, 'm'), ("lines", .nothing, 'l'),
    ("words", .nothing, 'w'), ("max-line-length", .nothing, 'L'), ("total", .value, 't')]

/-- The modes by their names. -/
def modes : Choice TotalMode where
  switch := "total"
  words := [("auto", .several), ("always", .always), ("only", .only), ("never", .never)]

def add (t : Tool) (c : Count) (switch : Char × ByteText) : Except Farewell Count :=
  match switch.1 with
  | 'c' => .ok { c with style.bytes := true }
  | 'm' => .ok { c with style.characters := true }
  | 'l' => .ok { c with style.lines := true }
  | 'w' => .ok { c with style.words := true }
  | 'L' => .ok { c with style.longest := true }
  | 't' =>
    match modes.read switch.2 with
    | .ok mode => .ok { c with mode }
    | .error problem => .error (t.misuse problem)
  | _ => .ok c

/-- `wc` with its arguments. -/
def start (t : Tool) (args : List ByteText) : Except Farewell Count := do
  let found := switches.read args
  let operands := found.operands.toOption.getD []
  let c : Count :=
    { style := {}, inputs := Inputs.ofOperands operands, number := max 1 operands.length }
  let c ← found.switches.foldlM (add t) c
  match found.operands with
  | .error problem => throw (t.misuse problem)
  | .ok _ =>
    let style := if c.style = {} then { lines := true, words := true, bytes := true } else c.style
    pure { c with style }

/-! ## 2. Rows -/

/-- The numbers of a row. -/
def numbers (style : CountStyle) (t : Tally) : List Nat :=
  (if style.lines then [t.lines] else []) ++ (if style.words then [t.words] else [])
    ++ (if style.characters then [t.bytes] else []) ++ (if style.bytes then [t.bytes] else [])
    ++ (if style.longest then [t.longest] else [])

/-- A number in a column. -/
def inColumn (width n : Nat) : String :=
  let digits := toString n
  String.ofList (List.replicate (width - digits.length) ' ') ++ digits

def row (c : Count) (t : Tally) (name : Option ByteText) : Bytes :=
  let numbers := (numbers c.style t).map (inColumn (c.width.getD 1))
  let shown := match name with
    | none => ""
    | some n => " " ++ if n.toList.contains '\n' then NameQuoting.quotedIfNeeded n else n
  ByteText.toBytes (" ".intercalate numbers ++ shown ++ "\n")

/-- The width of a column for inputs of which a total size is regular. -/
def widthFor (size : Nat) (allRegular : Bool) : Nat :=
  max (toString size).length (if allRegular then 1 else 7)

/-! ## 3. The program -/

open Routine

/-- How much is read at once. -/
def pieceSize : Nat := 16384

/-- The size of all regular inputs, and whether all inputs are regular. -/
def measure : List (Option ByteText) → Routine (Nat × Bool)
  | [] => pure (0, true)
  | name :: rest => do
    let found ← if Inputs.isStandard name then inspect 0
      else Except.toOption <$> examine (name.getD "")
    let (size, regular) ← measure rest
    match found with
    | none => pure (size, regular)
    | some f => if f.kind == .file then pure (size + f.size, regular) else pure (size, false)

/-- Complains about an input. -/
def blame (t : Tool) (c : Count) (problem : ByteText) : Routine Count :=
  return { c with output := ← t.warn c.output problem, status := 1 }

/-- Shows what was counted of an input. -/
def report (t : Tool) (c : Count) (name : Option ByteText) : Routine Count := do
  let tally := c.now.finish
  let output ← if c.mode = .only then pure c.output else t.write c.output (c.row tally name)
  pure { c with output, total := c.total.add tally, now := {} }

/-- Shows the sum and ends the program. -/
def finish (t : Tool) (c : Count) : Routine Count := do
  let sum := c.mode = .always || c.mode = .only || c.mode = .several && 1 < c.number
  let output ← if sum then
      t.write c.output (c.row c.total (if c.mode = .only then none else some "total"))
    else pure c.output
  if c.readsStandard && (← inspect 0).isNone then
    let output ← t.warn output ("-: " ++ OsError.badDescriptor.text)
    t.finish output 1
  else
    let output ← Tool.flush output
    t.finish output c.status
  pure c

def round (t : Tool) (c : Count) : Routine Count := do
  match c.width with
  | none =>
    let single := c.mode = .only || c.number = 1 && (numbers c.style {}).length = 1
    let (size, regular) ← measure c.inputs.waiting
    pure { c with width := some (if single then 1 else widthFor size regular) }
  | some _ =>
    match c.inputs.current, c.inputs.waiting with
    | none, some "" :: waiting =>
      let c ← c.blame t "invalid zero-length file name"
      pure { c with inputs := { waiting } }
    | _, _ =>
      let (arrival, inputs) ← c.inputs.next pieceSize
      let c := { c with inputs }
      match arrival with
      | .missing name e => c.blame t (NameQuoting.quotedIfNeeded name ++ ": " ++ e.text)
      | .opened name _ =>
        pure { c with readsStandard := c.readsStandard || Inputs.isStandard name }
      | .broken name e =>
        let shown := if Inputs.isStandard name then "'standard input'"
          else NameQuoting.quotedIfNeeded (name.getD "")
        let c ← c.blame t (shown ++ ": " ++ e.text)
        c.report t name
      | .piece bytes => pure { c with now := bytes.foldl Tally.step c.now }
      | .ended name => c.report t name
      | .over => c.finish t

end Count
end CommandShell
