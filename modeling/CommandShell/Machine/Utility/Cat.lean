/-
# `cat`

`cat` passes its inputs on, and can make visible what they hold: it numbers lines, marks their
ends, shows characters that do not print, and leaves out repeated empty lines.
-/
import CommandShell.Machine.NameQuoting
import CommandShell.Machine.Switches
import CommandShell.Machine.Tool

namespace CommandShell

/-- What `cat` makes visible. -/
structure CatStyle where
  /-- Number all lines. -/
  numbers : Bool := false
  /-- Number the lines that are not empty. -/
  numbersFull : Bool := false
  ends : Bool := false
  tabs : Bool := false
  unprintable : Bool := false
  /-- Leave out repeated empty lines. -/
  squeeze : Bool := false
deriving Repr, DecidableEq

namespace CatStyle

/-- Whether lines are numbered, where `full` tells whether the line holds anything. -/
def isNumbered (style : CatStyle) (full : Bool) : Bool :=
  style.numbersFull && full || style.numbers && !style.numbersFull

def add (style : CatStyle) (switch : Char × ByteText) : CatStyle :=
  match switch.1 with
  | 'A' => { style with unprintable := true, ends := true, tabs := true }
  | 'b' => { style with numbersFull := true }
  | 'e' => { style with unprintable := true, ends := true }
  | 'E' => { style with ends := true }
  | 'n' => { style with numbers := true }
  | 's' => { style with squeeze := true }
  | 't' => { style with unprintable := true, tabs := true }
  | 'T' => { style with tabs := true }
  | 'v' => { style with unprintable := true }
  | _ => style

end CatStyle

/-- `cat` at work. -/
structure Cat where
  style : CatStyle := {}
  inputs : Inputs
  status : Nat := 0
  /-- The number of the last line. -/
  number : Nat := 0
  /-- How many ends of lines were read in a row, up to two; none in the middle of a line. -/
  newlines : Option Nat := some 0
  /-- Whether a carriage return was read that may belong to the end of a line. -/
  returned : Bool := false
  /-- Whether the program has looked at its output. -/
  begun : Bool := false
  readsStandard : Bool := false
deriving Repr

namespace Cat

/-! ## 1. Characters -/

/-- A text as bytes. -/
def ascii (s : String) : Bytes := ByteText.toBytes s

/-- A character that is no end of a line, made visible. -/
def visible (style : CatStyle) (b : UInt8) : Bytes :=
  if !style.unprintable then if b = 9 && style.tabs then ascii "^I" else [b]
  else
    let (mark, c) : Bytes × UInt8 := if 128 ≤ b then (ascii "M-", b - 128) else ([], b)
    mark ++
      (if b = 9 && !style.tabs then [9]
      else if c < 32 then [94, c + 64]
      else if c = 127 then ascii "^?"
      else [c])

/-- The number in front of a line. -/
def numbering (n : Nat) : Bytes :=
  let digits := toString n
  ascii (String.ofList (List.replicate (6 - digits.length) ' ') ++ digits ++ "\t")

/-- What an end of a line becomes. -/
def endLine (c : Cat) : Bytes × Cat :=
  let row := match c.newlines with
    | none => 0
    | some n => min 2 (n + 1)
  if row = 2 && c.style.squeeze then ([], { c with newlines := some 2 })
  else
    let numbered := 0 < row && c.style.isNumbered false
    let number := if numbered then c.number + 1 else c.number
    ((if numbered then numbering number else [])
      ++ (if c.returned then ascii "^M" else [])
      ++ (if c.style.ends then ascii "$" else []) ++ [10],
      { c with newlines := some row, number, returned := false })

/-- What another character becomes. -/
def endCharacter (c : Cat) (b : UInt8) : Bytes × Cat :=
  let late : Bytes := if c.returned then [13] else []
  let numbered := c.newlines.isSome && c.style.isNumbered true
  let number := if numbered then c.number + 1 else c.number
  let c := { c with newlines := none, number, returned := false }
  let start := late ++ if numbered then numbering number else []
  if b = 13 && c.style.ends && !c.style.unprintable then (start, { c with returned := true })
  else (start ++ visible c.style b, c)

/-- What a piece of input becomes. -/
def transform : Cat → Bytes → Bytes × Cat
  | c, [] => ([], c)
  | c, b :: rest =>
    let (out, c) := if b = 10 then c.endLine else c.endCharacter b
    let (more, c) := transform c rest
    (out ++ more, c)

/-- Whether the inputs are passed on as they are. -/
def isPlain (c : Cat) : Bool := c.style == {}

/-! ## 2. The program -/

def switches : Switches where
  letters := Switches.plain "AbeEnstuvT"
  names := [("number-nonblank", .nothing, 'b'), ("number", .nothing, 'n'),
    ("squeeze-blank", .nothing, 's'), ("show-nonprinting", .nothing, 'v'),
    ("show-ends", .nothing, 'E'), ("show-tabs", .nothing, 'T'), ("show-all", .nothing, 'A')]

/-- `cat` with its arguments. -/
def start (t : Tool) (args : List ByteText) : Except Farewell Cat :=
  let found := switches.read args
  match found.operands with
  | .error problem => .error (t.misuse problem)
  | .ok operands =>
    .ok { style := found.switches.foldl CatStyle.add {}, inputs := Inputs.ofOperands operands }

open Routine

/-- How much is read at once. -/
def pieceSize : Nat := 131072

/-- Writes what the inputs became. -/
def emit (t : Tool) (c : Cat) (out : Bytes) : Routine Cat := do
  match ← put 1 out with
  | none => pure c
  | some e =>
    complain (t.message ("write error: " ++ e.text))
    Routine.exit 1 c

/-- Complains about an input. -/
def blame (t : Tool) (c : Cat) (name : Option ByteText) (problem : ByteText) : Routine Cat := do
  complain (t.message (NameQuoting.quotedIfNeeded (name.getD "-") ++ ": " ++ problem))
  pure { c with status := 1 }

def round (t : Tool) (c : Cat) : Routine Cat := do
  if !c.begun then
    if (← inspect 1).isNone then
      complain (t.message ("standard output: " ++ OsError.badDescriptor.text))
      Routine.exit 1 c
    else pure { c with begun := true }
  else
    let (arrival, inputs) ← c.inputs.next pieceSize
    let c := { c with inputs }
    match arrival with
    | .missing name e => c.blame t name e.text
    | .broken name e => c.blame t name e.text
    | .opened name fd =>
      let c := { c with readsStandard := c.readsStandard || Inputs.isStandard name }
      match ← ask (.feedsItself fd 1) with
      | .flag true =>
        let c := { c with inputs := inputs.leave }
        c.blame t name "input file is output file"
      | _ => pure c
    | .piece bytes =>
      if c.isPlain then c.emit t bytes
      else
        let (out, c) := c.transform bytes
        c.emit t out
    | .ended _ => pure c
    | .over =>
      let c ← if c.returned then c.emit t [13] else pure c
      if c.readsStandard && (← inspect 0).isNone then
        complain (t.message ("closing standard input: " ++ OsError.badDescriptor.text))
        Routine.exit 1 c
      else Routine.exit c.status c

end Cat
end CommandShell
