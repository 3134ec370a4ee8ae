/-
# Regular expressions

A regular expression (`Regex`) stands for runs of bytes in a text, and for the places between bytes.
Its match in a text begins as far to the left as possible, and of those that begin there the longest
one counts (`Regex.search`).  Where there are several ways to it, the first one decides what the
groups hold: alternatives come in the order in which they are written, and a repetition goes on as
long as it can.
-/
import CommandShell.Machine.ByteClass

namespace CommandShell

/-- A condition on a place between bytes. -/
inductive Anchor
  /-- The start of the text. -/
  | start
  /-- The end of the text. -/
  | stop
  | lineStart
  | lineEnd
  /-- One of the bytes around the place belongs to a word, and the other one does not. -/
  | edge
  | noEdge
  | wordStart
  | wordEnd
deriving Repr, DecidableEq

inductive Regex
  | empty
  /-- One byte, among some or among all others. -/
  | one (negated : Bool) (bytes : Bytes)
  | both (first second : Regex)
  | either (first second : Regex)
  | group (number : Nat) (inner : Regex)
  /-- What a group holds once more; small letters may count as capital ones. -/
  | again (number : Nat) (folded : Bool)
  | repeated (least : Nat) (most : Option Nat) (inner : Regex)
  | anchor (condition : Anchor)
deriving Repr, DecidableEq

/-- A place in a text, with what groups hold that were passed on the way to it. -/
structure Mark where
  /-- How many bytes are in front of it. -/
  position : Nat := 0
  before : Option UInt8 := none
  rest : Bytes
  /-- Where the groups begin and end. -/
  groups : List (Nat × Nat × Nat) := []
deriving Repr, DecidableEq

namespace Mark

/-- The place at some distance from the start of a text. -/
def ofPosition (text : Bytes) (n : Nat) : Mark :=
  { position := n, before := (text.take n).getLast?, rest := text.drop n }

def advance (m : Mark) (n : Nat) : Mark :=
  if n = 0 then m
  else
    { m with position := m.position + n, before := (m.rest.take n).getLast?, rest := m.rest.drop n }

end Mark

/-- Whether a byte belongs to words. -/
def isWordByte (b : UInt8) : Bool := b == 95 || ((byteClass? "alnum").any (· b))

/-- Whether a condition holds at a place. -/
def Anchor.holds (a : Anchor) (m : Mark) : Bool :=
  let behind := m.before.any isWordByte
  let ahead := m.rest.head?.any isWordByte
  match a with
  | .start => m.position == 0
  | .stop => m.rest.isEmpty
  | .lineStart => m.position == 0 || m.before == some 10
  | .lineEnd => m.rest.isEmpty || m.rest.head? == some 10
  | .edge => behind != ahead
  | .noEdge => behind == ahead
  | .wordStart => !behind && ahead
  | .wordEnd => behind && !ahead

/-! ## 1. Places that were seen -/

/-- Places that were seen already.  Only where groups are looked at again does it matter what they
hold; else the positions are enough, which are kept as the digits of a binary number. -/
structure Seen where
  /-- Whether it matters what groups hold. -/
  exact : Bool
  positions : Nat := 0
  marks : List (Nat × List (Nat × Nat × Nat)) := []

namespace Seen

/-- Whether a place was seen. -/
def has (s : Seen) (m : Mark) : Bool :=
  if s.exact then s.marks.contains (m.position, m.groups) else s.positions.testBit m.position

/-- Takes note of a place. -/
def add (s : Seen) (m : Mark) : Seen :=
  if s.exact then { s with marks := (m.position, m.groups) :: s.marks }
  else { s with positions := s.positions ||| (1 <<< m.position) }

/-- Some places without those that came up before. -/
def distinct (s : Seen) : List Mark → List Mark
  | [] => []
  | m :: rest => if s.has m then distinct s rest else m :: distinct (s.add m) rest

end Seen

namespace Regex

/-! ## 2. The ends of matches -/

/-- Whether an expression asks for what a group holds. -/
def looksBack : Regex → Bool
  | .again .. => true
  | .both r s | .either r s => r.looksBack || s.looksBack
  | .group _ r | .repeated _ _ r => r.looksBack
  | .empty | .one .. | .anchor _ => false

/-- The places that a step leads to when it is taken so many times. -/
def exactly (seen : Seen) (step : Mark → List Mark) : Nat → List Mark → List Mark
  | 0, ms => ms
  | n + 1, ms => if ms = [] then [] else exactly seen step n (seen.distinct (ms.flatMap step))

/-- The places that a step leads to when it is taken at most so many times and always gets on, those
behind more steps first. -/
def atMost (seen : Seen) (step : Mark → List Mark) : Nat → List Mark → List Mark
  | 0, ms => ms
  | n + 1, ms =>
    let further := ms.flatMap fun m => (step m).filter (m.position < ·.position)
    if further = [] then ms else atMost seen step n (seen.distinct further) ++ ms

/-- The places that a step leads to when it is taken as often as it gets on, those behind more steps
first; they are put in front of others in the opposite order, and the number bounds how many steps
there can be. -/
def closure (step : Mark → List Mark) : Nat → Mark → List Mark × Seen → List Mark × Seen
  | 0, m, (found, seen) => (m :: found, seen)
  | n + 1, m, (found, seen) =>
    let (found, seen) := (step m).foldl (fun (found, seen) next =>
      if next.position ≤ m.position || Seen.has seen next then (found, seen)
      else closure step n next (found, seen.add next)) (found, seen)
    (m :: found, seen)

/-- The places that a step leads to from several places, when it is taken as often as it gets on. -/
def asOftenAsPossible (seen : Seen) (step : Mark → List Mark) (ms : List Mark) : List Mark :=
  (ms.foldl (fun (found, seen) m =>
    if Seen.has seen m then (found, seen)
    else closure step (m.rest.length + 1) m (found, seen.add m)) ([], seen)).1.reverse

/-- Whether one run of bytes begins with another, where small letters may count as capital ones. -/
def beginsWith (folded : Bool) (text start : Bytes) : Bool :=
  if folded then (start.map capital).isPrefixOf (text.map capital) else start.isPrefixOf text

/-- The places where a match of an expression ends that begins at a place. -/
def ends (seen : Seen) (text : Bytes) : Regex → Mark → List Mark
  | .empty, m => [m]
  | .one negated bytes, m =>
    match m.rest with
    | b :: rest =>
      if bytes.contains b != negated then
        [{ m with position := m.position + 1, before := some b, rest }]
      else []
    | [] => []
  | .both r s, m => seen.distinct ((ends seen text r m).flatMap (ends seen text s))
  | .either r s, m => seen.distinct (ends seen text r m ++ ends seen text s m)
  | .group n r, m =>
    (ends seen text r m).map fun e =>
      { e with groups := (n, m.position, e.position) :: e.groups.filter (·.1 != n) }
  | .again n folded, m =>
    match m.groups.lookup n with
    | none => []
    | some (start, stop) =>
      let held := (text.drop start).take (stop - start)
      if beginsWith folded m.rest held then [m.advance held.length] else []
  | .repeated least most r, m =>
    let started := exactly seen (ends seen text r) least [m]
    match most with
    | some most => seen.distinct (atMost seen (ends seen text r) (most - least) started)
    | none => asOftenAsPossible seen (ends seen text r) started
  | .anchor a, m => if a.holds m then [m] else []

/-! ## 3. Searching -/

/-- A match in a text. -/
structure Found where
  start : Nat
  stop : Nat
  groups : List (Nat × Nat × Nat)
deriving Repr, DecidableEq

/-- What a group of a match holds; the group 0 is all of it. -/
def Found.group (f : Found) (text : Bytes) (n : Nat) : Bytes :=
  let (start, stop) := if n = 0 then (f.start, f.stop) else (f.groups.lookup n).getD (0, 0)
  (text.drop start).take (stop - start)

/-- The first of the places that are furthest on. -/
def furthest : List Mark → Option Mark
  | [] => none
  | m :: rest =>
    match furthest rest with
    | none => some m
    | some other => if m.position < other.position then some other else some m

/-- The first match from a place on, where `rest` is what follows it. -/
def searchFrom (r : Regex) (seen : Seen) (text : Bytes) (position : Nat) (before : Option UInt8)
    (rest : Bytes) : Option Found :=
  match furthest (r.ends seen text { position, before, rest }) with
  | some e => some { start := position, stop := e.position, groups := e.groups }
  | none =>
    match rest with
    | [] => none
    | b :: rest => searchFrom r seen text (position + 1) (some b) rest

/-- The first match in a text that begins at a position or behind it. -/
def search (r : Regex) (text : Bytes) (first : Nat) : Option Found :=
  let m := Mark.ofPosition text first
  r.searchFrom { exact := r.looksBack } text m.position m.before m.rest

end Regex
end CommandShell
