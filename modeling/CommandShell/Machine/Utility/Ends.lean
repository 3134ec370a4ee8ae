/-
# `head` and `tail`

`head` passes on the first lines or bytes of its inputs, or all but the last ones; `tail` passes on
the last ones, or all from a certain one on.  With several inputs each one stands under its name.
What `head` has read beyond what it passes on is given back, so that whoever reads the input next
finds it there.

`tail` may be asked to follow its inputs (`Following`): at the end it looks every now and then
whether more has come, as long as anybody can read what it passes on.
-/
import CommandShell.Machine.Choice
import CommandShell.Machine.Floating
import CommandShell.Machine.Switches
import CommandShell.Machine.Tool
import CommandShell.Machine.Utility.Amount

namespace CommandShell

/-- The part of an input that is passed on. -/
structure Extent where
  /-- Whether lines are counted, and not bytes. -/
  lines : Bool := true
  amount : Nat := 10
  /-- Whether the amount is counted from the other end: all but the last for `head`, all from that
  one on for `tail`. -/
  rest : Bool := false
  /-- The byte that ends a line. -/
  ending : UInt8 := 10
deriving Repr, DecidableEq

namespace Extent

/-- How many lines begin in some bytes. -/
def count (e : Extent) (s : Bytes) : Nat :=
  s.count e.ending + if s.getLast?.any (· != e.ending) then 1 else 0

/-- The bytes up to and with so many ends of lines, and how many are still missing. -/
def takeLines (e : Extent) : Nat → Bytes → Bytes × Nat
  | 0, _ => ([], 0)
  | n, [] => ([], n)
  | n + 1, b :: rest =>
    let (out, missing) := takeLines e (if b = e.ending then n else n + 1) rest
    (b :: out, missing)

/-- The first part of some bytes, of so many lines or bytes, and how many are still missing. -/
def firstPart (e : Extent) (n : Nat) (s : Bytes) : Bytes × Nat :=
  if e.lines then e.takeLines n s else (s.take n, n - s.length)

/-- How many lines or bytes there are. -/
def size (e : Extent) (s : Bytes) : Nat := if e.lines then e.count s else s.length

end Extent

/-- How inputs are followed. -/
structure Following where
  /-- Whether it is the names that are followed, whatever files they lead to. -/
  byName : Bool := false
  /-- Whether names are tried again that lead to nothing. -/
  retries : Bool := false
deriving Repr, DecidableEq

structure Followed where
  name : Option ByteText
  fd : Nat
  /-- How many bytes were read from it. -/
  position : Nat
deriving Repr, DecidableEq

/-- `head` or `tail` at work. -/
structure Ends where
  extent : Extent := {}
  /-- Whether names stand above the inputs. -/
  titled : Bool := false
  /-- How more is waited for at the end, if it is. -/
  following : Option Following := none
  /-- Warnings that come first. -/
  warnings : List ByteText := []
  inputs : Inputs
  followed : List Followed := []
  /-- Whether there are inputs that might be followed. -/
  lasting : Bool := false
  /-- Whether a name that leads to nothing is to be tried again. -/
  missed : Bool := false
  /-- The number of bytes that were read from the input. -/
  position : Nat := 0
  /-- The input that was shown last. -/
  shown : Option Nat := none
  /-- How many lines or bytes are still to be passed on, or to be left out. -/
  left : Nat := 0
  /-- What was read and may have to be passed on. -/
  held : Bytes := []
  output : Output := {}
  /-- Whether an input was shown. -/
  begun : Bool := false
  readsStandard : Bool := false
  status : Nat := 0
deriving Repr

namespace Ends

/-! ## 1. Arguments -/

/-- How the titles are asked for. -/
inductive Titles
  | several | always | never
deriving Repr, DecidableEq

/-- What the arguments ask for. -/
structure Request where
  extent : Extent := {}
  titles : Titles := .several
  follows : Bool := false
  following : Following := {}
  /-- Whether the end of a process is to end the program. -/
  guarded : Bool := false
deriving Repr, DecidableEq

def headSwitches : Switches where
  letters := Switches.valued "cn" ++ Switches.plain "qvz0123456789"
  names := [("bytes", .value, 'c'), ("lines", .value, 'n'), ("quiet", .nothing, 'q'),
    ("silent", .nothing, 'q'), ("verbose", .nothing, 'v'), ("zero-terminated", .nothing, 'z')]

def tailSwitches : Switches where
  letters := Switches.valued "cns" ++ Switches.plain "fFqvz0123456789"
  names := [("bytes", .value, 'c'), ("follow", .perhaps 'w', 'f'), ("lines", .value, 'n'),
    ("max-unchanged-stats", .value, 'm'), ("pid", .value, 'p'), ("quiet", .nothing, 'q'),
    ("retry", .nothing, 'r'), ("silent", .nothing, 'q'), ("sleep-interval", .value, 's'),
    ("verbose", .nothing, 'v'), ("zero-terminated", .nothing, 'z')]

/-- What is followed. -/
def followChoice : Choice Bool where
  switch := "follow"
  words := [("descriptor", false), ("name", true)]

/-- The greatest number of a process. -/
def processLimit : Nat := Width.values 31 - 1

def Request.setAmount (t : Tool) (r : Request) (lines rest : Bool) (value : ByteText) :
    Except Farewell Request :=
  match Amount.read value with
  | .ok amount => .ok { r with extent := { r.extent with lines, amount, rest } }
  | .error problem =>
    .error (t.refuse (Amount.complaint
      (if lines then "invalid number of lines" else "invalid number of bytes") value problem))

/-- Reads a number without a unit, which is at most `limit`; `what` is what is said about anything
else. -/
def plainNumber (t : Tool) (what : ByteText) (limit : Nat) (value : ByteText) :
    Except Farewell Nat :=
  let result : Except Amount.Problem Nat :=
    if value.toList.getLast?.any Char.isDigit then Amount.read value else .error .invalid
  match result with
  | .ok n => if n ≤ limit then .ok n else .error (t.refuse (Amount.complaint what value .tooLarge))
  | .error problem => .error (t.refuse (Amount.complaint what value problem))

/-- Whether a text is a number of seconds. -/
def isDuration (value : ByteText) : Bool :=
  match Numeral.floating? .double value.toList with
  | some ((.finite negative mantissa _, outside), []) =>
    mantissa = 0 || !(negative || outside)
  | some ((.infinite negative, outside), []) => !(negative || outside)
  | _ => false

/-- A text without a character at its start. -/
def dropSign (sign : Char) (s : ByteText) : ByteText :=
  if s.toList.head? = some sign then String.ofList (s.toList.drop 1) else s

def Request.add (t : Tool) (r : Request) (switch : Char × ByteText) : Except Farewell Request :=
  let value := switch.2
  let amount (lines : Bool) : Except Farewell Request :=
    if t.utility = .head then
      r.setAmount t lines (value.toList.head? == some '-') (dropSign '-' value)
    else
      r.setAmount t lines (r.extent.rest || value.toList.head? == some '+') (dropSign '-' value)
  match switch.1 with
  | 'c' => amount false
  | 'n' => amount true
  | 'q' => .ok { r with titles := .never }
  | 'v' => .ok { r with titles := .always }
  | 'z' => .ok { r with extent := { r.extent with ending := 0 } }
  | 'f' => .ok { r with follows := true, following.byName := false }
  | 'F' => .ok { r with follows := true, following := { byName := true, retries := true } }
  | 'w' =>
    match followChoice.read value with
    | .ok byName => .ok { r with follows := true, following.byName := byName }
    | .error problem => .error (t.misuse problem)
  | 'r' => .ok { r with following.retries := true }
  | 'm' => do
    let what := "invalid maximum number of unchanged stats between opens"
    let _ ← plainNumber t what (Amount.limit - 1) value
    pure r
  | 'p' => do
    let process ← plainNumber t "invalid PID" processLimit value
    pure { r with guarded := process ≠ 0 }
  | 's' =>
    if isDuration value then .ok r
    else .error (t.refuse ("invalid number of seconds: " ++ NameQuoting.inSingleQuotes value))
  | c =>
    if !c.isDigit then .ok r
    else if t.utility = .head then
      .error (t.misuse ("invalid trailing option -- " ++ String.singleton c))
    else .error (t.refuse ("option used in invalid context -- " ++ String.singleton c))

/-- The request with the letters behind a number. -/
def Request.addLetters (t : Tool) : Request → ByteText → List Char →
    Except Farewell (Request × ByteText)
  | r, unit, [] => .ok (r, unit)
  | r, unit, c :: cs =>
    let bytes (unit : ByteText) : Except Farewell (Request × ByteText) :=
      addLetters t { r with extent := { r.extent with lines := false } } unit cs
    match c with
    | 'c' => bytes ""
    | 'b' => bytes "b"
    | 'k' => bytes "k"
    | 'm' => bytes "m"
    | 'l' => addLetters t { r with extent := { r.extent with lines := true } } unit cs
    | 'q' => addLetters t { r with titles := .never } unit cs
    | 'v' => addLetters t { r with titles := .always } unit cs
    | 'z' => addLetters t { r with extent := { r.extent with ending := 0 } } unit cs
    | c => .error (t.misuse ("invalid trailing option -- " ++ String.singleton c))

/-- The first argument of `head` as a number with a dash, and the arguments after it. -/
def readHeadNumber (t : Tool) (args : List ByteText) :
    Except Farewell (Request × List ByteText) := do
  match args with
  | arg :: rest =>
    match arg.toList with
    | '-' :: c :: cs =>
      if c.isDigit then
        let digits := (c :: cs).takeWhile Char.isDigit
        let (r, unit) ← Request.addLetters t {} "" ((c :: cs).drop digits.length)
        let r ← r.setAmount t r.extent.lines false (String.ofList digits ++ unit)
        pure (r, rest)
      else pure ({}, args)
    | _ => pure ({}, args)
  | [] => pure ({}, [])

/-- The first argument of `tail` as a number with a sign, and the arguments after it. -/
def readTailNumber? (t : Tool) (args : List ByteText) :
    Option (Except Farewell (Request × List ByteText)) := do
  let (arg, rest) ← match args with
    | [arg] => some (arg, [])
    | [arg, other] =>
      let isSwitch := other.toList.head? == some '-' && other != "-"
      if !isSwitch || other == "--" then some (arg, if other == "--" then [] else [other]) else none
    | [arg, "--", other] => some (arg, [other])
    | _ => none
  let (fromStart, cs) ← match arg.toList with
    | '+' :: cs => some (true, cs)
    | '-' :: cs => if cs = [] || cs = ['c'] then none else some (false, cs)
    | _ => none
  let digits := cs.takeWhile Char.isDigit
  let after := cs.drop digits.length
  let (lines, unit, after) : Bool × Nat × List Char := match after with
    | 'b' :: after => (false, 512, after)
    | 'c' :: after => (false, 1, after)
    | 'l' :: after => (true, 1, after)
    | after => (true, 1, after)
  let (follows, after) : Bool × List Char := match after with
    | 'f' :: after => (true, after)
    | after => (false, after)
  if after ≠ [] then none
  else
    let number := digits.foldl (fun n c => 10 * n + (c.toNat - '0'.toNat)) 0 * unit
    let amount := if digits = [] then 10 * unit else number
    if Amount.limit ≤ amount then
      some (.error (t.refuse (Amount.complaint "invalid number" arg .tooLarge)))
    else some (.ok ({ extent := { lines, amount, rest := fromStart }, follows }, rest))

/-- What is said about switches that make no sense together. -/
def Request.warnings (t : Tool) (r : Request) : List ByteText :=
  let retrying :=
    if !r.following.retries then []
    else if !r.follows then ["--retry ignored; --retry is useful only when following"]
    else if r.following.byName then [] else ["--retry only effective for the initial open"]
  let guarding :=
    if r.guarded && !r.follows then ["PID ignored; --pid=PID is useful only when following"] else []
  (retrying ++ guarding).map fun text => t.message ("warning: " ++ text)

/-- The work that a request asks for. -/
def ofRequest (t : Tool) (r : Request) (operands : List ByteText) : Except Farewell Ends :=
  let titled := match r.titles with
    | .always => true
    | .never => false
    | .several => 1 < operands.length
  let extent := if t.utility = .tail && r.extent.rest then
      { r.extent with amount := r.extent.amount - 1 }
    else r.extent
  let warnings := r.warnings t
  let inputs := Inputs.ofOperands operands
  if r.follows && r.following.byName && inputs.waiting.any Inputs.isStandard then
    .error {
      complaint := String.join warnings ++ t.message "cannot follow '-' by name", status := 1 }
  else if t.utility = .tail && extent.amount = 0 && !extent.rest && !r.follows then
    .error { complaint := String.join warnings }
  else
    let following := if r.follows then some r.following else none
    .ok { extent, titled, warnings, inputs, following }

/-- The work that switches and operands ask for. -/
def ofFound (t : Tool) (r : Request) (found : Switches.Found) : Except Farewell Ends := do
  let r ← found.switches.foldlM (Request.add t) r
  match found.operands with
  | .error problem => throw (t.misuse problem)
  | .ok operands => ofRequest t r operands

/-- The program with its arguments. -/
def start (t : Tool) (args : List ByteText) : Except Farewell Ends := do
  if t.utility = .head then
    let (r, args) ← readHeadNumber t args
    ofFound t r (headSwitches.read args)
  else
    match readTailNumber? t args with
    | some result =>
      let (r, operands) ← result
      ofRequest t r operands
    | none => ofFound t {} (tailSwitches.read args)

/-! ## 2. Pieces of input -/

/-- What `head` passes on of a piece, and what is left over of it when it wants no more. -/
def feedHead (s : Ends) (piece : Bytes) : Bytes × Option Bytes × Ends :=
  let e := s.extent
  if e.rest then
    let all := s.held ++ piece
    let whole := if e.lines then all.count e.ending else all.length
    let (out, _) := e.firstPart (whole - e.amount) all
    (out, none, { s with held := all.drop out.length })
  else
    let (out, left) := e.firstPart s.left piece
    (out, if left = 0 then some (piece.drop out.length) else none, { s with left })

/-- What `tail` passes on of a piece. -/
def feedTail (s : Ends) (piece : Bytes) : Bytes × Ends :=
  if s.extent.rest then
    let (dropped, left) := s.extent.firstPart s.left piece
    (piece.drop dropped.length, { s with left })
  else ([], { s with held := s.held ++ piece })

/-- What is passed on at the end of an input, and what is given back. -/
def atEnd (t : Tool) (s : Ends) : Bytes × Bytes :=
  let e := s.extent
  let (out, _) := e.firstPart (e.size s.held - e.amount) s.held
  let rest := s.held.drop out.length
  if t.utility = .head then (out, rest) else (rest, [])

/-! ## 3. The program -/

open Routine

/-- How much is read at once. -/
def pieceSize : Nat := 8192

/-- The name of an input in a message. -/
def inputName (name : Option ByteText) : ByteText :=
  if Inputs.isStandard name then "standard input" else name.getD ""

/-- Complains about an input. -/
def blame (t : Tool) (s : Ends) (problem : ByteText) : Routine Ends :=
  return { s with output := ← t.warn s.output problem, status := 1 }

def title (t : Tool) (s : Ends) (name : Option ByteText) : Routine Ends := do
  if !s.titled then pure s
  else
    let text := (if s.begun then "\n" else "") ++ "==> " ++ inputName name ++ " <==\n"
    return { s with output := ← t.write s.output (ByteText.toBytes text), begun := true }

/-- The descriptor under which an input is followed that is the first, the second and so on. -/
def followFd (number : Nat) : Nat := Inputs.operandFd + 1 + number

/-- How many milliseconds pass until it is looked again whether more has come. -/
def interval : Nat := 10

/-- How much is read at once from an input that is followed. -/
def followSize : Nat := 1048576

/-- Passes on what has come from an input that is followed; `number` is its number. -/
def look (t : Tool) (s : Ends) (f : Followed) (number : Nat) : Routine (Ends × Followed) := do
  let size := ((← inspect f.fd).map (·.size)).getD f.position
  let position ←
    if size < f.position then do
      complain (t.message (inputName f.name ++ ": file truncated"))
      let _ ← ask (.unread f.fd (List.replicate f.position 0))
      pure 0
    else pure f.position
  match ← read f.fd followSize with
  | .ok [] | .error _ => pure (s, { f with position })
  | .ok bytes =>
    let s ← if s.shown = some number then pure s else s.title t f.name
    let output ← Tool.flush (← t.write s.output bytes)
    pure ({ s with output, shown := some number }, { f with position := position + bytes.length })

/-- Looks at all inputs that are followed. -/
def lookAtAll (t : Tool) : List Followed → Nat → Ends → Routine (Ends × List Followed)
  | [], _, s => pure (s, [])
  | f :: rest, number, s => do
    let (s, f) ← look t s f number
    let (s, rest) ← lookAtAll t rest (number + 1) s
    pure (s, f :: rest)

/-- Waits for more and passes it on, unless nobody reads it. -/
def follow (t : Tool) (s : Ends) : Routine Ends := do
  let s := { s with output := ← Tool.flush s.output }
  let (s, followed) ← lookAtAll t s.followed 0 s
  match ← ask (.isHeard 1) with
  | .flag false =>
    if let .number self ← ask .self then
      let _ ← ask (.signal self 13)
    Routine.exit 1 ()
  | _ => pure ()
  let _ ← ask (.sleep interval)
  pure { s with followed }

/-- Ends the program, or goes on with what is followed. -/
def finish (t : Tool) (s : Ends) : Routine Ends := do
  let closed ← if s.readsStandard then pure (← inspect 0).isNone else pure false
  match s.following with
  | some f =>
    if s.lasting && !closed then
      if s.followed ≠ [] || (f.retries && (f.byName || s.missed)) then return ← s.follow t
      let output ← t.warn s.output "no files remaining"
      t.finish output 1
  | none => pure ()
  if closed then
    let output ← t.warn s.output ("-: " ++ OsError.badDescriptor.text)
    t.finish output 1
  else t.finish s.output s.status
  pure s

/-- Gives up an input that was opened but cannot be followed. -/
def giveUp (t : Tool) (s : Ends) (name : Option ByteText) : Routine Ends := do
  match s.following with
  | none => pure s
  | some f =>
    let text := inputName name ++ ": cannot follow end of this type of file"
    let s ← s.blame t (if f.retries then text else text ++ "; giving up on this name")
    pure { s with lasting := true, missed := true, shown := none }

def begin (t : Tool) (s : Ends) (name : Option ByteText) (fd : Nat) : Routine Ends := do
  let s := { s with readsStandard := s.readsStandard || Inputs.isStandard name }
  let s ← s.title t name
  let s := { s with left := s.extent.amount, held := [], position := 0 }
  match ← inspect fd with
  | none =>
    if t.utility = .tail then
      let s ← s.blame t ("cannot fstat " ++ NameQuoting.quoted (inputName name) ++ ": "
        ++ OsError.badDescriptor.text)
      pure { s with inputs := s.inputs.leave }
    else pure s
  | some found =>
    if t.utility = .head && s.extent.amount = 0 && !s.extent.rest then
      pure { s with inputs := s.inputs.leave }
    else if s.following.isSome && found.kind != .directory
        && !(found.kind == .pipe && Inputs.isStandard name) then
      let copy := followFd s.followed.length
      let _ ← ask (.copy fd copy)
      pure { s with
        followed := s.followed ++ [⟨name, copy, 0⟩], lasting := true,
        shown := some s.followed.length }
    else pure s

/-- Notes how much was read of the input that is to be followed. -/
def noteEnd (s : Ends) : Ends :=
  let noted := s.followed.modify (s.followed.length - 1) ({ · with position := s.position })
  { s with followed := noted }

/-- Takes a piece of input that stands under a descriptor. -/
def take (t : Tool) (s : Ends) (fd : Nat) (piece : Bytes) : Routine Ends := do
  let s := { s with position := s.position + piece.length }
  if t.utility = .tail then
    let (out, s) := s.feedTail piece
    return { s with output := ← t.write s.output out }
  else
    let (out, surplus, s) := s.feedHead piece
    match surplus with
    | none => return { s with output := ← t.write s.output out }
    | some surplus =>
      let _ ← ask (.unread fd surplus)
      return { s with output := ← t.write s.output out, inputs := s.inputs.leave }

def round (t : Tool) (s : Ends) : Routine Ends := do
  let _ ← put 2 (ByteText.toBytes (String.join s.warnings))
  let s := { s with warnings := [] }
  let fd := (s.inputs.current.map (·.1)).getD 0
  let limit := if t.utility = .head && !s.extent.lines && !s.extent.rest then min s.left pieceSize
    else pieceSize
  let (arrival, inputs) ← s.inputs.next limit
  let s := { s with inputs }
  match arrival with
  | .missing name e =>
    let s := { s with lasting := true, missed := true, shown := none }
    s.blame t ("cannot open " ++ NameQuoting.quoted name ++ " for reading: " ++ e.text)
  | .opened name fd => s.begin t name fd
  | .broken name e =>
    let s ← s.blame t ("error reading " ++ NameQuoting.quoted (inputName name) ++ ": " ++ e.text)
    let all := s.extent.rest && s.extent.amount = 0
    if t.utility = .tail && (all || !s.extent.lines) && e = .isDirectory then t.finish s.output 1
    if e = .isDirectory then s.giveUp t name else pure s
  | .piece bytes => s.take t fd bytes
  | .ended _ =>
    let (out, surplus) := s.atEnd t
    if surplus ≠ [] then let _ ← ask (.unread fd surplus)
    return { s.noteEnd with output := ← t.write s.output out, held := [] }
  | .over => s.finish t

end Ends
end CommandShell
