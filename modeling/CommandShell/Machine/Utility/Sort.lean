/-
# `sort`

`sort` writes the lines of all its inputs in order, merges inputs that are in order already, or
checks whether one is.  Before it reads anything it makes sure that every input is there and that
its output can be opened.
-/
import CommandShell.Machine.Choice
import CommandShell.Machine.Switches
import CommandShell.Machine.Tool
import CommandShell.Machine.Utility.Order

namespace CommandShell

structure SortRequest where
  global : SortOrder := {}
  keys : List SortKey := []
  separator : Option UInt8 := none
  unique : Bool := false
  stable : Bool := false
  merge : Bool := false
  /-- The letter of the check that is asked for. -/
  check : Option Char := none
  target : Option ByteText := none
  /-- The byte that ends a line. -/
  ending : UInt8 := 10
deriving Repr, DecidableEq

/-- `sort` at work. -/
structure Sorter where
  request : SortRequest
  inputs : Inputs
  /-- Whether the inputs were looked at. -/
  begun : Bool := false
  /-- The input that is being read, as far as it was. -/
  held : Bytes := []
  /-- The lines of each input that was read. -/
  found : List (List Bytes) := []
deriving Repr

namespace SortRequest

/-! ## 1. Order -/

/-- The keys that count: those that ask for no order of their own have the one for all. -/
def effectiveKeys (r : SortRequest) : List SortKey :=
  if r.keys = [] then if r.global.isDefault then [] else [{ order := r.global }]
  else r.keys.map fun k =>
    if k.order.isDefault && !k.order.reversed then { k with order := r.global } else k

def compareLines (r : SortRequest) (a b : Bytes) : Ordering :=
  let keys := r.effectiveKeys
  let found := SortKey.compareBy r.separator keys a b
  if found ≠ .eq || (keys ≠ [] && (r.unique || r.stable)) then found
  else
    let last := SortOrder.compareBytes a b
    if r.global.reversed then last.swap else last

/-- The first of every row of lines that are equal. -/
def firstOfEach (r : SortRequest) : Option Bytes → List Bytes → List Bytes
  | _, [] => []
  | last, line :: rest =>
    if last.any fun l => r.compareLines l line == .eq then firstOfEach r last rest
    else line :: firstOfEach r (some line) rest

/-- The place of the input whose first line comes first. -/
def firstInput (r : SortRequest) : List (List Bytes) → Nat → Option (Nat × Bytes)
  | [], _ => none
  | [] :: rest, i => firstInput r rest (i + 1)
  | (line :: _) :: rest, i =>
    match firstInput r rest (i + 1) with
    | some (j, other) =>
      if r.compareLines other line == .lt then some (j, other) else some (i, line)
    | none => some (i, line)

/-- The lines of inputs, taking always the least of their first lines; the number bounds how many
there are. -/
def merged (r : SortRequest) : Nat → List (List Bytes) → List Bytes
  | 0, _ => []
  | n + 1, inputs =>
    match firstInput r inputs 0 with
    | none => []
    | some (i, line) => line :: merged r n (inputs.modify i (·.drop 1))

/-- The lines of all inputs in order. -/
def arrange (r : SortRequest) (inputs : List (List Bytes)) : List Bytes :=
  let all := inputs.flatten
  let lines := if r.merge then r.merged all.length inputs
    else all.mergeSort fun a b => r.compareLines a b != .gt
  if r.unique then r.firstOfEach none lines else lines

/-- The number and the text of the first line that is out of order. -/
def disorder? (r : SortRequest) : Nat → List Bytes → Option (Nat × Bytes)
  | n, a :: b :: rest =>
    match r.compareLines a b with
    | .gt => some (n + 1, b)
    | .eq => if r.unique then some (n + 1, b) else disorder? r (n + 1) (b :: rest)
    | .lt => disorder? r (n + 1) (b :: rest)
  | _, _ => none

/-! ## 2. Arguments -/

/-- The names of the kinds of comparison; one of them makes no difference. -/
def kindNames : Choice (Option SortKind) where
  switch := "sort"
  words := [("general-numeric", some .general), ("human-numeric", some .human),
    ("month", some .month), ("numeric", some .number), ("random", none),
    ("version", some .version)]

/-- The ways to check inputs, by the letters that mean the same. -/
def checks : Choice Char where
  switch := "check"
  words := [("quiet", 'C'), ("silent", 'C'), ("diagnose-first", 'c')]

/-- The order with a letter, where it stands at the start of a key, at its end, or for all. -/
def addLetter (atStart atEnd : Bool) (o : SortOrder) (c : Char) : Option SortOrder :=
  let kind (k : SortKind) : Option SortOrder :=
    some (if o.kinds.contains k then o else { o with kinds := o.kinds ++ [k] })
  match c with
  | 'b' =>
    some { o with blankStart := o.blankStart || atStart, blankEnd := o.blankEnd || atEnd }
  | 'd' => some { o with scope := .dictionary }
  | 'f' => some { o with folded := true }
  | 'g' => kind .general
  | 'h' => kind .human
  | 'i' => some (if o.scope = .everything then { o with scope := .printing } else o)
  | 'M' => kind .month
  | 'n' => kind .number
  | 'r' => some { o with reversed := true }
  | 'R' => some o
  | 'V' => kind .version
  | _ => none

/-- The order with the letters at the start of a text, and what follows them. -/
def addLetters (atStart atEnd : Bool) : SortOrder → List Char → SortOrder × List Char
  | o, [] => (o, [])
  | o, c :: cs =>
    match addLetter atStart atEnd o c with
    | some o => addLetters atStart atEnd o cs
    | none => (o, c :: cs)

/-- A count at the start of a text, and what follows it. -/
def readCount (what : ByteText) (cs : List Char) : Except ByteText (Nat × List Char) :=
  let start := cs.dropWhile fun c => c == ' ' || ('\t' ≤ c && c ≤ '\r')
  let start := match start with
    | '+' :: rest => rest
    | s => s
  let digits := start.takeWhile Char.isDigit
  if digits = [] then
    .error (what ++ ": invalid count at start of " ++ NameQuoting.inSingleQuotes (String.ofList cs))
  else
    .ok (digits.foldl (fun n c => 10 * n + (c.toNat - '0'.toNat)) 0, start.drop digits.length)

def readKey (text : ByteText) : Except ByteText SortKey := do
  let bad {α : Type} (what : ByteText) : Except ByteText α :=
    .error (what ++ ": invalid field specification " ++ NameQuoting.inSingleQuotes text)
  let (field, rest) ← readCount "invalid number at field start" text.toList
  if field = 0 then bad "field number is zero"
  let (byte, rest) ← match rest with
    | '.' :: rest => do
      let (n, rest) ← readCount "invalid number after '.'" rest
      if n = 0 then bad "character offset is zero"
      pure (n - 1, rest)
    | rest => pure (0, rest)
  let (order, rest) := addLetters true false {} rest
  let key : SortKey := { order, start := (field - 1, byte) }
  match rest with
  | [] => pure key
  | ',' :: rest =>
    let (field, rest) ← readCount "invalid number after ','" rest
    if field = 0 then bad "field number is zero"
    let (bytes, rest) ← match rest with
      | '.' :: rest => readCount "invalid number after '.'" rest
      | rest => pure (0, rest)
    let (order, rest) := addLetters false true order rest
    if rest ≠ [] then bad "stray character in field spec"
    pure { key with order, stop := some (field - 1, bytes) }
  | _ => bad "stray character in field spec"

/-- The letters of an order, in a message about orders that exclude each other. -/
def conflict? (o : SortOrder) : Option ByteText :=
  let has (k : SortKind) := o.kinds.contains k
  let narrowed := o.scope != .everything
  let kinds := [has .number, has .general, has .human, has .month, has .version || narrowed]
  let count := kinds.count true
  if count ≤ 1 then none
  else
    let letters := (if o.scope = .dictionary then "d" else "") ++ (if o.folded then "f" else "")
      ++ (if has .general then "g" else "") ++ (if has .human then "h" else "")
      ++ (if o.scope = .printing then "i" else "") ++ (if has .month then "M" else "")
      ++ (if has .number then "n" else "") ++ (if has .version then "V" else "")
    some ("options '-" ++ letters ++ "' are incompatible")

def switches : Switches where
  letters := Switches.plain "bcCdfghimMnrRsuVz" ++ Switches.valued "koStTy"
  names := [("ignore-leading-blanks", .nothing, 'b'), ("check", .perhaps 'x', 'c'),
    ("compress-program", .value, 'S'), ("debug", .nothing, 'D'),
    ("dictionary-order", .nothing, 'd'), ("ignore-case", .nothing, 'f'),
    ("files0-from", .value, 'F'), ("general-numeric-sort", .nothing, 'g'),
    ("ignore-nonprinting", .nothing, 'i'), ("key", .value, 'k'), ("merge", .nothing, 'm'),
    ("month-sort", .nothing, 'M'), ("numeric-sort", .nothing, 'n'),
    ("human-numeric-sort", .nothing, 'h'), ("version-sort", .nothing, 'V'),
    ("random-sort", .nothing, 'R'), ("random-source", .value, 'S'), ("sort", .value, 'w'),
    ("output", .value, 'o'), ("reverse", .nothing, 'r'), ("stable", .nothing, 's'),
    ("batch-size", .value, 'S'), ("buffer-size", .value, 'S'), ("field-separator", .value, 't'),
    ("temporary-directory", .value, 'T'), ("unique", .nothing, 'u'),
    ("zero-terminated", .nothing, 'z'), ("parallel", .value, 'S')]

def setSeparator (t : Tool) (r : SortRequest) (value : ByteText) : Except Farewell SortRequest :=
  let chosen : Except ByteText UInt8 := match value.toList with
    | [] => .error "empty tab"
    | [c] => .ok (ByteText.byteOf c)
    | ['\\', '0'] => .ok 0
    | _ => .error ("multi-character tab " ++ NameQuoting.inSingleQuotes value)
  match chosen with
  | .error problem => .error (t.refuse problem)
  | .ok b =>
    if r.separator.any (· != b) then .error (t.refuse "incompatible tabs")
    else .ok { r with separator := some b }

def setCheck (t : Tool) (r : SortRequest) (c : Char) : Except Farewell SortRequest :=
  if r.check.any (· != c) then .error (t.refuse "options '-cC' are incompatible")
  else .ok { r with check := some c }

/-- The meaning of a word. -/
def chosen {α : Type} [DecidableEq α] (t : Tool) (c : Choice α) (value : ByteText) :
    Except Farewell α :=
  match c.read value with
  | .ok meaning => .ok meaning
  | .error problem => .error { t.misuse problem with status := 1 }

def add (t : Tool) (r : SortRequest) (switch : Char × ByteText) : Except Farewell SortRequest :=
  let value := switch.2
  match switch.1 with
  | 'c' | 'C' => setCheck t r switch.1
  | 'x' => do setCheck t r (← chosen t checks value)
  | 'k' =>
    match readKey value with
    | .ok key => .ok { r with keys := r.keys ++ [key] }
    | .error problem => .error (t.refuse problem)
  | 'm' => .ok { r with merge := true }
  | 'o' =>
    if r.target.any (· != value) then .error (t.refuse "multiple output files specified")
    else .ok { r with target := some value }
  | 's' => .ok { r with stable := true }
  | 't' => setSeparator t r value
  | 'u' => .ok { r with unique := true }
  | 'z' => .ok { r with ending := 0 }
  | 'w' => do
    match ← chosen t kindNames value with
    | some kind => pure { r with global.kinds := r.global.kinds ++ [kind] }
    | none => pure r
  | c =>
    match addLetter true true r.global c with
    | some global => .ok { r with global }
    | none => .ok r

end SortRequest

namespace Sorter

/-- `sort` with its arguments. -/
def start (t : Tool) (args : List ByteText) : Except Farewell Sorter := do
  let found := SortRequest.switches.read args
  let request ← found.switches.foldlM (SortRequest.add t) {}
  match found.operands with
  | .error problem => throw (t.misuse problem)
  | .ok operands =>
    match (request.effectiveKeys.map (·.order)).findSome? SortRequest.conflict? with
    | some problem => throw (t.refuse problem)
    | none =>
      match request.check, operands with
      | some c, _ :: extra :: _ =>
        throw (t.refuse ("extra operand " ++ NameQuoting.inSingleQuotes extra
          ++ " not allowed with -" ++ String.singleton c))
      | some c, _ =>
        if request.target.isSome then
          throw (t.refuse ("options '-" ++ String.singleton c ++ "o' are incompatible"))
      | none, _ => pure ()
      pure { request, inputs := Inputs.ofOperands operands }

/-! ## 3. The program -/

open Routine

/-- How much is read at once. -/
def pieceSize : Nat := 65536

/-- The descriptor of the output when it is a file. -/
def targetFd : Nat := 4

/-- Ends the program because of a file. -/
def fail (t : Tool) (what : ByteText) (name : Option ByteText) (e : OsError) : Routine Unit := do
  let shown := NameQuoting.quotedIfNeeded (name.getD "-")
  complain (t.message (what ++ ": " ++ shown ++ ": " ++ e.text))
  Routine.exit 2 ()

/-- Makes sure that inputs are there. -/
def checkInputs (t : Tool) : List (Option ByteText) → Routine Unit
  | [] => pure ()
  | name :: rest => do
    if !Inputs.isStandard name then
      match ← examine (name.getD "") with
      | .error e => fail t "cannot read" name e
      | .ok _ => pure ()
    checkInputs t rest

def linesOf (ending : UInt8) (s : Bytes) : List Bytes :=
  match s.splitOn ending with
  | [] => []
  | parts => if parts.getLast? = some [] then parts.dropLast else parts

/-- Writes the lines in order and ends the program. -/
def finish (t : Tool) (s : Sorter) : Routine Unit := do
  let r := s.request
  match r.check with
  | some c =>
    match r.disorder? 1 s.found.flatten with
    | none => Routine.exit 0 ()
    | some (n, line) =>
      if c = 'c' then
        let name := (s.inputs.waiting.head?.bind id).getD "-"
        complain (t.message (name ++ ":" ++ toString n ++ ": disorder: " ++ ByteText.ofBytes line))
      Routine.exit 1 ()
  | none =>
    let out := (r.arrange s.found).flatMap (· ++ [r.ending])
    match r.target with
    | none =>
      let output ← t.write {} out
      t.finish output 0
    | some name =>
      let _ ← openFile targetFd name (.write .overwrite)
      match ← put targetFd out with
      | some e =>
        let what := if out.length ≤ Tool.blockSize then "fflush failed" else "write failed"
        fail t what (some name) e
      | none => Routine.exit 0 ()

/-- Looks at the inputs and the output. -/
def begin (t : Tool) (s : Sorter) : Routine Sorter := do
  if s.request.check.isNone then
    checkInputs t s.inputs.waiting
    match s.request.target with
    | some name =>
      match ← openFile targetFd name (.write .append) with
      | some e => fail t "open failed" (some name) e
      | none =>
        let _ ← ask (.close targetFd)
    | none => pure ()
  pure { s with begun := true }

def round (t : Tool) (s : Sorter) : Routine Sorter := do
  if !s.begun then s.begin t
  else
    let (arrival, inputs) ← s.inputs.next pieceSize
    match arrival with
    | .missing name e => fail t "open failed" (some name) e
    | .broken name e =>
      fail t (if e = .badDescriptor then "stat failed" else "read failed") name e
    | .over => finish t s
    | _ => pure ()
    match arrival with
    | .piece bytes => pure { s with inputs, held := s.held ++ bytes }
    | .ended name =>
      let s := { s with found := s.found ++ [linesOf s.request.ending s.held], held := [] }
      if s.request.check.isSome then
        finish t { s with inputs := { waiting := [name] } }
      pure { s with inputs }
    | _ => pure { s with inputs }

end Sorter
end CommandShell
