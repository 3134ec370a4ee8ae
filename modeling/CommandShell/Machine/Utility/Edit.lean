/-
# `sed`

`sed` edits a stream: it takes one line after another into its working space, has the commands of a
script act on it, and prints what has become of it.  What is to stand behind a line waits until the
line is done.  Only the last line of the input may lack its end, which is then not printed either.
With a suffix for copies, every file is edited by itself and replaced.
-/
import CommandShell.Machine.Switches
import CommandShell.Machine.Tool
import CommandShell.Machine.Utility.Edit.Reader
import CommandShell.Machine.Utility.Edit.Text

namespace CommandShell

namespace Edit

/-! ## 1. State -/

/-- What the switches ask for. -/
structure Options where
  style : ReadStyle := {}
  quiet : Bool := false
  /-- Whether every file has a first and a last line. -/
  separate : Bool := false
  /-- Whether output is written at once. -/
  prompt : Bool := false
  /-- What is put behind the names of copies of files that are replaced. -/
  inPlace : Option ByteText := none
  /-- The byte that ends a line. -/
  ending : UInt8 := 10
  /-- The width of lines in which text is shown. -/
  width : Nat := 70
deriving Repr, DecidableEq

/-- A piece of the script. -/
inductive Piece
  | argument (text : ByteText)
  | file (name : ByteText)
deriving Repr, DecidableEq

/-- A line, or several of them, with whether the last one has its end. -/
structure Passage where
  bytes : Bytes := []
  complete : Bool := true
deriving Repr, DecidableEq

/-- What is to stand behind a line. -/
inductive Later
  | text (bytes : Bytes)
  | file (name : ByteText)
deriving Repr, DecidableEq

/-- What a line is wanted for. -/
inductive Purpose
  | cycle
  /-- The next command of the script. -/
  | next
  /-- The end of the working space. -/
  | added
deriving Repr, DecidableEq

/-- What the editor does next. -/
inductive Phase
  | loading
  | taking (purpose : Purpose)
  | working
deriving Repr, DecidableEq

end Edit

open Edit

/-- `sed` at work. -/
structure Edit where
  options : Options := {}
  phase : Phase := .loading
  /-- The pieces of the script that are still to be read, and how many arguments were among those
  before. -/
  pieces : List Piece
  arguments : Nat := 0
  reading : ReadState := {}
  script : Edit.Script := {}
  /-- How many of the files are open that the script writes. -/
  sinks : Nat := 0
  inputs : Inputs
  /-- The name of the input that is being read. -/
  opened : ByteText := "-"
  /-- What was read and not yet taken. -/
  held : Bytes := []
  /-- What the current file held, if it is to be copied. -/
  whole : Bytes := []
  /-- What the current file becomes, if it is to be replaced. -/
  copy : Option Bytes := none
  /-- The name of the input that the line is from. -/
  name : ByteText := "-"
  number : Nat := 0
  space : Passage := {}
  kept : Passage := {}
  /-- The place of the next command. -/
  place : Nat := 0
  replaced : Bool := false
  /-- The states of the ranges of commands, by the places of these. -/
  ranges : List (Nat × RangeState) := []
  /-- The expression that was looked for last. -/
  sought : Option Regex := none
  later : List Later := []
  /-- What is left of files that are read line by line. -/
  lines : List (ByteText × Bytes) := []
  output : Output := {}
  /-- Where the last line that was written lacks its end. -/
  lacking : List Sink := []
  status : Nat := 0
deriving Repr

namespace Edit

/-! ## 2. Arguments -/

def switches : Switches where
  letters := Switches.plain "bnrEsuz" ++ Switches.valued "efl" ++ [('i', .perhaps 'i')]
  names := [("binary", .nothing, 'b'), ("regexp-extended", .nothing, 'r'),
    ("in-place", .perhaps 'i', 'i'), ("expression", .value, 'e'), ("file", .value, 'f'),
    ("line-length", .value, 'l'), ("null-data", .nothing, 'z'), ("zero-terminated", .nothing, 'z'),
    ("quiet", .nothing, 'n'), ("posix", .nothing, 'b'), ("silent", .nothing, 'n'),
    ("sandbox", .nothing, 'S'), ("separate", .nothing, 's'), ("unbuffered", .nothing, 'u'),
    ("follow-symlinks", .nothing, 'b')]

/-- What the switches ask for, with one more of them. -/
def Options.add (o : Options) (switch : Char × ByteText) : Options :=
  match switch with
  | ('n', _) => { o with quiet := true }
  | ('E', _) | ('r', _) => { o with style.extended := true }
  | ('S', _) => { o with style.harmless := true }
  | ('s', _) => { o with separate := true }
  | ('u', _) => { o with prompt := true }
  | ('z', _) => { o with ending := 0 }
  | ('i', suffix) => { o with separate := true, inPlace := some suffix }
  | ('l', width) =>
    let digits := width.toList.takeWhile Char.isDigit
    { o with width := digits.foldl (fun n c => 10 * n + (c.toNat - '0'.toNat)) 0 }
  | _ => o

/-- The piece of the script that a switch holds. -/
def piece? : Char × ByteText → Option Piece
  | ('e', text) => some (.argument text)
  | ('f', name) => some (.file name)
  | _ => none

/-- How the program is called. -/
def usage (t : Tool) : ByteText :=
  "Usage: " ++ t.name
    ++ " [OPTION]... \x7bscript-only-if-no-other-script\x7d [input-file]...\n"

/-- `sed` with its arguments. -/
def start (t : Tool) (args : List ByteText) : Except Farewell Edit :=
  let found := switches.read args
  match found.operands with
  | .error problem => .error { complaint := t.message problem ++ usage t, status := 1 }
  | .ok operands =>
    let options := found.switches.foldl Options.add {}
    let pieces := found.switches.filterMap piece?
    let reading : ReadState := { style := options.style }
    let inputs (files : List ByteText) : Inputs :=
      { Inputs.ofOperands files with dashes := options.inPlace.isNone }
    match pieces, operands with
    | [], [] => .error { complaint := usage t, status := 1 }
    | [], text :: files =>
      .ok { options, pieces := [.argument text], reading, inputs := inputs files }
    | pieces, files => .ok { options, pieces, reading, inputs := inputs files }

/-! ## 3. Output -/

open Routine

/-- The descriptor of a file that the script writes. -/
def fileFd (index : Nat) : Nat := 10 + index

/-- The descriptor under which files of the script are read. -/
def readFd : Nat := 9

/-- Ends the program after all its output. -/
def finish (t : Tool) (e : Edit) (status : Nat) : Routine Edit := do
  if e.inputs.current.any (·.1 = 0) && e.held ≠ [] then let _ ← ask (.unread 0 e.held)
  t.finish e.output status
  pure e

/-- Ends the program with a message. -/
def stop (t : Tool) (e : Edit) (problem : ByteText) (status : Nat) : Routine Edit := do
  complain (t.message problem)
  t.finish e.output status
  pure e

/-- Writes runs of bytes; `complete` tells whether the last line of them has its end. -/
def emit (t : Tool) (e : Edit) (sink : Sink) (runs : List Bytes) (complete : Bool) :
    Routine Edit := do
  let runs := (if e.lacking.contains sink then [[e.options.ending]] else []) ++ runs
  let others := e.lacking.filter (· != sink)
  let e := { e with lacking := if complete then others else sink :: others }
  match sink, e.copy with
  | .output, some copy => pure { e with copy := some (copy ++ runs.flatten) }
  | .output, none | .standard, _ =>
    let output ← t.writeAll e.output runs
    let output ← if e.options.prompt then Tool.flush output else pure output
    pure { e with output }
  | .complaints, _ =>
    let _ ← put 2 runs.flatten
    pure e
  | .file index, _ =>
    match ← put (fileFd index) runs.flatten with
    | none => pure e
    | some problem =>
      let count := (runs.head?.map List.length).getD 0
      e.stop t ("couldn't write " ++ toString count ++ (if count = 1 then " item" else " items")
        ++ " to " ++ (e.script.files[index]?).getD "" ++ ": " ++ problem.text) 4

def emitLine (t : Tool) (e : Edit) (sink : Sink) (line : Passage) : Routine Edit :=
  e.emit t sink (line.bytes :: if line.complete then [[e.options.ending]] else []) line.complete

/-- All that can be read from a descriptor; the number bounds how often it is read. -/
def readAll (fd : Nat) : Nat → Routine Bytes
  | 0 => pure []
  | n + 1 => do
    match ← read fd 65536 with
    | .error _ | .ok [] => pure []
    | .ok bytes => return bytes ++ (← readAll fd n)

/-- How often a file of the script is read at most. -/
def patience : Nat := 100000

/-- What a file holds, if it can be opened. -/
def content? (name : ByteText) : Routine (Except OsError Bytes) := do
  match ← openFile readFd name .read with
  | some problem => pure (.error problem)
  | none =>
    let bytes ← readAll readFd patience
    let _ ← ask (.close readFd)
    pure (.ok bytes)

/-- Writes what is to stand behind a line. -/
def emitLater (t : Tool) : List Later → Edit → Routine Edit
  | [], e => pure e
  | .text bytes :: rest, e => do emitLater t rest (← e.emit t .output [bytes] true)
  | .file name :: rest, e => do
    let bytes ← content? name
    emitLater t rest (← e.emit t .output [bytes.toOption.getD []] true)

/-- Writes all that is to stand behind the line. -/
def endLine (t : Tool) (e : Edit) : Routine Edit := do
  let e ← emitLater t e.later e
  pure { e with later := [] }

/-! ## 4. Input -/

/-- The name of a copy of a file. -/
def copyName (name suffix : ByteText) : ByteText :=
  if suffix.toList.contains '*' then
    let parts := name.splitOn "/"
    let own := (suffix.splitOn "*").intersperse (parts.getLast?.getD "")
    let made := String.join own
    if made.toList.contains '/' then made else "/".intercalate (parts.dropLast ++ [made])
  else name ++ suffix

/-- Writes a file. -/
def replaceFile (name : ByteText) (bytes : Bytes) : Routine Unit := do
  match ← openFile readFd name (.write .overwrite) with
  | some _ => pure ()
  | none =>
    let _ ← put readFd bytes
    let _ ← ask (.close readFd)

/-- Replaces the file that is done with by what has become of it. -/
def replace (e : Edit) : Routine Edit := do
  match e.copy, e.options.inPlace with
  | some copy, some suffix =>
    if suffix ≠ "" then replaceFile (copyName e.opened suffix) e.whole
    replaceFile e.opened copy
    pure { e with copy := none, whole := [], lacking := e.lacking.filter (· != .output) }
  | _, _ => pure e

/-- How much is read at once. -/
def pieceSize : Nat := 4096

/-- The states of the ranges before the first line. -/
def firstRanges (s : Edit.Script) : List (Nat × RangeState) :=
  s.commands.toList.zipIdx.filterMap fun (c, place) =>
    match c.selection with
    | .range (.line 0) _ => some (place, .begun none)
    | _ => none

/-- The editor as it begins with the first line of an input. -/
def beginAnew (e : Edit) : Edit :=
  { e with number := 0, ranges := firstRanges e.script, lines := [] }

/-- Gets on with the inputs. -/
def advance (t : Tool) (e : Edit) : Routine Edit := do
  let (arrival, inputs) ← e.inputs.next pieceSize
  let e := { e with inputs }
  match arrival with
  | .opened name fd =>
    let e := { (if e.options.separate then e.beginAnew else e) with opened := name.getD "-" }
    if e.options.inPlace.isNone then pure e
    else match ← inspect fd with
      | some { kind := .file, .. } => pure { e with copy := some [] }
      | _ => e.stop t ("couldn't edit " ++ e.opened ++ ": not a regular file") 4
  | .missing name problem =>
    complain (t.message ("can't read " ++ name ++ ": " ++ problem.text))
    pure { e with status := 2 }
  | .broken name problem =>
    let shown := if Inputs.isStandard name then "stdin" else name.getD ""
    e.stop t ("read error on " ++ shown ++ ": " ++ problem.text) 4
  | .piece bytes =>
    let whole := if e.copy.isSome then e.whole ++ bytes else []
    pure { e with held := e.held ++ bytes, whole }
  | .ended _ | .over => pure e

/-- Reads until something is there, unless nothing comes; files of their own are not left.  The
number bounds how many inputs there are. -/
def lookAhead (t : Tool) : Nat → Edit → Routine Edit
  | 0, e => pure e
  | n + 1, e =>
    let atEnd := e.inputs.current.isNone && (e.inputs.waiting = [] || e.options.separate)
    if e.held ≠ [] || atEnd then pure e
    else do lookAhead t n (← e.advance t)

/-- Reads until something is there or all inputs have ended. -/
def peek (t : Tool) (e : Edit) : Routine Edit := e.lookAhead t (2 * e.inputs.waiting.length + 3)

/-- Whether nothing is left that was looked for with `peek`. -/
def isLast (e : Edit) : Bool := e.held.isEmpty

/-- Whether there is no further line, where nothing is left that was looked for with `peek`. -/
def isOver (e : Edit) : Bool :=
  e.isLast && e.inputs.current.isNone && e.inputs.waiting.isEmpty

/-- Puts a line to its purpose. -/
def use (e : Edit) (purpose : Purpose) (line : Passage) : Edit :=
  let e := { e with number := e.number + 1, name := e.opened, replaced := false, phase := .working }
  match purpose with
  | .cycle => { e with space := line, place := 0 }
  | .next => { e with space := line }
  | .added =>
    { e with space := { line with bytes := e.space.bytes ++ e.options.ending :: line.bytes } }

/-- Ends the program when there is no further line. -/
def conclude (t : Tool) (e : Edit) (purpose : Purpose) : Routine Edit := do
  let e ← if purpose = .added && !e.script.quiet then e.emitLine t .output e.space else pure e
  let e ← e.replace
  e.finish t e.status

/-- Takes the next line, as far as the inputs have come. -/
def take (t : Tool) (e : Edit) (purpose : Purpose) : Routine Edit := do
  let line := e.held.takeWhile (· != e.options.ending)
  match e.held.drop line.length with
  | _ :: rest => pure ({ e with held := rest }.use purpose { bytes := line })
  | [] =>
    if e.inputs.current.isSome then e.advance t
    else if e.held ≠ [] then
      pure ({ e with held := [] }.use purpose
        { bytes := e.held, complete := e.inputs.waiting ≠ [] && e.copy.isNone })
    else if e.inputs.waiting = [] then e.conclude t purpose
    else do
      let e ← e.replace
      e.advance t

/-! ## 5. Selection -/

/-- The expression that is to be looked for. -/
def resolve (e : Edit) (expression : Option Regex) : Option Regex := expression <|> e.sought

/-- Ends the program because there is no expression to look for. -/
def lackExpression (t : Tool) (e : Edit) : Routine Edit :=
  e.stop t ((Origin.argument e.arguments).complain 0 0 .noExpression) 1

/-- Whether the line is the one of an address. -/
def isAt (t : Tool) (e : Edit) : Address → Routine (Bool × Edit)
  | .line n => pure (e.number = n, e)
  | .every first distance =>
    pure (first ≤ e.number && (e.number - first) % distance = 0, e)
  | .last => do
    let e ← e.peek t
    pure (e.isLast, e)
  | .matching expression =>
    match e.resolve expression with
    | none => return (false, ← e.lackExpression t)
    | some r => pure ((r.search e.space.bytes 0).isSome, { e with sought := some r })

/-- The editor with the range of a command changed. -/
def setRange (e : Edit) (place : Nat) (state : Option RangeState) : Edit :=
  let others := e.ranges.filter (·.1 != place)
  { e with ranges := match state with
      | some state => (place, state) :: others
      | none => others }

/-- Ends a range; one that begins at a numbered line never begins again. -/
def endRange (e : Edit) (place : Nat) (first : Address) : Edit :=
  e.setRange place (match first with
    | .line _ => some .over
    | _ => none)

/-- Begins a range at this line, and ends it if it has no other lines. -/
def beginRange (e : Edit) (place : Nat) (first : Address) (last : RangeEnd) : Edit :=
  let stop : Option Nat := match last with
    | .address (.line n) => some n
    | .address _ => none
    | .after count => some (e.number + count)
    | .multiple factor => some ((e.number / factor + 1) * factor)
  if stop.any (· ≤ e.number) then e.endRange place first
  else e.setRange place (some (.begun stop))

/-- Whether the line is in a range that has begun. -/
def inBegunRange (t : Tool) (e : Edit) (place : Nat) (first : Address) (last : RangeEnd)
    (stop : Option Nat) : Routine (Bool × Edit) := do
  let close (ends : Bool) (e : Edit) : Edit := if ends then e.endRange place first else e
  match last, stop with
  | .address (.line n), _ => pure (e.number ≤ n, close (n ≤ e.number) e)
  | _, some stop => pure (true, close (stop ≤ e.number) e)
  | .address a, none =>
    let (ends, e) ← e.isAt t a
    pure (true, close ends e)
  | _, none => pure (true, e)

/-- Whether the line is in a range.  One that is to begin at a numbered line begins at the first
line from there on that comes to the command. -/
def inRange (t : Tool) (e : Edit) (place : Nat) (first : Address) (last : RangeEnd) :
    Routine (Bool × Edit) := do
  match e.ranges.lookup place, first with
  | some (.begun stop), _ => e.inBegunRange t place first last stop
  | some .over, _ => pure (false, e)
  | none, .line n =>
    if e.number < n then pure (false, e)
    else
      let missed := n < e.number && (match last with
        | .address (.line m) => m < e.number
        | _ => false)
      pure (!missed, e.beginRange place first last)
  | none, first =>
    let (begins, e) ← e.isAt t first
    pure (begins, if begins then e.beginRange place first last else e)

/-- Whether the line is selected by a command at a place. -/
def isSelected (t : Tool) (e : Edit) (place : Nat) : Selection → Routine (Bool × Edit)
  | .all => pure (true, e)
  | .one a => e.isAt t a
  | .range first last => e.inRange t place first last

/-! ## 6. Commands -/

/-- The first line of the working space. -/
def firstLine (e : Edit) : Passage :=
  let line := e.space.bytes.takeWhile (· != e.options.ending)
  { bytes := line, complete := e.space.complete || line.length < e.space.bytes.length }

/-- Goes on with the next line. -/
def goOn (t : Tool) (e : Edit) : Routine Edit := do
  let e ← e.endLine t
  pure { e with phase := .taking .cycle }

/-- Two lines, the second of which says whether there is an end. -/
def join (e : Edit) (first second : Passage) : Passage :=
  { second with bytes := first.bytes ++ e.options.ending :: second.bytes }

/-- Prints the line at the end of the script and goes on with the next one. -/
def endCycle (t : Tool) (e : Edit) : Routine Edit := do
  let e ← if e.script.quiet then pure e else e.emitLine t .output e.space
  e.goOn t

/-- Replaces matches in the working space. -/
def substitute (t : Tool) (e : Edit) (s : Substitution) : Routine Edit := do
  match e.resolve s.expression with
  | none => e.lackExpression t
  | some r =>
    let e := { e with sought := some r }
    match s.apply? r e.space.bytes with
    | none => pure e
    | some bytes =>
      let e := { e with replaced := true, space := { e.space with bytes } }
      let e ← if s.prints then e.emitLine t .output e.space else pure e
      match s.sink with
      | some sink => e.emitLine t sink e.space
      | none => pure e

/-- The next line of a file that is read line by line, with its end. -/
def lineOf (e : Edit) (name : ByteText) : Routine (Bytes × Edit) := do
  let bytes ← match e.lines.lookup name with
    | some bytes => pure bytes
    | none => (fun found => found.toOption.getD []) <$> content? name
  let line := bytes.takeWhile (· != e.options.ending)
  let line := line ++ (bytes.drop line.length).take 1
  pure (line, { e with lines := (name, bytes.drop line.length) :: e.lines.filter (·.1 != name) })

/-- Does what a command says; `place` is where the command stands, and the editor is already at the
next one. -/
def perform (t : Tool) (e : Edit) (place : Nat) : Action → Routine Edit
  | .openBrace _ | .closeBrace | .label => pure e
  | .append text => pure { e with later := e.later ++ [.text text] }
  | .insert text => e.emit t .output [text] true
  | .change text => do
    let goesOn := match e.ranges.lookup place with
      | some (.begun _) => true
      | _ => false
    let e ← if goesOn then pure e else e.emit t .output [text] true
    e.goOn t
  | .jump mode label =>
    let target := (e.script.place? label).getD e.place
    match mode with
    | .always => pure { e with place := target }
    | .ifReplaced =>
      pure (if e.replaced then { e with place := target, replaced := false } else e)
    | .unlessReplaced =>
      pure (if e.replaced then { e with replaced := false } else { e with place := target })
  | .delete => e.goOn t
  | .deleteFirst =>
    let line := e.space.bytes.takeWhile (· != e.options.ending)
    match e.space.bytes.drop line.length with
    | [] => e.goOn t
    | _ :: rest => do
      let e ← e.endLine t
      pure { e with space := { e.space with bytes := rest }, place := 0 }
  | .showName => e.emit t .output [ByteText.toBytes e.name, [e.options.ending]] true
  | .showNumber =>
    e.emit t .output [ByteText.toBytes (toString e.number) ++ [e.options.ending]] true
  | .show width =>
    let text := shown (width.getD e.options.width) e.space.bytes
    e.emit t .output [text ++ [e.options.ending]] true
  | .print => e.emitLine t .output e.space
  | .printFirst => e.emitLine t .output e.firstLine
  | .fetch added => pure { e with space := if added then e.join e.space e.kept else e.kept }
  | .hold added => pure { e with kept := if added then e.join e.kept e.space else e.space }
  | .exchange => pure { e with space := e.kept, kept := e.space }
  | .clear => pure { e with space := { e.space with bytes := [] } }
  | .next => do
    let e ← e.peek t
    if e.isOver then e.endCycle t
    else
      let e ← if e.script.quiet then pure e else e.emitLine t .output e.space
      let e ← e.endLine t
      pure { e with phase := .taking .next }
  | .nextAdded => do
    let e ← e.peek t
    if e.isOver then e.endCycle t
    else
      let e ← e.endLine t
      pure { e with phase := .taking .added }
  | .quit silent status => do
    let e ← if silent then pure e
      else do
        let e ← if e.script.quiet then pure e else e.emitLine t .output e.space
        e.endLine t
    let e ← e.replace
    e.finish t (if e.status = 0 then status % 256 else e.status)
  | .readFile name => pure { e with later := e.later ++ [.file name] }
  | .readLine name => do
    let (line, e) ← e.lineOf name
    pure (if line = [] then e else { e with later := e.later ++ [.text line] })
  | .substitute s => e.substitute t s
  | .translate table =>
    let bytes := e.space.bytes.map fun b => (table.lookup b).getD b
    pure { e with space := { e.space with bytes } }
  | .write first sink => e.emitLine t sink (if first then e.firstLine else e.space)

/-- Comes to the next command. -/
def command (t : Tool) (e : Edit) : Routine Edit := do
  match e.script.commands[e.place]? with
  | none => e.endCycle t
  | some c =>
    let place := e.place
    let (selected, e) ← e.isSelected t place c.selection
    let e := { e with place := place + 1 }
    if selected != c.negated then e.perform t place c.action
    else match c.action with
      | .openBrace closing => pure { e with place := closing + 1 }
      | _ => pure e

/-! ## 7. The program -/

def refuse (t : Tool) (e : Edit) (r : Refusal) : Routine Edit := e.stop t r.text r.status

/-- Opens the files that the script writes as far as it was read, from a number on. -/
def openSinks (t : Tool) (e : Edit) : Nat → List ByteText → Routine Edit
  | sinks, [] => pure { e with sinks }
  | index, name :: rest => do
    match ← openFile (fileFd index) name (.write .overwrite) with
    | some problem => e.stop t ("couldn't open file " ++ name ++ ": " ++ problem.text) 4
    | none => openSinks t e (index + 1) rest

/-- Goes on after a piece of the script was read as far as possible. -/
def loaded (t : Tool) (e : Edit) (outcome : Option Refusal × ReadState) : Routine Edit := do
  let (refusal, reading) := outcome
  let e ← openSinks t { e with reading } e.sinks (reading.script.files.drop e.sinks)
  match refusal with
  | some refusal => e.refuse t refusal
  | none => pure e

/-- Reads the next piece of the script. -/
def load (t : Tool) (e : Edit) : Routine Edit := do
  match e.pieces with
  | .argument text :: pieces =>
    let arguments := e.arguments + 1
    loaded t { e with pieces, arguments } (e.reading.readPiece (.argument arguments) text)
  | .file name :: pieces =>
    match ← content? (if name == "-" then "/dev/stdin" else name) with
    | .error problem =>
      e.stop t ("couldn't open file " ++ name ++ ": " ++ problem.text) 4
    | .ok bytes =>
      loaded t { e with pieces } (e.reading.readPiece (.file name) (ByteText.ofBytes bytes))
  | [] =>
    match e.reading.finish with
    | .error refusal => e.refuse t refusal
    | .ok script =>
      let script := { script with quiet := script.quiet || e.options.quiet }
      if e.options.inPlace.isSome && e.inputs.waiting = [none] then e.stop t "no input files" 4
      else pure { e with script, ranges := firstRanges script, phase := .taking .cycle }

/-- Some steps, at most as many as the number says. -/
def steps (t : Tool) : Nat → Edit → Routine Edit
  | 0, e => pure e
  | n + 1, e => do
    let e ← match e.phase with
      | .loading => e.load t
      | .taking purpose => e.take t purpose
      | .working => e.command t
    steps t n e

def round (t : Tool) (e : Edit) : Routine Edit := steps t 20 e

end Edit
end CommandShell
