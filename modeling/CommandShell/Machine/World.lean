/-
# The machine

The machine is what the shell acts on: its files, its terminal, the processes that run on it and
the pipes between them, and a clock that only waiting moves.

A process reaches files, pipes and the terminal through channels.  Files are read and written
through open files, which hold a position of their own: descriptors that are copies of each other
share it.  A pipe belongs to the processes that hold its ends, and to the shell as long as it holds
the read end itself (`PipeHolder`).

`World.step` lets one process make one request; it gives nothing when the process has ended or has
to wait.
-/
import CommandShell.FileSystem.Access
import CommandShell.Machine.Activity
import CommandShell.Machine.FirstLine

namespace CommandShell

/-! ## 1. Channels -/

/-- What a descriptor stands for. -/
inductive Channel
  | terminalInput
  | terminalOutput
  | terminalError
  /-- The end of a pipe that is read from. -/
  | pipeReader (pipe : Nat)
  /-- The end of a pipe that is written to. -/
  | pipeWriter (pipe : Nat)
  | device (device : Device)
  | file (openFile : Nat)
deriving Repr, DecidableEq

/-- A file that is being read or written. -/
structure OpenFile where
  location : Location
  position : Nat := 0
  /-- Whether every write goes to the end of the file. -/
  append : Bool := false
deriving Repr, DecidableEq

/-- The terminal: what is still to be read from it, and what has been written to it. -/
structure Terminal where
  input : Bytes := []
  /-- How many bytes of the input were read already. -/
  taken : Nat := 0
  output : Bytes := []
  errors : Bytes := []
deriving Repr, DecidableEq

/-- What the shell itself does with the read end of a pipe. -/
inductive PipeHolder
  /-- It does not have it. -/
  | nobody
  /-- It keeps it for a process to come. -/
  | keeps
  /-- It reads everything and drops it. -/
  | drains
deriving Repr, DecidableEq

structure Pipe where
  content : Bytes := []
  holder : PipeHolder := .nobody
deriving Repr, DecidableEq

/-! ## 2. Processes -/

/-- Whether a process still runs, and what it does next. -/
inductive Condition
  | running (work : Routine Activity)
  | ended (status : Nat)

structure Process where
  condition : Condition
  descriptors : List (Nat × Channel)
  directory : Location
  /-- The signals that do not simply end it. -/
  reactions : List (Nat × Reaction) := []
  /-- The signals that have come and are kept for it. -/
  caught : List Nat := []

/-- The machine. -/
structure World where
  files : FileSystem
  /-- The directory that the shell's own relative paths are taken from. -/
  directory : Location := []
  terminal : Terminal := {}
  openFiles : Std.ExtTreeMap Nat OpenFile := ∅
  /-- The number of the next open file. -/
  nextFile : Nat := 0
  pipes : List Pipe := []
  processes : List Process := []
  /-- The time in milliseconds. -/
  clock : Nat := 0

namespace Process

/-- The channel of a descriptor. -/
def channel? (p : Process) (fd : Nat) : Option Channel := p.descriptors.lookup fd

def isRunning (p : Process) : Bool :=
  match p.condition with
  | .running _ => true
  | .ended _ => false

/-- Whether the process holds a channel; one that has ended holds none. -/
def holds (p : Process) (c : Channel) : Bool :=
  p.isRunning && p.descriptors.any (·.2 == c)

/-- The process with a descriptor changed. -/
def setChannel (p : Process) (fd : Nat) (c : Channel) : Process :=
  { p with descriptors := (fd, c) :: p.descriptors.filter (·.1 != fd) }

/-- The process with a descriptor closed. -/
def dropChannel (p : Process) (fd : Nat) : Process :=
  { p with descriptors := p.descriptors.filter (·.1 != fd) }

/-- The process after its end. -/
def ended (p : Process) (status : Nat) : Process :=
  { p with condition := .ended status, descriptors := [] }

/-- The first descriptor that a process loses when it becomes another program. -/
def firstPrivate : Nat := 10

/-- How many turns the others get while a process becomes another program. -/
def loadingTurns : Nat := 2

/-- The process as another program. -/
def becoming (p : Process) (activity : Activity) : Process :=
  { p with
    condition := .running (do
      Routine.rest loadingTurns
      activity.round)
    descriptors := p.descriptors.filter (·.1 < firstPrivate)
    reactions := p.reactions.filter (·.2 == .nothing)
    caught := [] }

end Process

namespace World

/-- The signal that a process gets when it writes to a pipe which nobody reads. -/
def brokenPipeSignal : Nat := 13

/-- The status of a process that was ended by a signal; it is no status that a process gives by
itself. -/
def signalledStatus (number : Nat) : Nat := Script.Runner.signalled + number

/-- The number of the signal that no process can react to. -/
def killSignal : Nat := 9

/-- How many bytes a pipe holds at most. -/
def pipeCapacity : Nat := 65536

/-- The status of a process that has ended. -/
def statusOf? (w : World) (process : Nat) : Option Nat :=
  match w.processes[process]? with
  | some { condition := .ended status, .. } => some status
  | _ => none

def hasEnded (w : World) (process : Nat) : Bool := (w.statusOf? process).isSome

def setProcess (w : World) (process : Nat) (p : Process) : World :=
  { w with processes := w.processes.set process p }

/-- The machine with one process changed by a function. -/
def updateProcess (w : World) (process : Nat) (f : Process → Process) : World :=
  { w with processes := w.processes.modify process f }

/-- Ends a process from outside. -/
def kill (w : World) (process : Nat) : World :=
  w.updateProcess process fun p => if p.isRunning then p.ended (signalledStatus killSignal) else p

/-- The signals that do nothing by themselves. -/
def idleSignals : List Nat := [0, 17, 18, 19, 20, 21, 22, 23, 28]

def signal (w : World) (process number : Nat) : World :=
  w.updateProcess process fun p =>
    if !p.isRunning then p
    else if number = killSignal then p.ended (signalledStatus killSignal)
    else match p.reactions.lookup number with
      | some .nothing => p
      | some .waits => { p with caught := p.caught ++ [number] }
      | _ => if idleSignals.contains number then p else p.ended (signalledStatus number)

/-! ## 3. Reading and writing -/

/-- Writes a text to the terminal. -/
def say (w : World) (stream : Stream) (text : String) : World :=
  let t := w.terminal
  { w with terminal := match stream with
      | .stdout => { t with output := t.output ++ Text.encode text }
      | .stderr => { t with errors := t.errors ++ Text.encode text } }

/-- Whether anything can still be written to a pipe. -/
def hasWriter (w : World) (pipe : Nat) : Bool :=
  w.processes.any (·.holds (.pipeWriter pipe))

/-- Whether anything can still be read from a pipe. -/
def hasReader (w : World) (pipe : Nat) : Bool :=
  (w.pipes[pipe]?).any (·.holder != .nobody)
    || w.processes.any (·.holds (.pipeReader pipe))

/-- What comes of a request to write. -/
inductive Written
  /-- Everything was written, or as much as there was room for. -/
  | taken (world : World) (rest : Bytes)
  | blocked
  | refused (error : OsError)
  /-- Nobody reads what was written. -/
  | broken

/-- The bytes of a file after some have been written over it from a position. -/
def overlay (old : Bytes) (position : Nat) (new : Bytes) : Bytes :=
  old.take position ++ List.replicate (position - old.length) 0 ++ new
    ++ old.drop (position + new.length)

/-- Writes through an open file. -/
def writeFile (w : World) (number : Nat) (bytes : Bytes) : World :=
  match w.openFiles[number]? with
  | none => w
  | some f =>
    let old := w.files.content f.location
    let position := if f.append then old.length else f.position
    { w with
      files := w.files.setContent f.location (overlay old position bytes)
      openFiles := w.openFiles.insert number { f with position := position + bytes.length } }

def write (w : World) (c : Channel) (bytes : Bytes) : Written :=
  match c with
  | .terminalOutput =>
    .taken { w with terminal := { w.terminal with output := w.terminal.output ++ bytes } } []
  | .terminalError =>
    .taken { w with terminal := { w.terminal with errors := w.terminal.errors ++ bytes } } []
  | .device .full => if bytes = [] then .taken w [] else .refused .noSpace
  | .device _ => .taken w []
  | .file number => .taken (w.writeFile number bytes) []
  | .pipeWriter pipe =>
    match w.pipes[pipe]? with
    | none => .broken
    | some p =>
      if !w.hasReader pipe then .broken
      else if p.holder = .drains then .taken w []
      else
        let room := pipeCapacity - p.content.length
        if room = 0 then .blocked
        else
          let filled := { p with content := p.content ++ bytes.take room }
          .taken { w with pipes := w.pipes.set pipe filled } (bytes.drop room)
  | .terminalInput | .pipeReader _ => .refused .badDescriptor

/-- Reads at most so many bytes from a channel; none while there is nothing to read yet. -/
def read (w : World) (c : Channel) (limit : Nat) : Option (Except OsError (Bytes × World)) :=
  match c with
  | .terminalInput =>
    let t := w.terminal
    let bytes := t.input.take limit
    some (.ok (bytes, { w with
      terminal := { t with input := t.input.drop limit, taken := t.taken + bytes.length } }))
  | .device .null => some (.ok ([], w))
  | .device _ => some (.ok (List.replicate limit 0, w))
  | .file number =>
    match w.openFiles[number]? with
    | none => some (.ok ([], w))
    | some f =>
      if w.files.node? f.location = some .directory then some (.error .isDirectory)
      else
        let bytes := ((w.files.content f.location).drop f.position).take limit
        let read := { f with position := f.position + bytes.length }
        some (.ok (bytes, { w with openFiles := w.openFiles.insert number read }))
  | .pipeReader pipe =>
    match w.pipes[pipe]? with
    | none => some (.ok ([], w))
    | some p =>
      if p.content = [] then if w.hasWriter pipe then none else some (.ok ([], w))
      else
        some (.ok (p.content.take limit,
          { w with pipes := w.pipes.set pipe { p with content := p.content.drop limit } }))
  | .terminalOutput | .terminalError | .pipeWriter _ => some (.error .badDescriptor)

/-- Gives back bytes that were read from a channel.  Only files can take them. -/
def unread (w : World) (c : Channel) (bytes : Bytes) : World :=
  match c with
  | .terminalInput =>
    let t := w.terminal
    { w with terminal := { t with input := bytes ++ t.input, taken := t.taken - bytes.length } }
  | .file number =>
    match w.openFiles[number]? with
    | some f =>
      let back := { f with position := f.position - bytes.length }
      { w with openFiles := w.openFiles.insert number back }
    | none => w
  | _ => w

/-- Opens a file, from a directory, under a number that is given.  `own` gives the descriptors of
the one who opens it. -/
def openFor (w : World) (own : Nat → Option Channel) (number : Nat) (base : Location)
    (path : String) (access : Access) : Except Fault (Channel × World) := do
  let opened (target : Target) (files : FileSystem) (append : Bool) :
      Except Fault (Channel × World) :=
    match target with
    | .device (.own fd) =>
      match own fd with
      | some c => .ok (c, { w with files })
      | none => .error (.os .notFound)
    | .device d => .ok (.device d, { w with files })
    | .file loc =>
      .ok (.file number,
        { w with files, openFiles := w.openFiles.insert number ⟨loc, 0, append⟩ })
  match access with
  | .read => opened (← w.files.openForReading base path) w.files false
  | .write mode =>
    let (target, files) ← w.files.openForWriting base path mode
    opened target files (mode == .append)
  | .update =>
    let (target, files) ← w.files.openForUpdate base path
    opened target files false

/-- The descriptors of the shell itself. -/
def standardChannel : Nat → Option Channel
  | 0 => some .terminalInput
  | 1 => some .terminalOutput
  | 2 => some .terminalError
  | _ => none

/-- Opens a file for the shell itself. -/
def openAs (w : World) (number : Nat) (base : Location) (path : String) (access : Access) :
    Except Fault (Channel × World) := w.openFor standardChannel number base path access

/-- Opens a file for a process, under the next number. -/
def openNext (w : World) (p : Process) (path : String) (access : Access) :
    Except Fault (Channel × World) := do
  let (c, w) ← w.openFor p.channel? w.nextFile p.directory path access
  .ok (c, { w with nextFile := w.nextFile + 1 })

/-! ## 4. Programs -/

/-- The error that a process sees. -/
def errorOf : Fault → OsError
  | .os e => e
  | _ => .notFound

/-- The location that a path leads to, for a process in a directory. -/
def locateFor (w : World) (base : Location) (path : ByteText) : Except OsError Location :=
  match ByteText.toText? path with
  | some text => (w.files.locate base text).mapError errorOf
  | none => .error .notFound

/-- What a process does that becomes the program at a path; the number bounds how many files lead to
it, one of which is the program itself. -/
def program? (w : World) (base : Location) (environment : List ByteText) :
    Nat → ByteText → List ByteText → Except OsError Activity
  | 0, _, _ => .error .linkLoop
  | depth + 1, path, argv => do
    match w.files.node? (← w.locateFor base path) with
    | some (.program u) => .ok (u.start argv environment)
    | some (.file content true) =>
      match FirstLine.interpreter? content with
      | some (interpreter, argument) =>
        w.program? base environment depth interpreter
          (interpreter :: argument.toList ++ path :: argv.drop 1)
      | none => .error .notProgram
    | none => .error .notFound
    | _ => .error .denied

/-- How many files may lead to a program. -/
def interpreterLimit : Nat := 6

/-! ## 5. One request -/

/-- What becomes of a request. -/
inductive Outcome
  | answered (reply : Reply) (world : World)
  /-- The request stands, perhaps in another form. -/
  | pending (request : Call) (world : World)
  | blocked
  | ends (status : Nat)
  | becomes (activity : Activity)

/-- The descriptors of a new process. -/
def inherit (p : Process) (changes : List (Nat × Option Nat)) : List (Nat × Channel) :=
  (changes.foldl (fun q change =>
    match change with
    | (fd, none) => q.dropChannel fd
    | (fd, some source) =>
      match p.channel? source with
      | some c => q.setChannel fd c
      | none => q.dropChannel fd) p).descriptors

/-- What a channel stands for. -/
def findChannel (w : World) (c : Channel) : Finding :=
  match c with
  | .terminalInput => ⟨.file, false, w.terminal.taken + w.terminal.input.length, none⟩
  | .terminalOutput => ⟨.file, false, w.terminal.output.length, none⟩
  | .terminalError => ⟨.file, false, w.terminal.errors.length, none⟩
  | .pipeReader _ | .pipeWriter _ => ⟨.pipe, false, 0, none⟩
  | .device _ => ⟨.device, false, 0, none⟩
  | .file number =>
    match w.openFiles[number]? with
    | none => ⟨.file, false, 0, none⟩
    | some f =>
      if w.files.node? f.location = some .directory then ⟨.directory, true, 0, some f.location⟩
      else ⟨.file, false, (w.files.content f.location).length, some f.location⟩

/-- What is at a location. -/
def findNode (w : World) (loc : Location) : Option Finding :=
  (w.files.node? loc).map fun
    | .directory => ⟨.directory, true, 4096, some loc⟩
    | .file content executable => ⟨.file, executable, content.length, some loc⟩
    | .link target => ⟨.link, true, target.utf8ByteSize, some loc⟩
    | .device _ => ⟨.device, false, 0, some loc⟩
    | .program _ => ⟨.file, true, 1, some loc⟩

/-- What a path leads to. -/
def findPath (w : World) (base : Location) (path : ByteText) (follow : Bool) :
    Except OsError Finding := do
  let direct : Option Finding := do
    guard (!follow)
    let text ← ByteText.toText? path
    let names := Path.segments text
    let last ← names.getLast?
    guard (counts last)
    let start := FileSystem.start base text
    let dir ← (w.files.walk FileSystem.linkLimit start names.dropLast).toOption
    w.findNode (dir ++ [last])
  match direct with
  | some f => .ok f
  | none =>
    match w.findNode (← w.locateFor base path) with
    | some f => .ok f
    | none => .error .notFound
where
  /-- Whether a segment names something in its directory. -/
  counts (segment : String) : Bool := segment != "" && segment != "." && segment != ".."

/-- Whether all that is written to one channel is still to be read from another. -/
def feedsItself (w : World) (source target : Channel) : Bool :=
  match source, target with
  | .file a, .file b =>
    match w.openFiles[a]?, w.openFiles[b]? with
    | some f, some g => f.location == g.location && f.position < (w.files.content f.location).length
    | _, _ => false
  | _, _ => false

/-- The answer to a request that can fail. -/
def answer (w : World) (r : Except OsError Reply) : Outcome :=
  .answered (match r with
    | .ok reply => reply
    | .error e => .failed e) w

/-- Carries out a request of a process. -/
def perform (w : World) (process : Nat) (p : Process) (request : Call) : Outcome :=
  match request with
  | .read fd limit =>
    match p.channel? fd with
    | none => .answered (.failed .badDescriptor) w
    | some c =>
      match w.read c limit with
      | none => .blocked
      | some (.ok (bytes, w)) => .answered (.data bytes) w
      | some (.error e) => .answered (.failed e) w
  | .unread fd bytes =>
    .answered .done (match p.channel? fd with
      | some c => w.unread c bytes
      | none => w)
  | .write fd bytes =>
    match p.channel? fd with
    | none => .answered (.failed .badDescriptor) w
    | some c =>
      match w.write c bytes with
      | .taken w [] => .answered .done w
      | .taken w rest => .pending (.write fd rest) w
      | .blocked => .blocked
      | .refused e => .answered (.failed e) w
      | .broken =>
        match p.reactions.lookup brokenPipeSignal with
        | some .nothing => .answered (.failed .brokenPipe) w
        | some .waits =>
          .answered (.failed .brokenPipe)
            (w.updateProcess process fun p => { p with caught := p.caught ++ [brokenPipeSignal] })
        | _ => .ends (signalledStatus brokenPipeSignal)
  | .openFile fd path access =>
    match ByteText.toText? path with
    | none => .answered (.failed .notFound) w
    | some text =>
      match w.openNext p text access with
      | .ok (c, w) => .answered .done (w.updateProcess process (·.setChannel fd c))
      | .error fault => .answered (.failed (errorOf fault)) w
  | .copy source target =>
    match p.channel? source with
    | some c => .answered .done (w.updateProcess process (·.setChannel target c))
    | none => .answered (.failed .badDescriptor) w
  | .close fd => .answered .done (w.updateProcess process (·.dropChannel fd))
  | .pipe reader writer =>
    let number := w.pipes.length
    let w := { w with pipes := w.pipes ++ [Pipe.mk [] .nobody] }
    .answered .done (w.updateProcess process fun p =>
      (p.setChannel reader (.pipeReader number)).setChannel writer (.pipeWriter number))
  | .examine path follow => w.answer ((w.findPath p.directory path follow).map .found)
  | .inspect fd =>
    w.answer (match p.channel? fd with
      | some c => .ok (.found (w.findChannel c))
      | none => .error .badDescriptor)
  | .isHeard fd =>
    w.answer (.ok (.flag (match p.channel? fd with
      | some (.pipeWriter pipe) => w.hasReader pipe
      | _ => true)))
  | .feedsItself source target =>
    w.answer (.ok (.flag (match p.channel? source, p.channel? target with
      | some a, some b => w.feedsItself a b
      | _, _ => false)))
  | .changeDirectory path =>
    match w.locateFor p.directory path with
    | .error e => .answered (.failed e) w
    | .ok loc =>
      if w.files.node? loc = some .directory then
        .answered .done (w.updateProcess process fun p => { p with directory := loc })
      else .answered (.failed .notDirectory) w
  | .currentDirectory => .answered (.text (ByteText.ofText p.directory.path)) w
  | .names path =>
    w.answer ((w.locateFor p.directory path).map fun loc =>
      .names ((w.files.names loc).map ByteText.ofText))
  | .sleep duration => .pending (.sleepUntil (w.clock + duration)) w
  | .sleepUntil time => if time ≤ w.clock then .answered .done w else .blocked
  | .sleepForever => .blocked
  | .fork task changes =>
    let q : Process :=
      { condition := .running (Activity.script task).round, descriptors := inherit p changes,
        directory := p.directory, reactions := p.reactions.filter (·.2 == .nothing) }
    .answered (.number w.processes.length) { w with processes := w.processes ++ [q] }
  | .await other yielding =>
    if yielding && !p.caught.isEmpty then .answered (.numbers p.caught) w
    else match w.statusOf? other with
      | some status => .answered (.number status) w
      | none => if other < w.processes.length then .blocked else .answered (.failed .noProcess) w
  | .ended other =>
    w.answer (match w.statusOf? other with
      | some status => .ok (.number status)
      | none => .error .noProcess)
  | .signal other number =>
    if (w.processes[other]?).any (·.isRunning) then .answered .done (w.signal other number)
    else .answered (.failed .noProcess) w
  | .onSignal number reaction =>
    .answered .done (w.updateProcess process fun p =>
      { p with reactions := (number, reaction) :: p.reactions.filter (·.1 != number) })
  | .caught =>
    .answered (.numbers p.caught) (w.updateProcess process fun p => { p with caught := [] })
  | .ignored =>
    .answered (.numbers ((p.reactions.filter (·.2 == .nothing)).map (·.1))) w
  | .self => .answered (.number process) w
  | .tick => .answered .done w
  | .become path argv environment =>
    match w.program? p.directory environment interpreterLimit path argv with
    | .ok activity => .becomes activity
    | .error e => .answered (.failed e) w
  | .exit status => .ends (status % 256)

/-- Lets a process make its next request. -/
def step (w : World) (process : Nat) : Option World :=
  match w.processes[process]? with
  | none => none
  | some p =>
    match p.condition with
    | .ended _ => none
    | .running (.done activity) =>
      some (w.setProcess process { p with condition := .running activity.round })
    | .running (.call request next) =>
      match w.perform process p request with
      | .answered reply w =>
        some (w.updateProcess process fun p =>
          if p.isRunning then { p with condition := .running (next reply) } else p)
      | .pending request w =>
        some (w.updateProcess process fun p =>
          { p with condition := .running (.call request next) })
      | .blocked => none
      | .ends status => some (w.updateProcess process (·.ended status))
      | .becomes activity => some (w.updateProcess process (·.becoming activity))

/-! ## 6. Changes from outside -/

/-- The location of a node that no path leads to any more. -/
def hidden (number : Nat) : Location := ["", toString number]

/-- Removes a file or a directory with all it holds.  What is still open there lives on where no
path leads to it. -/
def remove (w : World) (loc : Location) : World :=
  let place := hidden w.nextFile
  let moved (other : Location) : Location :=
    if loc.isPrefixOf other then place ++ other.drop loc.length else other
  let kept := w.openFiles.toList.filterMap fun (_, f) =>
    if loc.isPrefixOf f.location then (w.files.node? f.location).map (moved f.location, ·) else none
  { w with
    files := kept.foldl (fun fs entry => fs.set entry.1 entry.2) (w.files.removeTree loc)
    openFiles := w.openFiles.map fun _ f => { f with location := moved f.location }
    directory := moved w.directory
    processes := w.processes.map fun p => { p with directory := moved p.directory }
    nextFile := w.nextFile + 1 }

/-- Connects the machine to a terminal of its own for what comes next.  Processes that still run
keep what they had, as files that no path leads to. -/
def connect (w : World) (input : Bytes) : World :=
  let number := w.nextFile
  let standIn : Channel → Channel
    | .terminalInput => .file number
    | .terminalOutput => .file (number + 1)
    | .terminalError => .file (number + 2)
    | c => c
  let store (w : World) (n : Nat) (content : Bytes) (position : Nat) : World :=
    { w with
      files := w.files.set (hidden n) (.file content false)
      openFiles := w.openFiles.insert n ⟨hidden n, position, false⟩ }
  let t := w.terminal
  let old := if w.processes.any (·.isRunning) then
      { (store (store (store w number t.input 0) (number + 1) t.output t.output.length)
          (number + 2) t.errors t.errors.length) with
        nextFile := number + 3
        processes := w.processes.map fun p =>
          { p with descriptors := p.descriptors.map fun (fd, c) => (fd, standIn c) } }
    else w
  { old with terminal := { input } }

end World
end CommandShell
