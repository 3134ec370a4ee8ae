/-
# Running parts of scripts

What carries out a part of a script (`Runner`) changes the state of the script, asks things of the
machine, and may leave what is being carried out: a loop, a function, or the whole script (`Stop`).

A message of a script names the script and the line, and the command of the language that complains.
-/
import CommandShell.Machine.Call
import CommandShell.Text.Width

namespace CommandShell.Script

/-- Why the parts of a script around the current one do not go on. -/
inductive Stop
  /-- Some loops end. -/
  | leave (loops : Nat)
  /-- Some loops begin again, of which the inner ones end. -/
  | again (loops : Nat)
  /-- A function ends, or a script that was read by another one. -/
  | answer
  /-- The script ends. -/
  | quit
  /-- Something could not be done at all. -/
  | failed
deriving Repr, DecidableEq

/-- Something that carries out a part of a script. -/
abbrev Runner := ExceptT Stop (StateT State Routine)

namespace Runner

/-! ## 1. Requests -/

/-- A bound for what no script does as often. -/
def bound : Nat := 1000000000000

/-- Carries out a dialogue with the machine. -/
def say {α : Type} (r : Routine α) : Runner α := ExceptT.lift (StateT.lift r)

/-- Asks something of the machine. -/
def ask (c : Call) : Runner Reply := say (Routine.ask c)

/-- Runs to the end, or to where it stops. -/
def attempt {α : Type} (r : Runner α) : Runner (Except Stop α) :=
  ExceptT.mk do return .ok (← r.run)

/-- Goes on with the outcome of a run. -/
def resume {α : Type} : Except Stop α → Runner α
  | .ok a => pure a
  | .error stop => throw stop

/-- Does something after a run, however it ended. -/
def ensuring {α : Type} (r : Runner α) (last : Runner Unit) : Runner α := do
  let outcome ← attempt r
  last
  resume outcome

/-! ## 2. Messages -/

/-- The front of a message. -/
def messageFront (s : State) : ByteText :=
  s.name ++ ": " ++ toString s.line ++ ": "
    ++ (s.command.map (· ++ ": ")).getD ""

def complain (message : ByteText) : Runner Unit := do
  say (Routine.complain (messageFront (← get) ++ message ++ "\n"))

/-- Complains and gives up. -/
def fail {α : Type} (message : ByteText) : Runner α := do
  complain message
  modify fun s => { s with status := 2 }
  throw .failed

/-- Why a file could not be opened, in the words of the language. -/
def openingProblem (created : Bool) : OsError → ByteText
  | .notFound | .notDirectory => if created then "Directory nonexistent" else "No such file"
  | e => e.text

/-- Why a program could not be started, in the words of the language. -/
def startingProblem : OsError → ByteText
  | .notFound | .notDirectory => "not found"
  | e => e.text

/-- Puts a text behind what the current command writes. -/
def emit (text : ByteText) : Runner Unit := modify fun s => { s with written := s.written ++ text }

/-- Writes what the current command has to write; tells whether that could be done. -/
def flush : Runner Bool := do
  let text := (← get).written
  modify fun s => { s with written := "" }
  return (← say (Routine.put 1 (ByteText.toBytes text))).isNone

/-! ## 3. Variables -/

def value? (name : ByteText) : Runner (Option ByteText) := return (← get).value? name

def assign (name value : ByteText) : Runner Unit := do
  if ((← get).held? name).any (·.fixed) then fail (name ++ ": is read only")
  modify fun s =>
    let s := if name = "OPTIND" then { s with optionPlace := 0 } else s
    s.put name value

/-- Whether a text is a number that the language accepts. -/
def number? (text : ByteText) : Option Nat :=
  let cs := text.toList
  let n := cs.foldl (fun n c => 10 * n + (c.toNat - '0'.toNat)) 0
  if cs ≠ [] && cs.all Char.isDigit && n < Width.values 31 then some n else none

/-- The number that a text stands for. -/
def number (text : ByteText) : Runner Nat :=
  match number? text with
  | some n => pure n
  | none => fail ("Illegal number: " ++ text)

/-! ## 4. Descriptors -/

/-- Descriptors that nothing is kept under, as many as asked for; they are free again after the
run. -/
def withFds {α : Type} (count : Nat) (use : Nat → Runner α) : Runner α := do
  let first := (← get).freeFd
  modify fun s => { s with freeFd := first + count }
  ensuring (use first) (modify fun s => { s with freeFd := first })

/-- Reads everything from a descriptor, in pieces; the number bounds how many. -/
def readAll (fd : Nat) : Nat → Runner Bytes
  | 0 => pure []
  | n + 1 => do
    match ← say (Routine.read fd 65536) with
    | .ok [] | .error _ => pure []
    | .ok piece => return piece ++ (← readAll fd n)

/-! ## 5. Processes -/

/-- The least number that tells that a process was ended by a signal. -/
def signalled : Nat := 256

/-- The names of the signals by which a process can end. -/
def signalTexts : List (Nat × String) :=
  [(1, "Hangup"), (2, "Interrupt"), (3, "Quit"), (4, "Illegal instruction"),
    (5, "Trace/breakpoint trap"), (6, "Aborted"), (7, "Bus error"), (8, "Floating point exception"),
    (9, "Killed"), (10, "User defined signal 1"), (11, "Segmentation fault"),
    (12, "User defined signal 2"), (13, "Broken pipe"), (14, "Alarm clock"), (15, "Terminated"),
    (16, "Stack fault"), (24, "CPU time limit exceeded"), (25, "File size limit exceeded"),
    (26, "Virtual timer expired"), (27, "Profiling timer expired"), (29, "I/O possible"),
    (30, "Power failure"), (31, "Bad system call")]

/-- The signals that end so many processes that nothing is told about it. -/
def quietSignals : List Nat := [2, 13]

/-- The exit status that the end of a process stands for. -/
def statusOf (ending : Nat) : Nat :=
  if signalled ≤ ending then 128 + (ending - signalled) else ending

/-- Tells how a process was ended, if that was a signal. -/
def tellEnding (ending : Nat) : Runner Unit := do
  if signalled ≤ ending && !quietSignals.contains (ending - signalled) then
    if let some text := signalTexts.lookup (ending - signalled) then
      say (Routine.complain (text ++ "\n"))

/-- Learns which processes of jobs have ended. -/
def reap : Runner Unit := do
  for process in (← get).jobs.flatMap Job.running do
    if let .number ending ← ask (.ended process) then
      modify fun s => { s with jobs := s.jobs.map (·.learn process ending) }

/-- Waits for a process in the foreground; gives its status. -/
def await (process : Nat) : Runner Nat := do
  let reply ← ask (.await process false)
  reap
  match reply with
  | .number ending =>
    tellEnding ending
    pure (statusOf ending)
  | _ => pure 127

/-- The state that a part of the script begins with that has a process of its own: what is done on
signals is left behind, and so are the jobs. -/
def partState : Runner State := do
  let s ← get
  pure { s with traps := s.traps.filter (·.2 == ""), jobs := [], loops := 0 }

/-- Starts a process for a task; gives its number. -/
def fork (task : Task) (changes : List (Nat × Option Nat)) : Runner Nat := do
  modify fun s => { s with jobs := s.jobs.makeRoom }
  match ← ask (.fork task changes) with
  | .number n => pure n
  | _ => pure 0

end Runner
end CommandShell.Script
