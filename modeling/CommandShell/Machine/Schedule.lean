/-
# Letting the machine run

The machine runs in rounds.  In a round every process, in the order of their numbers, makes as many
requests as its turn allows, or until it has to wait or lets the others go on.  When no process
could make any request, the clock moves to the next time that one of them waits for.
`World.advance` is one such round; it gives nothing when every process has to wait for ever.
-/
import CommandShell.Machine.World

namespace CommandShell.World

/-- How many requests a process makes in one turn. -/
def turnLength : Nat := 200

/-- Whether a process lets the others go on. -/
def isYielding (w : World) (process : Nat) : Bool :=
  match w.processes[process]? with
  | some { condition := .running (.call .tick _), .. } => true
  | _ => false

/-- Lets a process make at most so many requests; tells whether it made any. -/
def turn : Nat → Nat → World → World × Bool
  | 0, _, w => (w, false)
  | n + 1, process, w =>
    match w.step process with
    | none => (w, false)
    | some after =>
      if w.isYielding process then (after, true) else ((turn n process after).1, true)

/-- Gives a turn to each of some processes; tells whether any made a request. -/
def turns (w : World) : List Nat → World × Bool
  | [] => (w, false)
  | process :: rest =>
    let (w, moved) := turn turnLength process w
    let (w, others) := turns w rest
    (w, moved || others)

/-- The time that a process waits for, if it waits for one. -/
def wakeTime? (p : Process) : Option Nat :=
  match p.condition with
  | .running (.call (.sleepUntil time) _) => some time
  | _ => none

/-- The first time that any process waits for. -/
def nextTime? (w : World) : Option Nat := (w.processes.filterMap wakeTime?).min?

/-- One round of the machine. -/
def advance (w : World) : Option World :=
  match turns w (List.range w.processes.length) with
  | (w, true) => some w
  | (w, false) => (w.nextTime?).map fun time => { w with clock := max w.clock time }

end CommandShell.World
