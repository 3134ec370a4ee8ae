/-
# Pipelines

The stages of a pipeline are begun one after the other and then run side by side.  A stage reads
what the one before it writes: a program reads a program's output through a pipe and a built-in
command's output after that command has ended; a built-in command reads nothing.  Only the last
stage's output goes to the terminal or to a redirection of its own.

Every stage gets a token before it is begun.  A stage that is over cancels the tokens of all stages
before it, and a program whose token is cancelled is killed.  When a command does not exist, or a
stage cannot be begun, all tokens are cancelled and no further stage is begun.  The pipeline is over
when every program that was started is.

`Pipeline.State` is a pipeline under way and `Pipeline.Event` what can happen to it at any time: a
stage gets its token or is begun, a process goes on or ends, time passes, a process whose token is
cancelled is killed, a stage whose process has ended is settled.  `Session.runPipeline` is the run
in which all stages are begun before any process goes on.
-/
import CommandShell.Engine.Single

namespace CommandShell

/-! ## 1. Beginning a stage -/

/-- What a stage reads from. -/
inductive Upstream
  | terminal
  /-- The output of the program before it. -/
  | pipe (number : Nat)
  /-- The output of the built-in command before it. -/
  | bytes (content : Bytes)
  /-- Nothing at all. -/
  | closed
deriving Repr, DecidableEq

/-- What a stage turns out to be when it is begun. -/
inductive Beginning
  /-- A built-in command, which has ended and left its output. -/
  | builtin (output : Bytes)
  /-- A command that does not exist. -/
  | missing
  /-- A program, with its process and the pipe that it writes to. -/
  | started (process : Nat) (pipe : Option Nat)
  /-- A program that could not be started. -/
  | unstarted
deriving Repr, DecidableEq

namespace World

/-- Changes what the shell does with the read end of a pipe. -/
def setHolder (w : World) (pipe : Nat) (holder : PipeHolder) : World :=
  { w with pipes := w.pipes.modify pipe fun p => { p with holder } }

/-- Makes a pipe; gives its number. -/
def addPipe (w : World) (p : Pipe) : Nat × World :=
  (w.pipes.length, { w with pipes := w.pipes ++ [p] })

/-- Stops reading pipes to no purpose. -/
def stopDraining (w : World) : World :=
  { w with pipes := w.pipes.map fun p =>
      if p.holder = .drains then { p with holder := .nobody } else p }

end World

namespace Action

/-- Lets go of what a stage would have read. -/
def release (upstream : Upstream) : Action Unit :=
  match upstream with
  | .pipe n => onWorld (·.setHolder n .nobody)
  | _ => pure ()

/-- Reads what a stage does not want to read. -/
def drain (upstream : Upstream) : Action Unit :=
  match upstream with
  | .pipe n => onWorld (·.setHolder n .drains)
  | _ => pure ()

def newPipe (p : Pipe) : Action Nat := do
  let s ← get
  let (n, world) := s.world.addPipe p
  set { s with world }
  pure n

/-- The channel through which a program reads from upstream. -/
def inlet (upstream : Upstream) : Action Channel := do
  match upstream with
  | .terminal => pure .terminalInput
  | .pipe n => pure (.pipeReader n)
  | .bytes content => return .pipeReader (← newPipe { content })
  | .closed => pure (.device .null)

def beginBuiltin (b : Builtin) (stage : Stage) (isLast : Bool) : Action Bytes := do
  let first ← takeNumbers
  let stderr ← openOutlet first .stderr stage.stderr
  let stdout ← if isLast then Sink.channel <$> openOutlet first .stdout stage.stdout
    else pure (Sink.buffer [])
  return (← runBuiltin b stdout (.channel stderr)).collected

def beginProgram (program : String) (stage : Stage) (isLast : Bool) (upstream : Upstream) :
    Action Beginning := do
  let first ← takeNumbers
  let stderr ← openOutlet first .stderr stage.stderr
  let (stdout, pipe) ←
    if isLast then do pure (← openOutlet first .stdout stage.stdout, none)
    else do
      let n ← newPipe { holder := .keeps }
      pure (.pipeWriter n, some n)
  let stdin ← inlet upstream
  match ← launch program stage stdin stdout stderr with
  | some process =>
    release upstream
    pure (.started process pipe)
  | none =>
    release upstream
    release (match pipe with | some n => .pipe n | none => .closed)
    pure .unstarted

def beginStage (stage : Stage) (isLast : Bool) (upstream : Upstream) : Action Beginning := do
  match Builtin.lookup stage.name stage.args with
  | some b =>
    drain upstream
    return .builtin (← beginBuiltin b stage isLast)
  | none =>
    match ← resolve stage.name with
    | none =>
      release upstream
      let first ← takeNumbers
      reportMissing stage.name (← openOutlet first .stderr stage.stderr)
      pure .missing
    | some program =>
      tryCatch (beginProgram program stage isLast upstream) fun f => do
        release upstream
        throw f

end Action

namespace Pipeline

/-! ## 2. A pipeline under way -/

/-- A pipeline under way. -/
structure State where
  session : Session
  /-- The stages that have no token yet. -/
  waiting : List Stage
  /-- The stage that has a token and is not begun yet. -/
  pending : Option Stage := none
  /-- For each stage that has a token, whether it is cancelled. -/
  tokens : List Bool := []
  /-- The stages whose programs are not settled yet, with their processes. -/
  supervised : List (Nat × Nat) := []
  /-- The stages that are over. -/
  finished : List Nat := []
  /-- What the next stage reads from. -/
  upstream : Upstream := .terminal
  /-- Whether the pipeline was given up, because a command does not exist or a stage cannot be
  begun. -/
  aborted : Bool := false
  /-- Why the pipeline fails, if it does. -/
  failure : Option Failure := none

namespace State

def isCancelled (st : State) (stage : Nat) : Bool := st.tokens.getD stage false

def cancelBefore (st : State) (stage : Nat) : State :=
  { st with tokens := st.tokens.mapIdx fun i cancelled => cancelled || i < stage }

/-- Notes that a stage is over. -/
def finish (st : State) (stage : Nat) : State :=
  { (st.cancelBefore stage) with finished := st.finished ++ [stage] }

/-- Gives the pipeline up: cancels all tokens and begins no further stage. -/
def abort (st : State) (failure : Option Failure) : State :=
  { (st.cancelBefore st.tokens.length) with waiting := [], aborted := true, failure }

/-- Takes note of what a stage, the last one with a token, turned out to be. -/
def note (st : State) (beginning : Beginning) : State :=
  let stage := st.tokens.length - 1
  match beginning with
  | .builtin output =>
    { (st.finish stage) with upstream := if st.waiting = [] then .closed else .bytes output }
  | .missing => st.abort none
  | .started process pipe =>
    { st with
      supervised := st.supervised ++ [(stage, process)]
      upstream := match pipe with
        | some n => .pipe n
        | none => .closed }
  | .unstarted => { (st.finish stage) with upstream := .closed }

/-- Gives the next stage, if there is one, its token. -/
def register (st : State) : State :=
  match st.waiting with
  | [] => st
  | stage :: waiting =>
    { st with waiting, pending := some stage, tokens := st.tokens ++ [false] }

/-- What comes of beginning a stage, with the session after it. -/
def attempt (st : State) (stage : Stage) : Except Failure Beginning × Session :=
  (Action.beginStage stage st.waiting.isEmpty st.upstream).run.run st.session

/-- Begins the stage that has its token, if there is one. -/
def begin (st : State) : State :=
  match st.pending with
  | none => st
  | some stage =>
    let (result, session) := st.attempt stage
    let st := { st with session, pending := none }
    match result with
    | .ok beginning => st.note beginning
    | .error failure => st.abort (some failure)

def onWorld (st : State) (f : World → World) : State :=
  { st with session := { st.session with world := f st.session.world } }

/-- Kills the process of a supervised stage. -/
def terminate (st : State) (entry : Nat × Nat) : State := st.onWorld (·.kill entry.2)

/-- Settles a supervised stage whose process has ended: the stage is over. -/
def settle (st : State) (entry : Nat × Nat) : State :=
  { (st.finish entry.1) with supervised := st.supervised.erase entry }

/-! ## 3. What can happen -/

end State

/-- What can happen to a pipeline under way. -/
inductive Event
  /-- The next stage gets its token. -/
  | register
  /-- The stage that has its token is begun. -/
  | begin
  /-- A process makes a request. -/
  | work (process : Nat)
  /-- A process is ended from outside. -/
  | interrupt (process : Nat)
  /-- Time passes. -/
  | elapse (duration : Nat)
  /-- The process of a stage whose token is cancelled is killed. -/
  | terminate (stage process : Nat)
  /-- A stage whose process has ended is settled. -/
  | settle (stage process : Nat)
deriving Repr, DecidableEq

namespace State

/-- What an event makes of a pipeline; none if it cannot happen. -/
def after? (st : State) : Event → Option State
  | .register => if st.waiting = [] ∨ st.pending ≠ none then none else some st.register
  | .begin => if st.pending = none then none else some st.begin
  | .work process =>
    (st.session.world.step process).map fun w => st.onWorld fun _ => w
  | .interrupt process => some (st.onWorld (·.kill process))
  | .elapse duration => some (st.onWorld fun w => { w with clock := w.clock + duration })
  | .terminate stage process =>
    if (stage, process) ∈ st.supervised ∧ st.isCancelled stage then
      some (st.terminate (stage, process))
    else none
  | .settle stage process =>
    if (stage, process) ∈ st.supervised ∧ st.session.world.hasEnded process then
      some (st.settle (stage, process))
    else none

/-- Whether nothing is left to begin or to settle. -/
def isOver (st : State) : Bool :=
  st.waiting.isEmpty && st.pending.isNone && st.supervised.isEmpty

/-! ## 4. One run -/

/-- A pipeline that is to be run. -/
def start (session : Session) (stages : List Stage) : State := { session, waiting := stages }

def beginMany : Nat → State → State
  | 0, st => st
  | n + 1, st => beginMany n st.register.begin

/-- Whether something is to be done about a supervised stage: its process has ended, or its token is
cancelled. -/
def isReady (st : State) (entry : Nat × Nat) : Bool :=
  st.session.world.hasEnded entry.2 || st.isCancelled entry.1

/-- Does what is to be done about a supervised stage. -/
def attend (st : State) (entry : Nat × Nat) : State :=
  if st.session.world.hasEnded entry.2 then st.settle entry else st.terminate entry

/-- Attends at most so many times to stages that are ready. -/
def settleReady : Nat → State → State
  | 0, st => st
  | n + 1, st =>
    match st.supervised.find? st.isReady with
    | none => st
    | some entry => settleReady n (st.attend entry)

/-- Lets the machine run, and settles stages as they become ready, until all are settled. -/
def settleAll : Nat → State → Option State
  | patience, st =>
    -- A stage whose token is cancelled is attended to twice: its process is killed, and then ended.
    let st := settleReady (2 * st.supervised.length) st
    if st.supervised = [] then some st
    else match patience with
      | 0 => none
      | patience + 1 =>
        match st.session.world.advance with
        | none => none
        | some w => settleAll patience (st.onWorld fun _ => w)

end State
end Pipeline

/-- Runs a pipeline until all its programs are over. -/
def Session.runPipeline (patience : Nat) (stages : List Stage) (s : Session) : Ending :=
  let begun := Pipeline.State.beginMany stages.length (.start s stages)
  (Pipeline.State.settleAll patience begun).map fun st =>
    let st := st.onWorld World.stopDraining
    (match st.failure with
      | none => .ok ()
      | some f => .error f, st.session)

end CommandShell
