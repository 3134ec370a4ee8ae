/-
# What a command turns out to be

Before anything else is done with a command it is decided what it is (`Course`): a built-in command,
a program, or nothing that exists.  `Session.call` is this decision, with the session after it, as a
program that was looked up is remembered.

The rest of the engine follows it.  `run_beginSingle` and `run_beginStage` say that beginning a
command is deciding what it is and then carrying that out: a built-in command is run in the shell,
of a program exactly the file that was found is started, and a command that does not exist is
reported.  Nothing but a program starts a process.
-/
import CommandShell.Proofs.Execution

namespace CommandShell

open CommandShell.Action

/-! ## 1. The decision -/

/-- What a command turns out to be. -/
inductive Course
  | builtin (b : Builtin)
  /-- The program in a file. -/
  | program (path : String)
  | missing

/-- Decides what a command is. -/
def Session.call (s : Session) (stage : Stage) : Course × Session :=
  match Builtin.lookup stage.name stage.args with
  | some b => (.builtin b, s)
  | none =>
    match s.resolve stage.name with
    | (some path, s) => (.program path, s)
    | (none, s) => (.missing, s)

section Call

variable {s : Session} {stage : Stage}

theorem call_of_builtin {b : Builtin} (hb : Builtin.lookup stage.name stage.args = some b) :
    s.call stage = (.builtin b, s) := by
  simp only [Session.call, hb]

theorem call_of_program {path : String} (hb : Builtin.lookup stage.name stage.args = none)
    (hresolve : (s.resolve stage.name).1 = some path) :
    s.call stage = (.program path, (s.resolve stage.name).2) := by
  simp only [Session.call, hb]
  rcases hr : s.resolve stage.name with ⟨found, s'⟩
  rw [hr] at hresolve
  obtain rfl : found = some path := hresolve
  rfl

theorem call_of_missing (hb : Builtin.lookup stage.name stage.args = none)
    (hresolve : (s.resolve stage.name).1 = none) :
    s.call stage = (.missing, (s.resolve stage.name).2) := by
  simp only [Session.call, hb]
  rcases hr : s.resolve stage.name with ⟨found, s'⟩
  rw [hr] at hresolve
  obtain rfl : found = none := hresolve
  rfl

end Call

/-! ## 2. Carrying it out -/

namespace Course

/-- Carries a single command out, when its streams are open. -/
def alone (stage : Stage) : Course → Action (Option Nat)
  | .builtin b => do
    let streams ← openBoth stage
    let _ ← runBuiltin b (.channel streams.1) (.channel streams.2)
    pure none
  | .program path => do
    let streams ← openBoth stage
    launch path stage .terminalInput streams.1 streams.2
  | .missing => do
    let streams ← openStreams stage false
    reportMissing stage.name streams.1
    pure none

/-- Carries a stage of a pipeline out. -/
def inPipeline (stage : Stage) (isLast : Bool) (upstream : Upstream) :
    Course → Action Beginning
  | .builtin b => do
    drain upstream
    return .builtin (← beginBuiltin b stage isLast)
  | .program path =>
    tryCatch (beginProgram path stage isLast upstream) fun f => do
      release upstream
      throw f
  | .missing => do
    release upstream
    let streams ← openStreams stage false
    reportMissing stage.name streams.1
    pure .missing

end Course

/-- **A single command is carried out as what it is.** -/
theorem run_beginSingle (stage : Stage) (s : Session) :
    (beginSingle stage).run.run s =
      ((s.call stage).1.alone stage).run.run (s.call stage).2 := by
  rw [beginSingle]
  split
  next b hb =>
    rw [openBoth_bind, call_of_builtin hb]
    rfl
  next hb =>
    rw [run_bind, run_resolve]
    cases hresolve : (s.resolve stage.name).1 with
    | none =>
      rw [call_of_missing hb hresolve]
      simp only
      rw [Stage.reportMissing_bind]
      rfl
    | some path =>
      rw [call_of_program hb hresolve]
      simp only
      rw [openBoth_bind]
      rfl

/-- **A stage of a pipeline is carried out as what it is**, and that does not depend on its
place. -/
theorem run_beginStage (stage : Stage) (isLast : Bool) (upstream : Upstream) (s : Session) :
    (beginStage stage isLast upstream).run.run s =
      ((s.call stage).1.inPipeline stage isLast upstream).run.run (s.call stage).2 := by
  rw [beginStage]
  split
  next b hb =>
    rw [call_of_builtin hb]
    rfl
  next hb =>
    rw [run_bind, run_resolve]
    cases hresolve : (s.resolve stage.name).1 with
    | none =>
      rw [call_of_missing hb hresolve]
      simp only
      rw [Stage.reportMissing_bind]
      rfl
    | some path =>
      rw [call_of_program hb hresolve]
      rfl

/-! ## 3. Who starts a process -/

section Processes

variable {stage : Stage} {s : Session}

theorem resolve_ne_some (h : ∀ path, (s.call stage).1 ≠ .program path)
    (hb : Builtin.lookup stage.name stage.args = none) {path : String} :
    (s.resolve stage.name).1 ≠ some path :=
  fun hresolve => h path (by rw [call_of_program hb hresolve])

/-- **Only a program starts a process**, as a single command -/
theorem processes_beginSingle (h : ∀ path, (s.call stage).1 ≠ .program path) :
    ((beginSingle stage).run.run s).2.world.processes = s.world.processes := by
  have hbegins := stage.beginsAlone s
  generalize ((beginSingle stage).run.run s).1 = result at hbegins
  generalize ((beginSingle stage).run.run s).2 = s' at hbegins ⊢
  cases hbegins with
  | builtin hb hopen hrun | builtinFailed hb hopen hrun =>
    exact (Stage.quiet_of_runAlone hopen hrun).processes
  | builtinUnopened hb hopen => exact (quiet_of_openBoth hopen).world.processes
  | missing hb hresolve hopen hreport | missingUnreported hb hresolve hopen hreport =>
    exact (Stage.quiet_of_reportMissing hopen hreport).world.processes
  | missingUnopened hb hresolve hopen => exact (Stage.quiet_of_openStreams hopen).world.processes
  | programUnopened hb hresolve | started hb hresolve | unstarted hb hresolve =>
    exact absurd hresolve (resolve_ne_some h hb)

/-- and as a stage of a pipeline. -/
theorem processes_beginStage (h : ∀ path, (s.call stage).1 ≠ .program path) (isLast : Bool)
    (upstream : Upstream) :
    ((beginStage stage isLast upstream).run.run s).2.world.processes = s.world.processes := by
  have hbegins := stage.begins isLast upstream s
  generalize ((beginStage stage isLast upstream).run.run s).1 = result at hbegins
  generalize ((beginStage stage isLast upstream).run.run s).2 = s' at hbegins ⊢
  rcases hbegins.processes with ⟨pipe, p, rfl, -⟩ | ⟨-, hprocesses⟩
  · cases hbegins with
    | started hb hresolve => exact absurd hresolve (resolve_ne_some h hb)
  · exact hprocesses

end Processes

end CommandShell
