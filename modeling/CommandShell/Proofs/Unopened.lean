/-
# Commands that are not run

Which targets are opened for a command depends on what it is and on where it stands: the one of its
error stream always, and the one of its output if the command exists and its output is not the input
of the next stage (`Attempt.mem_streams_iff`).  If one of them cannot be opened the command comes to
nothing, whatever it is (`Attempt.ComesToNothing`): it is given up at the first such target, when
nothing was done yet but that it was looked up and that targets before were opened
(`Attempt.stops`).

The line that begins such a command fails, and says which target it was (`Attempt.unopened`).
-/
import CommandShell.Proofs.Alone
import CommandShell.Proofs.CutOff

namespace CommandShell

open CommandShell.Action

/-! ## 1. Where it stops -/

section Streams

variable {stage : Stage} {s : Session} {streams : List Stream}

/-- Streams are not opened if one of their targets cannot be. -/
theorem Session.openAll_ne_ok (h : ∃ r ∈ stage.targets streams, s.canOpen r = false)
    (opened : List (Stream × Channel) × World) : s.openAll stage streams ≠ .ok opened := by
  intro hopened
  obtain ⟨r, hr, hcannot⟩ := h
  obtain ⟨stream, hstream, hredirection⟩ := List.mem_filterMap.mp hr
  have hcan := (opens_of_openAll hopened).2 stream hstream r hredirection
  rw [hcannot] at hcan
  cases hcan

/-- Both streams of a single command are given up at such a target, -/
theorem openBoth_stops (h : ∃ r ∈ stage.targets [.stdout, .stderr], s.canOpen r = false) :
    ∃ r fault s', s.StopsAt stage [.stdout, .stderr] r fault s' ∧
      (openBoth stage).run.run s = (.error (.redirection r.target fault), s') := by
  rcases openBoth_cases stage s with ⟨f, s', hfails, -⟩ | ⟨stdout, stderr, w, -, hopened⟩
  · obtain ⟨r, fault, rfl, hstops⟩ := Session.stopsAt_of_openBoth hfails
    exact ⟨r, fault, s', hstops, hfails⟩
  · exact absurd hopened (Session.openAll_ne_ok h _)

/-- and so are those of a stage. -/
theorem openStreams_stops {isLast : Bool}
    (h : ∃ r ∈ stage.targets (streamsOf isLast), s.canOpen r = false) :
    ∃ r fault s', s.StopsAt stage (streamsOf isLast) r fault s' ∧
      (openStreams stage isLast).run.run s = (.error (.redirection r.target fault), s') := by
  rcases openStreams_cases stage isLast s with ⟨f, s', hfails, -⟩ | ⟨stderr, stdout, w, -, hopened⟩
  · obtain ⟨r, fault, rfl, hstops⟩ := Session.stopsAt_of_openStreams hfails
    exact ⟨r, fault, s', hstops, hfails⟩
  · exact absurd hopened (Session.openAll_ne_ok h _)

end Streams

namespace Course

variable (course : Course) (stage : Stage) (s : Session)

/-- **A single command that is carried out** stops at a target that cannot be opened. -/
theorem alone_stops (h : ∃ r ∈ stage.targets course.streamsAlone, s.canOpen r = false) :
    ∃ r fault s', s.StopsAt stage course.streamsAlone r fault s' ∧
      (course.alone stage).run.run s = (.error (.redirection r.target fault), s') := by
  cases course with
  | builtin b | program path =>
    obtain ⟨r, fault, s', hstops, hopen⟩ := openBoth_stops h
    exact ⟨r, fault, s', hstops, by rw [alone, run_bind, hopen]⟩
  | missing =>
    obtain ⟨r, fault, s', hstops, hopen⟩ := openStreams_stops h
    exact ⟨r, fault, s', hstops, by rw [alone, run_bind, hopen]⟩

/-- **So does a stage of a pipeline**, which lets go of what it would have read. -/
theorem inPipeline_stops (isLast : Bool) (upstream : Upstream)
    (h : ∃ r ∈ stage.targets (course.streamsInPipeline isLast),
      (course.ready upstream s).canOpen r = false) :
    ∃ r fault s' pipes,
      (course.ready upstream s).StopsAt stage (course.streamsInPipeline isLast) r fault s' ∧
      (course.inPipeline stage isLast upstream).run.run s =
        (.error (.redirection r.target fault), { s' with world := { s'.world with pipes } }) := by
  cases course with
  | builtin b =>
    obtain ⟨r, fault, s', hstops, hopen⟩ := openStreams_stops h
    refine ⟨r, fault, s', s'.world.pipes, hstops, ?_⟩
    have hopen' : (openStreams stage isLast).run.run
        { s with world := s.world.hand upstream .drains } = _ := hopen
    rw [inPipeline, run_bind, run_drain, beginBuiltin_eq]
    simp only [run_bind, hopen']
  | program path =>
    obtain ⟨r, fault, s', hstops, hopen⟩ := openStreams_stops h
    refine ⟨r, fault, s', (s'.world.hand upstream .nobody).pipes, hstops, ?_⟩
    have hopen' : (openStreams stage isLast).run.run s = _ := hopen
    rw [inPipeline, run_tryCatch, beginProgram_eq, run_bind, hopen']
    simp only [run_bind, run_release, run_throw]
    cases upstream <;> rfl
  | missing =>
    obtain ⟨r, fault, s', hstops, hopen⟩ := openStreams_stops h
    refine ⟨r, fault, s', s'.world.pipes, hstops, ?_⟩
    have hopen' : (openStreams stage false).run.run
        { s with world := s.world.hand upstream .nobody } = _ := hopen
    rw [inPipeline, run_bind, run_release]
    simp only [run_bind, hopen']

end Course

/-! ## 2. What has changed -/

/-- Nothing in the environment but that the result of one more look-up may be remembered. -/
inductive Environment.LookedUp (env : Environment) : Environment → Prop
  | same : LookedUp env env
  | once {key : String} (found : Option String) (hnew : env.search.memo[key]? = none) :
      LookedUp env
        { env with search := { env.search with memo := env.search.memo.insert key found } }

theorem Environment.LookedUp.directory {env env' : Environment} (h : env.LookedUp env') :
    env'.directory = env.directory := by
  cases h <;> rfl

theorem Session.lookedUp_resolve (s : Session) (name : String) :
    s.env.LookedUp (s.resolve name).2.env := by
  rw [resolve, Search.resolve]
  rcases hmemo : s.env.search.memo[Search.key name s.env.directory]? with _ | found
  · exact .once _ hmemo
  · exact .same

theorem Session.lookedUp_call (s : Session) (stage : Stage) :
    s.env.LookedUp (s.call stage).2.env ∧ (s.call stage).2.world = s.world := by
  cases hb : Builtin.lookup stage.name stage.args with
  | some b =>
    rw [call_of_builtin hb]
    exact ⟨.same, rfl⟩
  | none =>
    cases hresolve : (s.resolve stage.name).1 with
    | none =>
      rw [call_of_missing hb hresolve]
      exact ⟨s.lookedUp_resolve stage.name, rfl⟩
    | some path =>
      rw [call_of_program hb hresolve]
      exact ⟨s.lookedUp_resolve stage.name, rfl⟩

namespace Attempt

variable {a : Attempt} {stream : Stream}

/-- The targets that are opened for a command, in this order. -/
def targets (a : Attempt) : List Redirection := a.stage.targets a.streams

/-- Whether the output of the command is not the input of another one. -/
def hasOutput : Attempt → Bool
  | alone _ _ => true
  | inPipeline _ isLast _ _ => isLast

/-- **Which streams are opened**: the error stream, and the output of a command that exists, unless
the next stage reads it. -/
theorem mem_streams_iff :
    stream ∈ a.streams ↔ stream = .stderr ∨ a.hasOutput = true ∧ a.call.1 ≠ .missing := by
  cases a with
  | alone stage s =>
    rw [streams]
    cases (alone stage s).call.1 <;> cases stream <;>
      simp [hasOutput, Course.streamsAlone, streamsOf]
  | inPipeline stage isLast upstream s =>
    rw [streams]
    cases (inPipeline stage isLast upstream s).call.1 <;> cases stream <;> cases isLast <;>
      simp [hasOutput, Course.streamsInPipeline, streamsOf]

/-- The request to the machine for the program of the command, if it is one. -/
def request? : Attempt → Option Launch
  | alone stage s => stage.requestAlone? s
  | inPipeline stage isLast upstream s => stage.request? isLast upstream s

/-- Before the streams of a command are opened, a look-up may be remembered, and the shell may let
go of a pipe. -/
theorem ready_eq (a : Attempt) : a.before.env.LookedUp a.ready.env ∧
    a.ready.world = { a.before.world with pipes := a.ready.world.pipes } := by
  cases a with
  | alone stage s =>
    obtain ⟨henv, hworld⟩ := s.lookedUp_call stage
    refine ⟨henv, ?_⟩
    rw [ready, call, hworld]
    rfl
  | inPipeline stage isLast upstream s =>
    obtain ⟨henv, hworld⟩ := s.lookedUp_call stage
    have hready : ∀ course : Course, (course.ready upstream (s.call stage).2).env =
          (s.call stage).2.env ∧ (course.ready upstream (s.call stage).2).world =
        { s.world with pipes := (course.ready upstream (s.call stage).2).world.pipes } := by
      rw [← hworld]
      intro course
      cases course <;> cases upstream <;> exact ⟨rfl, rfl⟩
    obtain ⟨henv', hworld'⟩ := hready (s.call stage).1
    exact ⟨henv' ▸ henv, hworld'⟩

/-- So a target can be opened then if it can be now. -/
theorem canOpen_ready (a : Attempt) (r : Redirection) :
    a.ready.canOpen r = a.before.canOpen r := by
  obtain ⟨henv, hworld⟩ := a.ready_eq
  exact Session.canOpen_of_keeps henv.directory (by rw [hworld]; exact ⟨rfl, .refl _⟩) r

/-- **A command stops at a target that cannot be opened**, whatever it is and wherever it stands. -/
theorem stops (h : ∃ r ∈ a.targets, a.before.canOpen r = false) :
    ∃ r fault s' pipes, a.ready.StopsAt a.stage a.streams r fault s' ∧
      a.Fails (.redirection r.target fault) ∧
      a.after = { s' with world := { s'.world with pipes } } := by
  have hready : ∃ r ∈ a.targets, a.ready.canOpen r = false := by
    simpa only [canOpen_ready] using h
  cases a with
  | alone stage s =>
    obtain ⟨r, fault, s', hstops, hrun⟩ :=
      Course.alone_stops (s.call stage).1 stage (s.call stage).2 hready
    refine ⟨r, fault, s', s'.world.pipes, hstops, ?_, ?_⟩
    · rw [Fails, run_beginSingle, hrun]
    · rw [after, run_beginSingle, hrun]
  | inPipeline stage isLast upstream s =>
    obtain ⟨r, fault, s', pipes, hstops, hrun⟩ :=
      Course.inPipeline_stops (s.call stage).1 stage (s.call stage).2 isLast upstream hready
    refine ⟨r, fault, s', pipes, hstops, ?_, ?_⟩
    · rw [Fails, run_beginStage, hrun]
    · rw [after, run_beginStage, hrun]

/-- No request is made for such a command. -/
theorem request?_of_unopened (h : ∃ r ∈ a.targets, a.ready.canOpen r = false) :
    a.request? = none := by
  cases a with
  | alone stage s =>
    rw [request?, Stage.requestAlone?]
    rcases hcall : s.call stage with ⟨course, s₁⟩
    cases course with
    | builtin | missing => rfl
    | program path =>
      simp only [targets, streams, ready, call, hcall] at h
      have hstage : ∃ r ∈ stage.targets [.stdout, .stderr], s₁.canOpen r = false := h
      obtain ⟨r, fault, s', -, hopen⟩ := openBoth_stops hstage
      simp only [hopen]
  | inPipeline stage isLast upstream s =>
    rw [request?, Stage.request?]
    rcases hcall : s.call stage with ⟨course, s₁⟩
    cases course with
    | builtin | missing => rfl
    | program path =>
      simp only [targets, streams, ready, call, hcall] at h
      have hstage : ∃ r ∈ stage.targets (streamsOf isLast), s₁.canOpen r = false := h
      obtain ⟨r, fault, s', -, hopen⟩ := openStreams_stops hstage
      simp only [hopen]

theorem job?_of_unopened (h : ∃ r ∈ a.targets, a.ready.canOpen r = false) : a.job? = none := by
  rw [job?]
  split
  next hopened => exact absurd hopened (Session.openAll_ne_ok h _)
  next => rfl

/-- The command fails, and nothing comes of it. -/
structure ComesToNothing (a : Attempt) (f : Failure) : Prop where
  fails : a.Fails f
  /-- No built-in command is run. -/
  job : a.job? = none
  /-- No program is to be started, -/
  request : a.request? = none
  /-- and no process is. -/
  processes : a.after.world.processes = a.before.world.processes
  terminal : a.after.world.terminal = a.before.world.terminal
  /-- At most, files were created or emptied when they were opened. -/
  files : a.before.world.files.SameShape a.after.world.files
  env : a.before.env.LookedUp a.after.env

/-- **A command comes to nothing if a target cannot be opened**, and it fails over the first one. -/
theorem exists_comesToNothing (h : ∃ r ∈ a.targets, a.before.canOpen r = false) :
    ∃ r fault, a.targets.find? (fun r => !a.before.canOpen r) = some r ∧
      a.ComesToNothing (.redirection r.target fault) := by
  obtain ⟨r, fault, s', pipes, hstops, hfails, hafter⟩ := stops h
  obtain ⟨hlooked, hready⟩ := a.ready_eq
  have hopens := hstops.opens
  have hunopened : ∃ r ∈ a.targets, a.ready.canOpen r = false := by
    simpa only [canOpen_ready] using h
  refine ⟨r, fault, by simpa only [targets, canOpen_ready] using hstops.find?,
    hfails, job?_of_unopened hunopened, request?_of_unopened hunopened, ?_, ?_, ?_, ?_⟩
  · rw [hafter]
    exact hopens.processes.trans (by rw [hready])
  · rw [hafter]
    exact hopens.terminal.trans (by rw [hready])
  · rw [hafter]
    have hshape := hopens.files
    rw [hready] at hshape
    exact hshape
  · rw [hafter]
    exact hstops.env ▸ hlooked

end Attempt

/-! ## 3. Lines -/

namespace Pipeline

open State

variable {s : Session} {stages : List Stage} {log : List Entry} {e : Entry} {st : State}

/-- A stage that fails is the last one that a run begins. -/
theorem Run.since_of_fails (h : Run (.start s stages) log st) (he : e ∈ log) (hfails : e.Fails) :
    st.aborted = true ∧ Since e.after st.session := by
  have hlogged := h.logged
  cases ha : st.aborted with
  | false => exact absurd hfails ((hlogged.going ha).2 e he)
  | true =>
    obtain ⟨older, last, rfl, -, hfirst, -⟩ := hlogged.givenUp ha
    rcases List.mem_append.mp he with holder | hlast
    · exact absurd hfails (hfirst e holder)
    · obtain rfl := List.mem_singleton.mp hlast
      have hsince := hlogged.since
      rw [lastSession_concat] at hsince
      exact ⟨rfl, hsince⟩

/-- A pipeline with such a stage comes to an end: all its programs are killed. -/
theorem exists_of_fails (he : e ∈ begunIn s stages) (hfails : e.Fails) (patience : Nat) :
    ∃ result s', s.execute patience (.pipeline stages) = some (result, s') := by
  rcases hrun : s.execute patience (.pipeline stages) with _ | ⟨result, s'⟩
  · obtain ⟨st, hst, hgoing, -⟩ := exists_busy_of_none hrun
    have haborted := ((run_begunIn_of_reaches hst).1.since_of_fails he hfails).1
    rw [hgoing] at haborted
    cases haborted
  · exact ⟨result, s', rfl⟩

end Pipeline

/-- A command that is begun when a line is carried out. -/
inductive Session.Begins (s : Session) : Line → Attempt → Prop
  | single {stage : Stage} (hname : stage.isEmpty = false) :
      Begins s (.single stage) (.alone stage s)
  | pipeline {stages : List Stage} {e : Pipeline.Entry}
      (he : e ∈ Pipeline.begunIn s stages) : Begins s (.pipeline stages) e.attempt

section Lines

variable {s s' : Session} {line : Line} {a : Attempt} {f : Failure} {patience : Nat}
  {reached : List Attempt} {result : Except Failure Unit}

/-- A single command that fails is at its end. -/
theorem Session.runSingle_of_fails {stage : Stage} (h : (Attempt.alone stage s).Fails f) :
    s.runSingle patience stage = some (.error f, (Attempt.alone stage s).after) := by
  have hrun : (beginSingle stage).run.run s = (.error f, (Attempt.alone stage s).after) :=
    Prod.ext h rfl
  rw [runSingle, hrun]

/-- A line fails with the command, and leaves the environment as the command did. -/
theorem Session.Attempts.of_fails (h : s.Attempts patience line reached result s')
    (ha : a ∈ reached) (hfails : a.Fails f) : result = .error f ∧ s'.env = a.after.env := by
  refine ⟨h.error_iff.mpr ⟨a, ha, hfails⟩, ?_⟩
  cases h with
  | nothing => cases ha
  | @single stage _ _ hrun =>
    obtain rfl := List.mem_singleton.mp ha
    obtain ⟨-, rfl⟩ := Prod.mk.inj (Option.some.inj (hrun.symm.trans (runSingle_of_fails hfails)))
    rfl
  | pipeline hrun hover =>
    obtain ⟨e, he, rfl⟩ := List.mem_map.mp ha
    have hfails' : e.Fails := e.fails_iff.mpr (.inr ⟨f, hfails⟩)
    exact (hrun.since_of_fails he hfails').2.env

/-- **A line that begins a command which fails** fails for the same reason. -/
theorem Session.Begins.execute (h : s.Begins line a) (hfails : a.Fails f) (patience : Nat) :
    ∃ s', s.execute patience line = some (.error f, s') ∧ s'.env = a.after.env := by
  cases h with
  | @single stage hname =>
    refine ⟨(Attempt.alone stage s).after, ?_, rfl⟩
    rw [Session.execute, hname]
    exact runSingle_of_fails hfails
  | @pipeline stages e he =>
    have hfails' : e.Fails := e.fails_iff.mpr (.inr ⟨f, hfails⟩)
    obtain ⟨result, s', hrun⟩ := Pipeline.exists_of_fails he hfails' patience
    obtain ⟨st, hlog, hover, rfl, henv⟩ := Pipeline.exists_run_of_execute hrun
    refine ⟨s', ?_, ?_⟩
    · rw [hrun, (Pipeline.outcome_error_iff hlog hover).mpr ⟨e, he, hfails⟩]
    · rw [henv]
      exact (hlog.since_of_fails he hfails').2.env

end Lines

/-- What is reported begins with the target, as it was written. -/
theorem Failure.message_redirection (target : String) (fault : Fault) :
    (Failure.redirection target fault).message =
      target ++ (": cannot open redirect target: " ++ fault.message) := by
  rw [message, causes, String.intercalate_cons_cons, String.intercalate_singleton,
    String.append_assoc, String.append_assoc]
  rfl

/-- **A command whose target cannot be opened does not run.**  Take any command that is begun, alone
on its line or at any place in a pipeline: built in, a program, or one that does not exist.  Its
error stream is opened, and its output as well if the command exists and no other one reads it.
Suppose that the target of one of these cannot be opened.

* Then the command comes to nothing: no built-in command is run, no program is to be started and no
  process is, and the terminal is as it was.  The environment is too, but that the result of looking
  the command up may be remembered (`Attempt.ComesToNothing`).
* It fails over the first such target, and what is reported begins with it as it was written.
* So does the line, in whatever order things happen, and it leaves the environment as the command
  did.  When the line is carried out it always comes to its end. -/
theorem Attempt.unopened {a : Attempt} {stream : Stream} {r : Redirection}
    (hstream : stream = .stderr ∨ a.hasOutput = true ∧ a.call.1 ≠ .missing)
    (hr : a.stage.redirection? stream = some r) (hcannot : a.before.canOpen r = false) :
    ∃ r fault, a.targets.find? (fun r => !a.before.canOpen r) = some r ∧
      a.ComesToNothing (.redirection r.target fault) ∧
      (∃ reason, (Failure.redirection r.target fault).message = r.target ++ reason) ∧
      (∀ (patience : Nat) (s : Session) line reached result s',
        s.Attempts patience line reached result s' → a ∈ reached →
          result = .error (.redirection r.target fault) ∧ s'.env = a.after.env) ∧
      ∀ (s : Session) line, s.Begins line a → ∀ patience, ∃ s',
        s.execute patience line = some (.error (.redirection r.target fault), s') ∧
          s'.env = a.after.env := by
  have htarget : ∃ r ∈ a.targets, a.before.canOpen r = false :=
    ⟨r, List.mem_filterMap.mpr ⟨stream, mem_streams_iff.mpr hstream, hr⟩, hcannot⟩
  obtain ⟨r, fault, hfirst, hnothing⟩ := exists_comesToNothing htarget
  refine ⟨r, fault, hfirst, hnothing, ⟨_, Failure.message_redirection r.target fault⟩, ?_, ?_⟩
  · intro patience s line reached result s' hreached ha
    exact hreached.of_fails ha hnothing.fails
  · intro s line hbegins patience
    exact hbegins.execute hnothing.fails patience

/-- The command whose output is to go to a directory that does not exist is not run. -/
theorem Attempt.unopened_gone :
    ∃ fault s', fullSession.execute 0 (.single goneStage) =
        some (.error (.redirection "/gone/out" fault), s') ∧
      s'.env = (Attempt.alone goneStage fullSession).after.env ∧
      (Attempt.alone goneStage fullSession).ComesToNothing (.redirection "/gone/out" fault) := by
  have hcannot : fullSession.canOpen ⟨"/gone/out", .overwrite⟩ = false := by decide
  obtain ⟨r, fault, hfirst, hnothing, -, -, hline⟩ :=
    @Attempt.unopened (.alone goneStage fullSession) .stdout ⟨"/gone/out", .overwrite⟩
      (.inr ⟨rfl, nofun⟩) rfl hcannot
  obtain ⟨s', hrun, henv⟩ := hline fullSession _ (.single rfl) 0
  obtain rfl : r = ⟨"/gone/out", .overwrite⟩ := by
    have htargets : (Attempt.alone goneStage fullSession).targets =
        [⟨"/gone/out", .overwrite⟩] := rfl
    have hmem := List.mem_of_find?_eq_some hfirst
    rwa [htargets, List.mem_singleton] at hmem
  exact ⟨fault, s', hrun, henv, hnothing⟩

end CommandShell
