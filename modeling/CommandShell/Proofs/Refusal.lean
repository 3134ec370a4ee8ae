/-
# Why a line fails

A line is run by beginning its commands (`Attempt`).  For each one the targets of its streams are
opened first, and which ones and in which order follows from what the command is and where it
stands.  If a target cannot be opened, the line fails (`Attempt.Unopened`).

It also fails when a command cannot say what went wrong: a built-in command fails, or there is no
such command, and the stream for reporting that takes nothing (`Attempt.Unheard`).  No command fails
for another reason (`Attempt.Fails.cases`), and a line fails when one of its commands does
(`Session.Attempts.error_iff`).

So a line fails over targets that cannot be opened only, exactly if none of its commands is left
unheard (`Session.fails_over_targets_iff`); `fails_unheard` is a line of which one is.
-/
import CommandShell.Proofs.Course
import CommandShell.Proofs.PipelineEnd
import CommandShell.Proofs.Printing
import CommandShell.Proofs.Written

namespace CommandShell

open CommandShell.Action

/-! ## 1. Opening the streams of a command -/

/-- Opens the targets of some streams of a stage, one after the other. -/
def World.openAll (directory : String) (first : Nat) (stage : Stage) :
    List Stream → World → Except Failure (List (Stream × Channel) × World)
  | [], w => .ok ([], w)
  | stream :: rest, w =>
    match w.openOutlet directory first stream (stage.redirection? stream) with
    | .error f => .error f
    | .ok (c, w) =>
      match w.openAll directory first stage rest with
      | .error f => .error f
      | .ok (opened, w) => .ok ((stream, c) :: opened, w)

/-- A target of the stage that cannot be opened, on a machine on which that was tried. -/
def Stage.HasUnopened (stage : Stage) (directory : String) (f : Failure) : Prop :=
  ∃ stream r fault number w, stage.redirection? stream = some r ∧
    World.openAs w number w.directory (Path.join directory r.target) (.write r.mode) =
      .error fault ∧ f = .redirection r.target fault

/-- Opening streams fails over such a target only. -/
theorem World.openAll_error {directory : String} {first : Nat} {stage : Stage} {f : Failure} :
    ∀ {streams : List Stream} {w : World}, w.openAll directory first stage streams = .error f →
      stage.HasUnopened directory f
  | [], _, h => by cases h
  | stream :: rest, w, h => by
    rw [openAll] at h
    split at h
    next f' hopen =>
      obtain rfl := Except.error.inj h
      cases hr : stage.redirection? stream with
      | none =>
        rw [hr] at hopen
        cases hopen
      | some r =>
        rw [hr] at hopen
        simp only [openOutlet] at hopen
        rcases ho : w.openAs (outletNumber first stream) w.directory
          (Path.join directory r.target) (.write r.mode) with fault | opened
        · simp only [ho, Except.mapError, Except.error.injEq] at hopen
          exact ⟨stream, r, fault, _, w, hr, ho, hopen.symm⟩
        · simp [ho, Except.mapError] at hopen
    next c w' hopen =>
      split at h
      next f' hrest =>
        obtain rfl := Except.error.inj h
        exact openAll_error hrest
      next => cases h

/-- Opens the targets of some streams in a session, which takes two numbers for them. -/
def Session.openAll (s : Session) (stage : Stage) (streams : List Stream) :
    Except Failure (List (Stream × Channel) × World) :=
  { s.world with nextFile := s.world.nextFile + 2 }.openAll s.env.directory s.world.nextFile stage
    streams

/-- Both streams of a single command are opened, or one cannot be. -/
theorem openBoth_cases (stage : Stage) (s : Session) :
    (∃ f s', (openBoth stage).run.run s = (.error f, s') ∧
      s.openAll stage [.stdout, .stderr] = .error f) ∨
    ∃ stdout stderr w, (openBoth stage).run.run s = (.ok (stdout, stderr), { s with world := w }) ∧
      s.openAll stage [.stdout, .stderr] = .ok ([(.stdout, stdout), (.stderr, stderr)], w) := by
  simp only [openBoth, run_bind, run_takeNumbers, run_openOutlet, Session.openAll, World.openAll,
    Stage.redirection?]
  rcases hout : { s.world with nextFile := s.world.nextFile + 2 }.openOutlet s.env.directory
    s.world.nextFile .stdout stage.stdout with f | ⟨stdout, w₁⟩
  · exact .inl ⟨f, _, Prod.ext (by simp only [hout]) rfl, by simp only [hout]⟩
  · rcases herr : w₁.openOutlet s.env.directory s.world.nextFile .stderr stage.stderr with
      f | ⟨stderr, w₂⟩
    · exact .inl ⟨f, _, Prod.ext (by simp only [hout, herr]) rfl, by simp only [hout, herr]⟩
    · exact .inr ⟨stdout, stderr, w₂, by simp only [hout, herr, run_pure],
        by simp only [hout, herr]⟩

/-- The streams of a stage that are opened: the error stream, and the output of the last stage. -/
def streamsOf (isLast : Bool) : List Stream := if isLast then [.stderr, .stdout] else [.stderr]

/-- The same of the streams of a stage. -/
theorem openStreams_cases (stage : Stage) (isLast : Bool) (s : Session) :
    (∃ f s', (openStreams stage isLast).run.run s = (.error f, s') ∧
      s.openAll stage (streamsOf isLast) = .error f) ∨
    ∃ stderr stdout w,
      (openStreams stage isLast).run.run s = (.ok (stderr, stdout), { s with world := w }) ∧
      s.openAll stage (streamsOf isLast) =
        .ok ((.stderr, stderr) :: stdout.toList.map (Prod.mk .stdout), w) := by
  simp only [openStreams, run_bind, run_takeNumbers, run_openOutlet, Session.openAll]
  rcases herr : { s.world with nextFile := s.world.nextFile + 2 }.openOutlet s.env.directory
    s.world.nextFile .stderr stage.stderr with f | ⟨stderr, w₁⟩
  · refine .inl ⟨f, _, Prod.ext (by simp only [herr]) rfl, ?_⟩
    cases isLast <;> simp only [streamsOf, World.openAll, Stage.redirection?, herr, if_true,
      Bool.false_eq_true, if_false]
  · cases isLast with
    | false =>
      refine .inr ⟨stderr, none, w₁, ?_, ?_⟩
      · simp only [herr, Bool.false_eq_true, if_false, run_pure]
      · simp only [streamsOf, World.openAll, Stage.redirection?, herr, Bool.false_eq_true, if_false,
          Option.toList_none, List.map_nil]
    | true =>
      rcases hout : w₁.openOutlet s.env.directory s.world.nextFile .stdout stage.stdout with
        f | ⟨stdout, w₂⟩
      · refine .inl ⟨f, _, Prod.ext ?_ rfl, ?_⟩
        · simp only [herr, if_true, run_bind, run_openOutlet, hout]
        · simp only [streamsOf, World.openAll, Stage.redirection?, herr, hout, if_true]
      · refine .inr ⟨stderr, some stdout, w₂, ?_, ?_⟩
        · simp only [herr, if_true, run_bind, run_openOutlet, hout, run_pure]
        · simp only [streamsOf, World.openAll, Stage.redirection?, herr, hout, if_true,
            Option.toList_some, List.map_cons, List.map_nil]

/-! ## 2. Carrying a command out -/

/-- A built-in command at work on streams that were opened.  An output that was not is a buffer for
the next stage. -/
def Session.jobOn (s : Session) (channels : List (Stream × Channel)) (w : World) : Job :=
  { session := { s with world := w }
    stdout := .ofOutput (channels.lookup .stdout)
    stderr := .ofOutput (channels.lookup .stderr) }

theorem Session.jobOn_streams (s : Session) (stderr : Channel) (stdout : Option Channel)
    (w : World) : s.jobOn ((.stderr, stderr) :: stdout.toList.map (Prod.mk .stdout)) w =
      { session := { s with world := w }, stdout := .ofOutput stdout,
        stderr := .channel stderr } := by
  cases stdout <;> rfl

/-- The report that there is no such command is a line. -/
theorem missing_line (name : String) :
    name ++ ": command not found\n" = name ++ ": command not found" ++ "\n" := by
  rw [String.append_assoc]
  rfl

namespace Course

/-- A command fails although its streams were opened. -/
def FailsOn (name : String) (job : Job) (f : Failure) : Course → Prop
  | .builtin b => (b.run.run.run job).1 = .error f
  | .program _ => False
  | .missing => job.stderr.write job.session.world
      (Text.encode (name ++ ": command not found\n")) = .error f

/-- The command fails over opening its streams, or when they are open. -/
def FailsIn (course : Course) (s : Session) (stage : Stage) (streams : List Stream)
    (f : Failure) : Prop :=
  s.openAll stage streams = .error f ∨ ∃ channels w,
    s.openAll stage streams = .ok (channels, w) ∧ course.FailsOn stage.name (s.jobOn channels w) f

variable {s : Session} {stage : Stage} {streams : List Stream} {f : Failure} {course : Course}

theorem failsIn_of_error {f' : Failure} (h : s.openAll stage streams = .error f') :
    course.FailsIn s stage streams f ↔ f' = f := by
  simp [FailsIn, h]

theorem failsIn_of_ok {channels : List (Stream × Channel)} {w : World}
    (h : s.openAll stage streams = .ok (channels, w)) :
    course.FailsIn s stage streams f ↔ course.FailsOn stage.name (s.jobOn channels w) f := by
  simp [FailsIn, h]

/-- An action for which both streams are opened first. -/
theorem openBoth_bind_fails_iff {α : Type} {k : Channel × Channel → Action α}
    (hk : ∀ stdout stderr w f, ((k (stdout, stderr)).run.run { s with world := w }).1 = .error f ↔
      course.FailsOn stage.name
        (s.jobOn [(.stdout, stdout), (.stderr, stderr)] w) f) :
    ((openBoth stage >>= k).run.run s).1 = .error f ↔
      course.FailsIn s stage [.stdout, .stderr] f := by
  rw [run_bind]
  rcases openBoth_cases stage s with ⟨f', s', hopen, hall⟩ | ⟨stdout, stderr, w, hopen, hall⟩
  · rw [failsIn_of_error hall, hopen]
    simp
  · rw [failsIn_of_ok hall, hopen]
    exact hk stdout stderr w f

/-- One for which the streams of a stage are. -/
theorem openStreams_bind_fails_iff {α : Type} {isLast : Bool}
    {k : Channel × Option Channel → Action α}
    (hk : ∀ stderr stdout w f, ((k (stderr, stdout)).run.run { s with world := w }).1 = .error f ↔
      course.FailsOn stage.name
        (s.jobOn ((.stderr, stderr) :: stdout.toList.map (Prod.mk .stdout)) w) f) :
    ((openStreams stage isLast >>= k).run.run s).1 = .error f ↔
      course.FailsIn s stage (streamsOf isLast) f := by
  rw [run_bind]
  rcases openStreams_cases stage isLast s with ⟨f', s', hopen, hall⟩ |
    ⟨stderr, stdout, w, hopen, hall⟩
  · rw [failsIn_of_error hall, hopen]
    simp
  · rw [failsIn_of_ok hall, hopen]
    exact hk stderr stdout w f

/-- A built-in command that is run fails as it does, whatever is done with its output. -/
theorem runBuiltin_bind_fails_iff {α : Type} {b : Builtin} {stdout stderr : Sink}
    {k : Sink → Action α} (hk : ∀ sink s', ∃ a s'', (k sink).run.run s' = (.ok a, s'')) :
    ((runBuiltin b stdout stderr >>= k).run.run s).1 = .error f ↔
      (b.run.run.run { session := s, stdout, stderr }).1 = .error f := by
  rw [run_bind, run_runBuiltin]
  rcases b.run.run.run { session := s, stdout, stderr } with ⟨g | status, job⟩
  · simp
  · obtain ⟨a, s'', hrun⟩ := hk job.stdout job.session
    simp [hrun]

/-- A report that a command does not exist fails as its printing does. -/
theorem reportMissing_bind_fails_iff {α : Type} {name : String} {stderr : Channel} (a : α) :
    ((reportMissing name stderr >>= fun _ => pure a).run.run s).1 = .error f ↔
      Sink.write s.world (.channel stderr) (Text.encode (name ++ ": command not found\n")) =
        .error f := by
  rw [run_bind, run_reportMissing]
  rcases Sink.write s.world (.channel stderr) (Text.encode (name ++ ": command not found\n")) with
    g | opened <;> simp

/-- The streams that are opened for a single command: both, or the one on which it is reported as
missing. -/
def streamsAlone : Course → List Stream
  | .builtin _ => [.stdout, .stderr]
  | .program _ => [.stdout, .stderr]
  | .missing => streamsOf false

/-- The streams that are opened for a stage of a pipeline. -/
def streamsInPipeline (isLast : Bool) : Course → List Stream
  | .builtin _ => streamsOf isLast
  | .program _ => streamsOf isLast
  | .missing => streamsOf false

/-- The session in which that happens: a stage that is no program has let go of what it would have
read. -/
def ready (upstream : Upstream) (s : Session) : Course → Session
  | .builtin _ => { s with world := s.world.hand upstream .drains }
  | .program _ => s
  | .missing => { s with world := s.world.hand upstream .nobody }

/-- **When a single command fails** that is carried out. -/
theorem alone_fails_iff (course : Course) :
    ((course.alone stage).run.run s).1 = .error f ↔
      course.FailsIn s stage course.streamsAlone f := by
  cases course with
  | builtin b =>
    apply openBoth_bind_fails_iff
    intro stdout stderr w f
    exact runBuiltin_bind_fails_iff fun sink s' => ⟨none, s', rfl⟩
  | program path =>
    apply openBoth_bind_fails_iff
    intro stdout stderr w f
    rw [run_launch]
    split <;> simp [FailsOn]
  | missing =>
    apply openStreams_bind_fails_iff
    intro stderr stdout w f
    exact reportMissing_bind_fails_iff none

/-- **When a stage of a pipeline fails** that is carried out. -/
theorem inPipeline_fails_iff (course : Course) (isLast : Bool) (upstream : Upstream) :
    ((course.inPipeline stage isLast upstream).run.run s).1 = .error f ↔
      course.FailsIn (course.ready upstream s) stage (course.streamsInPipeline isLast) f := by
  cases course with
  | builtin b =>
    simp only [inPipeline, beginBuiltin_eq, bind_assoc, pure_bind]
    rw [run_bind, run_drain]
    apply openStreams_bind_fails_iff
    intro stderr stdout w f
    rw [FailsOn, Session.jobOn_streams]
    exact runBuiltin_bind_fails_iff fun sink s' => ⟨.builtin sink.collected, s', rfl⟩
  | program path =>
    have hcatch : ((inPipeline stage isLast upstream (.program path)).run.run s).1 = .error f ↔
        ((beginProgram path stage isLast upstream).run.run s).1 = .error f := by
      rw [inPipeline, run_tryCatch]
      rcases (beginProgram path stage isLast upstream).run.run s with ⟨g | beginning, s'⟩
      · simp only [run_bind, run_release, run_throw]
      · exact Iff.rfl
    rw [hcatch, beginProgram_eq]
    apply openStreams_bind_fails_iff
    intro stderr stdout w f
    simp only [run_bind, run_connectOutput, run_inlet, run_launch, FailsOn, iff_false]
    -- With its streams open a program at most cannot be started, and that is no failure.
    rcases World.launch _ _ with _ | ⟨process, w'⟩
    · simp only [run_bind, run_release, run_pure]
      exact fun h => by cases h
    · simp only [run_bind, run_release, run_pure]
      exact fun h => by cases h
  | missing =>
    rw [inPipeline, run_bind, run_release]
    apply openStreams_bind_fails_iff
    intro stderr stdout w f
    exact reportMissing_bind_fails_iff _

/-- Something is to be reported, but the stream for that refuses it: a built-in command fails, or
there is no such command. -/
def Unheard (job : Job) : Course → Prop
  | .builtin b => b.Unheard job
  | .program _ => False
  | .missing => job.stderr.refuses = true

/-- **With its streams open a command fails only over its report.** -/
theorem FailsOn.unheard {name : String} {job : Job} (h : course.FailsOn name job f) :
    (∃ e, f = .stream (.os e)) ∧ course.Unheard job := by
  cases course with
  | builtin b =>
    have hrun : b.run.run.run job = (.error f, (b.run.run.run job).2) := Prod.ext h rfl
    exact Builtin.run_error hrun
  | program path => exact h.elim
  | missing =>
    rw [FailsOn, missing_line] at h
    cases hr : job.stderr.refuses with
    | true =>
      obtain ⟨e, he⟩ := Sink.write_of_refuses job.session.world hr
        (Text.encode_line_ne_nil (name ++ ": command not found"))
      rw [he] at h
      exact ⟨⟨e, (Except.error.inj h).symm⟩, hr⟩
    | false =>
      obtain ⟨w, hw⟩ := Sink.write_of_takes job.session.world
        (Text.encode (name ++ ": command not found" ++ "\n")) hr
      rw [hw] at h
      cases h

/-- And it does fail over that. -/
theorem exists_failsOn_of_unheard (name : String) {job : Job} (h : course.Unheard job) :
    ∃ f, course.FailsOn name job f := by
  cases course with
  | builtin b =>
    obtain ⟨f, job', hrun⟩ := Builtin.run_error_iff.mpr h
    exact ⟨f, by rw [FailsOn, hrun]⟩
  | program path => exact h.elim
  | missing =>
    obtain ⟨e, he⟩ := Sink.write_of_refuses job.session.world h
      (Text.encode_line_ne_nil (name ++ ": command not found"))
    exact ⟨.stream (.os e), by rw [FailsOn, missing_line, he]⟩

end Course

/-! ## 3. Commands that are begun -/

/-- A command that is begun in a session. -/
inductive Attempt
  /-- Alone on its line. -/
  | alone (stage : Stage) (s : Session)
  | inPipeline (stage : Stage) (isLast : Bool) (upstream : Upstream) (s : Session)

namespace Attempt

def stage : Attempt → Stage
  | alone stage _ => stage
  | inPipeline stage _ _ _ => stage

/-- What the command turns out to be, with the session after that. -/
def call : Attempt → Course × Session
  | alone stage s => s.call stage
  | inPipeline stage _ _ s => s.call stage

/-- The session in which its streams are opened. -/
def ready (a : Attempt) : Session :=
  match a with
  | alone _ _ => a.call.2
  | inPipeline _ _ upstream _ => a.call.1.ready upstream a.call.2

/-- The streams that are opened, in this order. -/
def streams (a : Attempt) : List Stream :=
  match a with
  | alone _ _ => a.call.1.streamsAlone
  | inPipeline _ isLast _ _ => a.call.1.streamsInPipeline isLast

/-- The command fails. -/
def Fails (f : Failure) : Attempt → Prop
  | alone stage s => ((beginSingle stage).run.run s).1 = .error f
  | inPipeline stage isLast upstream s =>
    ((beginStage stage isLast upstream).run.run s).1 = .error f

/-- One of its targets cannot be opened. -/
def Unopened (a : Attempt) (f : Failure) : Prop := a.ready.openAll a.stage a.streams = .error f

/-- Its streams are opened, but the one for its report refuses it. -/
def Unheard (a : Attempt) : Prop :=
  ∃ channels w, a.ready.openAll a.stage a.streams = .ok (channels, w) ∧
    a.call.1.Unheard (a.ready.jobOn channels w)

variable {a : Attempt} {f : Failure}

/-- A command fails in opening its streams, or when they are open. -/
theorem fails_iff_failsIn : a.Fails f ↔ a.call.1.FailsIn a.ready a.stage a.streams f := by
  cases a with
  | alone stage s =>
    rw [Fails, run_beginSingle]
    exact Course.alone_fails_iff _
  | inPipeline stage isLast upstream s =>
    rw [Fails, run_beginStage]
    exact Course.inPipeline_fails_iff _ isLast upstream

/-- **Why a command fails**: over a target that cannot be opened, or over its report. -/
theorem Fails.cases (h : a.Fails f) : a.Unopened f ∨ a.Unheard ∧ ∃ e, f = .stream (.os e) := by
  rcases fails_iff_failsIn.mp h with hopen | ⟨channels, w, hopen, hfails⟩
  · exact .inl hopen
  · obtain ⟨he, hunheard⟩ := hfails.unheard
    exact .inr ⟨⟨channels, w, hopen, hunheard⟩, he⟩

/-- There is a target then. -/
theorem Unopened.hasUnopened (h : a.Unopened f) :
    a.stage.HasUnopened a.ready.env.directory f :=
  World.openAll_error h

theorem Unheard.fails (h : a.Unheard) : ∃ f, a.Fails f := by
  obtain ⟨channels, w, hopen, hunheard⟩ := h
  obtain ⟨f, hf⟩ := Course.exists_failsOn_of_unheard a.stage.name hunheard
  exact ⟨f, fails_iff_failsIn.mpr (.inr ⟨channels, w, hopen, hf⟩)⟩

/-- A command is not both. -/
theorem Unopened.not_unheard (h : a.Unopened f) : ¬ a.Unheard := by
  rintro ⟨channels, w, hopen, -⟩
  rw [Unopened, hopen] at h
  cases h

end Attempt

/-! ## 4. Lines -/

/-- The stage of a pipeline that was begun. -/
def Pipeline.Entry.attempt (e : Pipeline.Entry) : Attempt :=
  .inPipeline e.stage e.before.waiting.isEmpty e.before.upstream e.before.session

/-- The commands that are begun when a line is run, with the result and the session after it. -/
inductive Session.Attempts (patience : Nat) (s : Session) :
    Line → List Attempt → Except Failure Unit → Session → Prop
  /-- The line asks for nothing. -/
  | nothing {stage : Stage} (h : stage.isEmpty = true) :
      Attempts patience s (.single stage) [] (.ok ()) s
  | single {stage : Stage} {result : Except Failure Unit} {s' : Session}
      (hrun : s.runSingle patience stage = some (result, s')) :
      Attempts patience s (.single stage) [.alone stage s] result s'
  /-- Whatever happens in between, the stages of a pipeline are begun until it is over. -/
  | pipeline {stages : List Stage} {log : List Pipeline.Entry} {st : Pipeline.State}
      (hrun : Pipeline.Run (.start s stages) log st) (hover : st.isOver = true) :
      Attempts patience s (.pipeline stages) (log.map Pipeline.Entry.attempt) st.outcome
        (st.onWorld World.stopDraining).session

section Lines

variable {patience : Nat} {line : Line} {s s' : Session} {result : Except Failure Unit}
  {reached : List Attempt} {f : Failure}

/-- **Every line that is run begins some commands**, if any. -/
theorem Session.exists_attempts (h : s.execute patience line = some (result, s')) :
    ∃ reached, s.Attempts patience line reached result s' := by
  cases line with
  | single stage =>
    rw [execute] at h
    split at h
    next hempty =>
      obtain ⟨rfl, rfl⟩ := Prod.mk.inj (Option.some.inj h)
      exact ⟨[], .nothing hempty⟩
    next => exact ⟨[.alone stage s], .single h⟩
  | pipeline stages =>
    obtain ⟨log, st, hrun, hover, rfl, rfl⟩ := Pipeline.exists_run_of_runPipeline h
    exact ⟨_, .pipeline hrun hover⟩

/-- A single command fails if it cannot be begun; waiting for it does not fail. -/
theorem Session.runSingle_error_iff {stage : Stage}
    (h : s.runSingle patience stage = some (result, s')) :
    result = .error f ↔ (Attempt.alone stage s).Fails f := by
  rw [Attempt.Fails]
  simp only [runSingle] at h
  split at h
  next f' s₁ hrun =>
    obtain ⟨rfl, rfl⟩ := Prod.mk.inj (Option.some.inj h)
    simp [hrun]
  next s₁ hrun =>
    obtain ⟨rfl, rfl⟩ := Prod.mk.inj (Option.some.inj h)
    simp [hrun]
  next process s₁ hrun =>
    obtain ⟨w, -, heq⟩ := Option.map_eq_some_iff.mp h
    obtain ⟨rfl, rfl⟩ := Prod.mk.inj heq
    simp [hrun]

/-- A pipeline fails if one of its stages cannot be begun. -/
theorem Pipeline.outcome_error_iff {stages : List Stage} {log : List Entry} {st : State}
    (hrun : Run (.start s stages) log st) (hover : st.isOver = true) :
    st.outcome = .error f ↔ ∃ e ∈ log, e.attempt.Fails f := by
  have hfails : ∀ e : Entry, e.attempt.Fails f ↔ e.result = .error f := fun e => Iff.rfl
  have hnone : ∀ e : Entry, ¬ e.Fails → e.result ≠ .error f := by
    intro e hno hresult
    exact hno (e.fails_iff.mpr (.inr ⟨f, hresult⟩))
  rcases hrun.ends hover with ⟨older, e, rfl, hgiven⟩ | hcompleted
  · -- Only the stage at which it was given up has failed.
    have hlast : st.outcome = .error f ↔ e.result = .error f := by
      rw [hgiven.outcome]
      cases e.result <;> simp
    rw [hlast]
    constructor
    · intro hresult
      exact ⟨e, by simp, hresult⟩
    · rintro ⟨e', he', hresult⟩
      rcases List.mem_append.mp he' with hmem | hmem
      · exact absurd hresult (hnone e' (hgiven.first e' hmem))
      · rwa [← List.mem_singleton.mp hmem]
  · rw [hcompleted.outcome]
    constructor
    · intro h
      cases h
    · rintro ⟨e, he, hresult⟩
      exact absurd hresult (hnone e (hcompleted.noneFails e he))

/-- **A line fails when a command that it begins fails**, and for the same reason. -/
theorem Session.Attempts.error_iff (h : s.Attempts patience line reached result s') :
    result = .error f ↔ ∃ a ∈ reached, a.Fails f := by
  cases h with
  | nothing => simp
  | single hrun => simpa using runSingle_error_iff hrun
  | pipeline hrun hover =>
    rw [Pipeline.outcome_error_iff hrun hover]
    simp

/-- **When a line fails over targets that cannot be opened only.**  Take any line that is run, and
the commands that it begins.  The line fails when one of these fails, for the same reason; and each
of them fails over the target of one of its redirections that cannot be opened, or because a stream
refuses its report.  So whenever the line fails there is a target that cannot be opened, exactly if
no command is left unheard. -/
theorem Session.fails_over_targets_iff (h : s.execute patience line = some (result, s')) :
    (∃ reached, s.Attempts patience line reached result s') ∧
      ∀ reached, s.Attempts patience line reached result s' →
        (∀ f, result = .error f ↔ ∃ a ∈ reached, a.Fails f) ∧
        (∀ a ∈ reached, ∀ f, a.Fails f →
          a.Unopened f ∧ a.stage.HasUnopened a.ready.env.directory f ∨
            a.Unheard ∧ ∃ e, f = .stream (.os e)) ∧
        ((∀ f, result = .error f → ∃ a ∈ reached, a.Unopened f) ↔
          ∀ a ∈ reached, ¬ a.Unheard) := by
  refine ⟨exists_attempts h, ?_⟩
  intro reached hreached
  refine ⟨fun f => hreached.error_iff, ?_, ?_, ?_⟩
  · intro a _ f hfails
    rcases hfails.cases with hopen | hunheard
    · exact .inl ⟨hopen, hopen.hasUnopened⟩
    · exact .inr hunheard
  · -- The failure of a report is no failure to open a target.
    intro hall a ha hunheard
    obtain ⟨f, hfails⟩ := hunheard.fails
    obtain ⟨a', ha', hopen'⟩ := hall f (hreached.error_iff.mpr ⟨a, ha, hfails⟩)
    obtain ⟨stream, r, fault, number, w, -, -, hf⟩ := hopen'.hasUnopened
    rcases hfails.cases with hopen | ⟨-, e, he⟩
    · exact hopen.not_unheard hunheard
    · rw [hf] at he
      cases he
  · intro hnone f hresult
    obtain ⟨a, ha, hfails⟩ := hreached.error_iff.mp hresult
    rcases hfails.cases with hopen | ⟨hunheard, -⟩
    · exact ⟨a, ha, hopen⟩
    · exact absurd hunheard (hnone a ha)

end Lines

/-- A shell on a machine with a full device. -/
def fullSession : Session :=
  { env := { directory := "/" }
    world := { files :=
      (FileSystem.empty.set ["dev"] .directory).set ["dev", "full"] (.device .full) } }

/-- A command whose output is to go to a directory that does not exist. -/
def goneStage : Stage := { name := "echo", stdout := some ⟨"/gone/out", .overwrite⟩ }

/-- Its line fails over that target. -/
theorem fails_over_targets_iff_gone :
    ∃ f s', fullSession.execute 0 (.single goneStage) = some (.error f, s') ∧
      ∃ reached, fullSession.Attempts 0 (.single goneStage) reached (.error f) s' ∧
        ∃ a ∈ reached, a.Unopened f := by
  obtain ⟨f, s', h⟩ :
      ∃ f s', fullSession.execute 0 (.single goneStage) = some (.error f, s') := ⟨_, _, rfl⟩
  obtain ⟨⟨reached, hreached⟩, hall⟩ := Session.fails_over_targets_iff h
  obtain ⟨-, -, hiff⟩ := hall reached hreached
  have hheard : ∀ a ∈ reached, ¬ a.Unheard := by
    cases hreached with
    | single hrun =>
      intro a ha
      obtain rfl := List.mem_singleton.mp ha
      rintro ⟨channels, w, hopen, -⟩
      cases hopen
  exact ⟨f, s', h, reached, hreached, hiff.mpr hheard f rfl⟩

/-- A command that does not exist, to be reported to the full device. -/
def unheardStage : Stage := { name := "nope", stderr := some ⟨"/dev/full", .overwrite⟩ }

/-- **A line fails although all targets are opened:** there is no such command, and the device has
no room for saying so. -/
theorem fails_unheard :
    (∃ s', fullSession.execute 0 (.single unheardStage) =
      some (.error (.stream (.os .noSpace)), s')) ∧
    ∀ reached result s', fullSession.Attempts 0 (.single unheardStage) reached result s' →
      ∀ a ∈ reached, ∀ f, ¬ a.Unopened f := by
  refine ⟨⟨_, rfl⟩, ?_⟩
  intro reached result s' hreached a ha f hopen
  cases hreached with
  | nothing hempty => cases hempty
  | single hrun =>
    obtain rfl := List.mem_singleton.mp ha
    cases hopen

end CommandShell
