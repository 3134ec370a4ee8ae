/-
# What commands add to a session

Of the history and of the request to exit a command changes little.  `history -r` adds the entries
of the file that it reads, and `exit` asks to exit; what all other commands do leaves both alone,
and so does a program (`Session.Gains`).

This is said of a built-in command that is run (`Builtin.gains_run`), of any command that is begun
(`Attempt.gains`), and of a whole line with all commands that it begins, up to any of them
(`Session.Attempts.gains`, `Session.Attempts.gains_before`).
-/
import CommandShell.Proofs.Refusal

namespace CommandShell

open CommandShell.Action

/-! ## 1. What a session gains -/

/-- Entries came to the history of a session, and some requests to exit were made, of which the last
one counts. -/
structure Session.Gains (s s' : Session) (entries : List String) (asks : List Int) : Prop where
  session : s'.env.history.session = s.env.history.session ++ entries
  exitRequest : s'.env.exitRequest = asks.getLast?.or s.env.exitRequest

namespace Session.Gains

variable {s s' s'' : Session} {entries more : List String} {asks asked : List Int}

theorem of_env (h : s'.env = s.env) : s.Gains s' [] [] := ⟨by simp [h], by simp [h]⟩

theorem refl (s : Session) : s.Gains s [] [] := .of_env rfl

theorem trans (h : s.Gains s' entries asks) (h' : s'.Gains s'' more asked) :
    s.Gains s'' (entries ++ more) (asks ++ asked) where
  session := by rw [h'.session, h.session, List.append_assoc]
  exitRequest := by rw [h'.exitRequest, h.exitRequest, List.getLast?_append, Option.or_assoc]

/-- Nothing is gained after something was. -/
theorem idle (h : s.Gains s' entries asks) (h' : s'.Gains s'' [] []) :
    s.Gains s'' entries asks := by
  simpa using h.trans h'

theorem after_idle (h : s.Gains s' [] []) (h' : s'.Gains s'' entries asks) :
    s.Gains s'' entries asks := by
  simpa using h.trans h'

end Session.Gains

theorem Session.gains_resolve (s : Session) (name : String) :
    s.Gains (s.resolve name).2 [] [] := ⟨by simp [resolve], by simp [resolve]⟩

/-! ## 2. Built-in commands -/

namespace Deed

/-- What is done adds nothing. -/
def Idle {α : Type} (m : Deed α) : Prop :=
  ∀ job : Job, job.session.Gains (m.run.run job).2.session [] []

theorem Idle.bind {α β : Type} {m : Deed α} {f : α → Deed β} (hm : m.Idle)
    (hf : ∀ a, (f a).Idle) : (m >>= f).Idle := fun job =>
  related_bind (R := fun job job' : Job => job.session.Gains job'.session [] []) .idle (hm job)
    fun a job' _ => hf a job'

theorem idle_pure {α : Type} (a : α) : (pure a : Deed α).Idle := fun job => .refl job.session

theorem idle_print (stream : Stream) (text : String) : (print stream text).Idle := by
  intro job
  rw [run_print]
  split
  next => cases stream <;> exact .of_env rfl
  next => exact .refl _

end Deed

namespace Builtin

open Deed

/-- The entries that a command adds to the history: those of the file that it is asked to read, if
that can be read. -/
def entriesRead (s : Session) : Builtin → List String
  | .history request =>
    match request.write, request.read with
    | none, some path =>
      match History.readEntries s.world.files s.world.directory
          (Path.join s.env.directory path) with
      | .ok entries => entries
      | .error _ => []
    | _, _ => []
  | _ => []

/-- The request to exit that a command makes, if it makes one. -/
def exitsAsked : Builtin → List Int
  | .exit status => [status]
  | _ => []

theorem idle_performCd (target : Option String) : (performCd target).Idle := by
  intro job
  simp only [performCd, run_bind, Deed.run_env]
  split
  next => exact .refl _
  next text _ =>
    simp only [run_bind, run_get, Deed.run_orFail]
    rcases destination job.session text with f | loc
    · exact .refl _
    · exact ⟨(List.append_nil _).symm, rfl⟩

theorem gains_describe (s : Session) (name : String) : s.Gains (describe s name).2.2 [] [] := by
  have hresolve := s.gains_resolve name
  simp only [describe]
  split
  · exact .refl s
  · rcases hr : s.resolve name with ⟨found | found, s'⟩ <;> simpa only [hr] using hresolve

theorem idle_performType (names : List String) : ∀ status, (performType names status).Idle := by
  induction names with
  | nil => exact fun status => idle_pure status
  | cons name rest ih =>
    intro status job
    simp only [performType, run_bind, run_get, Deed.run_setSession]
    have hrest := (idle_print .stdout (describe job.session name).1).bind
      (fun _ => ih (if (describe job.session name).2.1 then status else 1))
      { job with session := (describe job.session name).2.2 }
    rw [run_bind] at hrest
    exact (gains_describe job.session name).idle hrest

theorem idle_printEntries (entries : List (Nat × String)) : (printEntries entries).Idle := by
  induction entries with
  | nil => exact idle_pure _
  | cons entry rest ih => exact (idle_print .stdout _).bind fun _ => ih

theorem session_appendNewTo {h history : History} {fs : FileSystem} {base : Location}
    {path : String} {written : Except Failure FileSystem}
    (ha : h.appendNewTo fs base path = (history, written)) : history.session = h.session := by
  simp only [History.appendNewTo] at ha
  split at ha <;> obtain ⟨rfl, -⟩ := Prod.mk.inj ha <;> rfl

theorem gains_performHistory (request : HistoryRequest) (job : Job) :
    job.session.Gains ((performHistory request).run.run job).2.session
      ((Builtin.history request).entriesRead job.session) [] := by
  simp only [performHistory, run_bind, Deed.run_env, Deed.run_world]
  split
  next path hwrite =>
    simp only [run_bind, Deed.run_orFail, entriesRead, hwrite]
    rcases job.session.env.history.writeTo job.session.world.files job.session.world.directory
      (Path.join job.session.env.directory path) with f | files
    · exact .refl _
    · exact .of_env rfl
  next path hwrite hread =>
    simp only [run_bind, Deed.run_orFail, entriesRead, hwrite, hread, History.readFrom]
    rcases History.readEntries job.session.world.files job.session.world.directory
      (Path.join job.session.env.directory path) with f | entries
    · exact .refl _
    · exact ⟨rfl, rfl⟩
  next path hwrite hread happend =>
    simp only [run_bind, Deed.run_setEnv, Deed.run_orFail, entriesRead, hwrite, hread]
    rcases ha : job.session.env.history.appendNewTo job.session.world.files
      job.session.world.directory (Path.join job.session.env.directory path) with
      ⟨history, f | files⟩ <;>
    exact ⟨(session_appendNewTo ha).trans (List.append_nil _).symm, rfl⟩
  next hwrite hread happend =>
    simp only [entriesRead, hwrite, hread]
    exact ((idle_printEntries _).bind fun _ => idle_pure _) job

theorem gains_perform (b : Builtin) (job : Job) :
    job.session.Gains (b.perform.run.run job).2.session (b.entriesRead job.session)
      b.exitsAsked := by
  cases b with
  | cd target => exact idle_performCd target job
  | echo words => exact ((idle_print .stdout _).bind fun _ => idle_pure _) job
  | exit status => exact ⟨(List.append_nil _).symm, rfl⟩
  | history request => exact gains_performHistory request job
  | pwd =>
    rw [perform, run_bind, Deed.run_env]
    exact ((idle_print .stdout _).bind fun _ => idle_pure _) job
  | type names =>
    rw [perform]
    split
    · exact ((idle_print .stderr _).bind fun _ => idle_pure _) job
    · exact idle_performType names 0 job
  | help text => exact ((idle_print .stdout _).bind fun _ => idle_pure _) job
  | refuse message => exact ((idle_print .stderr _).bind fun _ => idle_pure _) job

/-- **What a built-in command adds to the session**, whatever comes of it. -/
theorem gains_run (b : Builtin) (job : Job) :
    job.session.Gains (b.run.run.run job).2.session (b.entriesRead job.session) b.exitsAsked := by
  have hperform := b.gains_perform job
  rw [run]
  split
  · exact hperform
  · rw [run_tryCatch]
    rcases hr : b.perform.run.run job with ⟨f | status, after⟩
    · rw [hr] at hperform
      exact hperform.idle (((idle_print .stderr _).bind fun _ => idle_pure _) after)
    · rwa [hr] at hperform

end Builtin

/-! ## 3. Commands -/

section Builtins

variable {stage : Stage} {s : Session} {b : Builtin}

/-- **A single built-in command** is run when both its streams are open. -/
theorem run_beginSingle_of_builtin (hb : Builtin.lookup stage.name stage.args = some b) :
    (beginSingle stage).run.run s = match (openBoth stage).run.run s with
      | (.error f, s) => (.error f, s)
      | (.ok (stdout, stderr), s) =>
        match b.run.run.run
          { session := s, stdout := .channel stdout, stderr := .channel stderr } with
        | (.error f, job) => (.error f, job.session)
        | (.ok _, job) => (.ok none, job.session) := by
  rw [run_beginSingle, call_of_builtin hb, Course.alone, run_bind]
  rcases (openBoth stage).run.run s with ⟨f | ⟨stdout, stderr⟩, s₁⟩
  · rfl
  · simp only [run_bind, run_runBuiltin]
    rcases b.run.run.run _ with ⟨f | code, job⟩ <;> rfl

/-- **A built-in command as a stage** lets what it would read be drained, and is then run when its
streams are open. -/
theorem run_beginStage_of_builtin (hb : Builtin.lookup stage.name stage.args = some b)
    (isLast : Bool) (upstream : Upstream) :
    (beginStage stage isLast upstream).run.run s = match (openStreams stage isLast).run.run
        { s with world := s.world.hand upstream .drains } with
      | (.error f, s) => (.error f, s)
      | (.ok (stderr, stdout), s) =>
        match b.run.run.run
          { session := s, stdout := .ofOutput stdout, stderr := .channel stderr } with
        | (.error f, job) => (.error f, job.session)
        | (.ok _, job) => (.ok (.builtin job.stdout.collected), job.session) := by
  rw [run_beginStage, call_of_builtin hb, Course.inPipeline, run_bind, run_drain, beginBuiltin_eq]
  simp only [run_bind]
  rcases (openStreams stage isLast).run.run _ with ⟨f | ⟨stderr, stdout⟩, s₁⟩
  · rfl
  · simp only [run_runBuiltin]
    rcases b.run.run.run _ with ⟨f | code, job⟩ <;> rfl

end Builtins

/-- A single command that is not built in is looked up, and that is all the shell keeps of it. -/
theorem Stage.BeginsAlone.env {stage : Stage} {s s' : Session}
    {result : Except Failure (Option Nat)} (h : stage.BeginsAlone s result s')
    (hb : Builtin.lookup stage.name stage.args = none) :
    s'.env = (s.resolve stage.name).2.env := by
  cases h with
  | builtin hb' | builtinUnopened hb' | builtinFailed hb' => cases hb.symm.trans hb'
  | missing _ _ hopen hreport | missingUnreported _ _ hopen hreport =>
    exact (quiet_of_reportMissing hopen hreport).env
  | missingUnopened _ _ hopen => exact (quiet_of_openStreams hopen).env
  | programUnopened _ _ hopen | unstarted _ _ hopen | started _ _ hopen =>
    exact (quiet_of_openBoth hopen).env

/-- So is a stage of a pipeline that is not. -/
theorem Stage.Begins.env {stage : Stage} {isLast : Bool} {upstream : Upstream} {s s' : Session}
    {result : Except Failure Beginning} (h : stage.Begins isLast upstream s result s')
    (hb : Builtin.lookup stage.name stage.args = none) :
    s'.env = (s.resolve stage.name).2.env := by
  cases h with
  | builtin hb' | builtinUnopened hb' | builtinFailed hb' => cases hb.symm.trans hb'
  | missing _ _ hopen hreport | missingUnreported _ _ hopen hreport =>
    exact (quiet_of_reportMissing hopen hreport).env
  | missingUnopened _ _ hopen => exact (quiet_of_openStreams hopen).env
  | programUnopened _ _ hopen | started _ _ hopen | unstarted _ _ hopen =>
    exact (quiet_of_openStreams hopen).env

namespace Attempt

def before : Attempt → Session
  | alone _ s => s
  | inPipeline _ _ _ s => s

def after : Attempt → Session
  | alone stage s => ((beginSingle stage).run.run s).2
  | inPipeline stage isLast upstream s => ((beginStage stage isLast upstream).run.run s).2

/-- The built-in command that is run, with the streams that were opened for it. -/
def job? (a : Attempt) : Option (Builtin × Job) :=
  match a.call.1, a.ready.openAll a.stage a.streams with
  | .builtin b, .ok (channels, w) => some (b, a.ready.jobOn channels w)
  | _, _ => none

def entriesRead (a : Attempt) : List String :=
  (a.job?.map fun (b, job) => b.entriesRead job.session).getD []

def exitsAsked (a : Attempt) : List Int := (a.job?.map fun (b, _) => b.exitsAsked).getD []

variable {a : Attempt}

/-- The streams of a single built-in command can be opened, or not. -/
theorem job?_alone {stage : Stage} {s : Session} {b : Builtin}
    (hb : Builtin.lookup stage.name stage.args = some b) :
    (∃ f s', (openBoth stage).run.run s = (.error f, s') ∧ (alone stage s).job? = none) ∨
    ∃ stdout stderr w, (openBoth stage).run.run s = (.ok (stdout, stderr), { s with world := w }) ∧
      (alone stage s).job? =
        some (b, ⟨{ s with world := w }, .channel stdout, .channel stderr⟩) := by
  have hjob : (alone stage s).job? = match s.openAll stage [.stdout, .stderr] with
      | .ok (channels, w) => some (b, s.jobOn channels w)
      | .error _ => none := by
    simp only [job?, call, ready, call_of_builtin hb, streams, Course.streamsAlone, Attempt.stage]
    rcases s.openAll stage [.stdout, .stderr] with f | opened <;> rfl
  rcases openBoth_cases stage s with ⟨f, s', hopen, hall⟩ | ⟨stdout, stderr, w, hopen, hall⟩
  · exact .inl ⟨f, s', hopen, by rw [hjob, hall]⟩
  · exact .inr ⟨stdout, stderr, w, hopen, by rw [hjob, hall]; rfl⟩

theorem job?_inPipeline {stage : Stage} {s : Session} {b : Builtin}
    (hb : Builtin.lookup stage.name stage.args = some b) (isLast : Bool) (upstream : Upstream) :
    (∃ f s', (openStreams stage isLast).run.run
        { s with world := s.world.hand upstream .drains } = (.error f, s') ∧
      (inPipeline stage isLast upstream s).job? = none) ∨
    ∃ stderr stdout w, (openStreams stage isLast).run.run
        { s with world := s.world.hand upstream .drains } =
          (.ok (stderr, stdout), { s with world := w }) ∧
      (inPipeline stage isLast upstream s).job? =
        some (b, ⟨{ s with world := w }, .ofOutput stdout, .channel stderr⟩) := by
  generalize hs : ({ s with world := s.world.hand upstream .drains } : Session) = s₁
  have hjob : (inPipeline stage isLast upstream s).job? =
      match s₁.openAll stage (streamsOf isLast) with
      | .ok (channels, w) => some (b, s₁.jobOn channels w)
      | .error _ => none := by
    simp only [job?, call, ready, Course.ready, call_of_builtin hb, streams,
      Course.streamsInPipeline, Attempt.stage, hs]
    rcases s₁.openAll stage (streamsOf isLast) with f | opened <;> rfl
  have henv : s₁.env = s.env := by rw [← hs]
  rcases openStreams_cases stage isLast s₁ with ⟨f, s', hopen, hall⟩ |
    ⟨stderr, stdout, w, hopen, hall⟩
  · exact .inl ⟨f, s', hopen, by rw [hjob, hall]⟩
  · refine .inr ⟨stderr, stdout, w, by rw [hopen, henv], ?_⟩
    rw [hjob, hall, ← henv]
    simp only [Session.jobOn_streams]

theorem job?_of_not_builtin (h : Builtin.lookup a.stage.name a.stage.args = none) :
    a.job? = none := by
  have hcall : ∀ b, a.call.1 ≠ .builtin b := by
    intro b
    have hsession : ∀ s : Session, (s.call a.stage).1 ≠ .builtin b := by
      intro s
      simp only [Session.call, h]
      split <;> exact fun h => by cases h
    cases a <;> exact hsession _
  rw [job?]
  split
  next hc _ => exact absurd hc (hcall _)
  next => rfl

/-- A built-in command is run in the environment in which it was begun. -/
theorem env_job (a : Attempt) {b : Builtin} {job : Job} (hj : a.job? = some (b, job)) :
    job.session.env = a.before.env := by
  cases hb : Builtin.lookup a.stage.name a.stage.args with
  | none => cases (job?_of_not_builtin hb).symm.trans hj
  | some b' =>
    cases a with
    | alone stage s =>
      rcases job?_alone (s := s) hb with ⟨_, _, -, hj'⟩ | ⟨_, _, _, -, hj'⟩
      · cases hj'.symm.trans hj
      · obtain ⟨-, rfl⟩ := Prod.mk.inj (Option.some.inj (hj'.symm.trans hj))
        rfl
    | inPipeline stage isLast upstream s =>
      rcases job?_inPipeline (s := s) hb isLast upstream with ⟨_, _, -, hj'⟩ | ⟨_, _, _, -, hj'⟩
      · cases hj'.symm.trans hj
      · obtain ⟨-, rfl⟩ := Prod.mk.inj (Option.some.inj (hj'.symm.trans hj))
        rfl

/-- The session after a built-in command that is run. -/
theorem after_of_job? {b : Builtin} {job : Job} (hj : a.job? = some (b, job)) :
    a.after = (b.run.run.run job).2.session := by
  cases hb : Builtin.lookup a.stage.name a.stage.args with
  | none => cases (job?_of_not_builtin hb).symm.trans hj
  | some b' =>
    cases a with
    | alone stage s =>
      replace hb : Builtin.lookup stage.name stage.args = some b' := hb
      rcases job?_alone (s := s) hb with ⟨_, _, -, hj'⟩ | ⟨stdout, stderr, w, hopen, hj'⟩
      · cases hj'.symm.trans hj
      · obtain ⟨rfl, rfl⟩ := Prod.mk.inj (Option.some.inj (hj'.symm.trans hj))
        rw [after, run_beginSingle_of_builtin hb, hopen]
        simp only
        rcases b'.run.run.run _ with ⟨f | code, job⟩ <;> rfl
    | inPipeline stage isLast upstream s =>
      replace hb : Builtin.lookup stage.name stage.args = some b' := hb
      rcases job?_inPipeline (s := s) hb isLast upstream with
        ⟨_, _, -, hj'⟩ | ⟨stderr, stdout, w, hopen, hj'⟩
      · cases hj'.symm.trans hj
      · obtain ⟨rfl, rfl⟩ := Prod.mk.inj (Option.some.inj (hj'.symm.trans hj))
        rw [after, run_beginStage_of_builtin hb, hopen]
        simp only
        rcases b'.run.run.run _ with ⟨f | code, job⟩ <;> rfl

/-- Any other command is looked up at most. -/
theorem env_after_of_job?_eq_none (hj : a.job? = none) :
    a.after.env = a.before.env ∨ a.after.env = (a.before.resolve a.stage.name).2.env := by
  cases hb : Builtin.lookup a.stage.name a.stage.args with
  | none =>
    right
    cases a with
    | alone stage s => exact (stage.beginsAlone s).env hb
    | inPipeline stage isLast upstream s => exact (stage.begins isLast upstream s).env hb
  | some b =>
    left
    cases a with
    | alone stage s =>
      replace hb : Builtin.lookup stage.name stage.args = some b := hb
      rcases job?_alone (s := s) hb with ⟨f, s', hopen, -⟩ | ⟨_, _, _, -, hj'⟩
      · rw [after, run_beginSingle_of_builtin hb, hopen]
        exact (quiet_of_openBoth hopen).env
      · cases hj'.symm.trans hj
    | inPipeline stage isLast upstream s =>
      replace hb : Builtin.lookup stage.name stage.args = some b := hb
      rcases job?_inPipeline (s := s) hb isLast upstream with ⟨f, s', hopen, -⟩ | ⟨_, _, _, -, hj'⟩
      · rw [after, run_beginStage_of_builtin hb, hopen]
        exact (Stage.quiet_of_openStreams hopen).env
      · cases hj'.symm.trans hj

/-- **What a command adds to the session** when it is begun. -/
theorem gains (a : Attempt) : a.before.Gains a.after a.entriesRead a.exitsAsked := by
  cases hj : a.job? with
  | none =>
    have hidle : a.before.Gains a.after [] [] := by
      rcases env_after_of_job?_eq_none hj with henv | henv
      · exact .of_env henv
      · exact (a.before.gains_resolve a.stage.name).idle (.of_env henv)
    simpa [entriesRead, exitsAsked, hj] using hidle
  | some run =>
    obtain ⟨b, job⟩ := run
    have hrun := (Session.Gains.of_env (a.env_job hj)).after_idle (b.gains_run job)
    simpa [entriesRead, exitsAsked, hj, after_of_job? hj] using hrun

end Attempt

/-! ## 4. Lines -/

/-- The entries that commands add to the history, in order. -/
def entriesOf (reached : List Attempt) : List String := reached.flatMap Attempt.entriesRead

/-- The requests to exit that commands make, in order. -/
def exitsOf (reached : List Attempt) : List Int := reached.flatMap Attempt.exitsAsked

namespace Pipeline

theorem Entry.gains (e : Entry) :
    e.before.session.Gains e.after e.attempt.entriesRead e.attempt.exitsAsked :=
  e.attempt.gains

/-- **What a run of a pipeline adds to the session**: what its stages do, in order. -/
theorem Run.gains {first st : State} {log : List Entry} (h : Run first log st) :
    first.session.Gains st.session (entriesOf (log.map Entry.attempt))
      (exitsOf (log.map Entry.attempt)) := by
  induction h with
  | start => exact .refl _
  | @began log st stage _ hp ih =>
    have hstage := ih.trans (Entry.mk st stage).gains
    rw [← session_begin hp] at hstage
    simpa [entriesOf, exitsOf] using hstage
  | passed _ he hs ih => exact ih.idle (.of_env (passes_of_after? he hs).since.env)

end Pipeline

namespace Session.Attempts

variable {patience : Nat} {line : Line} {s s' : Session} {result : Except Failure Unit}
  {reached older newer : List Attempt} {a : Attempt}

/-- Waiting for a program leaves the environment as it was when the program was started. -/
theorem env_runSingle {stage : Stage} (h : s.runSingle patience stage = some (result, s')) :
    s'.env = (Attempt.alone stage s).after.env := by
  rw [Attempt.after]
  simp only [runSingle] at h
  split at h
  next hr =>
    obtain ⟨-, rfl⟩ := Prod.mk.inj (Option.some.inj h)
    rw [hr]
  next hr =>
    obtain ⟨-, rfl⟩ := Prod.mk.inj (Option.some.inj h)
    rw [hr]
  next hr =>
    obtain ⟨w, -, heq⟩ := Option.map_eq_some_iff.mp h
    obtain ⟨-, rfl⟩ := Prod.mk.inj heq
    rw [hr]

/-- **What a line adds to the session**: what its commands do, in order. -/
theorem gains (h : s.Attempts patience line reached result s') :
    s.Gains s' (entriesOf reached) (exitsOf reached) := by
  cases h with
  | nothing => exact .refl s
  | @single stage _ _ hrun =>
    have hbegun : s.Gains (Attempt.alone stage s).after (Attempt.alone stage s).entriesRead
        (Attempt.alone stage s).exitsAsked := (Attempt.alone stage s).gains
    simpa [entriesOf, exitsOf] using hbegun.idle (.of_env (env_runSingle hrun))
  | pipeline hrun => exact hrun.gains.idle (.of_env rfl)

/-- What it has added when one of its commands is begun: what those before it did. -/
theorem gains_before (h : s.Attempts patience line reached result s')
    (hreached : reached = older ++ a :: newer) :
    s.Gains a.before (entriesOf older) (exitsOf older) := by
  cases h with
  | nothing => simp at hreached
  | single =>
    have hlength := congrArg List.length hreached
    simp only [List.length_append, List.length_cons, List.length_nil] at hlength
    obtain rfl : older = [] := List.length_eq_zero_iff.mp (by omega)
    obtain ⟨rfl, -⟩ := List.cons.inj hreached
    exact .refl s
  | pipeline hrun =>
    obtain ⟨log, log', rfl, rfl, hlog⟩ := List.map_eq_append_iff.mp hreached
    obtain ⟨e, newer', rfl, rfl, -⟩ := List.map_eq_cons_iff.mp hlog
    exact (hrun.at rfl).1.gains

end Session.Attempts
end CommandShell
