/-
# What a run of a pipeline has begun

A run of a pipeline has a log: the stages that were begun, in their order, each with the state that
the pipeline was in (`Pipeline.Entry`).  `Pipeline.Run` is a run with its log, and every run has one
(`exists_run_iff`).

What the pipeline is at any time follows from the log (`Logged`): which stages are still to be
begun, what the next one reads, whether and why the pipeline was given up, and that since the last
stage was begun only the machine went on (`Since`).  A run up to an entry of its log is a run with
the log up to there (`Run.at`), so this holds of the state before each entry as well.
-/
import CommandShell.Proofs.Beginning
import CommandShell.Proofs.Cancellation

namespace CommandShell.Pipeline

open Relation

variable {stages : List Stage} {session : Session} {first st st' : State}

/-! ## 1. Logs -/

/-- A stage that was begun, with the pipeline before that. -/
structure Entry where
  before : State
  stage : Stage

namespace Entry

def result (e : Entry) : Except Failure Beginning := (e.before.attempt e.stage).1

def after (e : Entry) : Session := (e.before.attempt e.stage).2

/-- Whether the pipeline is given up at the stage: there is no such command, or the stage cannot be
begun. -/
def Fails (e : Entry) : Prop :=
  Builtin.lookup e.stage.name e.stage.args = none ∧
      (e.before.session.resolve e.stage.name).1 = none ∨
    ∃ f, e.result = .error f

/-- Why the pipeline fails at the stage, if it does. -/
def failure (e : Entry) : Option Failure :=
  match e.result with
  | .error f => some f
  | .ok _ => none

/-- What the stage leaves for the next one to read. -/
def output (e : Entry) : Upstream :=
  match e.result with
  | .ok (.builtin output) => if e.before.waiting = [] then .closed else .bytes output
  | .ok (.started _ pipe) => .ofPipe pipe
  | _ => .closed

/-- **How the stage began.** -/
theorem begins (e : Entry) :
    e.stage.Begins e.before.waiting.isEmpty e.before.upstream e.before.session e.result e.after :=
  Stage.begins _ _ _ _

/-- The pipeline is given up at the stages that do not turn out to be anything that runs. -/
theorem fails_iff (e : Entry) : e.Fails ↔ e.result = .ok .missing ∨ ∃ f, e.result = .error f := by
  have h := e.begins
  rw [Fails]
  generalize e.result = result, e.after = after at h ⊢
  cases h with
  | missing hb hresolve => simp [hb, hresolve]
  | builtin hb => simp [hb]
  | started hb hresolve | unstarted hb hresolve => simp [hresolve]
  | _ => simp

end Entry

/-- A run of a pipeline, with the stages that it has begun. -/
inductive Run (first : State) : List Entry → State → Prop
  | start : Run first [] first
  /-- One more stage is begun. -/
  | began {log : List Entry} {st : State} {stage : Stage} (h : Run first log st)
      (hp : st.pending = some stage) : Run first (log ++ [⟨st, stage⟩]) st.begin
  /-- Something else happens. -/
  | passed {log : List Entry} {st st' : State} {e : Event} (h : Run first log st)
      (he : e ≠ .begin) (hs : st.after? e = some st') : Run first log st'

theorem Run.reaches {log : List Entry} (h : Run first log st) : Reaches first st := by
  induction h with
  | start => exact .refl
  | began _ hp ih => exact ih.tail (step_iff.mpr ⟨.begin, by simp [State.after?, hp]⟩)
  | passed _ _ hs ih => exact ih.tail (step_iff.mpr ⟨_, hs⟩)

/-- **Every run has a log.** -/
theorem exists_run_iff : (∃ log, Run first log st) ↔ Reaches first st := by
  refine ⟨fun ⟨_, h⟩ => h.reaches, fun h => ?_⟩
  induction h with
  | refl => exact ⟨[], .start⟩
  | tail _ hs ih =>
    obtain ⟨log, hlog⟩ := ih
    obtain ⟨e, he⟩ := step_iff.mp hs
    by_cases hbegin : e = .begin
    · subst hbegin
      simp only [State.after?, Option.ite_none_left_eq_some, Option.some.injEq] at he
      obtain ⟨hp, rfl⟩ := he
      obtain ⟨stage, hp⟩ := Option.ne_none_iff_exists'.mp hp
      exact ⟨_, hlog.began hp⟩
    · exact ⟨log, hlog.passed hbegin he⟩

/-- **A run up to an entry of its log.** -/
theorem Run.at {log older newer : List Entry} {e : Entry} (h : Run first log st)
    (hlog : log = older ++ e :: newer) :
    Run first older e.before ∧ e.before.pending = some e.stage := by
  induction h generalizing newer with
  | start => simp at hlog
  | @began log st stage h hp ih =>
    rcases List.eq_nil_or_concat newer with rfl | ⟨newer, e', rfl⟩
    · obtain ⟨rfl, he⟩ := List.append_inj' hlog rfl
      obtain rfl := List.head_eq_of_cons_eq he
      exact ⟨h, hp⟩
    · have hlog' : log ++ [⟨st, stage⟩] = (older ++ e :: newer) ++ [e'] := by simpa using hlog
      exact ih (List.append_inj' hlog' rfl).1
  | passed _ _ _ ih => exact ih hlog

/-! ## 2. Between two stages -/

/-- What can happen to a pipeline besides the beginning of a stage. -/
inductive Passes (st : State) : State → Prop
  /-- The next stage gets its token. -/
  | registered {stage : Stage} {waiting : List Stage} (hw : st.waiting = stage :: waiting)
      (hp : st.pending = none) :
      Passes st { st with waiting, pending := some stage, tokens := st.tokens ++ [false] }
  /-- The machine goes on. -/
  | machine {w : World} (hw : st.session.world.Follows w) : Passes st (st.withWorld w)
  /-- A stage whose process has ended is settled. -/
  | settled {entry : Nat × Nat} (hs : entry ∈ st.supervised)
      (he : st.session.world.hasEnded entry.2 = true) : Passes st (st.settle entry)

theorem passes_of_after? {e : Event} (he : e ≠ .begin) (h : st.after? e = some st') :
    Passes st st' := by
  cases e with
  | begin => exact absurd rfl he
  | register =>
    simp only [State.after?, Option.ite_none_left_eq_some, not_or, Option.some.injEq] at h
    obtain ⟨⟨hw, hp⟩, rfl⟩ := h
    obtain ⟨stage, waiting, hw⟩ := List.exists_cons_of_ne_nil hw
    rw [register_eq hw]
    exact .registered hw (by simpa using hp)
  | work process =>
    simp only [State.after?, Option.map_eq_some_iff] at h
    obtain ⟨w, hw, rfl⟩ := h
    exact .machine (World.follows_step hw)
  | interrupt process =>
    obtain rfl := Option.some.inj h
    exact .machine (World.follows_kill _ process)
  | elapse duration =>
    obtain rfl := Option.some.inj h
    exact .machine (.of_same rfl rfl)
  | terminate stage process =>
    simp only [State.after?, Option.ite_none_right_eq_some, Option.some.injEq] at h
    obtain ⟨-, rfl⟩ := h
    exact .machine (World.follows_kill _ process)
  | settle stage process =>
    simp only [State.after?, Option.ite_none_right_eq_some, Option.some.injEq] at h
    obtain ⟨⟨hs, he⟩, rfl⟩ := h
    exact .settled hs he

/-- Only the machine went on from one session to another. -/
structure Since (s s' : Session) : Prop where
  env : s'.env = s.env
  world : s.world.Follows s'.world

theorem Since.refl (s : Session) : Since s s := ⟨rfl, .refl s.world⟩

theorem Since.trans {s s' s'' : Session} (h : Since s s') (h' : Since s' s'') : Since s s'' :=
  ⟨h'.env.trans h.env, h.world.trans h'.world⟩

theorem Passes.since (h : Passes st st') : Since st.session st'.session := by
  cases h with
  | machine hw => exact ⟨rfl, hw⟩
  | _ => exact .refl st.session

theorem Passes.supervised_subset (h : Passes st st') : st'.supervised ⊆ st.supervised := by
  cases h with
  | settled => exact List.erase_subset
  | _ => exact List.Subset.refl _

/-! ## 3. What beginning a stage changes -/

section Begin

variable {stage : Stage}

theorem session_begin (hp : st.pending = some stage) :
    st.begin.session = (Entry.mk st stage).after := by
  rcases hr : st.attempt stage with ⟨failure | beginning, s⟩
  · simp [begin_of_error hp hr, Entry.after, hr, State.abort, State.cancelBefore]
  · rw [begin_of_ok hp hr, Entry.after, hr]
    cases beginning <;> rfl

theorem length_tokens_begin (st : State) : st.begin.tokens.length = st.tokens.length := by
  cases hp : st.pending with
  | none => simp only [State.begin, hp]
  | some stage =>
    rcases hr : st.attempt stage with ⟨failure | beginning, s⟩
    · simp [begin_of_error hp hr, State.abort]
    · rw [begin_of_ok hp hr]
      cases beginning <;> simp [State.note, State.abort, State.finish]

/-- A stage that fails has the pipeline given up. -/
theorem begin_of_fails (hp : st.pending = some stage) (hf : (Entry.mk st stage).Fails) :
    st.begin.aborted = true ∧ st.begin.waiting = [] ∧
      st.begin.failure = (Entry.mk st stage).failure := by
  rcases (Entry.fails_iff _).mp hf with hr | ⟨f, hr⟩
  · have hr' : st.attempt stage = (.ok .missing, (st.attempt stage).2) := Prod.ext hr rfl
    rw [begin_of_ok hp hr', Entry.failure, hr]
    exact ⟨rfl, rfl, rfl⟩
  · have hr' : st.attempt stage = (.error f, (st.attempt stage).2) := Prod.ext hr rfl
    rw [begin_of_error hp hr', Entry.failure, hr]
    exact ⟨rfl, rfl, rfl⟩

/-- Any other stage leaves something for the next one. -/
theorem begin_of_not_fails (hp : st.pending = some stage) (hf : ¬ (Entry.mk st stage).Fails) :
    st.begin.aborted = st.aborted ∧ st.begin.waiting = st.waiting ∧
      st.begin.failure = st.failure ∧ st.begin.upstream = (Entry.mk st stage).output := by
  rcases hr : st.attempt stage with ⟨failure | beginning, s⟩
  · exact absurd ((Entry.fails_iff _).mpr (.inr ⟨failure, by rw [Entry.result, hr]⟩)) hf
  · rw [begin_of_ok hp hr, Entry.output, Entry.result, hr]
    cases beginning with
    | missing =>
      exact absurd ((Entry.fails_iff _).mpr (.inl (by rw [Entry.result, hr]))) hf
    | started process pipe => exact ⟨rfl, rfl, rfl, by cases pipe <;> rfl⟩
    | _ => exact ⟨rfl, rfl, rfl, rfl⟩

/-- A stage whose process was started is supervised from then on. -/
theorem supervised_begin (hp : st.pending = some stage) :
    st.begin.supervised = st.supervised ++ match (Entry.mk st stage).result with
      | .ok (.started process _) => [(st.tokens.length - 1, process)]
      | _ => [] := by
  rcases hr : st.attempt stage with ⟨failure | beginning, s⟩
  · rw [begin_of_error hp hr, Entry.result, hr]
    exact (List.append_nil _).symm
  · rw [begin_of_ok hp hr, Entry.result, hr]
    cases beginning with
    | started => rfl
    | _ => exact (List.append_nil _).symm

theorem length_waiting_begin (st : State) : st.begin.waiting.length ≤ st.waiting.length := by
  obtain hp | ⟨stage, hp⟩ := Option.eq_none_or_eq_some st.pending
  · have hbegin : st.begin = st := by simp only [State.begin, hp]
    exact Nat.le_of_eq (by rw [hbegin])
  · by_cases hf : (Entry.mk st stage).Fails
    · simp [(begin_of_fails hp hf).2.1]
    · exact Nat.le_of_eq (by rw [(begin_of_not_fails hp hf).2.1])

end Begin

/-! ## 4. What the log says -/

/-- The session after the last stage of a log, or the one that the run started with. -/
def lastSession (session : Session) (log : List Entry) : Session :=
  (log.getLast?.map Entry.after).getD session

/-- What the stage after those of a log reads. -/
def lastOutput (log : List Entry) : Upstream := (log.getLast?.map Entry.output).getD .terminal

@[simp] theorem lastSession_concat (session : Session) (log : List Entry) (e : Entry) :
    lastSession session (log ++ [e]) = e.after := by
  simp [lastSession]

@[simp] theorem lastOutput_concat (log : List Entry) (e : Entry) :
    lastOutput (log ++ [e]) = e.output := by
  simp [lastOutput]

/-- How a pipeline and its log fit together. -/
structure Logged (stages : List Stage) (session : Session) (log : List Entry) (st : State) :
    Prop where
  /-- Every stage that was begun has a token, and so has the pending one. -/
  tokens : st.tokens.length = log.length + st.pending.toList.length
  /-- The stages are begun in order. -/
  inOrder : log.map Entry.stage = stages.take log.length
  length_le : log.length ≤ stages.length
  rest : st.aborted = false → st.pending.toList ++ st.waiting = stages.drop log.length
  upstream : st.aborted = false → st.upstream = lastOutput log
  since : Since (lastSession session log) st.session
  /-- As long as the pipeline is not given up, no stage has failed. -/
  going : st.aborted = false → st.failure = none ∧ ∀ e ∈ log, ¬ e.Fails
  /-- It is given up at the first stage that fails. -/
  givenUp : st.aborted = true → ∃ older e, log = older ++ [e] ∧ e.Fails ∧
    (∀ e' ∈ older, ¬ e'.Fails) ∧ st.failure = e.failure
  /-- A process that was started is supervised until it has ended. -/
  started : ∀ i e process pipe, log[i]? = some e → e.result = .ok (.started process pipe) →
    (i, process) ∈ st.supervised ∨ st.session.world.hasEnded process = true

namespace Logged

theorem start (stages : List Stage) (session : Session) :
    Logged stages session [] (.start session stages) where
  tokens := rfl
  inOrder := rfl
  length_le := Nat.zero_le _
  rest _ := rfl
  upstream _ := rfl
  since := .refl session
  going _ := ⟨rfl, by simp⟩
  givenUp h := by cases h
  started _ _ _ _ h := by simp at h

variable {log : List Entry}

theorem hasEnded_of_follows {w w' : World} (h : w.Follows w') {process : Nat}
    (he : w.hasEnded process = true) : w'.hasEnded process = true := by
  obtain ⟨status, hstatus⟩ := Option.isSome_iff_exists.mp he
  exact Option.isSome_iff_exists.mpr ⟨status, h.status process status hstatus⟩

theorem passes (h : Logged stages session log st) (hacc : Accounts stages st)
    (hp : Passes st st') : Logged stages session log st' := by
  have hsince := h.since.trans hp.since
  cases hp with
  | @registered stage waiting hw hp =>
    have ha := hacc.aborted_of_waiting (by simp [hw])
    refine ⟨?_, h.inOrder, h.length_le, fun _ => ?_, h.upstream, hsince, h.going, h.givenUp,
      h.started⟩
    · simpa [hp] using h.tokens
    · simpa [hp, hw] using h.rest ha
  | machine hw =>
    refine ⟨h.tokens, h.inOrder, h.length_le, h.rest, h.upstream, hsince, h.going, h.givenUp, ?_⟩
    intro i e process pipe he hr
    exact (h.started i e process pipe he hr).imp id (hasEnded_of_follows hw)
  | @settled entry hs he =>
    refine ⟨?_, h.inOrder, h.length_le, h.rest, h.upstream, hsince, h.going, h.givenUp, ?_⟩
    · simpa [State.settle, State.finish] using h.tokens
    · intro i e process pipe hi hr
      rcases h.started i e process pipe hi hr with hmem | hended
      · by_cases heq : (i, process) = entry
        · subst heq
          exact .inr he
        · exact .inl ((List.mem_erase_of_ne heq).mpr hmem)
      · exact .inr hended

theorem began (h : Logged stages session log st) (hacc : Accounts stages st) {stage : Stage}
    (hp : st.pending = some stage) : Logged stages session (log ++ [⟨st, stage⟩]) st.begin := by
  have hp' : st.pending ≠ none := by simp [hp]
  have ha := hacc.aborted_of_pending hp'
  have hrest := h.rest ha
  rw [hp, Option.toList_some, List.singleton_append] at hrest
  have hlt : log.length < stages.length := by
    by_contra hge
    simp [List.drop_eq_nil_of_le (Nat.le_of_not_lt hge)] at hrest
  obtain ⟨hstage, hwaiting⟩ := List.cons.inj (hrest.trans (List.drop_eq_getElem_cons hlt))
  have htokens : st.tokens.length = log.length + 1 := by simpa [hp] using h.tokens
  refine ⟨?_, ?_, ?_, fun ha' => ?_, fun ha' => ?_, ?_, fun ha' => ?_, fun ha' => ?_, ?_⟩
  · simpa [length_tokens_begin, pending_begin] using htokens
  · rw [List.map_append, h.inOrder, List.length_append, List.length_singleton,
      List.take_succ_eq_append_getElem hlt, ← hstage]
    rfl
  · rw [List.length_append, List.length_singleton]
    omega
  · by_cases hf : (Entry.mk st stage).Fails
    · simp [(begin_of_fails hp hf).1] at ha'
    · rw [pending_begin, (begin_of_not_fails hp hf).2.1, hwaiting]
      simp
  · by_cases hf : (Entry.mk st stage).Fails
    · simp [(begin_of_fails hp hf).1] at ha'
    · rw [(begin_of_not_fails hp hf).2.2.2, lastOutput_concat]
  · rw [lastSession_concat, session_begin hp]
    exact .refl _
  · by_cases hf : (Entry.mk st stage).Fails
    · simp [(begin_of_fails hp hf).1] at ha'
    · refine ⟨(begin_of_not_fails hp hf).2.2.1.trans (h.going ha).1, fun e he => ?_⟩
      rcases List.mem_append.mp he with he | he
      · exact (h.going ha).2 e he
      · rwa [List.mem_singleton.mp he]
  · by_cases hf : (Entry.mk st stage).Fails
    · exact ⟨log, _, rfl, hf, (h.going ha).2, (begin_of_fails hp hf).2.2⟩
    · rw [(begin_of_not_fails hp hf).1, ha] at ha'
      cases ha'
  · intro i e process pipe hi hr
    rcases Nat.lt_or_ge i log.length with hlt' | hge
    · rw [List.getElem?_append_left hlt'] at hi
      rcases h.started i e process pipe hi hr with hmem | hended
      · rw [supervised_begin hp]
        exact .inl (List.mem_append_left _ hmem)
      · have hbegins := (Entry.mk st stage).begins.hasEnded hended
        exact .inr (by rwa [session_begin hp])
    · obtain rfl : i = log.length := by
        have hi' := (List.getElem?_eq_some_iff.mp hi).1
        simp only [List.length_append, List.length_singleton] at hi'
        omega
      obtain rfl : e = ⟨st, stage⟩ := by simpa using hi.symm
      rw [supervised_begin hp, hr, htokens]
      exact .inl (by simp)

end Logged

/-- **How a run and its log fit together.** -/
theorem Run.logged {log : List Entry} (h : Run (.start session stages) log st) :
    Logged stages session log st := by
  induction h with
  | start => exact .start stages session
  | began h hp ih => exact ih.began (Accounts.of_reaches h.reaches) hp
  | passed h he hs ih => exact ih.passes (Accounts.of_reaches h.reaches) (passes_of_after? he hs)

end CommandShell.Pipeline
