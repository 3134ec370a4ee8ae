/-
# Runs of a pipeline

A pipeline under way changes by one event after the other, in any order.  `Step` says what one
event can make of it, case by case, and `step_iff` that this is what `Pipeline.State.after?` does; a
run is a chain of steps (`Reaches`).  `reaches_runPipeline` shows that the run which
`Session.runPipeline` carries out is such a chain, so what holds of all runs holds of that one.

How far a pipeline is follows from three of its parts: the stages that are begun
(`Pipeline.State.begun`), those of them whose programs are still supervised, and so those that are
over (`Pipeline.State.IsOver`).
-/
import CommandShell.Engine.Pipeline
import CommandShell.Proofs.Machine
import Mathlib.Data.List.Basic
import Mathlib.Data.List.Nodup
import Mathlib.Logic.Relation
import Mathlib.Tactic.SplitIfs

namespace CommandShell.Pipeline

open Relation

/-! ## 1. Steps -/

/-- What one event can make of a pipeline. -/
inductive Step (st : State) : State → Prop
  /-- The next stage gets its token. -/
  | registered {stage : Stage} {waiting : List Stage} (hw : st.waiting = stage :: waiting)
      (hp : st.pending = none) :
      Step st { st with waiting, pending := some stage, tokens := st.tokens ++ [false] }
  /-- The stage that has its token turns out to be something. -/
  | begun {stage : Stage} {beginning : Beginning} {session : Session}
      (hp : st.pending = some stage) (h : st.attempt stage = (.ok beginning, session)) :
      Step st (State.note { st with session, pending := none } beginning)
  /-- The stage that has its token cannot be begun. -/
  | failed {stage : Stage} {failure : Failure} {session : Session}
      (hp : st.pending = some stage) (h : st.attempt stage = (.error failure, session)) :
      Step st (State.abort { st with session, pending := none } (some failure))
  /-- A process makes a request. -/
  | worked {process : Nat} {w : World} (h : st.session.world.step process = some w) :
      Step st (st.onWorld fun _ => w)
  /-- A process is ended from outside. -/
  | interrupted (process : Nat) : Step st (st.onWorld (·.kill process))
  /-- Time passes. -/
  | elapsed (duration : Nat) : Step st (st.onWorld fun w => { w with clock := w.clock + duration })
  /-- The process of a stage whose token is cancelled is killed. -/
  | terminated {stage process : Nat} (hs : (stage, process) ∈ st.supervised)
      (hc : st.isCancelled stage = true) : Step st (st.terminate (stage, process))
  /-- A stage whose process has ended is settled. -/
  | settled {stage process : Nat} (hs : (stage, process) ∈ st.supervised)
      (he : st.session.world.hasEnded process = true) : Step st (st.settle (stage, process))

/-- Giving the next stage its token, written out. -/
theorem register_eq {st : State} {stage : Stage} {waiting : List Stage}
    (hw : st.waiting = stage :: waiting) :
    st.register = { st with waiting, pending := some stage, tokens := st.tokens ++ [false] } := by
  simp only [State.register, hw]

theorem begin_of_ok {st : State} {stage : Stage} {beginning : Beginning} {session : Session}
    (hp : st.pending = some stage) (h : st.attempt stage = (.ok beginning, session)) :
    st.begin = State.note { st with session, pending := none } beginning := by
  simp only [State.begin, hp, h]

theorem begin_of_error {st : State} {stage : Stage} {failure : Failure} {session : Session}
    (hp : st.pending = some stage) (h : st.attempt stage = (.error failure, session)) :
    st.begin = State.abort { st with session, pending := none } (some failure) := by
  simp only [State.begin, hp, h]

/-- After that no stage is left that has a token and is not begun. -/
theorem pending_begin (st : State) : st.begin.pending = none := by
  cases hp : st.pending with
  | none => simp only [State.begin, hp]
  | some stage =>
    rcases hr : st.attempt stage with ⟨failure | beginning, session⟩
    · rw [begin_of_error hp hr]
      rfl
    · rw [begin_of_ok hp hr]
      cases beginning <;> rfl

/-- An event that can happen is one of the steps. -/
theorem step_of_after? {st st' : State} {e : Event} (h : st.after? e = some st') : Step st st' := by
  cases e with
  | register =>
    simp only [State.after?, Option.ite_none_left_eq_some, not_or, Option.some.injEq] at h
    obtain ⟨⟨hw, hp⟩, rfl⟩ := h
    obtain ⟨stage, waiting, hw⟩ := List.exists_cons_of_ne_nil hw
    rw [register_eq hw]
    exact .registered hw (by simpa using hp)
  | begin =>
    simp only [State.after?, Option.ite_none_left_eq_some, Option.some.injEq] at h
    obtain ⟨hp, rfl⟩ := h
    obtain ⟨stage, hp⟩ := Option.ne_none_iff_exists'.mp hp
    rcases hr : st.attempt stage with ⟨failure | beginning, session⟩
    · rw [begin_of_error hp hr]
      exact .failed hp hr
    · rw [begin_of_ok hp hr]
      exact .begun hp hr
  | work process =>
    simp only [State.after?, Option.map_eq_some_iff] at h
    obtain ⟨w, hw, rfl⟩ := h
    exact .worked hw
  | interrupt process =>
    obtain rfl := Option.some.inj h
    exact .interrupted process
  | elapse duration =>
    obtain rfl := Option.some.inj h
    exact .elapsed duration
  | terminate stage process =>
    simp only [State.after?, Option.ite_none_right_eq_some, Option.some.injEq] at h
    obtain ⟨⟨hs, hc⟩, rfl⟩ := h
    exact .terminated hs hc
  | settle stage process =>
    simp only [State.after?, Option.ite_none_right_eq_some, Option.some.injEq] at h
    obtain ⟨⟨hs, he⟩, rfl⟩ := h
    exact .settled hs he

/-- **The steps are what events can do.** -/
theorem step_iff {st st' : State} : Step st st' ↔ ∃ e, st.after? e = some st' := by
  constructor
  · intro h
    cases h with
    | registered hw hp => exact ⟨.register, by simp [State.after?, hw, hp, register_eq hw]⟩
    | begun hp h => exact ⟨.begin, by simp [State.after?, hp, begin_of_ok hp h]⟩
    | failed hp h => exact ⟨.begin, by simp [State.after?, hp, begin_of_error hp h]⟩
    | @worked process w h => exact ⟨.work process, by simp [State.after?, h]⟩
    | interrupted process => exact ⟨.interrupt process, rfl⟩
    | elapsed duration => exact ⟨.elapse duration, rfl⟩
    | @terminated stage process hs hc =>
      exact ⟨.terminate stage process, by simp [State.after?, hs, hc]⟩
    | @settled stage process hs he =>
      exact ⟨.settle stage process, by simp [State.after?, hs, he]⟩
  · rintro ⟨e, h⟩
    exact step_of_after? h

/-- A pipeline comes to be another one by events. -/
abbrev Reaches : State → State → Prop := ReflTransGen Step

/-! ## 2. The run that is carried out -/

/-- A pipeline on another machine. -/
abbrev State.withWorld (st : State) (w : World) : State := st.onWorld fun _ => w

theorem reaches_advance {st : State} {w : World} (h : st.session.world.advance = some w) :
    Reaches st (st.withWorld w) :=
  World.related_advance (R := fun w w' => Reaches (st.withWorld w) (st.withWorld w'))
    (fun _ => .refl) .trans (fun hstep => .single (.worked hstep))
    (fun _ duration => .single (.elapsed duration)) h

theorem reaches_beginMany : ∀ (n : Nat) {st : State}, st.pending = none →
    Reaches st (State.beginMany n st)
  | 0, _, _ => .refl
  | n + 1, st, hp => by
    rw [State.beginMany]
    cases hw : st.waiting with
    | nil =>
      have hsame : st.register.begin = st := by simp only [State.register, hw, State.begin, hp]
      rw [hsame]
      exact reaches_beginMany n hp
    | cons stage waiting =>
      have hreg : Step st st.register := by
        rw [register_eq hw]
        exact .registered hw hp
      have hpend : st.register.pending = some stage := by rw [register_eq hw]
      have hbegin : Step st.register st.register.begin :=
        step_iff.mpr ⟨.begin, by simp [State.after?, hpend]⟩
      exact ((ReflTransGen.single hreg).tail hbegin).trans
        (reaches_beginMany n (pending_begin st.register))

theorem step_attend {st : State} {entry : Nat × Nat}
    (hfind : st.supervised.find? st.isReady = some entry) : Step st (st.attend entry) := by
  have hs : entry ∈ st.supervised := List.mem_of_find?_eq_some hfind
  have hready : st.isReady entry = true := List.find?_some hfind
  rw [State.attend]
  split_ifs with he
  · exact .settled hs he
  · exact .terminated hs (by simpa [State.isReady, he] using hready)

theorem reaches_settleReady : ∀ (n : Nat) (st : State), Reaches st (State.settleReady n st)
  | 0, _ => .refl
  | n + 1, st => by
    rw [State.settleReady]
    split
    next => exact .refl
    next hfind => exact (ReflTransGen.single (step_attend hfind)).trans (reaches_settleReady n _)

theorem reaches_settleAll : ∀ (patience : Nat) {st st' : State},
    State.settleAll patience st = some st' → Reaches st st' := by
  intro patience
  induction patience with
  | zero =>
    intro st st' h
    rw [State.settleAll] at h
    split_ifs at h
    obtain rfl := Option.some.inj h
    exact reaches_settleReady _ _
  | succ patience ih =>
    intro st st' h
    have hready := reaches_settleReady (2 * st.supervised.length) st
    rw [State.settleAll] at h
    split_ifs at h with hs
    · obtain rfl := Option.some.inj h
      exact hready
    · split at h
      next => cases h
      next w hw => exact (hready.trans (reaches_advance hw)).trans (ih h)

/-- **The run of `Session.runPipeline` is a run.**  Whatever it ends with, events lead there from
the start. -/
theorem reaches_runPipeline {patience : Nat} {stages : List Stage} {s : Session} {st : State}
    (h : State.settleAll patience (State.beginMany stages.length (.start s stages)) = some st) :
    Reaches (.start s stages) st :=
  (reaches_beginMany stages.length rfl).trans (reaches_settleAll patience h)

/-! ## 3. How far a pipeline is -/

namespace State

/-- How many stages are begun.  The last stage with a token is not, while it is pending and when the
pipeline was given up at it. -/
def begun (st : State) : Nat :=
  if st.pending = none ∧ st.aborted = false then st.tokens.length else st.tokens.length - 1

/-- Whether a stage is over: it is begun, and no program of it is left to settle. -/
def IsOver (st : State) (stage : Nat) : Prop :=
  stage < st.begun ∧ ∀ process, (stage, process) ∉ st.supervised

theorem begun_of_idle {st : State} (hp : st.pending = none) (ha : st.aborted = false) :
    st.begun = st.tokens.length := if_pos ⟨hp, ha⟩

theorem begun_of_pending {st : State} (hp : st.pending ≠ none) :
    st.begun = st.tokens.length - 1 := if_neg fun h => hp h.1

theorem begun_of_aborted {st : State} (ha : st.aborted = true) :
    st.begun = st.tokens.length - 1 := if_neg fun h => by simp [ha] at h

theorem begun_le (st : State) : st.begun ≤ st.tokens.length := by
  unfold begun
  split_ifs <;> omega

section CancelBefore

variable (st : State) (n : Nat)

@[simp] theorem waiting_cancelBefore : (st.cancelBefore n).waiting = st.waiting := rfl

@[simp] theorem pending_cancelBefore : (st.cancelBefore n).pending = st.pending := rfl

@[simp] theorem supervised_cancelBefore : (st.cancelBefore n).supervised = st.supervised := rfl

@[simp] theorem aborted_cancelBefore : (st.cancelBefore n).aborted = st.aborted := rfl

@[simp] theorem length_tokens_cancelBefore :
    (st.cancelBefore n).tokens.length = st.tokens.length := by
  simp [cancelBefore]

end CancelBefore

end State

/-- How the parts of a pipeline fit together, whatever has happened to it. -/
structure Accounts (stages : List Stage) (st : State) : Prop where
  length_le : st.tokens.length + st.waiting.length ≤ stages.length
  /-- As long as it is not given up, no stage is forgotten. -/
  length_eq : st.aborted = false → st.tokens.length + st.waiting.length = stages.length
  waiting_nil : st.aborted = true → st.waiting = []
  pending_none : st.aborted = true → st.pending = none
  /-- A stage that is pending, or at which the pipeline was given up, has a token. -/
  tokens_pos : st.pending ≠ none ∨ st.aborted = true → 0 < st.tokens.length
  supervised_lt : ∀ entry ∈ st.supervised, entry.1 < st.begun
  supervised_nodup : (st.supervised.map Prod.fst).Nodup

namespace Accounts

variable {stages : List Stage} {st : State}

theorem start (session : Session) (stages : List Stage) :
    Accounts stages (.start session stages) where
  length_le := by simp [State.start]
  length_eq := by simp [State.start]
  waiting_nil := by simp [State.start]
  pending_none := by simp [State.start]
  tokens_pos := by simp [State.start]
  supervised_lt := by simp [State.start]
  supervised_nodup := by simp [State.start]

/-- A pipeline with a pending stage is not given up. -/
theorem aborted_of_pending (h : Accounts stages st) (hp : st.pending ≠ none) :
    st.aborted = false := by
  by_contra ha
  exact hp (h.pending_none (by simpa using ha))

theorem aborted_of_waiting (h : Accounts stages st) (hw : st.waiting ≠ []) :
    st.aborted = false := by
  by_contra ha
  exact hw (h.waiting_nil (by simpa using ha))

/-- A pending stage is the one after those that are begun. -/
theorem length_of_pending (h : Accounts stages st) (hp : st.pending ≠ none) :
    st.tokens.length = st.begun + 1 := by
  have hpos := h.tokens_pos (.inl hp)
  rw [State.begun_of_pending hp]
  omega

theorem onWorld (h : Accounts stages st) (f : World → World) : Accounts stages (st.onWorld f) :=
  ⟨h.length_le, h.length_eq, h.waiting_nil, h.pending_none, h.tokens_pos, h.supervised_lt,
    h.supervised_nodup⟩

theorem registered (h : Accounts stages st) {stage : Stage} {waiting : List Stage}
    (hw : st.waiting = stage :: waiting) (hp : st.pending = none) :
    Accounts stages
      { st with waiting, pending := some stage, tokens := st.tokens ++ [false] } := by
  have ha : st.aborted = false := h.aborted_of_waiting (by simp [hw])
  have hle := h.length_le
  have heq := h.length_eq ha
  rw [hw, List.length_cons] at hle heq
  refine ⟨?_, fun _ => ?_, fun ha' => ?_, fun ha' => ?_, fun _ => ?_, fun entry hentry => ?_,
    h.supervised_nodup⟩
  · simp only [List.length_append, List.length_singleton]
    omega
  · simp only [List.length_append, List.length_singleton]
    omega
  · rw [ha] at ha'
    cases ha'
  · rw [ha] at ha'
    cases ha'
  · simp
  · have hlt := h.supervised_lt entry hentry
    rw [State.begun_of_idle hp ha] at hlt
    rw [State.begun_of_pending (by simp)]
    simpa using hlt

theorem finish (h : Accounts stages st) (hp : st.pending ≠ none) (session : Session)
    (upstream : Upstream) :
    Accounts stages
      { (State.finish { st with session, pending := none } (st.tokens.length - 1)) with
        upstream } := by
  have ha := h.aborted_of_pending hp
  refine ⟨?_, fun _ => ?_, fun ha' => ?_, fun _ => rfl, fun hp' => ?_, fun entry hentry => ?_,
    h.supervised_nodup⟩
  · simpa [State.finish] using h.length_le
  · simpa [State.finish] using h.length_eq ha
  · exact h.waiting_nil ha'
  · simpa [State.finish] using h.tokens_pos (.inl hp)
  · have hlt : entry.1 < st.begun := h.supervised_lt entry hentry
    have hlen := h.length_of_pending hp
    have hlt' : entry.1 < st.tokens.length := by omega
    simpa [State.begun, State.finish, ha] using hlt'

theorem supervise (h : Accounts stages st) (hp : st.pending ≠ none) (session : Session)
    (process : Nat) (upstream : Upstream) :
    Accounts stages { st with
      session, upstream, pending := none
      supervised := st.supervised ++ [(st.tokens.length - 1, process)] } := by
  have ha := h.aborted_of_pending hp
  have hlen := h.length_of_pending hp
  refine ⟨h.length_le, h.length_eq, h.waiting_nil, fun _ => rfl, fun _ => h.tokens_pos (.inl hp),
    fun entry hentry => ?_, ?_⟩
  · have hlt' : entry.1 < st.tokens.length := by
      rcases List.mem_append.mp hentry with hentry | hentry
      · exact Nat.lt_of_lt_of_le (h.supervised_lt entry hentry) st.begun_le
      · obtain rfl := List.mem_singleton.mp hentry
        simp only
        omega
    simpa [State.begun, ha] using hlt'
  · have hnew : st.tokens.length - 1 ∉ st.supervised.map Prod.fst := by
      intro hmem
      obtain ⟨entry, hentry, heq⟩ := List.mem_map.mp hmem
      have hlt := h.supervised_lt entry hentry
      omega
    rw [List.map_append]
    exact List.nodup_append'.mpr ⟨h.supervised_nodup, by simp, by simpa using hnew⟩

theorem abort (h : Accounts stages st) (hp : st.pending ≠ none) (session : Session)
    (failure : Option Failure) :
    Accounts stages (State.abort { st with session, pending := none } failure) := by
  have hpos := h.tokens_pos (.inl hp)
  have hle := h.length_le
  refine ⟨?_, fun ha' => ?_, fun _ => rfl, fun _ => rfl, fun _ => ?_, fun entry hentry => ?_,
    h.supervised_nodup⟩
  · simp only [State.abort, State.length_tokens_cancelBefore, List.length_nil]
    omega
  · cases ha'
  · simpa [State.abort] using hpos
  · have hlt : entry.1 < st.begun := h.supervised_lt entry hentry
    rw [State.begun_of_pending hp] at hlt
    simpa [State.begun, State.abort] using hlt

theorem settle (h : Accounts stages st) (entry : Nat × Nat) :
    Accounts stages (st.settle entry) where
  length_le := by simpa [State.settle, State.finish] using h.length_le
  length_eq := by simpa [State.settle, State.finish] using h.length_eq
  waiting_nil := h.waiting_nil
  pending_none := h.pending_none
  tokens_pos := by simpa [State.settle, State.finish] using h.tokens_pos
  supervised_lt := fun other hother => by
    have hlt := h.supervised_lt other (List.mem_of_mem_erase hother)
    simpa [State.begun, State.settle, State.finish] using hlt
  supervised_nodup := (List.erase_sublist.map Prod.fst).nodup h.supervised_nodup

/-- **Every step keeps the accounts.** -/
theorem step {st' : State} (h : Accounts stages st) (hs : Step st st') : Accounts stages st' := by
  cases hs with
  | registered hw hp => exact h.registered hw hp
  | @begun stage beginning session hp _ =>
    have hp' : st.pending ≠ none := by simp [hp]
    cases beginning with
    | builtin output => exact h.finish hp' session _
    | missing => exact h.abort hp' session none
    | started process pipe => exact h.supervise hp' session process _
    | unstarted => exact h.finish hp' session .closed
  | @failed stage failure session hp _ => exact h.abort (by simp [hp]) session (some failure)
  | worked _ => exact h.onWorld _
  | interrupted process => exact h.onWorld _
  | elapsed duration => exact h.onWorld _
  | terminated _ _ => exact h.onWorld _
  | settled _ _ => exact h.settle _

/-- **The accounts of a whole run.** -/
theorem of_reaches {session : Session} (h : Reaches (.start session stages) st) :
    Accounts stages st := by
  induction h with
  | refl => exact start session stages
  | tail _ hs ih => exact ih.step hs

end Accounts

end CommandShell.Pipeline
