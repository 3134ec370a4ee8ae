/-
# How a pipeline ends

A pipeline is given up at the first stage that does not exist or cannot be begun, and else it runs
all its stages.  Either way it is over only when every process that was started for it has ended.

What is behind the stage at which it is given up does not matter at all: the run is one of any
pipeline that is the same up to there (`reaches_withRest`).  `Session.runPipeline` gives a result in
every case but one: when a program goes on that nothing has cancelled (`exists_busy_of_none`).

`run_ends` puts these together.
-/
import CommandShell.Proofs.RunLog
import Mathlib.Algebra.GroupWithZero.Nat
import Mathlib.Algebra.Order.BigOperators.Group.List
import Mathlib.Algebra.Order.Group.Nat

namespace CommandShell.Pipeline

open Relation

variable {stages stages' : List Stage} {session : Session} {st st' : State}

/-! ## 1. The stages behind -/

/-- A pipeline under way, with other stages that have no token yet. -/
def State.withRest (st : State) (stages : List Stage) : State :=
  if st.aborted then st else { st with waiting := stages.drop st.tokens.length }

/-- Two lists of stages that are the same up to a number of them, and go on or do not. -/
structure Agree (n : Nat) (stages stages' : List Stage) : Prop where
  take : stages'.take n = stages.take n
  ends : stages'.length ≤ n ↔ stages.length ≤ n

namespace Agree

variable {n i : Nat}

theorem drop_eq_nil_iff (h : Agree n stages stages') (hi : i ≤ n) :
    stages'.drop i = [] ↔ stages.drop i = [] := by
  have hlen := congrArg List.length h.take
  have hends := h.ends
  rw [List.length_take, List.length_take] at hlen
  rw [List.drop_eq_nil_iff, List.drop_eq_nil_iff]
  omega

theorem drop_eq_cons (h : Agree n stages stages') (hi : i < n) {stage : Stage}
    {waiting : List Stage} (hd : stages.drop i = stage :: waiting) :
    stages'.drop i = stage :: stages'.drop (i + 1) := by
  have hget : stages'[i]? = stages[i]? := by
    rw [← List.getElem?_take_of_lt hi, h.take, List.getElem?_take_of_lt hi]
  have hstage : stages[i]? = some stage := by
    rw [← List.head?_drop, hd, List.head?_cons]
  obtain ⟨hlt, hi'⟩ := List.getElem?_eq_some_iff.mp (hget.trans hstage)
  rw [List.drop_eq_getElem_cons hlt, hi']

end Agree

/-- Which stages have no token yet, as long as the pipeline is not given up. -/
theorem waiting_of_reaches (h : Reaches (.start session stages) st) (ha : st.aborted = false) :
    st.waiting = stages.drop st.tokens.length := by
  obtain ⟨log, hlog⟩ := exists_run_iff.mpr h
  have hrest := hlog.logged.rest ha
  rw [hlog.logged.tokens, ← List.drop_drop, ← hrest, List.drop_left]

theorem withRest_of_going (ha : st.aborted = false) :
    st.withRest stages = { st with waiting := stages.drop st.tokens.length } := by
  rw [State.withRest, ha]
  rfl

theorem withRest_of_aborted (ha : st.aborted = true) : st.withRest stages = st := by
  rw [State.withRest, ha]
  rfl

section WithRest

variable (st : State) (stages : List Stage)

@[simp] theorem session_withRest : (st.withRest stages).session = st.session := by
  rw [State.withRest]
  split <;> rfl

@[simp] theorem pending_withRest : (st.withRest stages).pending = st.pending := by
  rw [State.withRest]
  split <;> rfl

@[simp] theorem supervised_withRest : (st.withRest stages).supervised = st.supervised := by
  rw [State.withRest]
  split <;> rfl

@[simp] theorem isCancelled_withRest (stage : Nat) :
    (st.withRest stages).isCancelled stage = st.isCancelled stage := by
  rw [State.withRest]
  split <;> rfl

end WithRest

/-- The machine does not know of the stages. -/
theorem withRest_onWorld (f : World → World) :
    (st.onWorld f).withRest stages = (st.withRest stages).onWorld f := by
  rw [State.withRest, State.withRest]
  split <;> split <;> first | rfl | contradiction

theorem withRest_settle (entry : Nat × Nat) :
    (st.settle entry).withRest stages = (st.withRest stages).settle entry := by
  have ha : (st.settle entry).aborted = st.aborted := rfl
  cases hst : st.aborted with
  | true => rw [withRest_of_aborted hst, withRest_of_aborted (ha.trans hst)]
  | false =>
    rw [withRest_of_going hst, withRest_of_going (ha.trans hst)]
    simp [State.settle, State.finish, State.cancelBefore]

/-- A stage that begins does not know of those behind it, only whether there are any. -/
theorem withRest_begin (hrest : stages.drop st.tokens.length = [] ↔ st.waiting = [])
    (ha : st.aborted = false) :
    st.begin.withRest stages = (st.withRest stages).begin := by
  rw [withRest_of_going ha]
  obtain hp | ⟨stage, hp⟩ := Option.eq_none_or_eq_some st.pending
  · have hbegin : st.begin = st := by simp only [State.begin, hp]
    rw [hbegin, withRest_of_going ha]
    simp only [State.begin, hp]
  · have hempty : (stages.drop st.tokens.length).isEmpty = st.waiting.isEmpty := by
      rw [Bool.eq_iff_iff, List.isEmpty_iff, List.isEmpty_iff, hrest]
    have hattempt : State.attempt { st with waiting := stages.drop st.tokens.length } stage =
        st.attempt stage := by
      simp only [State.attempt, hempty]
    have hp' : State.pending { st with waiting := stages.drop st.tokens.length } = some stage := hp
    rcases hr : st.attempt stage with ⟨failure | beginning, s⟩
    · rw [begin_of_error hp hr, begin_of_error hp' (hattempt.trans hr), withRest_of_aborted rfl]
      rfl
    · rw [begin_of_ok hp hr, begin_of_ok hp' (hattempt.trans hr)]
      cases beginning with
      | missing =>
        rw [State.note, withRest_of_aborted rfl]
        rfl
      | builtin output =>
        refine (withRest_of_going (by exact ha)).trans ?_
        simp [State.note, State.finish, State.cancelBefore, hrest]
      | started process pipe => exact withRest_of_going (by exact ha)
      | unstarted =>
        refine (withRest_of_going (by exact ha)).trans ?_
        simp [State.note, State.finish, State.cancelBefore]

/-- **The stages behind do not matter.**  What a pipeline has come to, every pipeline can come to
that is the same as far as stages have got their tokens. -/
theorem reaches_withRest {n : Nat} (hagree : Agree n stages stages')
    (h : Reaches (.start session stages) st) (hn : st.tokens.length ≤ n) :
    Reaches (.start session stages') (st.withRest stages') := by
  induction h with
  | refl => exact .refl
  | @tail st st' hr hs ih =>
    have hacc := Accounts.of_reaches hr
    have hbegin : ∀ {stage}, st.pending = some stage → st.begin.tokens.length ≤ n →
        Reaches (.start session stages') (st.begin.withRest stages') := by
      intro stage hp hn
      have ha := hacc.aborted_of_pending (by simp [hp])
      rw [length_tokens_begin] at hn
      have hrest := hagree.drop_eq_nil_iff hn
      rw [← waiting_of_reaches hr ha] at hrest
      rw [withRest_begin hrest ha]
      exact (ih hn).tail (step_iff.mpr ⟨.begin, by simp [State.after?, hp]⟩)
    cases hs with
    | @registered stage waiting hw hp =>
      have ha := hacc.aborted_of_waiting (by simp [hw])
      simp only [List.length_append, List.length_singleton] at hn
      have hdrop := (waiting_of_reaches hr ha).symm.trans hw
      have hdrop' := hagree.drop_eq_cons (by omega) hdrop
      have hstep : Step { st with waiting := stages'.drop st.tokens.length } _ :=
        .registered hdrop' hp
      refine (ih (by omega)).tail ?_
      rw [withRest_of_going ha, withRest_of_going (by exact ha)]
      simpa only [List.length_append, List.length_singleton] using hstep
    | @begun stage beginning s hp hr' =>
      rw [← begin_of_ok hp hr'] at hn ⊢
      exact hbegin hp hn
    | @failed stage failure s hp hr' =>
      rw [← begin_of_error hp hr'] at hn ⊢
      exact hbegin hp hn
    | @worked process w hw =>
      rw [withRest_onWorld]
      exact (ih hn).tail (.worked (by simpa using hw))
    | interrupted process =>
      rw [withRest_onWorld]
      exact (ih hn).tail (.interrupted process)
    | elapsed duration =>
      rw [withRest_onWorld]
      exact (ih hn).tail (.elapsed duration)
    | terminated hs hc =>
      rw [State.terminate, withRest_onWorld]
      exact (ih hn).tail (.terminated (by simpa using hs) (by simpa using hc))
    | @settled stage process hs he =>
      have hn' : st.tokens.length ≤ n := by simpa [State.settle, State.finish] using hn
      rw [withRest_settle]
      exact (ih hn').tail (.settled (by simpa using hs) (by simpa using he))

/-! ## 2. Settling -/

theorem lt_processes_of_reaches (h : Reaches (.start session stages) st) :
    ∀ entry ∈ st.supervised, entry.2 < st.session.world.processes.length := by
  obtain ⟨log, hlog⟩ := exists_run_iff.mpr h
  clear h
  induction hlog with
  | start => simp [State.start]
  | @began log st stage _ hp ih =>
    rw [session_begin hp, supervised_begin hp]
    intro entry hentry
    rcases (Entry.mk st stage).begins.processes with ⟨pipe, p, hr, hprocesses⟩ |
      ⟨hstarted, hprocesses⟩
    · rw [hprocesses, List.length_append, List.length_singleton]
      rw [hr] at hentry
      rcases List.mem_append.mp hentry with hentry | hentry
      · exact Nat.lt_add_right _ (ih entry hentry)
      · rw [List.mem_singleton.mp hentry]
        exact Nat.lt_succ_self _
    · rw [hprocesses]
      split at hentry
      next process pipe hr => exact absurd hr (hstarted process pipe)
      next => exact ih entry (by simpa using hentry)
  | passed _ he hs ih =>
    intro entry hentry
    have hpasses := passes_of_after? he hs
    have hle := hpasses.since.world.processes
    have hold := ih entry (hpasses.supervised_subset hentry)
    omega

/-- How often a supervised stage is still to be attended to: once if its process has ended, or else
twice. -/
def State.effort (st : State) (entry : Nat × Nat) : Nat :=
  if st.session.world.hasEnded entry.2 then 1 else 2

/-- How often all supervised stages are. -/
def State.chores (st : State) : Nat := (st.supervised.map st.effort).sum

theorem hasEnded_kill {w : World} {process : Nat} (h : process < w.processes.length) :
    (w.kill process).hasEnded process = true := by
  have hget : w.processes[process]? = some w.processes[process] := List.getElem?_eq_getElem h
  rw [World.hasEnded, World.statusOf?, World.kill, World.updateProcess, List.getElem?_modify, hget]
  rcases w.processes[process] with ⟨_ | status, _, _, _, _⟩ <;>
    simp [Process.isRunning, Process.ended]

/-- Attending to a stage leaves less to do. -/
theorem chores_attend {entry : Nat × Nat} (hs : entry ∈ st.supervised)
    (hlt : entry.2 < st.session.world.processes.length) : (st.attend entry).chores < st.chores := by
  rw [State.attend]
  split
  next he =>
    have heffort : st.effort entry = 1 := if_pos he
    have hsum : st.chores = st.effort entry + (st.settle entry).chores :=
      ((List.perm_cons_erase hs).map st.effort).sum_eq
    omega
  next he =>
    have hkill := World.follows_kill st.session.world entry.2
    have hended : (st.terminate entry).session.world.hasEnded entry.2 = true := hasEnded_kill hlt
    refine List.sum_lt_sum _ _ (fun other _ => ?_) ⟨entry, hs, ?_⟩
    · by_cases hother : st.session.world.hasEnded other.2 = true
      · have hother' : (st.terminate entry).session.world.hasEnded other.2 = true :=
          Logged.hasEnded_of_follows hkill hother
        rw [State.effort, State.effort, if_pos hother, if_pos hother']
      · rw [State.effort, State.effort, if_neg hother]
        split <;> omega
    · rw [State.effort, State.effort, if_pos hended, if_neg he]
      omega

theorem chores_le (st : State) : st.chores ≤ 2 * st.supervised.length := by
  have hle := List.sum_le_card_nsmul (st.supervised.map st.effort) 2 fun n hn => by
    obtain ⟨entry, -, rfl⟩ := List.mem_map.mp hn
    rw [State.effort]
    split <;> omega
  simpa [State.chores, Nat.mul_comm] using hle

/-- With enough attention no stage is left that is ready. -/
theorem settleReady_done {n : Nat} (h : Reaches (.start session stages) st)
    (hn : st.chores ≤ n) : ∀ entry ∈ (State.settleReady n st).supervised,
      (State.settleReady n st).isReady entry = false := by
  induction n generalizing st with
  | zero =>
    intro entry hentry
    have hpos : 0 < st.effort entry := by
      rw [State.effort]
      split <;> omega
    have hle : st.effort entry ≤ st.chores :=
      List.single_le_sum (by simp) _ (List.mem_map_of_mem hentry)
    omega
  | succ n ih =>
    rw [State.settleReady]
    split
    next hfind => simpa using hfind
    next entry hfind =>
      have hs := List.mem_of_find?_eq_some hfind
      have hless := chores_attend hs (lt_processes_of_reaches h entry hs)
      exact ih (h.tail (step_attend hfind)) (by omega)

theorem attend_idle (st : State) (entry : Nat × Nat) :
    (st.attend entry).waiting = st.waiting ∧ (st.attend entry).pending = st.pending := by
  rw [State.attend]
  split <;> exact ⟨rfl, rfl⟩

theorem settleReady_idle : ∀ (n : Nat) (st : State),
    (State.settleReady n st).waiting = st.waiting ∧ (State.settleReady n st).pending = st.pending
  | 0, _ => ⟨rfl, rfl⟩
  | n + 1, st => by
    rw [State.settleReady]
    split
    next => exact ⟨rfl, rfl⟩
    next entry _ =>
      obtain ⟨hw, hp⟩ := settleReady_idle n (st.attend entry)
      obtain ⟨hw', hp'⟩ := attend_idle st entry
      exact ⟨hw.trans hw', hp.trans hp'⟩

/-- When settling gives a result, no stage is supervised any more. -/
theorem of_settleAll {patience : Nat} (h : State.settleAll patience st = some st') :
    st'.supervised = [] ∧ st'.waiting = st.waiting ∧ st'.pending = st.pending := by
  induction patience generalizing st with
  | zero =>
    rw [State.settleAll] at h
    split at h
    next hs =>
      obtain rfl := Option.some.inj h
      exact ⟨hs, settleReady_idle _ st⟩
    next => cases h
  | succ patience ih =>
    rw [State.settleAll] at h
    split at h
    next hs =>
      obtain rfl := Option.some.inj h
      exact ⟨hs, settleReady_idle _ st⟩
    next =>
      split at h
      · cases h
      · obtain ⟨hs, hw, hp⟩ := ih h
        obtain ⟨hw', hp'⟩ := settleReady_idle (2 * st.supervised.length) st
        exact ⟨hs, hw.trans hw', hp.trans hp'⟩

/-- When as many stages were begun as there are, none is left. -/
theorem beginMany_idle : ∀ (n : Nat) {st : State}, st.pending = none → st.waiting.length ≤ n →
    (State.beginMany n st).waiting = [] ∧ (State.beginMany n st).pending = none
  | 0, _, hp, hn => ⟨List.length_eq_zero_iff.mp (Nat.le_zero.mp hn), hp⟩
  | n + 1, st, _, hn => by
    refine beginMany_idle n (pending_begin st.register) ?_
    have hregister : st.register.waiting.length ≤ n := by
      rw [State.register]
      split
      next hw => simp [hw]
      next hw =>
        rw [hw, List.length_cons] at hn
        exact Nat.le_of_succ_le_succ hn
    exact Nat.le_trans (length_waiting_begin st.register) hregister

/-- Settling gives no result only because of a program that is not ready to be settled. -/
theorem exists_of_settleAll_eq_none {patience : Nat} (h : Reaches (.start session stages) st)
    (hnone : State.settleAll patience st = none) :
    ∃ st', Reaches st st' ∧ ∃ entry ∈ st'.supervised, st'.isReady entry = false := by
  induction patience generalizing st with
  | zero =>
    rw [State.settleAll] at hnone
    split at hnone
    · cases hnone
    next hs =>
      obtain ⟨entry, hentry⟩ := List.exists_mem_of_ne_nil _ hs
      exact ⟨_, reaches_settleReady _ st, entry, hentry,
        settleReady_done h (chores_le st) entry hentry⟩
  | succ patience ih =>
    have hready := reaches_settleReady (2 * st.supervised.length) st
    rw [State.settleAll] at hnone
    split at hnone
    · cases hnone
    next hs =>
      split at hnone
      next =>
        obtain ⟨entry, hentry⟩ := List.exists_mem_of_ne_nil _ hs
        exact ⟨_, hready, entry, hentry, settleReady_done h (chores_le st) entry hentry⟩
      next w hw =>
        have hadvance := hready.trans (reaches_advance hw)
        obtain ⟨st', hst', hbusy⟩ := ih (h.trans hadvance) hnone
        exact ⟨st', hadvance.trans hst', hbusy⟩

/-- **When a pipeline does not come to an end**: a program goes on, and nothing has cancelled it. -/
theorem exists_busy_of_none {patience : Nat}
    (hnone : session.runPipeline patience stages = none) :
    ∃ st, Reaches (State.beginMany stages.length (.start session stages)) st ∧
      st.aborted = false ∧ ∃ entry ∈ st.supervised,
        st.session.world.hasEnded entry.2 = false ∧ st.isCancelled entry.1 = false := by
  have hbegun := reaches_beginMany stages.length (rfl : (State.start session stages).pending = none)
  obtain ⟨st, hst, entry, hentry, hbusy⟩ := exists_of_settleAll_eq_none hbegun
    (Option.map_eq_none_iff.mp hnone)
  have hr := hbegun.trans hst
  obtain ⟨hended, hcancelled⟩ : st.session.world.hasEnded entry.2 = false ∧
      st.isCancelled entry.1 = false := by simpa [State.isReady] using hbusy
  refine ⟨st, hst, ?_, entry, hentry, hended, hcancelled⟩
  -- All tokens of a pipeline that was given up are cancelled.
  by_contra ha
  have hlt := Nat.lt_of_lt_of_le ((Accounts.of_reaches hr).supervised_lt entry hentry) st.begun_le
  have hcancelled' := (CancelledExactly.of_reaches hr entry.1).mpr ⟨hlt, .inl (by simpa using ha)⟩
  simp [hcancelled] at hcancelled'

/-! ## 3. The end -/

def State.outcome (st : State) : Except Failure Unit :=
  match st.failure with
  | none => .ok ()
  | some f => .error f

/-- The pipeline was given up at a stage, and those behind it came to nothing. -/
structure GivenUpAt (stages : List Stage) (session : Session) (older : List Entry) (e : Entry)
    (st : State) : Prop where
  fails : e.Fails
  /-- It is the first stage that fails. -/
  first : ∀ e' ∈ older, ¬ e'.Fails
  position : older.length < stages.length
  /-- No stage behind it was begun. -/
  begun : (older ++ [e]).map Entry.stage = stages.take (older.length + 1)
  /-- The stage itself has started no process. -/
  processes : e.after.world.processes = e.before.session.world.processes
  /-- After it only the machine went on. -/
  since : Since e.after st.session
  /-- Whatever stages are behind it, the pipeline can come to the same. -/
  whatever : ∀ rest, (rest = [] ↔ older.length + 1 = stages.length) →
    Reaches (.start session (stages.take (older.length + 1) ++ rest)) st
  cancelled : ∀ i < older.length, st.isCancelled i = true
  /-- It fails for the reason for which the stage does, and not because there is no such command. -/
  outcome : st.outcome = match e.result with
    | .error f => .error f
    | .ok _ => .ok ()

/-- All stages were run. -/
structure Completed (stages : List Stage) (log : List Entry) (st : State) : Prop where
  begun : log.map Entry.stage = stages
  noneFails : ∀ e ∈ log, ¬ e.Fails
  outcome : st.outcome = .ok ()

/-- A pipeline that was given up has come to nothing behind the stage at which it was. -/
theorem givenUpAt_of_run {log : List Entry} (h : Run (.start session stages) log st)
    (hp : st.pending = none) (ha : st.aborted = true) :
    ∃ older e, log = older ++ [e] ∧ GivenUpAt stages session older e st := by
  have hlog := h.logged
  obtain ⟨older, e, rfl, hfails, hfirst, hfailure⟩ := hlog.givenUp ha
  have htokens := hlog.tokens
  have hposition := hlog.length_le
  rw [hp, Option.toList_none, List.length_nil, Nat.add_zero, List.length_append,
    List.length_singleton] at htokens
  rw [List.length_append, List.length_singleton] at hposition
  refine ⟨older, e, rfl, hfails, hfirst, hposition, ?_, ?_, ?_, fun rest hrest => ?_,
    fun i hi => ?_, ?_⟩
  · simpa using hlog.inOrder
  · rcases e.begins.processes with ⟨pipe, p, hr, -⟩ | ⟨-, hprocesses⟩
    · rcases e.fails_iff.mp hfails with hr' | ⟨f, hr'⟩ <;> rw [hr] at hr' <;> cases hr'
    · exact hprocesses
  · have hsince := hlog.since
    rwa [lastSession_concat] at hsince
  · have hagree : Agree (older.length + 1) stages (stages.take (older.length + 1) ++ rest) := by
      rw [← List.length_eq_zero_iff] at hrest
      refine ⟨List.take_left' (List.length_take_of_le hposition), ?_⟩
      rw [List.length_append, List.length_take]
      omega
    have hreaches := reaches_withRest hagree h.reaches (Nat.le_of_eq htokens)
    rwa [withRest_of_aborted ha] at hreaches
  · exact (CancelledExactly.of_reaches h.reaches i).mpr ⟨by omega, .inl ha⟩
  · rw [State.outcome, hfailure, Entry.failure]
    cases e.result <;> rfl

/-- A pipeline that was not has run all its stages. -/
theorem completed_of_run {log : List Entry} (h : Run (.start session stages) log st)
    (hw : st.waiting = []) (hp : st.pending = none) (ha : st.aborted = false) :
    Completed stages log st := by
  have hlog := h.logged
  have hrest := hlog.rest ha
  rw [hp, hw, Option.toList_none, List.append_nil, eq_comm, List.drop_eq_nil_iff] at hrest
  refine ⟨?_, (hlog.going ha).2, ?_⟩
  · rw [hlog.inOrder, List.take_of_length_le hrest]
  · rw [State.outcome, (hlog.going ha).1]

theorem State.isOver_iff : st.isOver = true ↔
    st.waiting = [] ∧ st.pending = none ∧ st.supervised = [] := by
  simp only [State.isOver, Bool.and_eq_true, List.isEmpty_iff, Option.isNone_iff_eq_none, and_assoc]

/-- **How a run is over**: given up at a stage that fails, or with all stages begun. -/
theorem Run.ends {log : List Entry} (h : Run (.start session stages) log st)
    (hover : st.isOver = true) :
    (∃ older e, log = older ++ [e] ∧ GivenUpAt stages session older e st) ∨
      Completed stages log st := by
  obtain ⟨hw, hp, -⟩ := State.isOver_iff.mp hover
  cases ha : st.aborted with
  | true => exact .inl (givenUpAt_of_run h hp ha)
  | false => exact .inr (completed_of_run h hw hp ha)

/-- **A result is that of a run** which is over. -/
theorem exists_run_of_runPipeline {patience : Nat} {result : Except Failure Unit} {s' : Session}
    (h : session.runPipeline patience stages = some (result, s')) :
    ∃ log st, Run (.start session stages) log st ∧ st.isOver = true ∧ result = st.outcome ∧
      s' = (st.onWorld World.stopDraining).session := by
  obtain ⟨st, hst, heq⟩ := Option.map_eq_some_iff.mp h
  obtain ⟨rfl, rfl⟩ := Prod.mk.inj heq
  obtain ⟨log, hlog⟩ := exists_run_iff.mpr (reaches_runPipeline hst)
  obtain ⟨hs, hw, hp⟩ := of_settleAll hst
  obtain ⟨hw', hp'⟩ := beginMany_idle stages.length
    (rfl : (State.start session stages).pending = none) (Nat.le_refl _)
  exact ⟨log, st, hlog, State.isOver_iff.mpr ⟨hw.trans hw', hp.trans hp', hs⟩, rfl, rfl⟩

end CommandShell.Pipeline
