/-
# Which stages are killed

A token is a promise about the stages behind it: it is cancelled when a later stage is over, so that
nobody reads any more what its own stage writes, or when the pipeline is given up, and at no other
time.  `cancelled_iff` says so for every token in every state that any order of events leads to.  It
follows from what one step does to the tokens and to the stages that are over (`Change`).

From it come the two sides of safety.  Every stage that is over has cancelled the tokens of all
stages before it, and a program is killed by the shell only when a later stage is over or the
pipeline was given up; in particular the program of the last stage never is.
-/
import CommandShell.Proofs.PipelineRun
import Mathlib.Data.List.GetD

namespace CommandShell.Pipeline

open Relation

variable {stages : List Stage} {st st' : State}

/-! ## 1. Tokens -/

theorem lt_of_isCancelled {i : Nat} (h : st.isCancelled i = true) : i < st.tokens.length := by
  by_contra hlt
  rw [State.isCancelled, List.getD_eq_default _ _ (by omega)] at h
  cases h

/-- A token that was cancelled stays so, and those in front of a stage are cancelled with it. -/
theorem isCancelled_of_cancelBefore {n : Nat} (h : st'.tokens = (st.cancelBefore n).tokens)
    (i : Nat) :
    st'.isCancelled i = true ↔
      st.isCancelled i = true ∨ i < st.tokens.length ∧ i < n := by
  rw [State.isCancelled, State.isCancelled, h, State.cancelBefore]
  by_cases hi : i < st.tokens.length
  · simp [hi]
  · simp [hi]

theorem length_of_cancelBefore {n : Nat} (h : st'.tokens = (st.cancelBefore n).tokens) :
    st'.tokens.length = st.tokens.length := by
  rw [h, State.length_tokens_cancelBefore]

theorem isCancelled_of_append (h : st'.tokens = st.tokens ++ [false]) (i : Nat) :
    st'.isCancelled i = st.isCancelled i := by
  rw [State.isCancelled, State.isCancelled, h]
  by_cases hi : i < st.tokens.length
  · simp [List.getElem?_append_left hi]
  · rw [List.getD_eq_default st.tokens _ (by omega), List.getD_append_right _ _ _ _ (by omega)]
    cases i - st.tokens.length <;> rfl

/-! ## 2. What a step changes -/

/-- A stage comes to its end: its built-in command has returned, its program could not be started,
or its process has ended and is settled. -/
inductive Finishes (st : State) (stage : Nat) : State → Prop
  | builtin {s : Stage} {output : Bytes} {session : Session} (hp : st.pending = some s)
      (h : st.attempt s = (.ok (.builtin output), session))
      (hlast : stage + 1 = st.tokens.length) : Finishes st stage st.begin
  | unstarted {s : Stage} {session : Session} (hp : st.pending = some s)
      (h : st.attempt s = (.ok .unstarted, session))
      (hlast : stage + 1 = st.tokens.length) : Finishes st stage st.begin
  | settled {process : Nat} (hs : (stage, process) ∈ st.supervised)
      (he : st.session.world.hasEnded process = true) :
      Finishes st stage (st.settle (stage, process))

/-- The pipeline is given up: a command does not exist, or a stage cannot be begun. -/
inductive GivesUp (st : State) : State → Prop
  | missing {s : Stage} {session : Session} (hp : st.pending = some s)
      (h : st.attempt s = (.ok .missing, session)) : GivesUp st st.begin
  | failed {s : Stage} {failure : Failure} {session : Session} (hp : st.pending = some s)
      (h : st.attempt s = (.error failure, session)) : GivesUp st st.begin

/-- What a step can do to the tokens and to the stages that are over. -/
inductive Change (st st' : State) : Prop
  /-- Nothing. -/
  | nothing (htokens : st'.tokens = st.tokens) (ha : st'.aborted = st.aborted)
      (hover : ∀ j, st'.IsOver j ↔ st.IsOver j) (hfinished : st'.finished = st.finished)
  /-- There is a new token. -/
  | token (htokens : st'.tokens = st.tokens ++ [false]) (ha : st.aborted = false)
      (ha' : st'.aborted = false) (hover : ∀ j, st'.IsOver j ↔ st.IsOver j)
      (hfinished : st'.finished = st.finished)
  /-- One more stage is over. -/
  | ending (stage : Nat) (hf : Finishes st stage st')
      (htokens : st'.tokens = (st.cancelBefore stage).tokens) (ha : st'.aborted = st.aborted)
      (hnew : ¬ st.IsOver stage) (hover : ∀ j, st'.IsOver j ↔ st.IsOver j ∨ j = stage)
      (hfinished : st'.finished = st.finished ++ [stage])
  /-- The pipeline is given up. -/
  | givenUp (hg : GivesUp st st')
      (htokens : st'.tokens = (st.cancelBefore st.tokens.length).tokens) (ha : st'.aborted = true)
      (hover : ∀ j, st'.IsOver j ↔ st.IsOver j) (hfinished : st'.finished = st.finished)

/-- A stage that is over depends on two parts of a pipeline only. -/
theorem isOver_congr (hb : st'.begun = st.begun) (hs : st'.supervised = st.supervised) (j : Nat) :
    st'.IsOver j ↔ st.IsOver j := by
  rw [State.IsOver, State.IsOver, hb, hs]

theorem not_isOver_of_supervised {entry : Nat × Nat} (hs : entry ∈ st.supervised) :
    ¬ st.IsOver entry.1 := fun h => h.2 entry.2 hs

/-- The stage after those that are begun is over once it is begun without a program. -/
theorem isOver_of_begun_succ (h : Accounts stages st) (hb : st'.begun = st.begun + 1)
    (hs : st'.supervised = st.supervised) (j : Nat) :
    st'.IsOver j ↔ st.IsOver j ∨ j = st.begun := by
  rw [State.IsOver, State.IsOver, hb, hs]
  constructor
  · rintro ⟨hlt, hnot⟩
    rcases Nat.lt_succ_iff_lt_or_eq.mp hlt with hlt | rfl
    · exact .inl ⟨hlt, hnot⟩
    · exact .inr rfl
  · rintro (⟨hlt, hnot⟩ | rfl)
    · exact ⟨by omega, hnot⟩
    · exact ⟨by omega, fun process hmem => Nat.lt_irrefl _ (h.supervised_lt _ hmem)⟩

theorem isOver_of_supervised {process : Nat} (hb : st'.begun = st.begun + 1)
    (hs : st'.supervised = st.supervised ++ [(st.begun, process)]) (j : Nat) :
    st'.IsOver j ↔ st.IsOver j := by
  rw [State.IsOver, State.IsOver, hb, hs]
  constructor
  · rintro ⟨hlt, hnot⟩
    have hne : j ≠ st.begun := by
      rintro rfl
      exact hnot process (by simp)
    exact ⟨by omega, fun p hmem => hnot p (List.mem_append_left _ hmem)⟩
  · rintro ⟨hlt, hnot⟩
    refine ⟨by omega, fun p hmem => ?_⟩
    rcases List.mem_append.mp hmem with hmem | hmem
    · exact hnot p hmem
    · obtain ⟨rfl, -⟩ := Prod.mk.inj (List.mem_singleton.mp hmem)
      exact Nat.lt_irrefl _ hlt

theorem isOver_settle (h : Accounts stages st) {stage process : Nat}
    (hs : (stage, process) ∈ st.supervised) (j : Nat) :
    (st.settle (stage, process)).IsOver j ↔ st.IsOver j ∨ j = stage := by
  have hb : (st.settle (stage, process)).begun = st.begun := by
    simp [State.begun, State.settle, State.finish]
  have hnodup : st.supervised.Nodup := h.supervised_nodup.of_map _
  have herase : ∀ p, (j, p) ∈ (st.settle (stage, process)).supervised ↔
      (j, p) ≠ (stage, process) ∧ (j, p) ∈ st.supervised := fun p => hnodup.mem_erase_iff
  rw [State.IsOver, State.IsOver, hb]
  constructor
  · rintro ⟨hlt, hnot⟩
    by_cases hj : j = stage
    · exact .inr hj
    · refine .inl ⟨hlt, fun p hmem => hnot p ((herase p).mpr ⟨?_, hmem⟩)⟩
      simp [hj]
  · rintro (⟨hlt, hnot⟩ | rfl)
    · exact ⟨hlt, fun p hmem => hnot p ((herase p).mp hmem).2⟩
    · refine ⟨h.supervised_lt _ hs, fun p hmem => ?_⟩
      obtain ⟨hne, hmem⟩ := (herase p).mp hmem
      -- Two entries of one stage are one entry.
      exact hne (List.inj_on_of_nodup_map h.supervised_nodup hmem hs rfl)

namespace Change

theorem onWorld (f : World → World) : Change st (st.onWorld f) :=
  .nothing rfl rfl (isOver_congr rfl rfl) rfl

/-- A pending stage turns out to be a built-in command, or a program that could not be started. -/
theorem finish (h : Accounts stages st) (hp : st.pending ≠ none) {session : Session}
    {upstream : Upstream}
    (heq : st' = { (State.finish { st with session, pending := none } (st.tokens.length - 1)) with
      upstream })
    (hf : Finishes st st.begun st') : Change st st' := by
  have ha := h.aborted_of_pending hp
  have hlen := h.length_of_pending hp
  have hlast : st.tokens.length - 1 = st.begun := by omega
  rw [hlast] at heq
  subst heq
  refine .ending st.begun hf rfl rfl (fun hover => Nat.lt_irrefl _ hover.1)
    (isOver_of_begun_succ h ?_ rfl) rfl
  rw [← hlen]
  simp [State.begun, State.finish, ha]

/-- It turns out to be a program that was started. -/
theorem supervise (h : Accounts stages st) (hp : st.pending ≠ none) (session : Session)
    (process : Nat) (upstream : Upstream) :
    Change st { st with
      session, upstream, pending := none
      supervised := st.supervised ++ [(st.tokens.length - 1, process)] } := by
  have ha := h.aborted_of_pending hp
  have hlen := h.length_of_pending hp
  have hlast : st.tokens.length - 1 = st.begun := by omega
  rw [hlast]
  refine .nothing rfl rfl (isOver_of_supervised ?_ rfl) rfl
  rw [← hlen]
  simp [State.begun, ha]

/-- The pipeline is given up at it. -/
theorem abort (hp : st.pending ≠ none) {session : Session} {failure : Option Failure}
    (heq : st' = State.abort { st with session, pending := none } failure)
    (hg : GivesUp st st') : Change st st' := by
  subst heq
  refine .givenUp hg rfl rfl (isOver_congr ?_ rfl) rfl
  rw [State.begun_of_pending hp]
  simp [State.begun, State.abort]

end Change

/-- **Every step is one of the changes.** -/
theorem change_of_step (h : Accounts stages st) (hs : Step st st') : Change st st' := by
  cases hs with
  | @registered stage waiting hw hp =>
    have ha := h.aborted_of_waiting (by simp [hw])
    refine .token rfl ha ha (isOver_congr ?_ rfl) rfl
    simp [State.begun, hp, ha]
  | @begun stage beginning session hp hr =>
    have hp' : st.pending ≠ none := by simp [hp]
    have hlast : st.begun + 1 = st.tokens.length := (h.length_of_pending hp').symm
    have heq := begin_of_ok hp hr
    rw [← heq]
    cases beginning with
    | builtin output => exact .finish h hp' heq (.builtin hp hr hlast)
    | missing => exact .abort hp' heq (.missing hp hr)
    | started process pipe =>
      rw [heq]
      exact .supervise h hp' session process _
    | unstarted => exact .finish h hp' heq (.unstarted hp hr hlast)
  | @failed stage failure session hp hr =>
    have heq := begin_of_error hp hr
    rw [← heq]
    exact .abort (by simp [hp]) heq (.failed hp hr)
  | worked _ => exact .onWorld _
  | interrupted process => exact .onWorld _
  | elapsed duration => exact .onWorld _
  | terminated _ _ => exact .onWorld _
  | @settled stage process hs he =>
    exact .ending stage (.settled hs he) rfl rfl (not_isOver_of_supervised hs) (isOver_settle h hs)
      rfl

/-! ## 3. What is cancelled -/

/-- The tokens that are cancelled are those in front of a stage that is over, and all of them once
the pipeline is given up. -/
def CancelledExactly (st : State) : Prop :=
  ∀ i, st.isCancelled i = true ↔
    i < st.tokens.length ∧ (st.aborted = true ∨ ∃ j, i < j ∧ st.IsOver j)

/-- A change keeps that. -/
theorem CancelledExactly.change (h : CancelledExactly st) (hc : Change st st') :
    CancelledExactly st' := by
  intro i
  cases hc with
  | nothing htokens ha hover =>
    rw [State.isCancelled, htokens, ← State.isCancelled, h i, ha]
    simp only [hover]
  | token htokens ha ha' hover =>
    rw [isCancelled_of_append htokens, h i, htokens, ha, ha']
    simp only [hover, Bool.false_eq_true, false_or, List.length_append, List.length_singleton]
    constructor
    · rintro ⟨hlt, hj⟩
      exact ⟨by omega, hj⟩
    · rintro ⟨-, j, hij, hj⟩
      have hlt := hj.1
      have hle := st.begun_le
      exact ⟨by omega, j, hij, hj⟩
  | ending stage _ htokens ha _ hover =>
    rw [isCancelled_of_cancelBefore htokens, h i, length_of_cancelBefore htokens, ha]
    simp only [hover]
    constructor
    · rintro (⟨hlt, ha | ⟨j, hij, hj⟩⟩ | ⟨hlt, hi⟩)
      · exact ⟨hlt, .inl ha⟩
      · exact ⟨hlt, .inr ⟨j, hij, .inl hj⟩⟩
      · exact ⟨hlt, .inr ⟨stage, hi, .inr rfl⟩⟩
    · rintro ⟨hlt, ha | ⟨j, hij, hj | rfl⟩⟩
      · exact .inl ⟨hlt, .inl ha⟩
      · exact .inl ⟨hlt, .inr ⟨j, hij, hj⟩⟩
      · exact .inr ⟨hlt, hij⟩
  | givenUp _ htokens ha hover =>
    rw [isCancelled_of_cancelBefore htokens, length_of_cancelBefore htokens, ha]
    constructor
    · rintro (hcancelled | ⟨hlt, -⟩)
      · exact ⟨lt_of_isCancelled hcancelled, .inl rfl⟩
      · exact ⟨hlt, .inl rfl⟩
    · rintro ⟨hlt, -⟩
      exact .inr ⟨hlt, hlt⟩

theorem CancelledExactly.start (session : Session) (stages : List Stage) :
    CancelledExactly (.start session stages) := by
  intro i
  simp [State.isCancelled, State.start]

/-- **What is cancelled after any run.** -/
theorem CancelledExactly.of_reaches {session : Session} (h : Reaches (.start session stages) st) :
    CancelledExactly st := by
  induction h with
  | refl => exact .start session stages
  | tail hr hs ih => exact ih.change (change_of_step (Accounts.of_reaches hr) hs)

/-! ## 4. What has happened -/

/-- A stage has come to its end on the way from one state to another. -/
def HasFinished (first st : State) (stage : Nat) : Prop :=
  ∃ a b, Reaches first a ∧ Finishes a stage b ∧ Reaches b st

/-- The pipeline was given up on the way from one state to another. -/
def WasGivenUp (first st : State) : Prop := ∃ a b, Reaches first a ∧ GivesUp a b ∧ Reaches b st

theorem HasFinished.tail {first : State} {stage : Nat} (h : HasFinished first st stage)
    (hs : Step st st') : HasFinished first st' stage := by
  obtain ⟨a, b, ha, hf, hb⟩ := h
  exact ⟨a, b, ha, hf, hb.tail hs⟩

theorem WasGivenUp.tail {first : State} (h : WasGivenUp first st) (hs : Step st st') :
    WasGivenUp first st' := by
  obtain ⟨a, b, ha, hg, hb⟩ := h
  exact ⟨a, b, ha, hg, hb.tail hs⟩

theorem isOver_of_finishes {stage : Nat} (h : Accounts stages st) (hf : Finishes st stage st') :
    st'.IsOver stage := by
  cases hf with
  | @builtin s output session hp hr hlast | @unstarted s session hp hr hlast =>
    have hp' : st.pending ≠ none := by simp [hp]
    have ha := h.aborted_of_pending hp'
    have hlen := h.length_of_pending hp'
    rw [begin_of_ok hp hr]
    refine ⟨?_, fun process hmem => ?_⟩
    · have hlt : stage < st.tokens.length := by omega
      simpa [State.begun, State.note, State.finish, ha] using hlt
    · have hlt : stage < st.begun := h.supervised_lt _ hmem
      omega
  | settled hs _ => exact (isOver_settle h hs stage).mpr (.inr rfl)

theorem aborted_of_givesUp (hg : GivesUp st st') : st'.aborted = true := by
  cases hg with
  | missing hp hr =>
    rw [begin_of_ok hp hr]
    rfl
  | failed hp hr =>
    rw [begin_of_error hp hr]
    rfl

/-- Only a step brings a stage to its end, or gives the pipeline up. -/
theorem Finishes.step {stage : Nat} (hf : Finishes st stage st') : Step st st' := by
  cases hf with
  | builtin hp hr _ | unstarted hp hr _ =>
    rw [begin_of_ok hp hr]
    exact .begun hp hr
  | settled hs he => exact .settled hs he

theorem GivesUp.step (hg : GivesUp st st') : Step st st' := by
  cases hg with
  | missing hp hr =>
    rw [begin_of_ok hp hr]
    exact .begun hp hr
  | failed hp hr =>
    rw [begin_of_error hp hr]
    exact .failed hp hr

theorem isOver_of_step {stage : Nat} (h : Accounts stages st) (hs : Step st st')
    (ho : st.IsOver stage) : st'.IsOver stage := by
  cases change_of_step h hs with
  | nothing _ _ hover => exact (hover stage).mpr ho
  | token _ _ _ hover => exact (hover stage).mpr ho
  | ending _ _ _ _ _ hover => exact (hover stage).mpr (.inl ho)
  | givenUp _ _ _ hover => exact (hover stage).mpr ho

theorem aborted_of_step (h : Accounts stages st) (hs : Step st st') (ha : st.aborted = true) :
    st'.aborted = true := by
  cases change_of_step h hs with
  | nothing _ heq => rw [heq, ha]
  | token _ ha' => simp [ha] at ha'
  | ending _ _ _ heq => rw [heq, ha]
  | givenUp _ _ ha' => exact ha'

/-- **The stages that are over are those that have come to their ends.** -/
theorem hasFinished_iff {session : Session} (h : Reaches (.start session stages) st)
    (stage : Nat) : HasFinished (.start session stages) st stage ↔ st.IsOver stage := by
  constructor
  · rintro ⟨a, b, ha, hf, hb⟩
    have hover : b.IsOver stage := isOver_of_finishes (Accounts.of_reaches ha) hf
    -- Along the rest of the run.
    induction hb with
    | refl => exact hover
    | tail hbc hs ih =>
      have hc := (ha.tail hf.step).trans hbc
      exact isOver_of_step (Accounts.of_reaches hc) hs (ih hc)
  · intro ho
    induction h with
    | refl => exact absurd ho.1 (by simp [State.begun, State.start])
    | tail hr hs ih =>
      cases change_of_step (Accounts.of_reaches hr) hs with
      | nothing _ _ hover => exact (ih ((hover stage).mp ho)).tail hs
      | token _ _ _ hover => exact (ih ((hover stage).mp ho)).tail hs
      | ending last hf _ _ _ hover =>
        rcases (hover stage).mp ho with ho | rfl
        · exact (ih ho).tail hs
        · exact ⟨_, _, hr, hf, .refl⟩
      | givenUp _ _ _ hover => exact (ih ((hover stage).mp ho)).tail hs

/-- **A pipeline counts as given up when it was given up.** -/
theorem wasGivenUp_iff {session : Session} (h : Reaches (.start session stages) st) :
    WasGivenUp (.start session stages) st ↔ st.aborted = true := by
  constructor
  · rintro ⟨a, b, ha, hg, hb⟩
    have haborted : b.aborted = true := aborted_of_givesUp hg
    induction hb with
    | refl => exact haborted
    | tail hbc hs ih =>
      have hc := (ha.tail hg.step).trans hbc
      exact aborted_of_step (Accounts.of_reaches hc) hs (ih hc)
  · intro ha
    induction h with
    | refl => cases ha
    | tail hr hs ih =>
      cases change_of_step (Accounts.of_reaches hr) hs with
      | nothing _ heq => exact (ih (heq ▸ ha)).tail hs
      | token _ _ ha' => simp [ha] at ha'
      | ending _ _ _ heq => exact (ih (heq ▸ ha)).tail hs
      | givenUp hg => exact ⟨_, _, hr, hg, .refl⟩

/-- **Which tokens are cancelled**, in terms of what has happened. -/
theorem cancelled_iff {session : Session} (h : Reaches (.start session stages) st) (i : Nat) :
    st.isCancelled i = true ↔
      i < st.tokens.length ∧ (WasGivenUp (.start session stages) st ∨
        ∃ j, i < j ∧ HasFinished (.start session stages) st j) := by
  simp only [CancelledExactly.of_reaches h i, wasGivenUp_iff h, hasFinished_iff h]

/-- The program of the last stage is not killed: no stage is behind it, and a pipeline that was
given up has not begun its last stage. -/
theorem not_terminated_last {session : Session} (h : Reaches (.start session stages) st)
    (process : Nat) : st.after? (.terminate (stages.length - 1) process) = none := by
  have hacc := Accounts.of_reaches h
  have hle := hacc.length_le
  have hbegun := st.begun_le
  simp only [State.after?, ite_eq_right_iff, reduceCtorEq, imp_false]
  rintro ⟨hs, hc⟩
  have hlt : stages.length - 1 < st.begun := hacc.supervised_lt _ hs
  obtain ⟨-, ha | ⟨j, hij, hj⟩⟩ := (CancelledExactly.of_reaches h _).mp hc
  · rw [State.begun_of_aborted ha] at hlt
    omega
  · have hj := hj.1
    omega

/-- **Cancellation is safe.**  In every state that any order of events leads to:

* a stage that has come to its end has cancelled the tokens of all stages before it;
* a token is cancelled only if a later stage has come to its end or the pipeline was given up;
* so a program is killed by the shell only then, and never because a stage before it has ended;
* the program of the last stage is never killed by the shell. -/
theorem cancellation_safe {session : Session} (h : Reaches (.start session stages) st) :
    (∀ i j, i < j → HasFinished (.start session stages) st j → st.isCancelled i = true) ∧
    (∀ i, st.isCancelled i = true → WasGivenUp (.start session stages) st ∨
      ∃ j, i < j ∧ HasFinished (.start session stages) st j) ∧
    (∀ i process, st.after? (.terminate i process) ≠ none →
      WasGivenUp (.start session stages) st ∨
        ∃ j, i < j ∧ HasFinished (.start session stages) st j) ∧
    ∀ process, st.after? (.terminate (stages.length - 1) process) = none := by
  refine ⟨fun i j hij hj => ?_, fun i hi => ?_, fun i process hkill => ?_, not_terminated_last h⟩
  · have hlt := ((hasFinished_iff h j).mp hj).1
    have hle := st.begun_le
    exact (cancelled_iff h i).mpr ⟨by omega, .inr ⟨j, hij, hj⟩⟩
  · exact ((cancelled_iff h i).mp hi).2
  · have hi : st.isCancelled i = true := by
      by_contra hi
      exact hkill (by simp [State.after?, hi])
    exact ((cancelled_iff h i).mp hi).2

/-- A machine with a program that never ends by itself. -/
def yesSession : Session :=
  { env := { directory := "/" }
    world := { files := FileSystem.empty.set ["yes"] (.program .yes) } }

/-- That program in front of a built-in command. -/
def yesPipeline : List Stage := [{ name := "/yes" }, { name := "echo" }]

/-- The built-in command has returned, so the program's token is cancelled. -/
theorem cancellation_safe_yes :
    let st := State.beginMany 2 (.start yesSession yesPipeline)
    Reaches (.start yesSession yesPipeline) st ∧ st.isCancelled 0 = true ∧
      (WasGivenUp (.start yesSession yesPipeline) st ∨
        ∃ j, 0 < j ∧ HasFinished (.start yesSession yesPipeline) st j) ∧
      st.after? (.terminate 1 0) = none := by
  intro st
  have h : Reaches (.start yesSession yesPipeline) st := reaches_beginMany 2 rfl
  have hcancelled : st.isCancelled 0 = true := by decide
  obtain ⟨-, hwhy, -, hlast⟩ := cancellation_safe h
  exact ⟨h, hcancelled, hwhy 0 hcancelled, hlast 0⟩

end CommandShell.Pipeline
