/-
# A built-in command cuts off what is before it

A built-in command reads nothing, so nothing comes through it from the stages before it.  Take two
pipelines that go on in the same way behind programs of their own, with a built-in command first.
Whatever these programs do, however much they write and whenever they end, the built-in command says
the same in both, and the stages behind it read the same, ask the machine for the same programs and
come to the same (`builtin_cuts_off`).

The programs could get at them only through files, so those that count have to be the same whenever
a stage is begun (`Secluded`).  The argument has two parts.  Up to the built-in command nothing but
the machine and what was looked up changes (`Run.stays`), so both runs come to it with sessions that
are alike; and then each stage leaves sessions that are alike to the next one (`alike_of_secluded`).

The runs that are carried out begin all stages before any process goes on (`exists_run_of_execute`).
So in these the files that count are the same if the error streams of the programs lead elsewhere.
-/
import CommandShell.Proofs.LikeStages
import CommandShell.Proofs.PipelineEnd
import CommandShell.Proofs.Wiring

namespace CommandShell

open CommandShell.Action
open FileSystem (AgreeOn)

/-! ## 1. Up to the built-in command -/

/-- A program that the shell finds, with an error stream that can be opened. -/
structure Stage.IsProgramIn (stage : Stage) (s : Session) : Prop where
  external : Builtin.lookup stage.name stage.args = none
  found : ∃ path, (s.resolve stage.name).1 = some path
  opens : ∃ opened,
    s.world.openOutlet s.env.directory s.world.nextFile .stderr stage.stderr = .ok opened

/-- The error stream of a stage leads to none of some files. -/
def Stage.Spares (used : Location → Prop) (stage : Stage) (s : Session) : Prop :=
  ∀ r, stage.stderr = some r → ∀ loc, s.world.files.locateForCreation s.world.directory
    (Path.join s.env.directory r.target) = .ok loc → ¬ used loc

/-- Only the machine went on from one session to another, and more may have been looked up. -/
structure Session.Stays (s s' : Session) : Prop where
  env : s'.env.forgetful = s.env.forgetful
  world : s.world.Keeps s'.world
  remembers : s'.Remembers

namespace Session.Stays

variable {s s' s'' : Session}

theorem onward (h : s.Stays s') (henv : s''.env = s'.env) (hworld : s'.world.Keeps s''.world) :
    s.Stays s'' where
  env := by rw [henv, h.env]
  world := h.world.trans hworld
  remembers := h.remembers.keeps (by rw [henv]) (by rw [henv]) hworld

theorem resolve (h : s.Stays s') (name : String) : s.Stays (s'.resolve name).2 where
  env := (s'.forgetful_resolve name).trans h.env
  world := h.world
  remembers := h.remembers.resolve name

theorem directory (h : s.Stays s') : s'.env.directory = s.env.directory := by
  have heq := congrArg Environment.directory h.env
  exact heq

theorem resolve_eq (h : s.Stays s') (hs : s.Remembers) (name : String) :
    (s'.resolve name).1 = (s.resolve name).1 := by
  have hdirs := congrArg (fun env : Environment => env.search.dirs) h.env
  rw [h.remembers.resolve_eq, hs.resolve_eq]
  exact lookup_of_keeps hdirs h.directory h.world

/-- What matters is the same in two sessions to which one has come, if the files are. -/
theorem alike {used : Location → Prop} (h : s.Stays s') (h' : s.Stays s'')
    (hagree : AgreeOn used s.world.files s'.world.files)
    (hagree' : AgreeOn used s.world.files s''.world.files) : s'.Alike used s'' where
  env := h'.env.trans h.env.symm
  world := by
    refine ⟨h'.world.directory.trans h.world.directory.symm, ?_, hagree.symm.trans hagree'⟩
    exact h.world.files.symm.trans h'.world.files
  remembers := h.remembers
  remembers' := h'.remembers

end Session.Stays

/-- A stream that can be opened on a machine can be opened on it later. -/
theorem World.exists_openOutlet_of_keeps {w w' : World} (h : w.Keeps w') {directory : String}
    {first : Nat} {stream : Stream} {redirection : Option Redirection} {opened : Channel × World}
    (hopen : w.openOutlet directory first stream redirection = .ok opened) (first' : Nat) :
    ∃ opened', w'.openOutlet directory first' stream redirection = .ok opened' := by
  have halike : w.Alike (fun _ => False) w' := ⟨h.directory, h.files, fun _ hf => hf.elim⟩
  have hopened := matches_openOutlet halike directory first first' stream redirection fun r hr => by
    subst hr
    obtain ⟨_, _, hwriting, -⟩ := openOutlet_some_iff.mp hopen
    obtain ⟨loc, hloc, -⟩ := FileSystem.openForWriting_eq_ok hwriting
    rw [hloc]
    exact (FileSystem.locateForCreation_iff h.files).mpr hloc
  rw [hopen] at hopened
  generalize w'.openOutlet directory first' stream redirection = r at hopened ⊢
  cases hopened with
  | ok => exact ⟨_, rfl⟩

/-- Opening a stream changes no other file than the one that it leads to. -/
theorem World.agreeOn_of_openOutlet {used : Location → Prop} {w w' : World} {directory : String}
    {first : Nat} {stream : Stream} {redirection : Option Redirection} {c : Channel}
    (hopen : w.openOutlet directory first stream redirection = .ok (c, w'))
    (hspares : ∀ r, redirection = some r → ∀ loc, w.files.locateForCreation w.directory
      (Path.join directory r.target) = .ok loc → ¬ used loc) : AgreeOn used w.files w'.files := by
  cases redirection with
  | none =>
    obtain ⟨-, rfl⟩ := Prod.mk.inj (Except.ok.inj hopen)
    exact .refl used w.files
  | some r =>
    obtain ⟨_, files, hwriting, -, rfl⟩ := openOutlet_some_iff.mp hopen
    obtain ⟨loc, hloc, -, hnodes⟩ := FileSystem.openForWriting_eq_ok hwriting
    intro other hused
    rw [hnodes, if_neg]
    rintro rfl
    exact hspares r rfl loc hloc hused

/-- What comes of beginning a program in front. -/
structure Stage.BeginsInFront (stage : Stage) (s s₁ : Session) (result : Except Failure Beginning)
    (s₂ : Session) : Prop where
  begun : ∃ beginning, result = .ok beginning ∧ beginning ≠ .missing
  stays : s.Stays s₂
  spares : ∀ used, stage.Spares used s → AgreeOn used s₁.world.files s₂.world.files

/-- **A program in front** is begun, and leaves the session as it was, but for the machine and what
was looked up. -/
theorem Stage.IsProgramIn.begins {stage : Stage} {s s₁ : Session} (hp : stage.IsProgramIn s)
    (hs : s.Remembers) (h : s.Stays s₁) (upstream : Upstream) :
    stage.BeginsInFront s s₁ ((beginStage stage false upstream).run.run s₁).1
      ((beginStage stage false upstream).run.run s₁).2 := by
  obtain ⟨path, hfound⟩ := hp.found
  obtain ⟨opened, hopened⟩ := hp.opens
  have hresolve := (h.resolve_eq hs stage.name).trans hfound
  have hnumbered : s.world.Keeps
      { (s₁.resolve stage.name).2.world with nextFile := s₁.world.nextFile + 2 } :=
    h.world.same rfl rfl
  obtain ⟨⟨c, w⟩, hopen⟩ :=
    World.exists_openOutlet_of_keeps hnumbered hopened s₁.world.nextFile
  have hstreams : (openStreams stage false).run.run (s₁.resolve stage.name).2 =
      (.ok (c, none), { (s₁.resolve stage.name).2 with world := w }) := by
    have hdirectory : (s₁.resolve stage.name).2.env.directory = s.env.directory := h.directory
    have hnext : (s₁.resolve stage.name).2.world.nextFile = s₁.world.nextFile := rfl
    simp only [openStreams, run_bind, run_takeNumbers, run_openOutlet, hdirectory, hnext, hopen]
    rfl
  have hopened := keeps_openStreams stage false (s₁.resolve stage.name).2
  have hrun := @run_beginStage_of_program stage false upstream s₁ path hp.external hresolve
  rw [hstreams] at hopened hrun
  have hspares : ∀ used, stage.Spares used s → AgreeOn used s₁.world.files w.files := by
    intro used hspares
    have hagree := @World.agreeOn_of_openOutlet used _ _ _ _ _ _ _ hopen fun r hr loc hloc => by
      rw [hnumbered.directory] at hloc
      exact hspares r hr loc ((FileSystem.locateForCreation_iff hnumbered.files).mp hloc)
    exact hagree
  have hpipes := World.leavesFiles_withPipes w none upstream
  have hafter : ∀ {beginning : Beginning} {w' : World}, beginning ≠ .missing → w.LeavesFiles w' →
      stage.BeginsInFront s s₁ (.ok beginning) { (s₁.resolve stage.name).2 with world := w' } :=
    fun hne hleaves => ⟨⟨_, rfl, hne⟩,
      (h.resolve stage.name).onward rfl (hopened.trans hleaves.keeps),
      fun used hused => by rw [hleaves.files]; exact hspares used hused⟩
  simp only at hrun
  rw [hrun]
  split
  next process w' hlaunch =>
    exact hafter (fun h => by cases h) ((hpipes.trans (World.leavesFiles_of_launch hlaunch)).trans
      (World.leavesFiles_hand ..))
  next =>
    exact hafter (fun h => by cases h) ((hpipes.trans (World.leavesFiles_hand ..)).trans
      (World.leavesFiles_hand ..))

namespace Pipeline

variable {s : Session} {P Q tail stages : List Stage} {log older newer : List Entry} {st : State}
  {e : Entry}

/-- An entry of a log, with those before and behind it. -/
theorem eq_append_of_getElem? {n : Nat} (hn : log[n]? = some e) :
    log = log.take n ++ e :: log.drop (n + 1) := by
  obtain ⟨hlt, rfl⟩ := List.getElem?_eq_some_iff.mp hn
  rw [List.getElem_cons_drop, List.take_append_drop]

/-- Which stage it is in front, where none is the last one. -/
theorem Run.stage_in_front {i : Nat} (h : Run (.start s (P ++ tail)) log st) (htail : tail ≠ [])
    (hi : log[i]? = some e) (hlt : i < P.length) :
    e.stage ∈ P ∧ e.before.waiting.isEmpty = false := by
  obtain ⟨hstage, hwaiting⟩ := h.position (eq_append_of_getElem? hi)
  have hle := Nat.le_of_lt (List.getElem?_eq_some_iff.mp hi).1
  rw [List.length_take_of_le hle] at hstage hwaiting
  rw [List.getElem?_append_left hlt] at hstage
  refine ⟨List.mem_of_getElem? hstage, ?_⟩
  have hpos := List.length_pos_of_ne_nil htail
  rw [hwaiting, List.isEmpty_eq_false_iff, ne_eq, List.drop_eq_nil_iff, List.length_append]
  omega

/-- **Up to the built-in command** nothing but the machine and what was looked up changes, and no
stage fails. -/
theorem Run.stays (hs : s.Remembers) (hP : ∀ stage ∈ P, stage.IsProgramIn s)
    (h : Run (.start s (P ++ tail)) log st) (hlen : log.length ≤ P.length)
    (htail : tail ≠ []) : s.Stays st.session ∧ ∀ e ∈ log, ¬ e.Fails := by
  induction h with
  | start => exact ⟨⟨rfl, .refl _, hs⟩, by simp⟩
  | @began log st stage hrun hp ih =>
    rw [List.length_append, List.length_singleton] at hlen
    obtain ⟨hstays, hnone⟩ := ih (by omega)
    obtain ⟨hmem, hlast⟩ : stage ∈ P ∧ st.waiting.isEmpty = false :=
      (hrun.began hp).stage_in_front htail List.getElem?_concat_length (by omega)
    have hbegins := (hP stage hmem).begins hs hstays st.upstream
    rw [← hlast] at hbegins
    obtain ⟨beginning, hresult, hne⟩ := hbegins.begun
    have hentry : (Entry.mk st stage).result = .ok beginning := hresult
    rw [session_begin hp]
    refine ⟨hbegins.stays, fun e he => ?_⟩
    rcases List.mem_append.mp he with he | he
    · exact hnone e he
    · rw [List.mem_singleton.mp he, Entry.fails_iff, hentry]
      rintro (hmissing | ⟨f, hf⟩)
      · exact hne (Except.ok.inj hmissing)
      · cases hf
  | passed hrun he hafter ih =>
    obtain ⟨hstays, hnone⟩ := ih hlen
    have hpasses := passes_of_after? he hafter
    exact ⟨hstays.onward hpasses.since.env (keeps_of_after? he hafter), hnone⟩

/-! ## 2. From the built-in command on -/

/-- The request to the machine for the program of the stage, if it is one. -/
def Entry.request? (e : Entry) : Option Launch :=
  e.stage.request? e.before.waiting.isEmpty e.before.upstream e.before.session

/-- A stage was begun in two runs, and has come to the same in both. -/
structure Entry.Alike (used : Location → Prop) (e e' : Entry) : Prop where
  stage : e'.stage = e.stage
  result : e'.result.map Beginning.unnumbered = e.result.map Beginning.unnumbered
  /-- What it leaves for the next stage. -/
  output : e'.output.unnumbered = e.output.unnumbered
  /-- What is asked of the machine for it. -/
  request : e'.request?.map Launch.unnumbered = e.request?.map Launch.unnumbered
  /-- What is done and said, if it is built in. -/
  jobs : Stage.JobsAlike used e.attempt.job? e'.attempt.job?
  after : e.after.Alike used e'.after

/-- Two runs of pipelines that go on in the same way behind so many stages, one with each log.  In
both the same becomes of the files that count for what comes then. -/
structure Secluded (used : Location → Prop) (s : Session) (n n' : Nat) (log log' : List Entry) :
    Prop where
  /-- No stage before has touched them when the first stage begins that both have. -/
  untouched : ∀ e, log[n]? = some e → AgreeOn used s.world.files e.before.session.world.files
  untouched' : ∀ e, log'[n']? = some e → AgreeOn used s.world.files e.before.session.world.files
  /-- From the beginning of one stage to that of the next one the same becomes of them: the programs
  in front leave them alone, and those behind do with them what they do in the other run. -/
  between : ∀ i e e' next next', log[n + i]? = some e → log[n + i + 1]? = some next →
    log'[n' + i]? = some e' → log'[n' + i + 1]? = some next' →
    AgreeOn used e.after.world.files e'.after.world.files →
    AgreeOn used next.before.session.world.files next'.before.session.world.files
  /-- What the stages that both have ask about files rests on them. -/
  uses : ∀ i e, log[n + i]? = some e →
    e.stage.UsesOnly used e.before.waiting.isEmpty e.before.session

section Tail

variable {i : Nat}

/-- Which stage it is, and which ones wait behind it. -/
theorem Run.stage_behind (h : Run (.start s (P ++ tail)) log st)
    (hi : log[P.length + i]? = some e) :
    tail[i]? = some e.stage ∧ e.before.waiting = tail.drop (i + 1) := by
  have hlt := (List.getElem?_eq_some_iff.mp hi).1
  obtain ⟨hstage, hwaiting⟩ := h.position (eq_append_of_getElem? hi)
  rw [List.length_take_of_le (Nat.le_of_lt hlt)] at hstage hwaiting
  rw [List.getElem?_append_right (by omega), Nat.add_sub_cancel_left] at hstage
  refine ⟨hstage, ?_⟩
  rw [hwaiting, Nat.add_assoc, List.drop_append]
  simp

/-- When the next stage begins, only the machine has gone on since the one before it. -/
theorem Run.onward (h : Run (.start s stages) log st) {e next : Entry}
    (hi : log[i]? = some e) (hnext : log[i + 1]? = some next) :
    next.before.session.env = e.after.env ∧
      e.after.world.Keeps next.before.session.world ∧ next.before.upstream = e.output := by
  have hlog := eq_append_of_getElem? hnext
  have hat := (h.at hlog).1
  have htake : log.take (i + 1) = log.take i ++ [e] := by
    rw [List.take_add_one, hi, Option.toList_some]
  rw [htake] at hat
  have hsince := hat.logged.since.env
  have hkeeps := hat.keeps
  have hup := hat.logged.upstream (h.aborted_of_entry hlog)
  rw [lastSession_concat] at hsince hkeeps
  rw [lastOutput_concat] at hup
  exact ⟨hsince, hkeeps, hup⟩

end Tail

/-- What a stage leaves for the next one follows from what it turned out to be. -/
theorem Entry.output_unnumbered (e : Entry) : e.output.unnumbered =
    match e.result.map Beginning.unnumbered with
    | .ok (.builtin output) => if e.before.waiting = [] then .closed else .bytes output
    | .ok (.started _ pipe) => .ofPipe pipe
    | _ => .closed := by
  rw [Entry.output]
  rcases e.result with f | beginning
  · rfl
  · cases beginning with
    | builtin output =>
      simp only [Except.map, Beginning.unnumbered]
      split <;> rfl
    | started process pipe => exact Upstream.ofPipe_unnumbered pipe
    | _ => rfl

variable {used : Location → Prop}

/-- A stage that is begun in sessions that are alike comes to the same. -/
theorem Entry.alike {e e' : Entry} (hstage : e'.stage = e.stage)
    (hwaiting : e'.before.waiting = e.before.waiting)
    (h : e.before.session.Alike used e'.before.session)
    (huses : e.stage.UsesOnly used e.before.waiting.isEmpty e.before.session)
    (hup : Builtin.lookup e.stage.name e.stage.args = none →
      e'.before.upstream.unnumbered = e.before.upstream.unnumbered) : e.Alike used e' := by
  have hbegun := Stage.begun_alike h huses hup
  have hresult : e'.result.map Beginning.unnumbered = e.result.map Beginning.unnumbered := by
    rw [Entry.result, State.attempt, hstage, hwaiting]
    exact hbegun.result
  refine ⟨hstage, hresult, ?_, ?_, ?_, ?_⟩
  · rw [e.output_unnumbered, e'.output_unnumbered, hresult, hwaiting]
  · rw [Entry.request?, hstage, hwaiting]
    exact hbegun.request
  · rw [Entry.attempt, Entry.attempt, hstage, hwaiting]
    exact hbegun.jobs
  · rw [Entry.after, Entry.after, State.attempt, State.attempt, hstage, hwaiting]
    exact hbegun.after

section Runs

variable {stage : Stage} {b : Builtin} {log' : List Entry} {st' : State}
  (hs : s.Remembers) (hb : Builtin.lookup stage.name stage.args = some b)
  (hP : ∀ stage ∈ P, stage.IsProgramIn s) (hQ : ∀ stage ∈ Q, stage.IsProgramIn s)
  (h : Run (.start s (P ++ stage :: tail)) log st)
  (h' : Run (.start s (Q ++ stage :: tail)) log' st')
  (hused : Secluded used s P.length Q.length log log')
include hs hb hP hQ h h' hused

/-- **Stage by stage the two runs come to the same**: each stage gets a session that is alike. -/
theorem alike_of_secluded : ∀ (i : Nat) {e e' : Entry}, log[P.length + i]? = some e →
    log'[Q.length + i]? = some e' →
      (0 < i → e'.before.upstream.unnumbered = e.before.upstream.unnumbered) ∧ e.Alike used e'
  | 0, e, e', hi, hi' => by
    have hstays : ∀ {P : List Stage} {log : List Entry} {st : State} {e : Entry},
        (∀ stage ∈ P, stage.IsProgramIn s) → Run (.start s (P ++ stage :: tail)) log st →
        log[P.length]? = some e → s.Stays e.before.session := by
      intro P log st e hP h hi
      have hat := (h.at (eq_append_of_getElem? hi)).1
      exact (hat.stays hs hP (List.length_take_le _ _) (by simp)).1
    have halike := (hstays hP h hi).alike (hstays hQ h' hi') (hused.untouched e hi)
      (hused.untouched' e' hi')
    obtain ⟨hstage, hwaiting⟩ := h.stage_behind hi
    obtain ⟨hstage', hwaiting'⟩ := h'.stage_behind hi'
    obtain rfl := Option.some.inj hstage
    have halike := Entry.alike (Option.some.inj hstage').symm (hwaiting'.trans hwaiting.symm) halike
      (hused.uses 0 e hi) fun hnone => by cases hnone.symm.trans hb
    exact ⟨fun hpos => absurd hpos (Nat.lt_irrefl 0), halike⟩
  | i + 1, e, e', hi, hi' => by
    obtain ⟨d, hd⟩ : ∃ d, log[P.length + i]? = some d :=
      ⟨_, List.getElem?_eq_getElem (Nat.lt_of_succ_lt (List.getElem?_eq_some_iff.mp hi).1)⟩
    obtain ⟨d', hd'⟩ : ∃ d', log'[Q.length + i]? = some d' :=
      ⟨_, List.getElem?_eq_getElem (Nat.lt_of_succ_lt (List.getElem?_eq_some_iff.mp hi').1)⟩
    have hbefore := (alike_of_secluded i hd hd').2
    obtain ⟨henv, hkeeps, hup⟩ := h.onward hd hi
    obtain ⟨henv', hkeeps', hup'⟩ := h'.onward hd' hi'
    have hagree := hused.between i d d' e e' hd hi hd' hi' hbefore.after.world.files.agree
    have halike : e.before.session.Alike used e'.before.session :=
      ⟨by rw [henv, henv', hbefore.after.env], hbefore.after.world.later hkeeps hkeeps' hagree,
        hbefore.after.remembers.keeps (by rw [henv]) (by rw [henv]) hkeeps,
        hbefore.after.remembers'.keeps (by rw [henv']) (by rw [henv']) hkeeps'⟩
    have hupstream : e'.before.upstream.unnumbered = e.before.upstream.unnumbered := by
      rw [hup, hup', hbefore.output]
    obtain ⟨hstage, hwaiting⟩ := h.stage_behind hi
    obtain ⟨hstage', hwaiting'⟩ := h'.stage_behind hi'
    exact ⟨fun _ => hupstream, Entry.alike (Option.some.inj (hstage'.symm.trans hstage))
      (hwaiting'.trans hwaiting.symm) halike (hused.uses (i + 1) e hi) fun _ => hupstream⟩

end Runs

/-! ## 3. The end -/

/-- **Which stage is begun last**: one that fails, or the last one of the pipeline. -/
theorem Run.isLast_iff {i : Nat} (h : Run (.start s stages) log st) (hover : st.isOver = true)
    (hi : log[i]? = some e) : i + 1 = log.length ↔ e.Fails ∨ i + 1 = stages.length := by
  have hlt := (List.getElem?_eq_some_iff.mp hi).1
  rcases h.ends hover with ⟨older, last, rfl, hgiven⟩ | hcompleted
  · have hposition := hgiven.position
    rw [List.length_append, List.length_singleton] at hlt ⊢
    constructor
    · intro heq
      obtain rfl : i = older.length := by omega
      rw [List.getElem?_concat_length] at hi
      exact .inl (Option.some.inj hi ▸ hgiven.fails)
    · rintro (hfails | heq)
      · by_contra hne
        rw [List.getElem?_append_left (by omega)] at hi
        exact hgiven.first e (List.mem_of_getElem? hi) hfails
      · omega
  · have hlength := congrArg List.length hcompleted.begun
    rw [List.length_map] at hlength
    have hnone := hcompleted.noneFails e (List.mem_of_getElem? hi)
    rw [hlength]
    exact ⟨.inr, fun hor => hor.resolve_left hnone⟩

/-- **What comes of a pipeline** comes of the stage that is begun last. -/
theorem Run.outcome_eq {i : Nat} (h : Run (.start s stages) log st) (hover : st.isOver = true)
    (hi : log[i]? = some e) (hlast : i + 1 = log.length) :
    st.outcome = (e.result.map Beginning.unnumbered).map fun _ => () := by
  rcases h.ends hover with ⟨older, last, rfl, hgiven⟩ | hcompleted
  · obtain rfl : i = older.length := by
      rw [List.length_append, List.length_singleton] at hlast
      omega
    rw [List.getElem?_concat_length] at hi
    obtain rfl := Option.some.inj hi
    rw [hgiven.outcome]
    rcases last.result with f | beginning <;> rfl
  · have hnone := hcompleted.noneFails e (List.mem_of_getElem? hi)
    rw [hcompleted.outcome]
    rcases hr : e.result with f | beginning
    · exact absurd ((e.fails_iff).mpr (.inr ⟨f, hr⟩)) hnone
    · rfl

/-- The session is that after the last stage, but for the machine. -/
theorem Run.env_eq {i : Nat} (h : Run (.start s stages) log st) (hi : log[i]? = some e)
    (hlast : i + 1 = log.length) : st.session.env = e.after.env := by
  have hlog := eq_append_of_getElem? hi
  rw [List.drop_eq_nil_of_le (Nat.le_of_eq hlast.symm)] at hlog
  have hsince := h.logged.since.env
  rwa [hlog, lastSession_concat] at hsince

/-- A run that is over has come to the stages behind programs that can be begun. -/
theorem Run.length_lt (hs : s.Remembers) (hP : ∀ stage ∈ P, stage.IsProgramIn s)
    (h : Run (.start s (P ++ tail)) log st) (htail : tail ≠ []) (hover : st.isOver = true) :
    P.length < log.length := by
  by_contra hle
  have hnone := (h.stays hs hP (by omega) htail).2
  rcases h.ends hover with ⟨older, e, rfl, hgiven⟩ | hcompleted
  · exact hnone e (by simp) hgiven.fails
  · have hlength := congrArg List.length hcompleted.begun
    rw [List.length_map, List.length_append] at hlength
    have hpos := List.length_pos_of_ne_nil htail
    omega

theorem Entry.Alike.fails_iff {e e' : Entry} (h : e.Alike used e') : e'.Fails ↔ e.Fails := by
  have hfails : ∀ e : Entry, e.Fails ↔ e.result.map Beginning.unnumbered = .ok .missing ∨
      ∃ f, e.result.map Beginning.unnumbered = .error f := by
    intro e
    rw [e.fails_iff]
    rcases e.result with f | beginning
    · simp [Except.map]
    · cases beginning <;> simp [Except.map, Beginning.unnumbered]
  rw [hfails, hfails, h.result]

/-- Two runs of pipelines that go on in the same way behind so many stages have come to the same
from there on. -/
structure GoesOnAlike (used : Location → Prop) (n n' : Nat) (log log' : List Entry)
    (st st' : State) : Prop where
  entries : ∀ i e e', log[n + i]? = some e → log'[n' + i]? = some e' → e.Alike used e'
  /-- All stages but the first one that both have read the same. -/
  upstream : ∀ i e e', log[n + i + 1]? = some e → log'[n' + i + 1]? = some e' →
    e'.before.upstream.unnumbered = e.before.upstream.unnumbered
  /-- When they are over, both have begun the same stages, -/
  begun : st.isOver = true → st'.isOver = true →
    n < log.length ∧ log'.length + n = log.length + n'
  /-- with the same result -/
  outcome : st.isOver = true → st'.isOver = true → st'.outcome = st.outcome
  /-- and in the same environment, but for what was looked up. -/
  env : st.isOver = true → st'.isOver = true →
    st'.session.env.forgetful = st.session.env.forgetful

section Runs

variable {stage : Stage} {b : Builtin} {log' : List Entry} {st' : State}

theorem goesOnAlike_of_secluded (hs : s.Remembers)
    (hb : Builtin.lookup stage.name stage.args = some b)
    (hP : ∀ stage ∈ P, stage.IsProgramIn s) (hQ : ∀ stage ∈ Q, stage.IsProgramIn s)
    (h : Run (.start s (P ++ stage :: tail)) log st)
    (h' : Run (.start s (Q ++ stage :: tail)) log' st')
    (hused : Secluded used s P.length Q.length log log') :
    GoesOnAlike used P.length Q.length log log' st st' := by
  -- Of two stages in the same place, one is the last that is begun just when the other is.
  have hlast : st.isOver = true → st'.isOver = true →
      ∃ i e e', log[P.length + i]? = some e ∧ log'[Q.length + i]? = some e' ∧
        P.length + i + 1 = log.length ∧ Q.length + i + 1 = log'.length := by
    intro hover hover'
    have hlt := h.length_lt hs hP (by simp) hover
    have hlt' := h'.length_lt hs hQ (by simp) hover'
    obtain ⟨i, hi, hi', hor⟩ : ∃ i, P.length + i < log.length ∧ Q.length + i < log'.length ∧
        (P.length + i + 1 = log.length ∨ Q.length + i + 1 = log'.length) :=
      ⟨min (log.length - P.length) (log'.length - Q.length) - 1, by omega, by omega, by omega⟩
    have he := List.getElem?_eq_getElem hi
    have he' := List.getElem?_eq_getElem hi'
    have halike := (alike_of_secluded hs hb hP hQ h h' hused i he he').2
    have hiff := h.isLast_iff hover he
    have hiff' := h'.isLast_iff hover' he'
    rw [halike.fails_iff] at hiff'
    rw [List.length_append, List.length_cons] at hiff hiff'
    refine ⟨i, _, _, he, he', ?_⟩
    rcases hor with hend | hend
    · refine ⟨hend, hiff'.mpr ((hiff.mp hend).imp_right fun _ => by omega)⟩
    · refine ⟨hiff.mpr ((hiff'.mp hend).imp_right fun _ => by omega), hend⟩
  refine ⟨fun i e e' hi hi' => (alike_of_secluded hs hb hP hQ h h' hused i hi hi').2,
    fun i e e' hi hi' => (alike_of_secluded hs hb hP hQ h h' hused (i + 1) hi hi').1
      (Nat.succ_pos i), fun hover hover' => ?_, fun hover hover' => ?_, fun hover hover' => ?_⟩
  all_goals
    obtain ⟨i, e, e', hi, hi', hend, hend'⟩ := hlast hover hover'
    have halike := (alike_of_secluded hs hb hP hQ h h' hused i hi hi').2
  · omega
  · rw [h.outcome_eq hover hi hend, h'.outcome_eq hover' hi' hend', halike.result]
  · rw [h.env_eq hi hend, h'.env_eq hi' hend', halike.after.env]

end Runs

/-! ## 4. The run that is carried out -/

/-- The next stages that are begun when nothing else happens. -/
def State.begunBy : Nat → State → List Entry
  | 0, _ => []
  | n + 1, st =>
    match st.waiting with
    | [] => []
    | stage :: _ => ⟨st.register, stage⟩ :: begunBy n st.register.begin

theorem begunBy_nil (hw : st.waiting = []) : ∀ n, st.begunBy n = []
  | 0 => rfl
  | n + 1 => by simp only [State.begunBy, hw]

theorem begunBy_cons {stage : Stage} {waiting : List Stage} (hw : st.waiting = stage :: waiting)
    (n : Nat) : st.begunBy (n + 1) = ⟨st.register, stage⟩ :: st.register.begin.begunBy n := by
  simp only [State.begunBy, hw]

/-- The first of them is begun at once, -/
theorem session_of_begunBy {n : Nat} (hfirst : (st.begunBy n)[0]? = some e) :
    e.before.session = st.session := by
  cases n with
  | zero => simp [State.begunBy] at hfirst
  | succ n =>
    cases hw : st.waiting with
    | nil => simp [begunBy_nil hw] at hfirst
    | cons stage waiting =>
      rw [begunBy_cons hw, List.getElem?_cons_zero] at hfirst
      obtain rfl := Option.some.inj hfirst
      rw [register_eq hw]

/-- and then one right after the other. -/
theorem session_of_begunBy_succ {n i : Nat} {next : Entry} (hi : (st.begunBy n)[i]? = some e)
    (hnext : (st.begunBy n)[i + 1]? = some next) : next.before.session = e.after := by
  induction n generalizing st i with
  | zero => simp [State.begunBy] at hi
  | succ n ih =>
    cases hw : st.waiting with
    | nil => simp [begunBy_nil hw] at hi
    | cons stage waiting =>
      rw [begunBy_cons hw] at hi hnext
      rw [List.getElem?_cons_succ] at hnext
      cases i with
      | zero =>
        obtain rfl := Option.some.inj hi
        rw [session_of_begunBy hnext, session_begin (by rw [register_eq hw])]
      | succ i => exact ih hi hnext

theorem Run.beginMany {first : State} (h : Run first log st) (hp : st.pending = none) (n : Nat) :
    Run first (log ++ st.begunBy n) (State.beginMany n st) := by
  induction n generalizing log st with
  | zero => simpa [State.begunBy, State.beginMany] using h
  | succ n ih =>
    rw [State.beginMany]
    cases hw : st.waiting with
    | nil =>
      have hsame : st.register.begin = st := by simp only [State.register, hw, State.begin, hp]
      have hrest := ih h hp
      rw [begunBy_nil hw, List.append_nil] at hrest ⊢
      rwa [hsame]
    | cons stage waiting =>
      rw [begunBy_cons hw, List.append_cons]
      exact ih (h.next hw hp) (pending_begin st.register)

/-- When no stage is left, none is begun any more. -/
theorem Run.onward_of_idle {first st' : State} (h : Run first log st) (hw : st.waiting = [])
    (hp : st.pending = none) (hr : Reaches st st') :
    Run first log st' ∧ st'.waiting = [] ∧ st'.pending = none := by
  induction hr with
  | refl => exact ⟨h, hw, hp⟩
  | @tail st₁ st₂ _ hs ih =>
    obtain ⟨h₁, hw₁, hp₁⟩ := ih
    obtain ⟨event, hevent⟩ := step_iff.mp hs
    have hne : event ≠ .begin := by
      rintro rfl
      simp [State.after?, hp₁] at hevent
    refine ⟨h₁.passed hne hevent, ?_⟩
    cases passes_of_after? hne hevent with
    | registered hw' => cases hw₁.symm.trans hw'
    | _ => exact ⟨hw₁, hp₁⟩

/-- The stages that are begun when a pipeline is carried out, with the states before them. -/
def begunIn (s : Session) (stages : List Stage) : List Entry :=
  (State.start s stages).begunBy stages.length

theorem run_begunIn (s : Session) (stages : List Stage) :
    Run (.start s stages) (begunIn s stages) (State.beginMany stages.length (.start s stages)) :=
  Run.start.beginMany rfl stages.length

/-- After that, whatever happens, no stage is begun any more. -/
theorem run_begunIn_of_reaches (h : Reaches (State.beginMany stages.length (.start s stages)) st) :
    Run (.start s stages) (begunIn s stages) st ∧ st.waiting = [] ∧ st.pending = none := by
  obtain ⟨hw, hp⟩ := beginMany_idle stages.length
    (rfl : (State.start s stages).pending = none) (Nat.le_refl _)
  exact (run_begunIn s stages).onward_of_idle hw hp h

/-- **The run that is carried out** begins all stages, one right after the other. -/
theorem exists_run_of_execute {patience : Nat} {result : Except Failure Unit} {after : Session}
    (h : s.execute patience (.pipeline stages) = some (result, after)) :
    ∃ st, Run (.start s stages) (begunIn s stages) st ∧ st.isOver = true ∧
      result = st.outcome ∧ after.env = st.session.env := by
  obtain ⟨st, hst, heq⟩ := Option.map_eq_some_iff.mp h
  obtain ⟨rfl, rfl⟩ := Prod.mk.inj heq
  obtain ⟨hrun, hw, hp⟩ := run_begunIn_of_reaches (reaches_settleAll patience hst)
  obtain ⟨hs, -, -⟩ := of_settleAll hst
  exact ⟨st, hrun, State.isOver_iff.mpr ⟨hw, hp, hs⟩, rfl, rfl⟩

/-- The programs in front touch no file that counts, if their error streams do not lead there. -/
theorem agreeOn_of_begunBy {n : Nat} (hs : s.Remembers)
    (hP : ∀ stage ∈ P, stage.IsProgramIn s) (hspares : ∀ stage ∈ P, stage.Spares used s)
    (htail : tail ≠ []) : ∀ (i : Nat) {e : Entry}, i ≤ P.length →
      ((State.start s (P ++ tail)).begunBy n)[i]? = some e →
      AgreeOn used s.world.files e.before.session.world.files
  | 0, e, _, hi => by
    rw [session_of_begunBy hi]
    exact .refl used s.world.files
  | i + 1, e, hle, hi => by
    obtain ⟨d, hd⟩ : ∃ d, ((State.start s (P ++ tail)).begunBy n)[i]? = some d :=
      ⟨_, List.getElem?_eq_getElem (Nat.lt_of_succ_lt (List.getElem?_eq_some_iff.mp hi).1)⟩
    have hrun := Run.start.beginMany (rfl : (State.start s (P ++ tail)).pending = none) n
    rw [List.nil_append] at hrun
    obtain ⟨hmem, hlast⟩ := hrun.stage_in_front htail hd hle
    have hat := (hrun.at (eq_append_of_getElem? hd)).1
    have hlen : (((State.start s (P ++ tail)).begunBy n).take i).length ≤ P.length :=
      Nat.le_trans (List.length_take_le _ _) (Nat.le_of_succ_le hle)
    have hbegins := (hP _ hmem).begins hs (hat.stays hs hP hlen htail).1 d.before.upstream
    rw [← hlast] at hbegins
    rw [session_of_begunBy_succ hd hi]
    exact (agreeOn_of_begunBy hs hP hspares htail i (Nat.le_of_succ_le hle) hd).trans
      (hbegins.spares used (hspares _ hmem))

/-- A process that is supervised is that of a stage which turned out to be a program. -/
theorem Run.started_of_supervised (h : Run (.start s stages) log st) :
    ∀ entry ∈ st.supervised, ∃ e pipe, log[entry.1]? = some e ∧
      e.result = .ok (.started entry.2 pipe) := by
  induction h with
  | start => simp [State.start]
  | @began log st stage hrun hp ih =>
    intro entry hentry
    rw [supervised_begin hp] at hentry
    rcases List.mem_append.mp hentry with hentry | hentry
    · obtain ⟨e, pipe, he, hr⟩ := ih entry hentry
      exact ⟨e, pipe, by rwa [List.getElem?_append_left (List.getElem?_eq_some_iff.mp he).1], hr⟩
    · have htokens := hrun.logged.tokens
      rw [hp, Option.toList_some, List.length_singleton] at htokens
      split at hentry
      next process pipe hr =>
        obtain rfl := List.mem_singleton.mp hentry
        exact ⟨⟨st, stage⟩, pipe, by simp [htokens], hr⟩
      next => cases hentry
  | passed hrun he hafter ih =>
    exact fun entry hentry => ih entry ((passes_of_after? he hafter).supervised_subset hentry)

theorem Entry.not_started_of_builtin (e : Entry) {b : Builtin}
    (hb : Builtin.lookup e.stage.name e.stage.args = some b) {process : Nat} {pipe : Option Nat} :
    e.result ≠ .ok (.started process pipe) := by
  intro hr
  have hbegins := e.begins
  rw [hr] at hbegins
  obtain ⟨hnone, -⟩ := hbegins.exists_program
  cases hb.symm.trans hnone

/-- **Nothing waits for the programs in front.**  When a built-in command was begun, the tokens of
all stages before it are cancelled. -/
theorem Run.isCancelled_in_front {n : Nat} {b : Builtin} (h : Run (.start s stages) log st)
    (hn : log[n]? = some e) (hb : Builtin.lookup e.stage.name e.stage.args = some b) :
    ∀ i < n, st.isCancelled i = true := by
  intro i hi
  have hlt := (List.getElem?_eq_some_iff.mp hn).1
  have htokens := h.logged.tokens
  refine (CancelledExactly.of_reaches h.reaches i).mpr ⟨by omega, ?_⟩
  cases ha : st.aborted with
  | true => exact .inl rfl
  | false =>
    refine .inr ⟨n, hi, ?_, fun process hmem => ?_⟩
    · cases hp : st.pending with
      | none =>
        rw [hp, Option.toList_none, List.length_nil] at htokens
        rw [State.begun_of_idle hp ha]
        omega
      | some stage =>
        rw [hp, Option.toList_some, List.length_singleton] at htokens
        rw [State.begun_of_pending (by simp [hp])]
        omega
    · obtain ⟨e', pipe, he', hr⟩ := h.started_of_supervised _ hmem
      obtain rfl := Option.some.inj (hn.symm.trans he')
      exact absurd hr (e.not_started_of_builtin hb)

section Carried

variable {stage : Stage} {b : Builtin}

/-- The runs that are carried out leave files alone until all stages are begun, unless the programs
in front have their error streams there. -/
theorem secluded_begunIn (hs : s.Remembers) (hP : ∀ stage ∈ P, stage.IsProgramIn s)
    (hQ : ∀ stage ∈ Q, stage.IsProgramIn s) (hspares : ∀ stage ∈ P ++ Q, stage.Spares used s)
    (htail : tail ≠ [])
    (huses : ∀ i e, (begunIn s (P ++ tail))[P.length + i]? = some e →
      e.stage.UsesOnly used e.before.waiting.isEmpty e.before.session) :
    Secluded used s P.length Q.length (begunIn s (P ++ tail)) (begunIn s (Q ++ tail)) where
  untouched e := agreeOn_of_begunBy hs hP
    (fun stage hstage => hspares stage (List.mem_append_left Q hstage)) htail P.length
      (Nat.le_refl _)
  untouched' e := agreeOn_of_begunBy hs hQ
    (fun stage hstage => hspares stage (List.mem_append_right P hstage)) htail Q.length
      (Nat.le_refl _)
  between i e e' next next' hi hnext hi' hnext' hagree := by
    rwa [session_of_begunBy_succ hi hnext, session_of_begunBy_succ hi' hnext']
  uses := huses

/-- When a pipeline comes to no end, a program goes on that is behind every built-in command. -/
theorem exists_busy_behind {patience : Nat} (hb : Builtin.lookup stage.name stage.args = some b)
    (hnone : s.execute patience (.pipeline (P ++ stage :: tail)) = none) :
    ∃ st n process, Run (.start s (P ++ stage :: tail)) (begunIn s (P ++ stage :: tail)) st ∧
      (n, process) ∈ st.supervised ∧ P.length < n ∧
      st.session.world.hasEnded process = false ∧ st.isCancelled n = false := by
  obtain ⟨st, hreaches, ha, ⟨n, process⟩, hmem, hended, hcancelled⟩ := exists_busy_of_none hnone
  obtain ⟨hrun, hw, hp⟩ := run_begunIn_of_reaches hreaches
  have hcompleted := completed_of_run hrun hw hp ha
  obtain ⟨e, he, hstage⟩ : ∃ e, (begunIn s (P ++ stage :: tail))[P.length]? = some e ∧
      e.stage = stage := by
    have hmap := congrArg (·[P.length]?) hcompleted.begun
    simpa [List.getElem?_map, Option.map_eq_some_iff] using hmap
  rw [← hstage] at hb
  refine ⟨st, n, process, hrun, hmem, ?_, hended, hcancelled⟩
  rcases Nat.lt_trichotomy n P.length with hlt | rfl | hlt
  · rw [hrun.isCancelled_in_front he hb n hlt] at hcancelled
    cases hcancelled
  · obtain ⟨e', pipe, he', hr⟩ := hrun.started_of_supervised _ hmem
    obtain rfl := Option.some.inj (he.symm.trans he')
    exact absurd hr (e.not_started_of_builtin hb)
  · exact hlt

end Carried

/-- **A built-in command cuts off what is before it.**  On a search list of absolute directories,
and with nothing remembered, take two pipelines that are the same from a built-in command on, and
have in front of it programs that the shell finds and whose error streams can be opened.

* In any two runs of them in which the same becomes of the files that count for the built-in command
  and the stages behind it, whatever else the programs in front do and whenever they end: each of
  these stages comes to the same, the built-in command says the same, and the stages behind it read
  the same and ask the machine for the same; and when the runs are over, they have the same result
  and leave the same environment, but for what was looked up.
* This is so of the runs that are carried out, if the error streams of the programs in front lead to
  none of these files, as all stages are begun before any process goes on.
* These runs do not wait for the programs in front: when there is no result, it is a program behind
  the built-in command that goes on. -/
theorem builtin_cuts_off {stage : Stage} {b : Builtin}
    (habs : ∀ dir ∈ s.env.search.dirs, Path.isAbsolute dir = true)
    (hempty : s.env.search.memo = ∅)
    (hb : Builtin.lookup stage.name stage.args = some b)
    (hP : ∀ stage ∈ P, stage.IsProgramIn s) (hQ : ∀ stage ∈ Q, stage.IsProgramIn s) :
    (∀ log st log' st', Run (.start s (P ++ stage :: tail)) log st →
      Run (.start s (Q ++ stage :: tail)) log' st' →
      Secluded used s P.length Q.length log log' →
      GoesOnAlike used P.length Q.length log log' st st') ∧
    (∀ patience patience' result result' after after',
      s.execute patience (.pipeline (P ++ stage :: tail)) = some (result, after) →
      s.execute patience' (.pipeline (Q ++ stage :: tail)) = some (result', after') →
      (∀ stage ∈ P ++ Q, stage.Spares used s) →
      (∀ i e, (begunIn s (P ++ stage :: tail))[P.length + i]? = some e →
        e.stage.UsesOnly used e.before.waiting.isEmpty e.before.session) →
      (∀ i e e', (begunIn s (P ++ stage :: tail))[P.length + i]? = some e →
        (begunIn s (Q ++ stage :: tail))[Q.length + i]? = some e' → e.Alike used e') ∧
      result' = result ∧ after'.env.forgetful = after.env.forgetful) ∧
    ∀ patience, s.execute patience (.pipeline (P ++ stage :: tail)) = none →
      ∃ st n process, Run (.start s (P ++ stage :: tail)) (begunIn s (P ++ stage :: tail)) st ∧
        (n, process) ∈ st.supervised ∧ P.length < n ∧
        st.session.world.hasEnded process = false ∧ st.isCancelled n = false := by
  have hs : s.Remembers := .of_empty habs hempty
  refine ⟨fun log st log' st' h h' hused => goesOnAlike_of_secluded hs hb hP hQ h h' hused, ?_,
    fun patience hnone => exists_busy_behind hb hnone⟩
  intro patience patience' result result' after after' h h' hspares huses
  have hused := secluded_begunIn hs hP hQ hspares (by simp) huses
  obtain ⟨st, hrun, hover, rfl, henv⟩ := exists_run_of_execute h
  obtain ⟨st', hrun', hover', rfl, henv'⟩ := exists_run_of_execute h'
  have hsame := goesOnAlike_of_secluded hs hb hP hQ hrun hrun' hused
  refine ⟨hsame.entries, hsame.outcome hover hover', ?_⟩
  rw [henv, henv']
  exact hsame.env hover hover'

/-- A program that never ends by itself, with its error stream in a file. -/
def noisyStage : Stage := { name := "/yes", stderr := some ⟨"/err", .overwrite⟩ }

/-- Two built-in commands, of which the second writes a file. -/
def savedStages : List Stage :=
  [{ name := "pwd" }, { name := "echo", args := ["a"], stdout := some ⟨"/out", .overwrite⟩ }]

theorem isProgramIn_noisy : ∀ stage ∈ [noisyStage], stage.IsProgramIn yesSession := by
  intro stage hstage
  obtain rfl := List.mem_singleton.mp hstage
  exact ⟨by decide, ⟨"/yes", by decide +kernel⟩, _, rfl⟩

theorem spares_noisy : ∀ stage ∈ [noisyStage] ++ [], stage.Spares (· ≠ ["err"]) yesSession := by
  intro stage hstage r hr loc hloc hused
  obtain rfl := List.mem_singleton.mp hstage
  obtain rfl := Option.some.inj hr
  have herr : yesSession.world.files.locateForCreation [] "/err" = .ok ["err"] := by
    decide +kernel
  exact hused (Except.ok.inj (hloc.symm.trans herr))

/-- The two commands ask for no file but the one that they write. -/
theorem usesOnly_saved {i : Nat}
    (hi : (begunIn yesSession ([noisyStage] ++ savedStages))[1 + i]? = some e) :
    e.stage.UsesOnly (· ≠ ["err"]) e.before.waiting.isEmpty e.before.session := by
  have hplace : e.before.session.world.files.locateForCreation e.before.session.world.directory
      (Path.join e.before.session.env.directory "/out") = .ok ["out"] := by
    have hplaces : ∀ e ∈ begunIn yesSession ([noisyStage] ++ savedStages),
        e.before.session.world.files.locateForCreation e.before.session.world.directory
          (Path.join e.before.session.env.directory "/out") = .ok ["out"] := by
      decide +kernel
    exact hplaces e (List.mem_of_getElem? hi)
  obtain ⟨hstage, -⟩ := (run_begunIn yesSession _).stage_behind hi
  have hmem := List.mem_of_getElem? hstage
  simp only [savedStages, List.mem_cons, List.not_mem_nil, or_false] at hmem
  rcases hmem with heq | heq
  all_goals
    rw [heq]
    refine ⟨fun stream _ r hr => ?_, fun b hb => ?_, fun hnone => by cases hnone⟩
  · cases stream <;> cases hr
  · obtain rfl : Builtin.pwd = b := Option.some.inj hb
    trivial
  · cases stream with
    | stderr => cases hr
    | stdout =>
      obtain rfl := Option.some.inj hr
      exact FileSystem.restsOn_locateForCreation _ hplace
  · obtain rfl : Builtin.echo ["a"] = b := Option.some.inj hb
    trivial

/-- With the program in front or without it, all files but that of its error stream are the same,
and the shell waits for a program only when it is behind a built-in command. -/
theorem builtin_cuts_off_noisy :
    (∃ result after result' after',
      yesSession.execute 0 (.pipeline (noisyStage :: savedStages)) = some (result, after) ∧
      yesSession.execute 0 (.pipeline savedStages) = some (result', after') ∧
      result' = result ∧ after'.env.forgetful = after.env.forgetful) ∧
    GoesOnAlike (· ≠ ["err"]) 1 0 (begunIn yesSession (noisyStage :: savedStages))
      (begunIn yesSession savedStages)
      (State.beginMany 3 (.start yesSession (noisyStage :: savedStages)))
      (State.beginMany 2 (.start yesSession savedStages)) ∧
    yesSession.execute 0 (.pipeline [noisyStage, { name := "pwd" }, { name := "/yes" }]) = none ∧
    ∃ (st : State) (n process : Nat), (n, process) ∈ st.supervised ∧ 1 < n ∧
      st.isCancelled n = false := by
  have hQ : ∀ stage ∈ ([] : List Stage), stage.IsProgramIn yesSession := by simp
  have habs : ∀ dir ∈ yesSession.env.search.dirs, Path.isAbsolute dir = true := by
    simp [yesSession]
  have hcut := @builtin_cuts_off yesSession [noisyStage] [] savedStages.tail (· ≠ ["err"])
    { name := "pwd" } .pwd habs rfl (by decide) isProgramIn_noisy hQ
  have hwait := @builtin_cuts_off yesSession [noisyStage] [] [{ name := "/yes" }] (· ≠ ["err"])
    { name := "pwd" } .pwd habs rfl (by decide) isProgramIn_noisy hQ
  have hnone : yesSession.execute 0
      (.pipeline [noisyStage, { name := "pwd" }, { name := "/yes" }]) = none :=
    Option.not_isSome_iff_eq_none.mp (by decide +kernel)
  refine ⟨?_, ?_, hnone, ?_⟩
  · obtain ⟨⟨result, after⟩, h⟩ := Option.isSome_iff_exists.mp (by decide +kernel :
      (yesSession.execute 0 (.pipeline (noisyStage :: savedStages))).isSome = true)
    obtain ⟨⟨result', after'⟩, h'⟩ := Option.isSome_iff_exists.mp (by decide +kernel :
      (yesSession.execute 0 (.pipeline savedStages)).isSome = true)
    obtain ⟨-, hresult, henv⟩ := hcut.2.1 0 0 result result' after after' h h' spares_noisy
      fun _ _ => usesOnly_saved
    exact ⟨result, after, result', after', h, h', hresult, henv⟩
  · exact hcut.1 _ _ _ _ (run_begunIn _ _) (run_begunIn _ _)
      (secluded_begunIn (.of_empty habs rfl) isProgramIn_noisy hQ spares_noisy (by simp)
        fun _ _ => usesOnly_saved)
  · obtain ⟨st, n, process, -, hmem, hlt, -, hcancelled⟩ := hwait.2.2 0 hnone
    exact ⟨st, n, process, hmem, hlt, hcancelled⟩

end Pipeline

end CommandShell
