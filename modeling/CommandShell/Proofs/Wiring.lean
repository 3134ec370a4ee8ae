/-
# How the stages of a pipeline are connected

Each stage of a pipeline gets what the stages before it have left (`Leaves`), and what it does with
that depends on what it turns out to be (`Wired`).

* A built-in command reads nothing.  If a program writes into the pipe before it, the shell drains
  that pipe.  What the command writes is kept for the next stage, byte by byte.
* A program reads the pipe of the program before it, or a pipe with what the built-in command before
  it has written, or nothing, if the stage before it could not be started; the first one reads the
  terminal.  It alone has the end of the pipe that it reads, and the end of the pipe that it writes.
* Of a program that cannot be started nothing remains, and the pipe before it is closed.

Pipes have numbers, and a pipe has a higher one than those made before it (`Run.upstream_cases`).
So no later stage reads a pipe that has found its reader, and what was said of the pipe goes on to
hold, whatever happens (`Run.later`).  `wired` puts these together; it is about every run of a
pipeline, and so about the one that `Session.runPipeline` carries out (`reaches_runPipeline`).

All this is about sessions in which no process has an end of a pipe that does not exist yet.  A
shell keeps its session so, whatever lines it accepts (`Session.isSound_executeLine`).
-/
import CommandShell.Proofs.PipeEnds
import CommandShell.Proofs.RunLog

namespace CommandShell.Pipeline

open World

variable {stages : List Stage} {session : Session} {first st st' : State}
  {log older newer : List Entry} {e : Entry} {n process : Nat} {pipe : Option Nat}

/-! ## 1. Pipes that are kept for the next stage -/

/-- No process has an end of a pipe that there is not, and the pipe that the next stage reads is
there for it. -/
structure Connected (st : State) : Prop where
  sound : st.session.world.IsSound
  kept : st.aborted = false → ∀ n, st.upstream = .pipe n → st.session.world.IsKept n

namespace Entry

/-- A program was started as a stage. -/
inductive Started (e : Entry) (isLast : Bool) (process : Nat) (pipe : Option Nat) :
    Channel → Prop
  | intro {program : String} {stdin stdout stderr : Channel} {opened : Option Channel} {w : World}
      (hb : Builtin.lookup e.stage.name e.stage.args = none)
      (hresolve : (e.before.session.resolve e.stage.name).1 = some program)
      (hopens : e.stage.Opens (e.before.session.resolve e.stage.name).2 isLast stderr opened w)
      (hprocess : e.after.world.descriptors? process =
        some [(0, stdin), (1, stdout), (2, stderr)])
      (hreads : e.after.world.ReadsFrom e.before.session.world.pipes.length process
        e.before.upstream stdin)
      (hwrites : e.after.world.WritesTo e.before.session.world.pipes.length process opened stdout
        pipe) :
      Started e isLast process pipe stdin

/-- **How a program is connected** that was started. -/
theorem exists_started (hc : Connected e.before) (ha : e.before.aborted = false)
    (hr : e.result = .ok (.started process pipe)) :
    ∃ stdin, e.Started e.before.waiting.isEmpty process pipe stdin := by
  have hbegins := e.begins
  rw [hr] at hbegins
  obtain ⟨hb, program, hresolve⟩ := hbegins.exists_program
  obtain ⟨stderr, opened, stdin, stdout, p, w, hopens, hquiet, rfl, hstarts⟩ := hbegins.starts
  have hs : w.IsSound := hc.sound.quiet hquiet
  have hkept : ∀ n, e.before.upstream = .pipe n → w.IsKept n := fun n hn =>
    (Follows.of_quiet hquiet).isKept (hc.kept ha n hn)
  have hreads := hstarts.readsFrom hs hkept
  have hwrites := hstarts.writesTo hs hkept
  rw [hquiet.pipes] at hreads hwrites
  exact ⟨stdin, .intro hb hresolve hopens hstarts.descriptors?_eq hreads hwrites⟩

theorem Started.readsFrom {isLast : Bool} {stdin : Channel}
    (h : e.Started isLast process pipe stdin) : e.after.world.ReadsFrom
      e.before.session.world.pipes.length process e.before.upstream stdin := by
  cases h
  assumption

/-- Only the last stage does not write to a pipe. -/
theorem Started.exists_pipe {stdin : Channel} (h : e.Started false process pipe stdin) :
    ∃ n, pipe = some n := by
  cases h with
  | intro hb hresolve hopens hprocess hreads hwrites =>
    cases hwrites with
    | opened c => cases hopens
    | pipe => exact ⟨_, rfl⟩

/-- A stage that leaves a pipe is a program. -/
theorem result_of_output (h : e.output = .pipe n) :
    ∃ process, e.result = .ok (.started process (some n)) := by
  rw [output] at h
  split at h
  next => split at h <;> cases h
  next process pipe hr =>
    cases pipe with
    | none => cases h
    | some m =>
      obtain rfl := Upstream.pipe.inj h
      exact ⟨process, hr⟩
  next => cases h

/-- The pipe of a program is the first one that its stage makes. -/
theorem pipe_eq (hc : Connected e.before) (ha : e.before.aborted = false)
    (hr : e.result = .ok (.started process (some n))) :
    n = e.before.session.world.pipes.length ∧ e.after.world.IsKept n := by
  obtain ⟨stdin, hstarted⟩ := exists_started hc ha hr
  cases hstarted with
  | intro hb hresolve hopens hprocess hreads hwrites =>
    cases hwrites with
    | pipe halone hkept => exact ⟨rfl, hkept⟩

end Entry

namespace Connected

theorem start (hs : session.world.IsSound) (stages : List Stage) :
    Connected (.start session stages) :=
  ⟨hs, fun _ _ h => by cases h⟩

theorem passes (h : Connected st) (hp : Passes st st') : Connected st' := by
  have hworld := hp.since.world
  refine ⟨hworld.isSound h.sound, fun ha n hn => hworld.isKept ?_⟩
  cases hp with
  | registered => exact h.kept ha n hn
  | machine => exact h.kept ha n hn
  | settled => exact h.kept ha n hn

theorem began (h : Connected st) (hacc : Accounts stages st) {stage : Stage}
    (hp : st.pending = some stage) : Connected st.begin := by
  have ha := hacc.aborted_of_pending (by simp [hp])
  refine ⟨?_, fun ha' n hn => ?_⟩
  · rw [session_begin hp]
    exact (Entry.mk st stage).begins.spares.isSound h.sound fun n hn =>
      lt_of_holder? (h.kept ha n hn).holder
  · by_cases hf : (Entry.mk st stage).Fails
    · simp [(begin_of_fails hp hf).1] at ha'
    · rw [(begin_of_not_fails hp hf).2.2.2] at hn
      obtain ⟨process, hr⟩ := Entry.result_of_output hn
      rw [session_begin hp]
      exact (Entry.pipe_eq h ha hr).2

end Connected

/-- **Pipes are kept for the next stage all along a run.** -/
theorem Run.connected (hs : session.world.IsSound) (h : Run (.start session stages) log st) :
    Connected st := by
  induction h with
  | start => exact .start hs stages
  | began h hp ih => exact ih.began (Accounts.of_reaches h.reaches) hp
  | passed _ he hs ih => exact ih.passes (passes_of_after? he hs)

end CommandShell.Pipeline

/-! ## 2. Lines keep a session sound -/

namespace CommandShell.Session

open Pipeline

variable {patience : Nat} {s s' : Session} {result : Except Failure Unit}

theorem isSound_execute {line : Line} (hs : s.world.IsSound)
    (h : s.execute patience line = some (result, s')) : s'.world.IsSound := by
  cases executes_of_execute h with
  | nothing => exact hs
  | failed hbegins | done hbegins => exact hbegins.isSound hs
  | waited hbegins hwait => exact (World.follows_runUntil hwait).isSound (hbegins.isSound hs)
  | pipeline hrun =>
    obtain ⟨st, hst, heq⟩ := Option.map_eq_some_iff.mp hrun
    obtain ⟨-, rfl⟩ := Prod.mk.inj heq
    obtain ⟨log, hlog⟩ := exists_run_iff.mpr (reaches_runPipeline hst)
    intro c n hc hhas
    have hlt := (hlog.connected hs).sound c n hc hhas
    simpa [State.onWorld, World.stopDraining] using hlt

/-- **A shell keeps its session sound**, whatever line it accepts. -/
theorem isSound_executeLine {line : String} (hs : s.world.IsSound)
    (h : s.executeLine patience line = some (result, s')) : s'.world.IsSound := by
  simp only [executeLine] at h
  split at h
  · obtain ⟨-, rfl⟩ := Prod.mk.inj (Option.some.inj h)
    exact hs
  · have hrecord : (s.record (Text.dropReturn line)).world.IsSound := hs.quiet ⟨rfl, rfl, rfl⟩
    exact isSound_execute hrecord h

end CommandShell.Session

namespace CommandShell.Pipeline

open World

variable {stages : List Stage} {session : Session} {first st st' : State}
  {log older newer : List Entry} {e : Entry} {n process : Nat} {pipe : Option Nat}

/-! ## 3. After a stage was begun -/

/-- What goes on to hold when the machine goes on, and when further stages are begun. -/
theorem Run.forward {P : World → Prop} (h : Run first log st) (hlog : log = older ++ e :: newer)
    (hfollows : ∀ w w', w.Follows w' → P w → P w')
    (hnewer : ∀ e' ∈ newer, P e'.before.session.world → P e'.after.world)
    (he : P e.after.world) : P st.session.world := by
  induction h generalizing newer with
  | start => simp at hlog
  | @began log st stage h hp ih =>
    rw [session_begin hp]
    rcases List.eq_nil_or_concat newer with rfl | ⟨newer, e', rfl⟩
    · obtain ⟨-, heq⟩ := List.append_inj' hlog rfl
      obtain rfl := List.head_eq_of_cons_eq heq
      exact he
    · have hlog' : log ++ [⟨st, stage⟩] = (older ++ e :: newer) ++ [e'] := by simpa using hlog
      obtain ⟨hold, heq⟩ := List.append_inj' hlog' rfl
      obtain rfl := List.head_eq_of_cons_eq heq
      exact hnewer _ (by simp) (ih hold fun e' he' => hnewer e' (by simp [he']))
  | passed _ hne hs ih => exact hfollows _ _ (passes_of_after? hne hs).since.world (ih hlog hnewer)

theorem Run.pipes_le (h : Run first log st) (hlog : log = older ++ e :: newer) :
    e.after.world.pipes.length ≤ st.session.world.pipes.length :=
  h.forward (P := fun w => e.after.world.pipes.length ≤ w.pipes.length) hlog
    (fun _ _ hw hle => Nat.le_trans hle hw.pipes)
    (fun e' _ hle => Nat.le_trans hle e'.begins.spares.pipes) (Nat.le_refl _)

/-- A state with a pending stage was not given up. -/
theorem Run.aborted_of_entry (h : Run (.start session stages) log st)
    (hlog : log = older ++ e :: newer) : e.before.aborted = false :=
  (Accounts.of_reaches (h.at hlog).1.reaches).aborted_of_pending (by simp [(h.at hlog).2])

/-- **Which pipe is read after a stage**: that of the stage itself, right after it, or a newer
one. -/
theorem Run.upstream_cases (hs : session.world.IsSound) (h : Run (.start session stages) log st)
    (ha : st.aborted = false) (hlog : log = older ++ e :: newer) (hup : st.upstream = .pipe n) :
    (newer = [] ∧ ∃ process, e.result = .ok (.started process (some n))) ∨
      e.after.world.pipes.length ≤ n := by
  rw [h.logged.upstream ha, hlog] at hup
  rcases List.eq_nil_or_concat newer with rfl | ⟨newer, e', rfl⟩
  · rw [lastOutput_concat] at hup
    exact .inl ⟨rfl, Entry.result_of_output hup⟩
  · have hlog' : log = (older ++ e :: newer) ++ e' :: [] := by simpa using hlog
    have hup' : lastOutput ((older ++ e :: newer) ++ [e']) = .pipe n := by simpa using hup
    rw [lastOutput_concat] at hup'
    obtain ⟨process, hr⟩ := Entry.result_of_output hup'
    have hat := (h.at hlog').1
    have hn := (Entry.pipe_eq (hat.connected hs) (h.aborted_of_entry hlog') hr).1
    exact .inr (hn ▸ hat.pipes_le rfl)

/-- **What is so of a pipe goes on to be so**, unless the shell keeps the pipe for the next
stage. -/
theorem Run.later {P : World → Prop} (hs : session.world.IsSound)
    (h : Run (.start session stages) log st) (hlog : log = older ++ e :: newer)
    {holder : PipeHolder} (hholder : e.after.world.holder? n = some holder)
    (hne : holder ≠ .keeps) (hfollows : ∀ w w', n < w.pipes.length → w.Follows w' → P w → P w')
    (hspares : ∀ upstream w w', n < w.pipes.length → upstream ≠ .pipe n → Spares upstream w w' →
      P w → P w') (he : P e.after.world) : P st.session.world := by
  have hn := lt_of_holder? hholder
  refine (h.forward (P := fun w => n < w.pipes.length ∧ P w) hlog (fun w w' hw hP => ?_)
    (fun e' he' hP => ?_) ⟨hn, he⟩).2
  · exact ⟨Nat.lt_of_lt_of_le hP.1 hw.pipes, hfollows w w' hP.1 hw hP.2⟩
  · have hspared := e'.begins.spares
    refine ⟨Nat.lt_of_lt_of_le hP.1 hspared.pipes, hspares _ _ _ hP.1 (fun hup => ?_) hspared hP.2⟩
    obtain ⟨mid, rest, rfl⟩ := List.append_of_mem he'
    have hlog' : log = (older ++ e :: mid) ++ e' :: rest := by simpa using hlog
    rcases (h.at hlog').1.upstream_cases hs (h.aborted_of_entry hlog') rfl hup with
      ⟨-, process, hr⟩ | hle
    · have hkept := (Entry.pipe_eq ((h.at hlog).1.connected hs) (h.aborted_of_entry hlog) hr).2
      exact hne (Option.some.inj (hholder.symm.trans hkept.holder))
    · omega

section Later

variable (hs : session.world.IsSound) (h : Run (.start session stages) log st)
  (hlog : log = older ++ e :: newer) {holder : PipeHolder}
  (hholder : e.after.world.holder? n = some holder) (hne : holder ≠ .keeps)
include hs h hlog hholder hne

theorem Run.holder?_later : st.session.world.holder? n = some holder :=
  h.later hs hlog hholder hne (fun _ _ _ hw hP => hw.holder?_eq hP)
    (fun _ _ _ hn hup hspared hP => (hspared.holder n hn hup).trans hP) hholder

theorem Run.not_has_later {c : Channel} (hc : c.pipe? = some n) (he : ¬ e.after.world.Has c) :
    ¬ st.session.world.Has c :=
  h.later hs hlog hholder hne (P := fun w => ¬ w.Has c) (fun _ _ hn hw hP => hw.not_has hc hn hP)
    (fun _ _ _ hn hup hspared hP hhas => by
      rcases hspared.ends c n hc hhas with hhas | heq | hnew
      · exact hP hhas
      · exact hup heq
      · omega) he

/-- A pipe to which nobody writes is only read from. -/
theorem Run.content_later (he : ¬ e.after.world.Has (.pipeWriter n)) :
    ¬ st.session.world.Has (.pipeWriter n) ∧
      st.session.world.pipeContent n <:+ e.after.world.pipeContent n := by
  refine h.later hs hlog hholder hne (P := fun w => ¬ w.Has (.pipeWriter n) ∧
    w.pipeContent n <:+ e.after.world.pipeContent n) (fun _ _ hn hw hP => ?_)
    (fun _ _ _ hn hup hspared hP => ?_) ⟨he, List.suffix_rfl⟩
  · exact ⟨hw.not_has rfl hn hP.1, (hw.content n hn hP.1).trans hP.2⟩
  · refine ⟨fun hhas => ?_, (hspared.content n hn).symm ▸ hP.2⟩
    rcases hspared.ends _ n rfl hhas with hhas | heq | hnew
    · exact hP.1 hhas
    · exact hup heq
    · omega

end Later

/-! ## 4. What stages leave behind -/

namespace Entry

/-- The built-in command of the stage, about to run on streams that are open. -/
def job (e : Entry) (stdout : Option Channel) (stderr : Channel) (w : World) : Job :=
  { session := { e.before.session with world := w }, stdout := .ofOutput stdout,
    stderr := .channel stderr }

/-- The session with the pipe before the stage being drained. -/
def draining (e : Entry) : Session :=
  { e.before.session with world := e.before.session.world.hand e.before.upstream .drains }

/-- A built-in command was run as a stage, and has written these bytes to its output. -/
inductive Ran (e : Entry) (isLast : Bool) (written : Bytes) : Prop
  | intro {b : Builtin} {stderr : Channel} {stdout : Option Channel} {w : World} {code : Int}
      {job : Job} (hb : Builtin.lookup e.stage.name e.stage.args = some b)
      (hopens : e.stage.Opens e.draining isLast stderr stdout w)
      (hrun : b.run.run.run (e.job stdout stderr w) = (.ok code, job))
      (hwrites : Builtin.Writes (e.job stdout stderr w) written job)
      (hafter : e.after = job.session) : Ran e isLast written

/-- The program of the stage could not be started, with the streams that it would have had. -/
inductive Refused (e : Entry) (isLast : Bool) : Prop
  | intro {program : String} {stdin stdout stderr : Channel} {opened : Option Channel}
      {pipe : Option Nat} {w w₁ w₂ : World}
      (hb : Builtin.lookup e.stage.name e.stage.args = none)
      (hresolve : (e.before.session.resolve e.stage.name).1 = some program)
      (hopens : e.stage.Opens (e.before.session.resolve e.stage.name).2 isLast stderr opened w)
      (houtput : w.outlet opened = (stdout, pipe, w₁))
      (hinput : w₁.inlet e.before.upstream = (stdin, w₂))
      (hlaunch : w₂.launch (Action.launchOf (e.before.session.resolve e.stage.name).2.env program
        e.stage stdin stdout stderr) = none) : Refused e isLast

/-- The stage has read nothing: neither from the terminal nor from a pipe. -/
structure Unread (e : Entry) : Prop where
  terminal : e.after.world.terminal.input = e.before.session.world.terminal.input
  pipes : ∀ n, e.after.world.pipeContent n = e.before.session.world.pipeContent n

end Entry

/-- What stages leave for the next one to read. -/
inductive Leaves : List Entry → Upstream → Prop
  /-- The first stage reads the terminal. -/
  | terminal : Leaves [] .terminal
  /-- A program leaves the pipe that it writes to. -/
  | pipe {older : List Entry} {e : Entry} {process n : Nat} {stdin : Channel}
      (hresult : e.result = .ok (.started process (some n)))
      (hstarted : e.Started false process (some n) stdin) : Leaves (older ++ [e]) (.pipe n)
  /-- A built-in command leaves what it has written. -/
  | bytes {older : List Entry} {e : Entry} {written : Bytes}
      (hresult : e.result = .ok (.builtin written)) (hran : e.Ran false written) :
      Leaves (older ++ [e]) (.bytes written)
  /-- A program that could not be started leaves nothing. -/
  | closed {older : List Entry} {e : Entry} (hresult : e.result = .ok .unstarted) :
      Leaves (older ++ [e]) .closed

namespace Entry

/-- What a stage turns out to be that does not fail. -/
theorem result_cases (hok : ¬ e.Fails) : (∃ output, e.result = .ok (.builtin output)) ∨
    (∃ process pipe, e.result = .ok (.started process pipe)) ∨ e.result = .ok .unstarted := by
  rw [fails_iff, not_or, not_exists] at hok
  rcases hr : e.result with f | beginning
  · exact absurd hr (hok.2 f)
  · cases beginning with
    | missing => exact absurd hr hok.1
    | builtin output => exact .inl ⟨output, rfl⟩
    | started process pipe => exact .inr (.inl ⟨process, pipe, rfl⟩)
    | unstarted => exact .inr (.inr rfl)

/-- A built-in command as a stage changes nothing of the machine but files and the terminal, and
that the pipe before it is drained. -/
theorem quiet_of_builtin {output : Bytes} (hr : e.result = .ok (.builtin output)) :
    e.draining.world.Quiet e.after.world := by
  have hbegins := e.begins
  rw [hr] at hbegins
  generalize e.after = after at hbegins ⊢
  cases hbegins with
  | builtin hb hopen hrun => exact Stage.quiet_of_run hopen hrun

/-- **How a built-in command runs as a stage.** -/
theorem exists_ran {output : Bytes} (hr : e.result = .ok (.builtin output)) :
    ∃ written, e.Ran e.before.waiting.isEmpty written ∧
      output = if e.before.waiting.isEmpty then [] else written := by
  have hbegins := e.begins
  rw [hr] at hbegins
  generalize hafter : e.after = after at hbegins
  generalize e.before.waiting.isEmpty = isLast at hbegins ⊢
  cases hbegins with
  | @builtin b stderr stdout s₁ code job hb hopen hrun =>
    obtain ⟨heq, hopens⟩ := Stage.opens_of_openStreams hopen
    -- Opening the streams has changed the machine only.
    have hjob : { session := s₁, stdout := .ofOutput stdout, stderr := .channel stderr } =
        e.job stdout stderr s₁.world := by
      rw [Entry.job, heq]
    rw [hjob] at hrun
    obtain ⟨written, hwrites⟩ := Builtin.reaches_run b (e.job stdout stderr s₁.world)
    rw [hrun] at hwrites
    refine ⟨written, .intro hb hopens hrun hwrites hafter, ?_⟩
    rw [hwrites.stdout]
    cases hopens <;> rfl

theorem unread_of_builtin {output : Bytes} (hr : e.result = .ok (.builtin output)) : e.Unread where
  terminal := (quiet_of_builtin hr).input.trans (input_hand _ _ _)
  pipes n := by
    rw [pipeContent, (quiet_of_builtin hr).pipes]
    exact pipeContent_hand _ _ _ n

theorem drained_of_builtin {output : Bytes} (hr : e.result = .ok (.builtin output))
    (hup : e.before.upstream = .pipe n) (hkept : e.before.session.world.IsKept n) :
    e.after.world.holder? n = some .drains ∧ ¬ e.after.world.Has (.pipeReader n) := by
  have hquiet := quiet_of_builtin hr
  rw [draining, hup] at hquiet
  constructor
  · rw [holder?, hquiet.pipes]
    exact holder?_hand (lt_of_holder? hkept.holder) .drains
  · rw [has_congr hquiet.processes]
    exact hkept.reader

/-- A program that cannot be started leaves no process behind. -/
theorem processes_of_unstarted (hr : e.result = .ok .unstarted) :
    e.after.world.processes = e.before.session.world.processes := by
  rcases e.begins.processes with ⟨pipe, p, hr', -⟩ | ⟨-, hprocesses⟩
  · cases hr.symm.trans hr'
  · exact hprocesses

/-- The machine has refused to start it. -/
theorem refused_of_unstarted (hr : e.result = .ok .unstarted) :
    e.Refused e.before.waiting.isEmpty := by
  have hbegins := e.begins
  rw [hr] at hbegins
  generalize e.after = after at hbegins
  cases hbegins with
  | unstarted hb hresolve hopen houtput hinput hlaunch =>
    obtain ⟨heq, hopens⟩ := Stage.opens_of_openStreams hopen
    rw [congrArg Session.env heq] at hlaunch
    exact .intro hb hresolve hopens houtput hinput hlaunch

/-- What it would have read is closed. -/
theorem closed_of_unstarted (hr : e.result = .ok .unstarted) (hup : e.before.upstream = .pipe n)
    (hkept : e.before.session.world.IsKept n) :
    e.after.world.holder? n = some .nobody ∧ ¬ e.after.world.Has (.pipeReader n) := by
  have hbegins := e.begins
  rw [hr, hup] at hbegins
  refine ⟨hbegins.holder?_of_unstarted (lt_of_holder? hkept.holder), ?_⟩
  rw [has_congr (processes_of_unstarted hr)]
  exact hkept.reader

end Entry

/-- Where a stage is in its pipeline. -/
theorem Run.position (h : Run (.start session stages) log st)
    (hlog : log = older ++ e :: newer) : stages[older.length]? = some e.stage ∧
      e.before.waiting = stages.drop (older.length + 1) := by
  obtain ⟨hat, hp⟩ := h.at hlog
  have hrest := hat.logged.rest (h.aborted_of_entry hlog)
  rw [hp, Option.toList_some, List.singleton_append] at hrest
  refine ⟨by rw [← List.head?_drop, ← hrest, List.head?_cons], ?_⟩
  rw [← List.drop_drop, ← hrest, List.drop_one, List.tail_cons]

theorem Run.isLast_eq (h : Run (.start session stages) log st)
    (hlog : log = older ++ e :: newer) :
    e.before.waiting.isEmpty = decide (older.length + 1 = stages.length) := by
  obtain ⟨hstage, hwaiting⟩ := h.position hlog
  have hlt := (List.getElem?_eq_some_iff.mp hstage).1
  rw [Bool.eq_iff_iff, hwaiting, List.isEmpty_iff, List.drop_eq_nil_iff, decide_eq_true_iff]
  omega

/-- **What a stage leaves for the next one**, if there is one. -/
theorem Entry.leaves (hc : Connected e.before) (ha : e.before.aborted = false) (hok : ¬ e.Fails)
    (hlast : e.before.waiting.isEmpty = false) (older : List Entry) :
    Leaves (older ++ [e]) e.output := by
  rcases e.result_cases hok with ⟨output, hr⟩ | ⟨process, pipe, hr⟩ | hr
  · obtain ⟨written, hran, hout⟩ := exists_ran hr
    rw [hlast] at hran hout
    obtain rfl : output = written := hout
    have houtput : e.output = .bytes output := by
      rw [Entry.output, hr]
      exact if_neg (by simpa using hlast)
    exact houtput ▸ .bytes hr hran
  · obtain ⟨stdin, hstarted⟩ := exists_started hc ha hr
    rw [hlast] at hstarted
    obtain ⟨n, rfl⟩ := hstarted.exists_pipe
    have houtput : e.output = .pipe n := by
      rw [Entry.output, hr]
      rfl
    exact houtput ▸ .pipe hr hstarted
  · have houtput : e.output = .closed := by rw [Entry.output, hr]
    exact houtput ▸ .closed hr

/-- **What the stages before one leave for it.** -/
theorem Run.leaves (hs : session.world.IsSound) (h : Run (.start session stages) log st)
    (hlog : log = older ++ e :: newer) : Leaves older e.before.upstream := by
  obtain ⟨hat, -⟩ := h.at hlog
  have ha := h.aborted_of_entry hlog
  rw [hat.logged.upstream ha]
  rcases List.eq_nil_or_concat older with rfl | ⟨older, e', rfl⟩
  · exact .terminal
  · rw [List.concat_eq_append] at hat hlog ⊢
    rw [lastOutput_concat]
    have hlast : e'.before.waiting.isEmpty = false := by
      have hlt := (List.getElem?_eq_some_iff.mp (h.position hlog).1).1
      rw [hat.isLast_eq rfl, decide_eq_false_iff_not]
      simp only [List.length_append, List.length_singleton] at hlt
      omega
    exact e'.leaves ((hat.at rfl).1.connected hs) (hat.aborted_of_entry rfl)
      ((hat.logged.going ha).2 e' (by simp)) hlast older

/-! ## 5. All stages -/

/-- How a stage is connected, on the machine after it was begun and on one at any later time. -/
inductive Wired (isLast : Bool) (older : List Entry) (e : Entry) (later : World) : Prop
  /-- A built-in command does not read.  A pipe before it is drained, and nobody else reads it. -/
  | builtin {written : Bytes}
      (hresult : e.result = .ok (.builtin (if isLast then [] else written)))
      (hran : e.Ran isLast written) (hunread : e.Unread)
      (hdrained : ∀ n, e.before.upstream = .pipe n →
        later.holder? n = some .drains ∧ ¬ later.Has (.pipeReader n))
  /-- A program reads what was left for it.  The shell does not read it any more, and nothing comes
  to it besides what the stage before it writes. -/
  | program {process : Nat} {pipe : Option Nat} {stdin : Channel}
      (hresult : e.result = .ok (.started process pipe))
      (hstarted : e.Started isLast process pipe stdin)
      (hterminal : stdin = .terminalInput ↔ older = [])
      (hhanded : ∀ n, stdin = .pipeReader n → later.holder? n = some .nobody)
      (hfed : ∀ written n, e.before.upstream = .bytes written → stdin = .pipeReader n →
        ¬ later.Has (.pipeWriter n) ∧ later.pipeContent n <:+ written ∧
          ∀ limit, ∃ w, later.read (.pipeReader n) limit =
            some (.ok ((later.pipeContent n).take limit, w)))
  /-- A program that could not be started leaves the pipe before it to nobody. -/
  | unstarted (hresult : e.result = .ok .unstarted) (hrefused : e.Refused isLast)
      (hprocesses : e.after.world.processes = e.before.session.world.processes)
      (hclosed : ∀ n, e.before.upstream = .pipe n →
        later.holder? n = some .nobody ∧ ¬ later.Has (.pipeReader n))

theorem Leaves.eq_terminal_iff {upstream : Upstream} (h : Leaves older upstream) :
    upstream = .terminal ↔ older = [] := by
  cases h <;> simp

/-- A stage that does not fail is one of these. -/
theorem Run.wired_of_entry (hs : session.world.IsSound) (h : Run (.start session stages) log st)
    (hlog : log = older ++ e :: newer) (hok : ¬ e.Fails) :
    Wired (decide (older.length + 1 = stages.length)) older e st.session.world := by
  obtain ⟨hat, -⟩ := h.at hlog
  have ha := h.aborted_of_entry hlog
  have hc := hat.connected hs
  rw [← h.isLast_eq hlog]
  -- Nobody else gets what the shell has let go of or drains.
  have hgone : ∀ {holder}, holder ≠ .keeps → ∀ {n}, e.after.world.holder? n = some holder ∧
      ¬ e.after.world.Has (.pipeReader n) → st.session.world.holder? n = some holder ∧
        ¬ st.session.world.Has (.pipeReader n) := fun hne _ hafter =>
    ⟨h.holder?_later hs hlog hafter.1 hne, h.not_has_later hs hlog hafter.1 hne rfl hafter.2⟩
  rcases e.result_cases hok with ⟨output, hr⟩ | ⟨process, pipe, hr⟩ | hr
  · obtain ⟨written, hran, rfl⟩ := Entry.exists_ran hr
    exact .builtin hr hran (Entry.unread_of_builtin hr) fun n hup =>
      hgone (by decide) (Entry.drained_of_builtin hr hup (hc.kept ha n hup))
  · obtain ⟨stdin, hstarted⟩ := Entry.exists_started hc ha hr
    have hreads := hstarted.readsFrom
    refine .program hr hstarted ?_ (fun n hn => ?_) fun written n hup hn => ?_
    · exact hreads.eq_terminalInput_iff.trans (h.leaves hs hlog).eq_terminal_iff
    · subst hn
      exact h.holder?_later hs hlog hreads.holder?_eq (by decide)
    · subst hn
      rw [hup] at hreads
      cases hreads with
      | bytes hnew halone hholder hcontent hwriter =>
        obtain ⟨hwriter', hsuffix⟩ := h.content_later hs hlog hholder (by decide) hwriter
        refine ⟨hwriter', hcontent ▸ hsuffix, fun limit => ?_⟩
        obtain ⟨w, hread, -⟩ := exists_read hwriter' limit
        exact ⟨w, hread⟩
  · exact .unstarted hr (Entry.refused_of_unstarted hr) (Entry.processes_of_unstarted hr)
      fun n hup => hgone (by decide) (Entry.closed_of_unstarted hr hup (hc.kept ha n hup))

/-- **Who gets the pipe of a program**: the next stage, and no other. -/
theorem Run.upstream_eq_iff (hs : session.world.IsSound) (h : Run (.start session stages) log st)
    (hlog : log = older ++ e :: newer) (hr : e.result = .ok (.started process (some n)))
    {older' newer' : List Entry} {e' : Entry} (hlog' : log = older' ++ e' :: newer') :
    e'.before.upstream = .pipe n ↔ older' = older ++ [e] := by
  obtain ⟨hat, -⟩ := h.at hlog
  obtain ⟨hat', -⟩ := h.at hlog'
  have ha' := h.aborted_of_entry hlog'
  obtain ⟨hn, hkept⟩ := Entry.pipe_eq (hat.connected hs) (h.aborted_of_entry hlog) hr
  constructor
  · intro hup
    have hlt' : n < e'.before.session.world.pipes.length :=
      lt_of_holder? ((hat'.connected hs).kept ha' n hup).holder
    rcases List.append_eq_append_iff.mp (hlog.symm.trans hlog') with
      ⟨mid, rfl, hmid⟩ | ⟨mid, rfl, hmid⟩
    · cases mid with
      | nil =>
        obtain rfl : e = e' := List.head_eq_of_cons_eq hmid
        omega
      | cons e'' mid =>
        obtain ⟨rfl, -⟩ := List.cons.inj hmid
        -- A pipe that is read later than right after the stage is newer.
        rcases hat'.upstream_cases hs ha' rfl hup with ⟨rfl, -⟩ | hle
        · rfl
        · exact absurd (lt_of_holder? hkept.holder) (Nat.not_lt_of_le hle)
    · cases mid with
      | nil =>
        obtain rfl : e' = e := List.head_eq_of_cons_eq hmid
        omega
      | cons e'' mid =>
        -- Before the stage the pipe is not there.
        obtain ⟨rfl, -⟩ := List.cons.inj hmid
        have hle := hat.pipes_le rfl
        have hle' := e'.begins.spares.pipes
        omega
  · rintro rfl
    rw [hat'.logged.upstream ha', lastOutput_concat, Entry.output, hr]
    rfl

/-- The redirection of the output of a stage that is not the last one makes no difference. -/
theorem attempt_stdout (st : State) (stage : Stage) (hw : st.waiting ≠ [])
    (redirection : Option Redirection) :
    st.attempt { stage with stdout := redirection } = st.attempt stage := by
  have hlast : st.waiting.isEmpty = false := by simpa using hw
  rw [State.attempt, State.attempt, hlast]
  rfl

/-- **How the stages of a pipeline are connected.**  Of every stage that was begun, unless the
pipeline was given up at it:

* it is the stage at its place, and gets what the stage before it has left;
* it is connected as it should be, and stays so at any later time;
* the redirection of its output makes no difference, unless it is the last one;
* the pipe that it writes to is read by the next stage and by no other. -/
theorem wired (hs : session.world.IsSound) (h : Run (.start session stages) log st)
    (hlog : log = older ++ e :: newer) (hok : ¬ e.Fails) :
    stages[older.length]? = some e.stage ∧ Leaves older e.before.upstream ∧
    Wired (decide (older.length + 1 = stages.length)) older e st.session.world ∧
    (older.length + 1 ≠ stages.length → ∀ redirection,
      e.before.attempt { e.stage with stdout := redirection } = e.before.attempt e.stage) ∧
    ∀ process n, e.result = .ok (.started process (some n)) →
      ∀ older' e' newer', log = older' ++ e' :: newer' →
        (e'.before.upstream = .pipe n ↔ older' = older ++ [e]) := by
  obtain ⟨hstage, hwaiting⟩ := h.position hlog
  refine ⟨hstage, h.leaves hs hlog, h.wired_of_entry hs hlog hok, fun hlast redirection => ?_,
    fun _ _ hr _ _ _ hlog' => h.upstream_eq_iff hs hlog hr hlog'⟩
  have hlt := (List.getElem?_eq_some_iff.mp hstage).1
  refine attempt_stdout _ _ (fun hw => ?_) redirection
  rw [hwaiting, List.drop_eq_nil_iff] at hw
  omega

theorem Run.next (h : Run first log st) {stage : Stage} {waiting : List Stage}
    (hw : st.waiting = stage :: waiting) (hp : st.pending = none) :
    Run first (log ++ [⟨st.register, stage⟩]) st.register.begin := by
  refine (h.passed (e := .register) nofun ?_).began ?_
  · simp [State.after?, hw, hp]
  · rw [register_eq hw]

/-- A built-in command before a program that never ends by itself, and another one behind it. -/
def fedPipeline : List Stage :=
  [{ name := "echo", args := ["hi"] }, { name := "/yes" }, { name := "echo" }]

/-- The program reads what the first command has written, and writes into a pipe that is drained. -/
theorem wired_fed :
    let st := State.beginMany 3 (.start yesSession fedPipeline)
    st.session.world.descriptors? 0 =
        some [(0, .pipeReader 1), (1, .pipeWriter 0), (2, .terminalError)] ∧
      st.session.world.pipeContent 1 = Text.encode "hi\n" ∧
      st.session.world.holder? 0 = some .drains ∧
      ∃ older e newer, Run (.start yesSession fedPipeline) (older ++ e :: newer) st ∧
        older.length = 1 ∧ e.result = .ok (.started 0 (some 0)) ∧
        Wired false older e st.session.world := by
  intro st
  let st₁ := State.beginMany 1 (.start yesSession fedPipeline)
  let st₂ := State.beginMany 2 (.start yesSession fedPipeline)
  let older : List Entry :=
    [⟨(State.start yesSession fedPipeline).register, { name := "echo", args := ["hi"] }⟩]
  let e : Entry := ⟨st₁.register, { name := "/yes" }⟩
  let newer : List Entry := [⟨st₂.register, { name := "echo" }⟩]
  have h₁ : Run (.start yesSession fedPipeline) older st₁ := Run.start.next rfl rfl
  have h₂ : Run (.start yesSession fedPipeline) (older ++ [e]) st₂ := h₁.next rfl rfl
  have h : Run (.start yesSession fedPipeline) (older ++ e :: newer) st := h₂.next rfl rfl
  have hr : (Entry.mk (State.beginMany 1 (.start yesSession fedPipeline)).register
    { name := "/yes" }).result = .ok (.started 0 (some 0)) := rfl
  have hok : ¬ e.Fails := fun hf => by
    rcases e.fails_iff.mp hf with hr' | ⟨f, hr'⟩ <;> cases hr.symm.trans hr'
  obtain ⟨-, -, hwired, -⟩ := wired (isSound_of_processes_nil rfl) h rfl hok
  exact ⟨by decide, by decide, by decide, older, e, newer, h, rfl, hr, hwired⟩

end CommandShell.Pipeline
