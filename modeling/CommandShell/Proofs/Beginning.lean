/-
# How a stage begins

A stage of a pipeline is looked up, its streams are opened, and then its built-in command is run or
its program is started.  Each of this can go wrong.  `Stage.Begins` lists what can come of it, with
the session after it, and `Stage.begins` says that `Action.beginStage` does nothing else.

Of the machine a stage changes little: it starts at most one process (`Begins.processes`), and only
a stage whose program is started does.
-/
import CommandShell.Engine.Pipeline
import CommandShell.Proofs.Effects
import CommandShell.Proofs.Machine

namespace CommandShell

/-! ## 1. The streams of a stage -/

/-- What a stage reads that comes after a pipe, or after none. -/
def Upstream.ofPipe : Option Nat → Upstream
  | some n => .pipe n
  | none => .closed

/-- The sink of a built-in command: what it was opened for, or a buffer for the next stage. -/
def Sink.ofOutput : Option Channel → Sink
  | some c => .channel c
  | none => .buffer []

/-- The output of a program: what was opened for it, or a new pipe to the next stage. -/
def World.outlet (w : World) : Option Channel → Channel × Option Nat × World
  | some c => (c, none, w)
  | none => (.pipeWriter w.pipes.length, some w.pipes.length, (w.addPipe { holder := .keeps }).2)

namespace Action

/-- Opens the target of the error stream, and that of the output of the last stage. -/
def openStreams (stage : Stage) (isLast : Bool) : Action (Channel × Option Channel) := do
  let first ← takeNumbers
  let stderr ← openOutlet first .stderr stage.stderr
  if isLast then do
    let stdout ← openOutlet first .stdout stage.stdout
    pure (stderr, some stdout)
  else pure (stderr, none)

/-- A built-in command runs when its streams are open. -/
theorem beginBuiltin_eq (b : Builtin) (stage : Stage) (isLast : Bool) :
    beginBuiltin b stage isLast = (do
      let streams ← openStreams stage isLast
      let sink ← runBuiltin b (.ofOutput streams.2) (.channel streams.1)
      pure sink.collected) := by
  cases isLast <;> simp [beginBuiltin, openStreams, Sink.ofOutput]

/-- Makes the output of a program, unless it was opened. -/
def connectOutput : Option Channel → Action (Channel × Option Nat)
  | some c => pure (c, none)
  | none => do
    let n ← newPipe { holder := .keeps }
    pure (.pipeWriter n, some n)

@[simp] theorem run_connectOutput (stdout : Option Channel) (s : Session) :
    (connectOutput stdout).run.run s =
      (.ok ((s.world.outlet stdout).1, (s.world.outlet stdout).2.1),
        { s with world := (s.world.outlet stdout).2.2 }) := by
  cases stdout <;> rfl

/-- A program is started when its streams are open. -/
theorem beginProgram_eq (program : String) (stage : Stage) (isLast : Bool) (upstream : Upstream) :
    beginProgram program stage isLast upstream = (do
      let streams ← openStreams stage isLast
      let output ← connectOutput streams.2
      let input ← inlet upstream
      match ← launch program stage input output.1 streams.1 with
      | some process =>
        release upstream
        pure (.started process output.2)
      | none =>
        release upstream
        release (.ofPipe output.2)
        pure .unstarted) := by
  rw [beginProgram, openStreams, bind_assoc]
  refine bind_congr fun first => ?_
  rw [bind_assoc]
  refine bind_congr fun stderr => ?_
  cases isLast with
  | false => rfl
  | true =>
    simp only [if_true, bind_assoc]
    rfl

end Action

/-! ## 2. What can come of a stage -/

namespace Stage

open CommandShell.Action

/-- What can come of a stage that begins, with the session after it. -/
inductive Begins (stage : Stage) (isLast : Bool) (upstream : Upstream) (s : Session) :
    Except Failure Beginning → Session → Prop
  /-- It is a built-in command, which was run.  What the stage would have read is drained. -/
  | builtin {b : Builtin} {stderr : Channel} {stdout : Option Channel} {s₁ : Session} {code : Int}
      {job : Job} (hb : Builtin.lookup stage.name stage.args = some b)
      (hopen : (openStreams stage isLast).run.run
        { s with world := s.world.hand upstream .drains } = (.ok (stderr, stdout), s₁))
      (hrun : b.run.run.run
        { session := s₁, stdout := .ofOutput stdout, stderr := .channel stderr } =
          (.ok code, job)) :
      Begins stage isLast upstream s (.ok (.builtin job.stdout.collected)) job.session
  /-- It is one, but its streams cannot be opened. -/
  | builtinUnopened {b : Builtin} {f : Failure} {s₁ : Session}
      (hb : Builtin.lookup stage.name stage.args = some b)
      (hopen : (openStreams stage isLast).run.run
        { s with world := s.world.hand upstream .drains } = (.error f, s₁)) :
      Begins stage isLast upstream s (.error f) s₁
  /-- It is one, which fails. -/
  | builtinFailed {b : Builtin} {stderr : Channel} {stdout : Option Channel} {s₁ : Session}
      {f : Failure} {job : Job} (hb : Builtin.lookup stage.name stage.args = some b)
      (hopen : (openStreams stage isLast).run.run
        { s with world := s.world.hand upstream .drains } = (.ok (stderr, stdout), s₁))
      (hrun : b.run.run.run
        { session := s₁, stdout := .ofOutput stdout, stderr := .channel stderr } =
          (.error f, job)) :
      Begins stage isLast upstream s (.error f) job.session
  /-- There is no such command, and that is reported. -/
  | missing {stderr : Channel} {stdout : Option Channel} {s₁ s₂ : Session}
      (hb : Builtin.lookup stage.name stage.args = none)
      (hresolve : (s.resolve stage.name).1 = none)
      (hopen : (openStreams stage false).run.run
        { (s.resolve stage.name).2 with world := s.world.hand upstream .nobody } =
          (.ok (stderr, stdout), s₁))
      (hreport : (reportMissing stage.name stderr).run.run s₁ = (.ok ⟨⟩, s₂)) :
      Begins stage isLast upstream s (.ok .missing) s₂
  /-- There is no such command, and the stream for saying so cannot be opened. -/
  | missingUnopened {f : Failure} {s₁ : Session}
      (hb : Builtin.lookup stage.name stage.args = none)
      (hresolve : (s.resolve stage.name).1 = none)
      (hopen : (openStreams stage false).run.run
        { (s.resolve stage.name).2 with world := s.world.hand upstream .nobody } = (.error f, s₁)) :
      Begins stage isLast upstream s (.error f) s₁
  /-- There is no such command, and that cannot be said. -/
  | missingUnreported {stderr : Channel} {stdout : Option Channel} {f : Failure} {s₁ s₂ : Session}
      (hb : Builtin.lookup stage.name stage.args = none)
      (hresolve : (s.resolve stage.name).1 = none)
      (hopen : (openStreams stage false).run.run
        { (s.resolve stage.name).2 with world := s.world.hand upstream .nobody } =
          (.ok (stderr, stdout), s₁))
      (hreport : (reportMissing stage.name stderr).run.run s₁ = (.error f, s₂)) :
      Begins stage isLast upstream s (.error f) s₂
  /-- It is a program, whose streams cannot be opened. -/
  | programUnopened {program : String} {f : Failure} {s₁ : Session}
      (hb : Builtin.lookup stage.name stage.args = none)
      (hresolve : (s.resolve stage.name).1 = some program)
      (hopen : (openStreams stage isLast).run.run (s.resolve stage.name).2 = (.error f, s₁)) :
      Begins stage isLast upstream s (.error f)
        { s₁ with world := s₁.world.hand upstream .nobody }
  /-- It is a program, which was started. -/
  | started {program : String} {stderr output input : Channel} {stdout : Option Channel}
      {s₁ : Session} {pipe : Option Nat} {process : Nat} {w₁ w₂ w₃ : World}
      (hb : Builtin.lookup stage.name stage.args = none)
      (hresolve : (s.resolve stage.name).1 = some program)
      (hopen : (openStreams stage isLast).run.run (s.resolve stage.name).2 =
        (.ok (stderr, stdout), s₁))
      (houtput : s₁.world.outlet stdout = (output, pipe, w₁))
      (hinput : w₁.inlet upstream = (input, w₂))
      (hlaunch : w₂.launch (launchOf s₁.env program stage input output stderr) =
        some (process, w₃)) :
      Begins stage isLast upstream s (.ok (.started process pipe))
        { s₁ with world := w₃.hand upstream .nobody }
  /-- It is a program, which could not be started. -/
  | unstarted {program : String} {stderr output input : Channel} {stdout : Option Channel}
      {s₁ : Session} {pipe : Option Nat} {w₁ w₂ : World}
      (hb : Builtin.lookup stage.name stage.args = none)
      (hresolve : (s.resolve stage.name).1 = some program)
      (hopen : (openStreams stage isLast).run.run (s.resolve stage.name).2 =
        (.ok (stderr, stdout), s₁))
      (houtput : s₁.world.outlet stdout = (output, pipe, w₁))
      (hinput : w₁.inlet upstream = (input, w₂))
      (hlaunch : w₂.launch (launchOf s₁.env program stage input output stderr) = none) :
      Begins stage isLast upstream s (.ok .unstarted)
        { s₁ with world := (w₂.hand upstream .nobody).hand (.ofPipe pipe) .nobody }

/-- Reporting a command that does not exist opens the error stream only. -/
theorem reportMissing_bind {α : Type} (stage : Stage) (a : α) : (do
      let first ← takeNumbers
      reportMissing stage.name (← openOutlet first .stderr stage.stderr)
      pure a) = (do
      let streams ← openStreams stage false
      reportMissing stage.name streams.1
      pure a : Action α) := by
  simp [openStreams]

/-- **How a stage begins.** -/
theorem begins (stage : Stage) (isLast : Bool) (upstream : Upstream) (s : Session) :
    Begins stage isLast upstream s ((beginStage stage isLast upstream).run.run s).1
      ((beginStage stage isLast upstream).run.run s).2 := by
  rw [beginStage]
  split
  next b hb =>
    simp only [run_bind, run_drain, beginBuiltin_eq]
    rcases hopen : (openStreams stage isLast).run.run
      { s with world := s.world.hand upstream .drains } with ⟨f | ⟨stderr, stdout⟩, s₁⟩
    · exact .builtinUnopened hb hopen
    · simp only [run_runBuiltin]
      rcases hrun : b.run.run.run
        { session := s₁, stdout := .ofOutput stdout, stderr := .channel stderr } with
        ⟨f | code, job⟩
      · exact .builtinFailed hb hopen hrun
      · exact .builtin hb hopen hrun
  next hb =>
    rw [run_bind, run_resolve]
    cases hresolve : (s.resolve stage.name).1 with
    | none =>
      simp only
      rw [run_bind, run_release, reportMissing_bind]
      simp only [run_bind]
      rcases hopen : (openStreams stage false).run.run { (s.resolve stage.name).2 with
        world := (s.resolve stage.name).2.world.hand upstream .nobody } with
        ⟨f | ⟨stderr, stdout⟩, s₁⟩
      · exact .missingUnopened hb hresolve hopen
      · rcases hreport : (reportMissing stage.name stderr).run.run s₁ with ⟨f | _, s₂⟩
        · simp only [hreport]
          exact .missingUnreported hb hresolve hopen hreport
        · simp only [hreport, run_pure]
          exact .missing hb hresolve hopen hreport
    | some program =>
      simp only
      simp only [run_tryCatch, beginProgram_eq, run_bind]
      rcases hopen : (openStreams stage isLast).run.run (s.resolve stage.name).2 with
        ⟨f | ⟨stderr, stdout⟩, s₁⟩
      · simp only [run_release, run_throw]
        exact .programUnopened hb hresolve hopen
      · rcases houtput : s₁.world.outlet stdout with ⟨output, pipe, w₁⟩
        rcases hinput : w₁.inlet upstream with ⟨input, w₂⟩
        simp only [run_connectOutput, houtput, run_inlet, hinput, run_launch]
        rcases hlaunch : w₂.launch (launchOf s₁.env program stage input output stderr) with
          _ | ⟨process, w₃⟩
        · simp only [run_bind, run_release, run_pure]
          exact .unstarted hb hresolve hopen houtput hinput hlaunch
        · simp only [run_bind, run_release, run_pure]
          exact .started hb hresolve hopen houtput hinput hlaunch

end Stage

/-! ## 3. What that changes -/

namespace Stage

open CommandShell.Action

/-- Which streams are opened for a stage, and in which order. -/
inductive Opens (stage : Stage) (s : Session) : Bool → Channel → Option Channel → World → Prop
  /-- Of the last stage both, the error stream first. -/
  | last {stderr stdout : Channel} {w₁ w₂ : World}
      (herror : { s.world with nextFile := s.world.nextFile + 2 }.openOutlet s.env.directory
        s.world.nextFile .stderr stage.stderr = .ok (stderr, w₁))
      (houtput : w₁.openOutlet s.env.directory s.world.nextFile .stdout stage.stdout =
        .ok (stdout, w₂)) : Opens stage s true stderr (some stdout) w₂
  /-- Of any other one the error stream only. -/
  | other {stderr : Channel} {w₁ : World}
      (herror : { s.world with nextFile := s.world.nextFile + 2 }.openOutlet s.env.directory
        s.world.nextFile .stderr stage.stderr = .ok (stderr, w₁)) :
      Opens stage s false stderr none w₁

variable {stage : Stage} {isLast : Bool} {upstream : Upstream} {s s' : Session}
  {result : Except Failure Beginning}

/-- **What opening the streams of a stage does.** -/
theorem opens_of_openStreams {stderr : Channel} {stdout : Option Channel}
    (h : (openStreams stage isLast).run.run s = (.ok (stderr, stdout), s')) :
    s' = { s with world := s'.world } ∧ stage.Opens s isLast stderr stdout s'.world := by
  simp only [openStreams, run_bind, run_takeNumbers, run_openOutlet] at h
  rcases herror : { s.world with nextFile := s.world.nextFile + 2 }.openOutlet s.env.directory
    s.world.nextFile .stderr stage.stderr with f | ⟨c, w₁⟩
  · simp only [herror] at h
    cases (Prod.mk.inj h).1
  · simp only [herror] at h
    cases isLast with
    | false =>
      obtain ⟨hr, rfl⟩ := Prod.mk.inj h
      obtain ⟨rfl, rfl⟩ := Prod.mk.inj (Except.ok.inj hr)
      exact ⟨rfl, .other herror⟩
    | true =>
      simp only [if_true, run_bind, run_openOutlet] at h
      rcases houtput : w₁.openOutlet s.env.directory s.world.nextFile .stdout stage.stdout with
        f | ⟨c', w₂⟩
      · simp only [houtput] at h
        cases (Prod.mk.inj h).1
      · simp only [houtput] at h
        obtain ⟨hr, rfl⟩ := Prod.mk.inj h
        obtain ⟨rfl, rfl⟩ := Prod.mk.inj (Except.ok.inj hr)
        exact ⟨rfl, .last herror houtput⟩

end Stage

/-- Nothing happens to the environment, to processes and to pipes. -/
structure Session.Quiet (s s' : Session) : Prop where
  env : s'.env = s.env
  world : s.world.Quiet s'.world

theorem Session.Quiet.trans {s s' s'' : Session} (h : s.Quiet s') (h' : s'.Quiet s'') :
    s.Quiet s'' := ⟨h'.env.trans h.env, h.world.trans h'.world⟩

namespace Action

theorem quiet_openOutlet (first : Nat) (stream : Stream) (redirection : Option Redirection)
    (s : Session) : s.Quiet ((openOutlet first stream redirection).run.run s).2 := by
  rw [run_openOutlet]
  split
  next h => exact ⟨rfl, (World.quiet_of_openOutlet h).1⟩
  next => exact ⟨rfl, .refl s.world⟩

/-- Opening the streams of a stage is quiet, also when they cannot be opened. -/
theorem quiet_openStreams (stage : Stage) (isLast : Bool) (s : Session) :
    s.Quiet ((openStreams stage isLast).run.run s).2 := by
  refine related_bind .trans ⟨rfl, rfl, rfl, rfl⟩ fun first s₁ _ =>
    related_bind .trans (quiet_openOutlet _ _ _ s₁) fun stderr s₂ _ => ?_
  cases isLast with
  | false => exact ⟨rfl, .refl s₂.world⟩
  | true =>
    exact related_bind .trans (quiet_openOutlet _ _ _ s₂) fun _ s₃ _ => ⟨rfl, .refl s₃.world⟩

theorem quiet_reportMissing (name : String) {stderr : Channel} (hend : stderr.pipe? = none)
    (s : Session) : s.Quiet ((reportMissing name stderr).run.run s).2 := by
  rw [run_reportMissing]
  split
  next hw => exact ⟨rfl, Sink.quiet_of_write hw hend⟩
  next => exact ⟨rfl, .refl s.world⟩

end Action

/-- Whether a command writes to no pipe. -/
def Job.AvoidsPipes (job : Job) : Prop := ∀ stream, (job.sink stream).pipe? = none

namespace Builtin

variable {job job' : Job}

theorem Change.quiet {bytes : Bytes} (hc : Change job bytes job') (h : job.AvoidsPipes) :
    job.session.world.Quiet job'.session.world ∧ job'.AvoidsPipes := by
  cases hc with
  | @printed stream bytes sink world hw =>
    have hsink : sink.pipe? = none := by
      rw [Sink.eq_of_write hw, ← h stream]
      cases job.sink stream <;> rfl
    cases stream with
    | stdout =>
      refine ⟨Sink.quiet_of_write hw (h .stdout), fun stream => ?_⟩
      cases stream with
      | stdout => exact hsink
      | stderr => exact h .stderr
    | stderr =>
      refine ⟨Sink.quiet_of_write hw (h .stderr), fun stream => ?_⟩
      cases stream with
      | stdout => exact h .stdout
      | stderr => exact hsink
  | _ =>
    exact ⟨⟨rfl, rfl, rfl⟩, fun stream => by cases stream <;> [exact h .stdout; exact h .stderr]⟩

/-- **A built-in command is quiet** if it writes to no pipe. -/
theorem quiet_run (b : Builtin) (h : job.AvoidsPipes) :
    job.session.world.Quiet (b.run.run.run job).2.session.world :=
  ((reaches_run b job).keeps (P := fun job' =>
    job.session.world.Quiet job'.session.world ∧ job'.AvoidsPipes)
    (fun hc ⟨hquiet, havoids⟩ => ((hc.quiet havoids).imp_left hquiet.trans))
    ⟨.refl _, h⟩).1

theorem Change.stdout {bytes : Bytes} (hc : Change job bytes job') :
    job'.stdout = job.stdout.plus bytes := by
  cases hc with
  | @printed stream bytes sink world hw =>
    cases stream with
    | stdout => exact Sink.eq_of_write hw
    | stderr => exact (Sink.plus_nil _).symm
  | _ => exact (Sink.plus_nil _).symm

/-- **What a built-in command writes is in its output**, and nothing else. -/
theorem Writes.stdout {written : Bytes} (h : Writes job written job') :
    job'.stdout = job.stdout.plus written := by
  induction h with
  | refl => exact (Sink.plus_nil _).symm
  | tail _ hc ih => rw [hc.stdout, ih, Sink.plus_plus]

end Builtin

/-! ## 4. The machine after a stage began -/

namespace World

variable {w w' : World}

@[simp] theorem processes_hand (w : World) (upstream : Upstream) (holder : PipeHolder) :
    (w.hand upstream holder).processes = w.processes := by
  cases upstream <;> rfl

@[simp] theorem processes_outlet (w : World) (stdout : Option Channel) :
    (w.outlet stdout).2.2.processes = w.processes := by
  cases stdout <;> rfl

@[simp] theorem processes_inlet (w : World) (upstream : Upstream) :
    (w.inlet upstream).2.processes = w.processes := by
  cases upstream <;> rfl

theorem processes_of_inlet {stdout : Option Channel} {output input : Channel} {pipe : Option Nat}
    {upstream : Upstream} {w₁ w₂ : World} (houtput : w.outlet stdout = (output, pipe, w₁))
    (hinput : w₁.inlet upstream = (input, w₂)) : w₂.processes = w.processes := by
  have houtput' := processes_outlet w stdout
  have hinput' := processes_inlet w₁ upstream
  rw [houtput] at houtput'
  rw [hinput] at hinput'
  exact hinput'.trans houtput'

/-- Starting a program makes one process, with three channels. -/
theorem exists_of_launch {l : Launch} {process : Nat} (h : w.launch l = some (process, w')) :
    process = w.processes.length ∧ ∃ p : Process, p.isRunning = true ∧
      p.descriptors = [(0, l.stdin), (1, l.stdout), (2, l.stderr)] ∧
      w' = { w with processes := w.processes ++ [p] } := by
  obtain ⟨p, hp, heq⟩ := Option.map_eq_some_iff.mp h
  obtain ⟨rfl, rfl⟩ := Prod.mk.inj heq
  refine ⟨rfl, p, ?_⟩
  simp only [process?] at hp
  repeat' split at hp
  all_goals cases hp
  exact ⟨rfl, rfl, rfl⟩

end World

namespace Stage

open CommandShell.Action

variable {stage : Stage} {isLast : Bool} {upstream : Upstream} {s s' : Session}
  {result : Except Failure Beginning}

theorem Opens.pipe?_eq_none {stderr : Channel} {stdout : Option Channel} {w : World}
    (h : stage.Opens s isLast stderr stdout w) :
    stderr.pipe? = none ∧ (Sink.ofOutput stdout).pipe? = none := by
  cases h with
  | last herror houtput =>
    exact ⟨(World.quiet_of_openOutlet herror).2, (World.quiet_of_openOutlet houtput).2⟩
  | other herror => exact ⟨(World.quiet_of_openOutlet herror).2, rfl⟩

theorem quiet_of_openStreams {r : Except Failure (Channel × Option Channel)}
    (h : (openStreams stage isLast).run.run s = (r, s')) : s.Quiet s' := by
  have hquiet := quiet_openStreams stage isLast s
  rwa [h] at hquiet

theorem quiet_of_run {b : Builtin} {stderr : Channel} {stdout : Option Channel} {s₁ : Session}
    {r : Except Failure Int} {job : Job}
    (hopen : (openStreams stage isLast).run.run s = (.ok (stderr, stdout), s₁))
    (hrun : b.run.run.run
      { session := s₁, stdout := .ofOutput stdout, stderr := .channel stderr } = (r, job)) :
    s.world.Quiet job.session.world := by
  obtain ⟨herror, houtput⟩ := (opens_of_openStreams hopen).2.pipe?_eq_none
  have havoids : Job.AvoidsPipes
      { session := s₁, stdout := .ofOutput stdout, stderr := .channel stderr } := fun stream => by
    cases stream
    · exact houtput
    · exact herror
  have hb := Builtin.quiet_run b havoids
  rw [hrun] at hb
  exact (quiet_of_openStreams hopen).world.trans hb

theorem quiet_of_reportMissing {stderr : Channel} {stdout : Option Channel} {s₁ : Session}
    {r : Except Failure Unit} (hopen : (openStreams stage isLast).run.run s =
      (.ok (stderr, stdout), s₁))
    (hreport : (reportMissing stage.name stderr).run.run s₁ = (r, s')) : s.Quiet s' := by
  have hquiet := quiet_reportMissing stage.name (opens_of_openStreams hopen).2.pipe?_eq_none.1 s₁
  rw [hreport] at hquiet
  exact (quiet_of_openStreams hopen).trans hquiet

/-- **A stage starts at most one process**, and only a stage that turns out to be a program which
was started does. -/
theorem Begins.processes (h : stage.Begins isLast upstream s result s') :
    (∃ pipe p, result = .ok (.started s.world.processes.length pipe) ∧
      s'.world.processes = s.world.processes ++ [p]) ∨
    (∀ process pipe, result ≠ .ok (.started process pipe)) ∧
      s'.world.processes = s.world.processes := by
  cases h with
  | builtin hb hopen hrun | builtinFailed hb hopen hrun =>
    exact .inr ⟨nofun, by simpa using (quiet_of_run hopen hrun).processes⟩
  | builtinUnopened hb hopen | missingUnopened hb hresolve hopen =>
    exact .inr ⟨nofun, by simpa using (quiet_of_openStreams hopen).world.processes⟩
  | missing hb hresolve hopen hreport | missingUnreported hb hresolve hopen hreport =>
    exact .inr ⟨nofun, by simpa using (quiet_of_reportMissing hopen hreport).world.processes⟩
  | programUnopened hb hresolve hopen =>
    refine .inr ⟨nofun, ?_⟩
    rw [World.processes_hand]
    exact (quiet_of_openStreams hopen).world.processes
  | @started program stderr output input stdout s₁ pipe process w₁ w₂ w₃ hb hresolve hopen houtput
      hinput hlaunch =>
    obtain ⟨rfl, p, -, -, rfl⟩ := World.exists_of_launch hlaunch
    have hprocesses : w₂.processes = s.world.processes :=
      (World.processes_of_inlet houtput hinput).trans (quiet_of_openStreams hopen).world.processes
    refine .inl ⟨pipe, p, by rw [hprocesses], ?_⟩
    rw [World.processes_hand]
    simp only [hprocesses]
  | @unstarted program stderr output input stdout s₁ pipe w₁ w₂ hb hresolve hopen houtput hinput
      hlaunch =>
    refine .inr ⟨nofun, ?_⟩
    rw [World.processes_hand, World.processes_hand]
    exact (World.processes_of_inlet houtput hinput).trans
      (quiet_of_openStreams hopen).world.processes

theorem Begins.hasEnded (h : stage.Begins isLast upstream s result s') {process : Nat}
    (he : s.world.hasEnded process = true) : s'.world.hasEnded process = true := by
  have hsome : ∃ status, s.world.statusOf? process = some status := Option.isSome_iff_exists.mp he
  rcases h.processes with ⟨_, p, -, hprocesses⟩ | ⟨-, hprocesses⟩
  · have hlt : process < s.world.processes.length := by
      by_contra hge
      obtain ⟨status, hstatus⟩ := hsome
      simp [World.statusOf?, List.getElem?_eq_none (Nat.le_of_not_lt hge)] at hstatus
    rw [World.hasEnded, World.statusOf?, hprocesses, List.getElem?_append_left hlt]
    exact he
  · rw [World.hasEnded, World.statusOf?, hprocesses]
    exact he

/-- **What a stage does to the session** when it begins. -/
theorem Begins.reaches (h : stage.Begins isLast upstream s result s') : s.Reaches s' := by
  have hopened : ∀ {s s₁ : Session} {isLast} {r : Except Failure (Channel × Option Channel)},
      (openStreams stage isLast).run.run s = (r, s₁) → s.Reaches s₁ := fun hopen =>
    Session.reaches_of_env (quiet_of_openStreams hopen).env
  have hresolved : ∀ w, s.Reaches { (s.resolve stage.name).2 with world := w } := fun w =>
    .tail (.single (.resolved stage.name)) (.machine w)
  cases h with
  | @builtin b stderr stdout s₁ code job hb hopen hrun
  | @builtinFailed b stderr stdout s₁ f job hb hopen hrun =>
    have hrun' := Session.reaches_run b
      { session := s₁, stdout := .ofOutput stdout, stderr := .channel stderr }
    rw [hrun] at hrun'
    exact (Relation.ReflTransGen.single (.machine _)).trans ((hopened hopen).trans hrun')
  | builtinUnopened hb hopen =>
    exact (Relation.ReflTransGen.single (.machine _)).trans (hopened hopen)
  | missing hb hresolve hopen hreport | missingUnreported hb hresolve hopen hreport =>
    exact (hresolved _).trans (Session.reaches_of_env (quiet_of_reportMissing hopen hreport).env)
  | missingUnopened hb hresolve hopen => exact (hresolved _).trans (hopened hopen)
  | programUnopened hb hresolve hopen | started hb hresolve hopen | unstarted hb hresolve hopen =>
    exact (hresolved _).trans ((hopened hopen).tail (.machine _))

end Stage
end CommandShell
