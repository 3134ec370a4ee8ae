/-
# How a line is run

A line asks for nothing, for a single command, or for a pipeline.  A single command begins much as
a stage of a pipeline does, but it has the terminal to itself: `Stage.BeginsAlone` lists what can
come of it, with the session after it.  `Session.Executes` lists what can come of a line when the
machine comes to an end, and `Session.executes_of_execute` says that nothing else does.

A single command does to its session what any line may do (`BeginsAlone.reaches`), and it starts at
most one process, which has no end of a pipe (`BeginsAlone.world`).
-/
import CommandShell.Proofs.Beginning

namespace CommandShell

/-! ## 1. The streams of a single command -/

namespace Action

/-- Opens the targets of both streams, that of the output first. -/
def openBoth (stage : Stage) : Action (Channel × Channel) := do
  let first ← takeNumbers
  let stdout ← openOutlet first .stdout stage.stdout
  let stderr ← openOutlet first .stderr stage.stderr
  pure (stdout, stderr)

theorem openBoth_bind {α : Type} (stage : Stage) (f : Channel → Channel → Action α) : (do
      let first ← takeNumbers
      let stdout ← openOutlet first .stdout stage.stdout
      let stderr ← openOutlet first .stderr stage.stderr
      f stdout stderr) = (do
      let streams ← openBoth stage
      f streams.1 streams.2) := by
  simp [openBoth]

theorem pipe?_of_openOutlet {first : Nat} {stream : Stream} {redirection : Option Redirection}
    {s s' : Session} {c : Channel}
    (h : (openOutlet first stream redirection).run.run s = (.ok c, s')) : c.pipe? = none := by
  rw [run_openOutlet] at h
  split at h
  next hopen =>
    obtain rfl := Except.ok.inj (Prod.mk.inj h).1
    exact (World.quiet_of_openOutlet hopen).2
  next => cases (Prod.mk.inj h).1

theorem quiet_of_openBoth {stage : Stage} {s s' : Session}
    {r : Except Failure (Channel × Channel)} (h : (openBoth stage).run.run s = (r, s')) :
    s.Quiet s' := by
  have hquiet : s.Quiet ((openBoth stage).run.run s).2 :=
    related_bind .trans ⟨rfl, rfl, rfl, rfl⟩ fun _ s₁ _ =>
      related_bind .trans (quiet_openOutlet _ _ _ s₁) fun _ s₂ _ =>
        related_bind .trans (quiet_openOutlet _ _ _ s₂) fun _ s₃ _ => ⟨rfl, .refl s₃.world⟩
  rwa [h] at hquiet

theorem pipe?_of_openBoth {stage : Stage} {s s' : Session} {stdout stderr : Channel}
    (h : (openBoth stage).run.run s = (.ok (stdout, stderr), s')) :
    stdout.pipe? = none ∧ stderr.pipe? = none := by
  simp only [openBoth, run_bind, run_takeNumbers] at h
  split at h
  next hout =>
    split at h
    next herr =>
      obtain ⟨rfl, rfl⟩ := Prod.mk.inj (Except.ok.inj (Prod.mk.inj h).1)
      exact ⟨pipe?_of_openOutlet hout, pipe?_of_openOutlet herr⟩
    next => cases (Prod.mk.inj h).1
  next => cases (Prod.mk.inj h).1

end Action

/-! ## 2. What can come of a single command -/

namespace Stage

open CommandShell.Action

variable {stage : Stage} {s s' : Session} {result : Except Failure (Option Nat)}

/-- What can come of a single command that begins, with the session after it. -/
inductive BeginsAlone (stage : Stage) (s : Session) : Except Failure (Option Nat) → Session → Prop
  /-- It is a built-in command, which was run. -/
  | builtin {b : Builtin} {stdout stderr : Channel} {s₁ : Session} {code : Int} {job : Job}
      (hb : Builtin.lookup stage.name stage.args = some b)
      (hopen : (openBoth stage).run.run s = (.ok (stdout, stderr), s₁))
      (hrun : b.run.run.run
        { session := s₁, stdout := .channel stdout, stderr := .channel stderr } = (.ok code, job)) :
      BeginsAlone stage s (.ok none) job.session
  /-- It is one, but its streams cannot be opened. -/
  | builtinUnopened {b : Builtin} {f : Failure} {s₁ : Session}
      (hb : Builtin.lookup stage.name stage.args = some b)
      (hopen : (openBoth stage).run.run s = (.error f, s₁)) : BeginsAlone stage s (.error f) s₁
  /-- It is one, which fails. -/
  | builtinFailed {b : Builtin} {stdout stderr : Channel} {s₁ : Session} {f : Failure} {job : Job}
      (hb : Builtin.lookup stage.name stage.args = some b)
      (hopen : (openBoth stage).run.run s = (.ok (stdout, stderr), s₁))
      (hrun : b.run.run.run
        { session := s₁, stdout := .channel stdout, stderr := .channel stderr } = (.error f, job)) :
      BeginsAlone stage s (.error f) job.session
  /-- There is no such command, and that is reported. -/
  | missing {stderr : Channel} {stdout : Option Channel} {s₁ s₂ : Session}
      (hb : Builtin.lookup stage.name stage.args = none)
      (hresolve : (s.resolve stage.name).1 = none)
      (hopen : (openStreams stage false).run.run (s.resolve stage.name).2 =
        (.ok (stderr, stdout), s₁))
      (hreport : (reportMissing stage.name stderr).run.run s₁ = (.ok ⟨⟩, s₂)) :
      BeginsAlone stage s (.ok none) s₂
  /-- There is no such command, and the stream for saying so cannot be opened. -/
  | missingUnopened {f : Failure} {s₁ : Session}
      (hb : Builtin.lookup stage.name stage.args = none)
      (hresolve : (s.resolve stage.name).1 = none)
      (hopen : (openStreams stage false).run.run (s.resolve stage.name).2 = (.error f, s₁)) :
      BeginsAlone stage s (.error f) s₁
  /-- There is no such command, and that cannot be said. -/
  | missingUnreported {stderr : Channel} {stdout : Option Channel} {f : Failure} {s₁ s₂ : Session}
      (hb : Builtin.lookup stage.name stage.args = none)
      (hresolve : (s.resolve stage.name).1 = none)
      (hopen : (openStreams stage false).run.run (s.resolve stage.name).2 =
        (.ok (stderr, stdout), s₁))
      (hreport : (reportMissing stage.name stderr).run.run s₁ = (.error f, s₂)) :
      BeginsAlone stage s (.error f) s₂
  /-- It is a program, whose streams cannot be opened. -/
  | programUnopened {program : String} {f : Failure} {s₁ : Session}
      (hb : Builtin.lookup stage.name stage.args = none)
      (hresolve : (s.resolve stage.name).1 = some program)
      (hopen : (openBoth stage).run.run (s.resolve stage.name).2 = (.error f, s₁)) :
      BeginsAlone stage s (.error f) s₁
  /-- It is a program, which was started. -/
  | started {program : String} {stdout stderr : Channel} {s₁ : Session} {process : Nat} {w : World}
      (hb : Builtin.lookup stage.name stage.args = none)
      (hresolve : (s.resolve stage.name).1 = some program)
      (hopen : (openBoth stage).run.run (s.resolve stage.name).2 = (.ok (stdout, stderr), s₁))
      (hlaunch : s₁.world.launch (launchOf s₁.env program stage .terminalInput stdout stderr) =
        some (process, w)) : BeginsAlone stage s (.ok (some process)) { s₁ with world := w }
  /-- It is a program, which could not be started. -/
  | unstarted {program : String} {stdout stderr : Channel} {s₁ : Session}
      (hb : Builtin.lookup stage.name stage.args = none)
      (hresolve : (s.resolve stage.name).1 = some program)
      (hopen : (openBoth stage).run.run (s.resolve stage.name).2 = (.ok (stdout, stderr), s₁))
      (hlaunch : s₁.world.launch (launchOf s₁.env program stage .terminalInput stdout stderr) =
        none) : BeginsAlone stage s (.ok none) s₁

/-- **How a single command begins.** -/
theorem beginsAlone (stage : Stage) (s : Session) :
    BeginsAlone stage s ((beginSingle stage).run.run s).1 ((beginSingle stage).run.run s).2 := by
  rw [beginSingle]
  split
  next b hb =>
    rw [openBoth_bind, run_bind]
    rcases hopen : (openBoth stage).run.run s with ⟨f | ⟨stdout, stderr⟩, s₁⟩
    · exact .builtinUnopened hb hopen
    · simp only [run_bind, run_runBuiltin]
      rcases hrun : b.run.run.run
        { session := s₁, stdout := .channel stdout, stderr := .channel stderr } with ⟨f | code, job⟩
      · exact .builtinFailed hb hopen hrun
      · exact .builtin hb hopen hrun
  next hb =>
    rw [run_bind, run_resolve]
    cases hresolve : (s.resolve stage.name).1 with
    | none =>
      simp only
      rw [reportMissing_bind, run_bind]
      rcases hopen : (openStreams stage false).run.run (s.resolve stage.name).2 with
        ⟨f | ⟨stderr, stdout⟩, s₁⟩
      · exact .missingUnopened hb hresolve hopen
      · simp only [run_bind]
        rcases hreport : (reportMissing stage.name stderr).run.run s₁ with ⟨f | _, s₂⟩
        · exact .missingUnreported hb hresolve hopen hreport
        · exact .missing hb hresolve hopen hreport
    | some program =>
      simp only
      rw [openBoth_bind, run_bind]
      rcases hopen : (openBoth stage).run.run (s.resolve stage.name).2 with
        ⟨f | ⟨stdout, stderr⟩, s₁⟩
      · exact .programUnopened hb hresolve hopen
      · simp only [run_launch]
        rcases hlaunch : s₁.world.launch (launchOf s₁.env program stage .terminalInput stdout
          stderr) with _ | ⟨process, w⟩
        · exact .unstarted hb hresolve hopen hlaunch
        · exact .started hb hresolve hopen hlaunch

/-- A built-in command that has the terminal to itself is quiet. -/
theorem quiet_of_runAlone {b : Builtin} {stdout stderr : Channel} {s₁ : Session}
    {r : Except Failure Int} {job : Job}
    (hopen : (openBoth stage).run.run s = (.ok (stdout, stderr), s₁))
    (hrun : b.run.run.run
      { session := s₁, stdout := .channel stdout, stderr := .channel stderr } = (r, job)) :
    s.world.Quiet job.session.world := by
  obtain ⟨hout, herr⟩ := pipe?_of_openBoth hopen
  have havoids : Job.AvoidsPipes ⟨s₁, .channel stdout, .channel stderr⟩ := fun stream => by
    cases stream
    · exact hout
    · exact herr
  have hquiet := Builtin.quiet_run b havoids
  rw [hrun] at hquiet
  exact (quiet_of_openBoth hopen).world.trans hquiet

namespace BeginsAlone

/-- **What a single command does to the session** when it begins. -/
theorem reaches (h : stage.BeginsAlone s result s') : s.Reaches s' := by
  have hopened : ∀ {s s₁ : Session} {r : Except Failure (Channel × Channel)},
      (openBoth stage).run.run s = (r, s₁) → s.Reaches s₁ := fun hopen =>
    Session.reaches_of_env (quiet_of_openBoth hopen).env
  have hresolved : s.Reaches (s.resolve stage.name).2 := .single (.resolved stage.name)
  cases h with
  | @builtin b stdout stderr s₁ code job hb hopen hrun
  | @builtinFailed b stdout stderr s₁ f job hb hopen hrun =>
    have hrun' := Session.reaches_run b
      { session := s₁, stdout := .channel stdout, stderr := .channel stderr }
    rw [hrun] at hrun'
    exact (hopened hopen).trans hrun'
  | builtinUnopened hb hopen => exact hopened hopen
  | missing hb hresolve hopen hreport | missingUnreported hb hresolve hopen hreport =>
    exact hresolved.trans (Session.reaches_of_env (quiet_of_reportMissing hopen hreport).env)
  | missingUnopened hb hresolve hopen =>
    exact hresolved.trans (Session.reaches_of_env (quiet_of_openStreams hopen).env)
  | programUnopened hb hresolve hopen | unstarted hb hresolve hopen =>
    exact hresolved.trans (hopened hopen)
  | started hb hresolve hopen => exact (hresolved.trans (hopened hopen)).tail (.machine _)

/-- **What a single command does to the machine** when it begins: nothing to processes and pipes,
but that a program is a new process, which has no end of a pipe. -/
theorem world (h : stage.BeginsAlone s result s') :
    s.world.Quiet s'.world ∨ ∃ w p, s.world.Quiet w ∧ (∀ c ∈ p.channels, c.pipe? = none) ∧
      s'.world = { w with processes := w.processes ++ [p] } := by
  cases h with
  | builtin hb hopen hrun | builtinFailed hb hopen hrun =>
    exact .inl (quiet_of_runAlone hopen hrun)
  | builtinUnopened hb hopen => exact .inl (quiet_of_openBoth hopen).world
  | missing hb hresolve hopen hreport | missingUnreported hb hresolve hopen hreport =>
    exact .inl (quiet_of_reportMissing hopen hreport).world
  | missingUnopened hb hresolve hopen => exact .inl (quiet_of_openStreams hopen).world
  | programUnopened hb hresolve hopen | unstarted hb hresolve hopen =>
    exact .inl (quiet_of_openBoth hopen).world
  | @started program stdout stderr s₁ process w hb hresolve hopen hlaunch =>
    obtain ⟨hout, herr⟩ := pipe?_of_openBoth hopen
    obtain ⟨-, p, -, hp, rfl⟩ := World.exists_of_launch hlaunch
    refine .inr ⟨s₁.world, p, (quiet_of_openBoth hopen).world, fun c hc => ?_, rfl⟩
    simp only [Process.channels, hp, launchOf, List.map_cons, List.map_nil, List.mem_cons,
      List.not_mem_nil, or_false] at hc
    rcases hc with rfl | rfl | rfl
    · rfl
    · exact hout
    · exact herr

end BeginsAlone
end Stage

/-! ## 3. What can come of a line -/

namespace Session

variable {patience : Nat} {line : Line} {s s' : Session} {result : Except Failure Unit}

/-- What can come of a line, with the session after it. -/
inductive Executes (patience : Nat) (s : Session) :
    Line → Except Failure Unit → Session → Prop
  /-- It asks for nothing. -/
  | nothing {stage : Stage} (h : stage.isEmpty = true) :
      Executes patience s (.single stage) (.ok ()) s
  /-- Its command fails. -/
  | failed {stage : Stage} {f : Failure} {s₁ : Session}
      (h : stage.BeginsAlone s (.error f) s₁) : Executes patience s (.single stage) (.error f) s₁
  /-- Its command leaves nothing to wait for. -/
  | done {stage : Stage} {s₁ : Session} (h : stage.BeginsAlone s (.ok none) s₁) :
      Executes patience s (.single stage) (.ok ()) s₁
  /-- Its program was waited for. -/
  | waited {stage : Stage} {process : Nat} {s₁ : Session} {w : World}
      (h : stage.BeginsAlone s (.ok (some process)) s₁)
      (hw : s₁.world.waitFor patience process = some w) :
      Executes patience s (.single stage) (.ok ()) { s₁ with world := w }
  /-- It is a pipeline, of which all programs are settled. -/
  | pipeline {stages : List Stage} {result : Except Failure Unit} {s' : Session}
      (h : s.runPipeline patience stages = some (result, s')) :
      Executes patience s (.pipeline stages) result s'

/-- **How a line is run.** -/
theorem executes_of_execute (h : s.execute patience line = some (result, s')) :
    Executes patience s line result s' := by
  cases line with
  | single stage =>
    have hbegins := stage.beginsAlone s
    simp only [execute] at h
    split at h
    next hempty =>
      obtain ⟨rfl, rfl⟩ := Prod.mk.inj (Option.some.inj h)
      exact .nothing hempty
    next =>
      simp only [runSingle] at h
      split at h
      next hr =>
        obtain ⟨rfl, rfl⟩ := Prod.mk.inj (Option.some.inj h)
        rw [hr] at hbegins
        exact .failed hbegins
      next hr =>
        obtain ⟨rfl, rfl⟩ := Prod.mk.inj (Option.some.inj h)
        rw [hr] at hbegins
        exact .done hbegins
      next hr =>
        obtain ⟨w, hwait, heq⟩ := Option.map_eq_some_iff.mp h
        obtain ⟨rfl, rfl⟩ := Prod.mk.inj heq
        rw [hr] at hbegins
        exact .waited hbegins hwait
  | pipeline stages => exact .pipeline h

end Session
end CommandShell
