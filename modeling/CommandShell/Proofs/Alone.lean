/-
# A pipeline of one command

A command alone on its line and the only stage of a pipeline are begun by two different actions,
which open the streams in different orders.  If all targets can be opened, both do the same
(`Stage.begunAsAlone`): the command comes to the same, in the same session, and its program is
started by the same request.  The pipeline then waits for the one process as the command alone does
(`settleAll_of_one`).

So a line comes to the same whether its command is taken for a pipeline or not
(`Session.execute_one_stage`).
-/
import CommandShell.Proofs.InOrder
import CommandShell.Proofs.LikeStages
import CommandShell.Proofs.Openable

namespace CommandShell

open CommandShell.Action

/-- The process to wait for, if the stage has one. -/
def Beginning.process? : Beginning → Option Nat
  | .started process _ => some process
  | _ => none

namespace Stage

variable {stage : Stage} {s : Session} {path : String}

/-! ## 1. What a single command asks of the machine -/

/-- The request that is made for a single command, if it turns out to be a program and its streams
can be opened. -/
def requestAlone? (stage : Stage) (s : Session) : Option Launch :=
  match s.call stage with
  | (.program path, s) =>
    match (openBoth stage).run.run s with
    | (.ok (stdout, stderr), s) => some (launchOf s.env path stage .terminalInput stdout stderr)
    | (.error _, _) => none
  | _ => none

/-- **A program as a single command** is started by its request when its streams are open. -/
theorem run_beginSingle_of_program (hb : Builtin.lookup stage.name stage.args = none)
    (hresolve : (s.resolve stage.name).1 = some path) :
    (beginSingle stage).run.run s = match (openBoth stage).run.run (s.resolve stage.name).2 with
      | (.error f, s) => (.error f, s)
      | (.ok (stdout, stderr), s) =>
        match s.world.launch (launchOf s.env path stage .terminalInput stdout stderr) with
        | some (process, world) => (.ok (some process), { s with world })
        | none => (.ok none, s) := by
  rw [run_beginSingle, call_of_program hb hresolve, Course.alone, run_bind]
  rcases (openBoth stage).run.run (s.resolve stage.name).2 with ⟨f | ⟨stdout, stderr⟩, s₁⟩
  · rfl
  · cases hlaunch : s₁.world.launch (launchOf s₁.env path stage .terminalInput stdout stderr) <;>
      simp only [run_launch, hlaunch]

/-- **A single command that does not exist** is reported. -/
theorem run_beginSingle_of_missing (hb : Builtin.lookup stage.name stage.args = none)
    (hresolve : (s.resolve stage.name).1 = none) :
    (beginSingle stage).run.run s =
      match (openStreams stage false).run.run (s.resolve stage.name).2 with
      | (.error f, s) => (.error f, s)
      | (.ok (stderr, _), s) =>
        match Sink.write s.world (.channel stderr)
          (Text.encode (stage.name ++ ": command not found\n")) with
        | .ok (_, world) => (.ok none, { s with world })
        | .error f => (.error f, s) := by
  rw [run_beginSingle, call_of_missing hb hresolve, Course.alone]
  simp only [run_bind]
  rcases (openStreams stage false).run.run _ with ⟨f | ⟨stderr, stdout⟩, s₁⟩
  · rfl
  · simp only [run_reportMissing]
    rcases Sink.write _ _ _ with f | ⟨sink, world⟩ <;> rfl

/-! ## 2. Beginning -/

/-- **The last stage gets the streams that the command gets alone,** if their targets can be
opened. -/
theorem exists_open (h : ∀ stream r, stage.redirection? stream = some r → s.canOpen r = true) :
    ∃ stdout stderr s', (openStreams stage true).run.run s = (.ok (stderr, some stdout), s') ∧
      (openBoth stage).run.run s = (.ok (stdout, stderr), s') := by
  rcases openStreams_cases stage true s with ⟨f, s', -, hfails⟩ | ⟨stderr, stdout, w, hopen, -⟩
  · have hall : ∀ stream ∈ streamsOf true, ∀ r, stage.redirection? stream = some r →
        s.canOpen r = true := fun stream _ => h stream
    obtain ⟨channels, w, hopened⟩ := Session.exists_openAll hall
    cases hfails.symm.trans hopened
  · have hboth := openBoth_of_openStreams hopen
    obtain ⟨-, hopens⟩ := opens_of_openStreams hopen
    cases stdout with
    | none => cases hopens
    | some stdout => exact ⟨stdout, stderr, _, hopen, hboth⟩

/-- A process that is started for a single command is started by its request. -/
theorem launched_of_beginSingle {process : Nat} {s' : Session}
    (h : (beginSingle stage).run.run s = (.ok (some process), s')) :
    ∃ l, ∃ w : World, stage.requestAlone? s = some l ∧ w.launch l = some (process, s'.world) := by
  have hbegins := stage.beginsAlone s
  rw [h] at hbegins
  cases hbegins with
  | started hb hresolve hopen hlaunch =>
    exact ⟨_, _, by simp only [requestAlone?, call_of_program hb hresolve, hopen], hlaunch⟩

/-- The only stage of a pipeline comes to the same as its command does alone, and asks for the
same. -/
theorem beginStage_as_alone
    (h : ∀ stream r, stage.redirection? stream = some r → s.canOpen r = true) :
    ((beginStage stage true .terminal).run.run s).1.map Beginning.process? =
        ((beginSingle stage).run.run s).1 ∧
      ((beginStage stage true .terminal).run.run s).2 = ((beginSingle stage).run.run s).2 ∧
      stage.request? true .terminal s = stage.requestAlone? s := by
  -- Looking the command up changes nothing that matters for its targets.
  have hresolved : ∀ stream r, stage.redirection? stream = some r →
      (s.resolve stage.name).2.canOpen r = true := fun stream r hr => by
    rw [Session.canOpen_of_keeps rfl (.refl _)]
    exact h stream r hr
  cases hb : Builtin.lookup stage.name stage.args with
  | some b =>
    obtain ⟨stdout, stderr, s', hopen, hboth⟩ := exists_open h
    have hopen' : (openStreams stage true).run.run
        { s with world := s.world.hand .terminal .drains } =
          (.ok (stderr, some stdout), s') := hopen
    rw [run_beginStage_of_builtin hb, run_beginSingle_of_builtin hb, hopen', hboth]
    refine ⟨?_, ?_, by simp only [request?, requestAlone?, call_of_builtin hb]⟩ <;>
    · simp only [Sink.ofOutput]
      rcases b.run.run.run _ with ⟨f | code, job⟩ <;> rfl
  | none =>
    cases hresolve : (s.resolve stage.name).1 with
    | none =>
      have hworld : ({ (s.resolve stage.name).2 with world := s.world.hand .terminal .nobody } :
          Session) = (s.resolve stage.name).2 := rfl
      rw [run_beginStage_of_missing hb hresolve, run_beginSingle_of_missing hb hresolve, hworld]
      refine ⟨?_, ?_, by simp only [request?, requestAlone?, call_of_missing hb hresolve]⟩ <;>
      · rcases (openStreams stage false).run.run _ with ⟨f | ⟨stderr, stdout⟩, s₁⟩
        · rfl
        · simp only
          rcases Sink.write _ _ _ with f | ⟨sink, world⟩ <;> rfl
    | some path =>
      obtain ⟨stdout, stderr, s', hopen, hboth⟩ := exists_open hresolved
      rw [run_beginStage_of_program hb hresolve, run_beginSingle_of_program hb hresolve,
        request?_of_program hb hresolve, hopen, hboth, requestAlone?, call_of_program hb hresolve]
      have hrequest : stage.requestOn path .terminal stderr (some stdout) s' =
          launchOf s'.env path stage .terminalInput stdout stderr := rfl
      have hpipes : s'.world.withPipes (some stdout) .terminal = s'.world := rfl
      simp only [hboth, hrequest, hpipes]
      rcases s'.world.launch (launchOf s'.env path stage .terminalInput stdout stderr) with
        _ | ⟨process, w⟩ <;> exact ⟨rfl, rfl, trivial⟩

/-- A stage comes to the same as the only one of a pipeline and as a single command. -/
structure BegunAsAlone (stage : Stage) (s : Session) : Prop where
  /-- The same failure, or the same process to wait for, or none. -/
  result : ((beginStage stage true .terminal).run.run s).1.map Beginning.process? =
    ((beginSingle stage).run.run s).1
  session : ((beginStage stage true .terminal).run.run s).2 = ((beginSingle stage).run.run s).2
  request : stage.request? true .terminal s = stage.requestAlone? s
  /-- The process is started by this request. -/
  launched : ∀ process s', (beginSingle stage).run.run s = (.ok (some process), s') →
    ∃ l, ∃ w : World, stage.requestAlone? s = some l ∧ w.launch l = some (process, s'.world)

/-- **The only stage of a pipeline begins as its command does alone,** if the targets of its
redirections can be opened. -/
theorem begunAsAlone (h : ∀ stream r, stage.redirection? stream = some r → s.canOpen r = true) :
    stage.BegunAsAlone s := by
  obtain ⟨hresult, hsession, hrequest⟩ := beginStage_as_alone h
  exact ⟨hresult, hsession, hrequest, fun _ _ => launched_of_beginSingle⟩

end Stage

namespace Pipeline

open State

variable {st : State} {entry : Nat × Nat}

/-! ## 3. Waiting -/

/-- A stage that has ended is settled at once. -/
theorem settleReady_of_ended (n : Nat) (hs : st.supervised = [entry])
    (hended : st.session.world.hasEnded entry.2 = true) :
    settleReady (n + 1) st = st.settle entry := by
  have hready : st.isReady entry = true := by simp [isReady, hended]
  have hrest : (st.settle entry).supervised = [] := by simp [settle, finish, cancelBefore, hs]
  have hattend : st.attend entry = st.settle entry := by rw [attend, if_pos hended]
  rw [settleReady, hs, List.find?_cons_of_pos hready]
  simp only [hattend]
  cases n with
  | zero => rfl
  | succ n => simp only [settleReady, hrest, List.find?_nil]

theorem settleReady_of_busy (n : Nat) (hs : st.supervised = [entry])
    (hended : st.session.world.hasEnded entry.2 = false)
    (hcancelled : st.isCancelled entry.1 = false) : settleReady n st = st := by
  have hready : st.isReady entry = false := by simp [isReady, hended, hcancelled]
  cases n with
  | zero => rfl
  | succ n => rw [settleReady, hs, List.find?_cons_of_neg (by simp [hready]), List.find?_nil]

theorem settleAll_of_ended (patience : Nat) (hs : st.supervised = [entry])
    (hended : st.session.world.hasEnded entry.2 = true) :
    settleAll patience st = some (st.settle entry) := by
  have hready : settleReady (2 * st.supervised.length) st = st.settle entry := by
    rw [hs]
    exact settleReady_of_ended 1 hs hended
  have hrest : (st.settle entry).supervised = [] := by simp [settle, finish, cancelBefore, hs]
  cases patience <;> simp only [settleAll, hready, if_pos hrest]

/-- **The only stage is waited for as a single command is,** if nothing has cancelled it. -/
theorem settleAll_of_one (patience : Nat) (hs : st.supervised = [entry])
    (hcancelled : st.isCancelled entry.1 = false) :
    settleAll patience st = (st.session.world.waitFor patience entry.2).map fun w =>
      (st.withWorld w).settle entry := by
  induction patience generalizing st with
  | zero =>
    rw [World.waitFor, World.runUntil]
    cases hended : st.session.world.hasEnded entry.2 with
    | true => exact settleAll_of_ended 0 hs hended
    | false =>
      rw [settleAll, settleReady_of_busy _ hs hended hcancelled, if_neg (by simp [hs])]
      rfl
  | succ patience ih =>
    rw [World.waitFor, World.runUntil]
    cases hended : st.session.world.hasEnded entry.2 with
    | true => exact settleAll_of_ended (patience + 1) hs hended
    | false =>
      rw [settleAll, settleReady_of_busy _ hs hended hcancelled, if_neg (by simp [hs])]
      rcases st.session.world.advance with _ | w
      · rfl
      · exact @ih (st.withWorld w) hs hcancelled

/-- **What comes of a pipeline of one stage.** -/
theorem runPipeline_of_one (patience : Nat) (stage : Stage) (s : Session) :
    s.runPipeline patience [stage] =
      Option.map (fun (result, s') => (result, { s' with world := s'.world.stopDraining }))
        (match (beginStage stage true .terminal).run.run s with
        | (.error f, s') => some (.error f, s')
        | (.ok beginning, s') =>
          match beginning.process? with
          | none => some (.ok (), s')
          | some process =>
            (s'.world.waitFor patience process).map fun world => (.ok (), { s' with world })) := by
  have hp : (start s [stage]).register.pending = some stage := rfl
  rw [Session.runPipeline, List.length_singleton, beginMany, beginMany]
  rcases hr : (beginStage stage true .terminal).run.run s with ⟨f | beginning, s'⟩
  · rw [begin_of_error hp hr, settleAll_of_idle rfl]
    rfl
  · rw [begin_of_ok hp hr]
    cases beginning with
    | started process pipe =>
      rw [@settleAll_of_one _ (0, process) patience rfl rfl]
      simp only [Beginning.process?, Option.map_map]
      rfl
    | builtin output | missing | unstarted =>
      rw [settleAll_of_idle rfl]
      rfl

/-- **What has happened in a pipeline of one stage** when it is over: the stage was begun, and
before and after that only the machine went on. -/
theorem Run.of_one {stage : Stage} {s : Session} {log : List Entry}
    (h : Run (.start s [stage]) log st) (hover : st.isOver = true) :
    ∃ s₁, log.map Entry.attempt = [.inPipeline stage true .terminal s₁] ∧ Since s s₁ ∧
      s.world.Keeps s₁.world ∧
      st.outcome = ((beginStage stage true .terminal).run.run s₁).1.map (fun _ => ()) ∧
      Since ((beginStage stage true .terminal).run.run s₁).2 st.session := by
  obtain ⟨e, rfl, hstage, houtcome⟩ : ∃ e, log = [e] ∧ e.stage = stage ∧
      st.outcome = e.result.map (fun _ => ()) := by
    rcases h.ends hover with ⟨older, e, rfl, hgiven⟩ | hcompleted
    · obtain rfl : older = [] := by simpa using hgiven.position
      refine ⟨e, rfl, by simpa using hgiven.begun, ?_⟩
      rw [hgiven.outcome]
      cases e.result <;> rfl
    · obtain ⟨e, rfl, hstage⟩ := List.map_eq_singleton_iff.mp hcompleted.begun
      refine ⟨e, rfl, hstage, ?_⟩
      rw [hcompleted.outcome]
      cases hr : e.result with
      | ok => rfl
      | error f =>
        exact absurd (e.fails_iff.mpr (.inr ⟨f, hr⟩)) (hcompleted.noneFails e (by simp))
  obtain ⟨hbefore, hp⟩ := h.at (List.nil_append [e]).symm
  have hlogged := hbefore.logged
  have ha := (Accounts.of_reaches hbefore.reaches).aborted_of_pending (by simp [hp])
  have hw : e.before.waiting = [] := by
    have hrest := hlogged.rest ha
    rw [hp] at hrest
    exact (List.cons.inj hrest).2
  have hattempt : e.before.attempt e.stage =
      (beginStage stage true .terminal).run.run e.before.session := by
    rw [State.attempt, hstage, hw, hlogged.upstream ha]
    rfl
  refine ⟨e.before.session, ?_, hlogged.since, hbefore.keeps, ?_, ?_⟩
  · rw [List.map_singleton, Entry.attempt, hstage, hw, hlogged.upstream ha]
    rfl
  · rw [houtcome, Entry.result, hattempt]
  · rw [← hattempt]
    exact h.logged.since

end Pipeline

/-- **A pipeline of one stage is its command alone.**  Take any session and any command, built in,
a program, one that cannot be started or one that does not exist, and suppose that all targets of
its redirections can be opened.

* As the only stage of a pipeline it comes to the same result as alone on its line, and to the same
  session: the same environment, files and terminal.  Only pipes that were drained no longer are.
* Its program is started by the same request (`Stage.BegunAsAlone`).
* This is so in whatever order things happen: in every run of the pipeline that is over, the command
  was begun in some session after which, and before which, only the machine went on. -/
theorem Session.execute_one_stage {stage : Stage} {s : Session} (hname : stage.isEmpty = false)
    (htargets : ∀ stream r, stage.redirection? stream = some r → s.canOpen r = true) :
    (∀ patience, s.execute patience (.pipeline [stage]) =
      (s.execute patience (.single stage)).map fun (result, s') =>
        (result, { s' with world := { s'.world with pipes := s'.world.stopDraining.pipes } })) ∧
    stage.BegunAsAlone s ∧
    ∀ log st, Pipeline.Run (.start s [stage]) log st → st.isOver = true →
      ∃ s₁, log.map Pipeline.Entry.attempt = [.inPipeline stage true .terminal s₁] ∧
        Pipeline.Since s s₁ ∧ stage.BegunAsAlone s₁ ∧
        st.outcome = ((beginSingle stage).run.run s₁).1.map (fun _ => ()) ∧
        Pipeline.Since ((beginSingle stage).run.run s₁).2 st.session := by
  have hbegun := Stage.begunAsAlone htargets
  refine ⟨fun patience => ?_, hbegun, fun log st hrun hover => ?_⟩
  · have hresult := hbegun.result
    have hsession := hbegun.session
    rw [execute, execute, hname, Pipeline.runPipeline_of_one, runSingle]
    generalize (beginSingle stage).run.run s = alone at hresult hsession ⊢
    generalize (beginStage stage true .terminal).run.run s = only at hresult hsession ⊢
    obtain ⟨single, s'⟩ := alone
    obtain ⟨f | beginning, s''⟩ := only
    · obtain rfl : s'' = s' := hsession
      obtain rfl : Except.error f = single := hresult
      rfl
    · obtain rfl : s'' = s' := hsession
      obtain rfl : Except.ok beginning.process? = single := hresult
      simp only
      cases beginning.process? <;> rfl
  · obtain ⟨s₁, hlog, hsince, hkeeps, houtcome, hafter⟩ := hrun.of_one hover
    have hbegun : stage.BegunAsAlone s₁ := Stage.begunAsAlone fun stream r hr => by
      rw [canOpen_of_keeps (congrArg Environment.directory hsince.env) hkeeps]
      exact htargets stream r hr
    refine ⟨s₁, hlog, hsince, hbegun, ?_, ?_⟩
    · rw [houtcome, ← hbegun.result]
      rcases ((beginStage stage true .terminal).run.run s₁).1 with f | beginning <;> rfl
    · rwa [← hbegun.session]

/-- A command that says something, with both its streams on one file. -/
def loggedStage : Stage :=
  { name := "echo", args := ["hi"], stdout := some ⟨"/log", .overwrite⟩,
    stderr := some ⟨"/log", .append⟩ }

/-- It comes to the same in both ways. -/
theorem Session.execute_one_stage_logged :
    ∃ s', fullSession.execute 0 (.single loggedStage) = some (.ok (), s') ∧
      fullSession.execute 0 (.pipeline [loggedStage]) = some (.ok (), s') ∧
      s'.world.files.node? ["log"] ≠ none := by
  have htargets : ∀ stream r, loggedStage.redirection? stream = some r →
      fullSession.canOpen r = true := by
    intro stream r hr
    cases stream <;>
    · cases hr
      decide
  obtain ⟨hsame, -, -⟩ := @execute_one_stage loggedStage fullSession rfl htargets
  obtain ⟨s', hsingle⟩ :
      ∃ s', fullSession.execute 0 (.single loggedStage) = some (.ok (), s') := ⟨_, rfl⟩
  have hs' : s' = ((fullSession.execute 0 (.single loggedStage)).get rfl).2 := by simp [hsingle]
  refine ⟨s', hsingle, ?_, ?_⟩
  · have hpipes : s'.world.stopDraining.pipes = s'.world.pipes := by
      rw [hs']
      rfl
    simp only [hsame 0, hsingle, Option.map_some, hpipes]
  · rw [hs']
    decide

end CommandShell
