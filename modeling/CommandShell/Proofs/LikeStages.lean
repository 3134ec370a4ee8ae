/-
# Stages in sessions that are alike

A stage that is begun in two sessions which are alike comes to the same in both
(`Stage.begun_alike`): the same failure, the same output for the next stage, the same request to the
machine for its program.  It does not matter what the numbers of pipes, open files and processes are
(`Channel.unnumbered`), and what comes before the stage matters only for the kind of the channel
through which a program reads.  For a built-in command it does not matter at all.

For that, what the stage asks about files has to rest on some that are the same in both sessions
(`Stage.UsesOnly`): where its redirections lead, whether its program can be started, and what the
operands of a built-in command lead to.
-/
import CommandShell.Proofs.Contribution
import CommandShell.Proofs.LikeJobs

namespace CommandShell

open CommandShell.Action

variable {used : Location → Prop}

/-! ## 1. Opening streams -/

namespace World

variable {w w' : World}

/-- What has come of opening a stream on two machines. -/
structure OpenedAlike (used : Location → Prop) (w w' : World) (number number' : Nat)
    (opened opened' : Channel × World) : Prop where
  world : opened.2.Alike used opened'.2
  channel : opened.1.Alike opened.2 opened'.2 opened'.1
  keeps : w.Keeps opened.2
  keeps' : w'.Keeps opened'.2
  /-- A file is opened under the number that was given. -/
  under : ∀ n, (Sink.channel opened.1).file? = some n → n = number
  under' : ∀ n, (Sink.channel opened'.1).file? = some n → n = number'
  /-- Other files stay open as they were. -/
  others : ∀ n, n ≠ number → opened.2.openFiles[n]? = w.openFiles[n]?
  others' : ∀ n, n ≠ number' → opened'.2.openFiles[n]? = w'.openFiles[n]?

/-- **A stream is opened alike**, if its target leads to the same location. -/
theorem matches_openOutlet (h : w.Alike used w') (directory : String) (first first' : Nat)
    (stream : Stream) (redirection : Option Redirection)
    (hloc : ∀ r, redirection = some r →
      w'.files.locateForCreation w.directory (Path.join directory r.target) =
        w.files.locateForCreation w.directory (Path.join directory r.target)) :
    Matches (OpenedAlike used w w' (outletNumber first stream) (outletNumber first' stream))
      (w.openOutlet directory first stream redirection)
      (w'.openOutlet directory first' stream redirection) := by
  have hsame : ∀ {c : Channel} {files files' : FileSystem}, c.pipe? = none → (∀ n, c ≠ .file n) →
      w.files.SameShape files → w'.files.SameShape files' → files.Alike used files' →
      OpenedAlike used w w' (outletNumber first stream) (outletNumber first' stream)
        (c, { w with files }) (c, { w' with files := files' }) := by
    intro c files files' hend hfile hshape hshape' hfiles
    have hnone : (Sink.channel c).file? = none := by
      cases c with
      | file n => exact absurd rfl (hfile n)
      | _ => rfl
    exact ⟨⟨h.directory, hfiles⟩, .same hend hfile, ⟨rfl, hshape⟩, ⟨rfl, hshape'⟩,
      fun n hn => by simp [hnone] at hn, fun n hn => by simp [hnone] at hn, fun _ _ => rfl,
      fun _ _ => rfl⟩
  cases redirection with
  | none =>
    refine .ok (hsame ?_ ?_ (.refl _) (.refl _) h.files) <;> cases stream <;>
      first | rfl | exact fun _ h => by cases h
  | some r =>
    simp only [openOutlet, openAs, openFor]
    rcases h.files.openForWriting (hloc r rfl) r.mode with ⟨fault, hopen, hopen'⟩ |
      ⟨target, files, files', hopen, hopen', hfiles⟩
    · rw [← h.directory] at hopen'
      simp only [hopen, hopen', bind, Except.bind, Except.mapError]
      exact .error _
    · rw [← h.directory] at hopen'
      have hshape := FileSystem.sameShape_of_openForWriting hopen
      have hshape' := FileSystem.sameShape_of_openForWriting hopen'
      simp only [hopen, hopen', bind, Except.bind]
      cases target with
      | file loc =>
        refine .ok ⟨⟨h.directory, hfiles⟩, ?_, ⟨rfl, hshape⟩, ⟨rfl, hshape'⟩,
          fun n hn => (Option.some.inj hn).symm, fun n hn => (Option.some.inj hn).symm,
          fun n hne => ?_, fun n hne => ?_⟩
        · exact .file (Std.ExtTreeMap.getElem?_insert_self ..)
            (Std.ExtTreeMap.getElem?_insert_self ..) ⟨rfl, rfl, fun _ => rfl⟩
        · simp [Std.ExtTreeMap.getElem?_insert, Ne.symm hne]
        · simp [Std.ExtTreeMap.getElem?_insert, Ne.symm hne]
      | device d =>
        cases d with
        | own fd =>
          rcases fd with _ | _ | _ | n
          · exact .ok (hsame rfl (fun _ h => by cases h) hshape hshape' hfiles)
          · exact .ok (hsame rfl (fun _ h => by cases h) hshape hshape' hfiles)
          · exact .ok (hsame rfl (fun _ h => by cases h) hshape hshape' hfiles)
          · exact .error _
        | null | full | zero => exact .ok (hsame rfl (fun _ h => by cases h) hshape hshape' hfiles)

end World

/-- What has come of opening the streams of a stage in two sessions: the same failure, or streams to
the same places. -/
inductive StreamsAlike (used : Location → Prop) :
    Except Failure (Channel × Option Channel) × Session →
    Except Failure (Channel × Option Channel) × Session → Prop
  | error {s s' : Session} (f : Failure) (h : s.Alike used s') :
      StreamsAlike used (.error f, s) (.error f, s')
  | ok {s s' : Session} {stderr stderr' : Channel} {stdout stdout' : Option Channel}
      (h : Job.Alike used ⟨s, .ofOutput stdout, .channel stderr⟩
        ⟨s', .ofOutput stdout', .channel stderr'⟩) :
      StreamsAlike used (.ok (stderr, stdout), s) (.ok (stderr', stdout'), s')

section Streams

variable {stage : Stage} {isLast : Bool} {s s' : Session}

/-- Two streams that were opened alike, one after the other and under different numbers. -/
theorem jobAlike_of_opened {w w' : World} {m m' n n' : Nat}
    {first first' second second' : Channel × World}
    (h : Session.Alike used { s with world := second.2 } { s' with world := second'.2 })
    (hfirst : World.OpenedAlike used w w' m m' first first')
    (hsecond : World.OpenedAlike used first.2 first'.2 n n' second second') (hne : m ≠ n)
    (hne' : m' ≠ n') :
    Job.Alike used
      ⟨{ s with world := second.2 }, .ofOutput (some second.1), .channel first.1⟩
      ⟨{ s' with world := second'.2 }, .ofOutput (some second'.1), .channel first'.1⟩ where
  session := h
  sink stream := by
    cases stream with
    | stdout => exact .channel hsecond.channel
    | stderr =>
      -- Opening the second file has left the first one as it was.
      exact (Sink.Alike.channel hfirst.channel).later
        (fun i hi => hsecond.others i (hfirst.under i hi ▸ hne))
        fun i hi => hsecond.others' i (hfirst.under' i hi ▸ hne')
  apart i hout herr := hne ((hfirst.under i herr).symm.trans (hsecond.under i hout))
  apart' i hout herr := hne' ((hfirst.under' i herr).symm.trans (hsecond.under' i hout))

/-- **The streams of a stage are opened alike.** -/
theorem openStreams_alike (h : s.Alike used s')
    (htargets : ∀ stream ∈ streamsOf isLast, ∀ r, stage.redirection? stream = some r →
      s.world.files.RestsOn used (·.locateForCreation s.world.directory
        (Path.join s.env.directory r.target))) :
    StreamsAlike used ((openStreams stage isLast).run.run s)
      ((openStreams stage isLast).run.run s') := by
  have herror : Stream.stderr ∈ streamsOf isLast := by cases isLast <;> simp [streamsOf]
  -- The numbers of open files are taken first.
  have hnumbered : World.Alike used { s.world with nextFile := s.world.nextFile + 2 }
      { s'.world with nextFile := s'.world.nextFile + 2 } := ⟨h.world.directory, h.world.files⟩
  have hkeeps : s.world.Keeps { s.world with nextFile := s.world.nextFile + 2 } := .of_same rfl rfl
  have hkeeps' : s'.world.Keeps { s'.world with nextFile := s'.world.nextFile + 2 } :=
    .of_same rfl rfl
  have hstderr := World.matches_openOutlet hnumbered s.env.directory s.world.nextFile
    s'.world.nextFile .stderr stage.stderr fun r hr =>
      (htargets .stderr herror r hr).eq h.world.files.shape h.world.files.agree
  simp only [openStreams, run_bind, run_takeNumbers, run_openOutlet, h.directory]
  generalize { s.world with nextFile := s.world.nextFile + 2 }.openOutlet s.env.directory
    s.world.nextFile .stderr stage.stderr = r at hstderr ⊢
  generalize { s'.world with nextFile := s'.world.nextFile + 2 }.openOutlet s.env.directory
    s'.world.nextFile .stderr stage.stderr = r' at hstderr ⊢
  cases hstderr with
  | error f => exact .error f (h.later hkeeps hkeeps' hnumbered)
  | @ok first first' hfirst =>
    cases isLast with
    | false =>
      refine .ok ⟨h.later (hkeeps.trans hfirst.keeps) (hkeeps'.trans hfirst.keeps') hfirst.world,
        fun stream => ?_, .of_none rfl, .of_none rfl⟩
      cases stream with
      | stdout => exact .buffer []
      | stderr => exact .channel hfirst.channel
    | true =>
      have hstdout := World.matches_openOutlet hfirst.world s.env.directory s.world.nextFile
        s'.world.nextFile .stdout stage.stdout fun r hr => by
          have hrests := (htargets .stdout (by simp [streamsOf]) r hr).later hfirst.keeps.files
          rw [hfirst.keeps.directory]
          exact hrests.eq hfirst.world.files.shape hfirst.world.files.agree
      simp only [if_true, run_bind, run_openOutlet, h.directory]
      generalize first.2.openOutlet s.env.directory s.world.nextFile .stdout stage.stdout = r
        at hstdout ⊢
      generalize first'.2.openOutlet s.env.directory s'.world.nextFile .stdout stage.stdout = r'
        at hstdout ⊢
      have hkept := hkeeps.trans hfirst.keeps
      have hkept' := hkeeps'.trans hfirst.keeps'
      cases hstdout with
      | error f => exact .error f (h.later hkept hkept' hfirst.world)
      | @ok second second' hsecond =>
        exact .ok (jobAlike_of_opened
          (h.later (hkept.trans hsecond.keeps) (hkept'.trans hsecond.keeps') hsecond.world)
          hfirst hsecond (by simp [World.outletNumber]) (by simp [World.outletNumber]))

end Streams

/-! ## 2. What a stage asks of the machine -/

/-- What kind of channel it is: the numbers of pipes and open files do not count. -/
def Channel.unnumbered : Channel → Channel
  | .pipeReader _ => .pipeReader 0
  | .pipeWriter _ => .pipeWriter 0
  | .file _ => .file 0
  | c => c

/-- The request, with channels of which only the kind counts. -/
def Launch.unnumbered (l : Launch) : Launch :=
  { l with
    stdin := l.stdin.unnumbered
    stdout := l.stdout.unnumbered
    stderr := l.stderr.unnumbered }

/-- The request, for a program that is to run on the terminal. -/
def Launch.onTerminal (l : Launch) : Launch :=
  { l with
    stdin := .terminalInput
    stdout := .terminalOutput
    stderr := .terminalError }

/-- What a stage reads from, where the number of a pipe does not count. -/
def Upstream.unnumbered : Upstream → Upstream
  | .pipe _ => .pipe 0
  | upstream => upstream

/-- What a stage turns out to be, where the numbers of its process and its pipe do not count. -/
def Beginning.unnumbered : Beginning → Beginning
  | .started _ pipe => .started 0 (pipe.map fun _ => 0)
  | beginning => beginning

theorem Channel.Alike.unnumbered_eq {w w' : World} {c c' : Channel} (h : c.Alike w w' c') :
    c'.unnumbered = c.unnumbered := by
  cases h <;> rfl

theorem Upstream.ofPipe_unnumbered (pipe : Option Nat) :
    (Upstream.ofPipe pipe).unnumbered = .ofPipe (pipe.map fun _ => 0) := by
  cases pipe <;> rfl

namespace World

variable {w w' : World}

/-- A program gets an output of the same kind, and a pipe or none. -/
theorem outlet_unnumbered {stdout stdout' : Option Channel}
    (h : (Sink.ofOutput stdout).Alike w w' (.ofOutput stdout')) (v v' : World) :
    (v'.outlet stdout').1.unnumbered = (v.outlet stdout).1.unnumbered ∧
      (v'.outlet stdout').2.1.map (fun _ => 0) = (v.outlet stdout).2.1.map fun _ => 0 := by
  cases stdout with
  | none =>
    cases stdout' with
    | none => exact ⟨rfl, rfl⟩
    | some c' => cases h
  | some c =>
    cases stdout' with
    | none => cases h
    | some c' =>
      cases h with
      | channel hc => exact ⟨hc.unnumbered_eq, rfl⟩

theorem inlet_unnumbered {upstream upstream' : Upstream}
    (h : upstream'.unnumbered = upstream.unnumbered) (v v' : World) :
    (v'.inlet upstream').1.unnumbered = (v.inlet upstream).1.unnumbered := by
  cases upstream <;> cases upstream' <;> first | rfl | cases h

/-- The machine with the pipes for a program: the one that it writes to, and the one that holds what
it is to read. -/
def withPipes (w : World) (stdout : Option Channel) (upstream : Upstream) : World :=
  ((w.outlet stdout).2.2.inlet upstream).2

theorem leavesFiles_withPipes (w : World) (stdout : Option Channel) (upstream : Upstream) :
    w.LeavesFiles (w.withPipes stdout upstream) :=
  (leavesFiles_outlet w stdout).trans (leavesFiles_inlet _ upstream)

def canStart (w : World) (l : Launch) : Bool := (w.process? l).isSome

theorem program?_congr (hfiles : w'.files = w.files) {base : Location}
    {environment : List ByteText} : ∀ (depth : Nat) (path : ByteText) (argv : List ByteText),
      w'.program? base environment depth path argv = w.program? base environment depth path argv
  | 0, _, _ => rfl
  | depth + 1, path, argv => by
    simp only [program?, locateFor, hfiles, program?_congr hfiles depth]

theorem isSome_launch (w : World) (l : Launch) : (w.launch l).isSome = w.canStart l := by
  simp only [launch, canStart, Option.isSome_map]

/-- That depends on the files of the machine and on its directory, -/
theorem canStart_congr (hfiles : w'.files = w.files) (hdirectory : w'.directory = w.directory)
    (l : Launch) : w'.canStart l = w.canStart l := by
  simp only [canStart, process?, hfiles, hdirectory, program?_congr hfiles]

/-- and not on the channels of the request. -/
theorem canStart_onTerminal (w : World) (l : Launch) : w.canStart l.onTerminal = w.canStart l := by
  have hproper : l.onTerminal.isProper = l.isProper := rfl
  have hplace : l.onTerminal.directory = l.directory := rfl
  have hprogram : l.onTerminal.program = l.program := rfl
  have hargv : l.onTerminal.argv = l.argv := rfl
  have henvironment : l.onTerminal.environment = l.environment := rfl
  simp only [canStart, process?, hproper, hplace, hprogram, hargv, henvironment]
  cases l.isProper with
  | false => rfl
  | true =>
    rcases w.files.locate w.directory l.directory with fault | dir
    · rfl
    · by_cases hdir : w.files.node? dir = some .directory
      · simp only [hdir, if_true]
        rcases w.program? dir l.environment interpreterLimit _ l.argv with e | activity <;> rfl
      · simp only [hdir, if_false]

end World

namespace Stage

variable {stage : Stage} {isLast : Bool} {upstream upstream' : Upstream} {s s' : Session}
  {path : String}

/-- The request by which the program of a stage is to be started, when its streams are open. -/
def requestOn (stage : Stage) (path : String) (upstream : Upstream) (stderr : Channel)
    (stdout : Option Channel) (s : Session) : Launch :=
  launchOf s.env path stage ((s.world.outlet stdout).2.2.inlet upstream).1
    (s.world.outlet stdout).1 stderr

/-- The request for the program of a stage, if it runs on the terminal. -/
def requestOnTerminal (stage : Stage) (path : String) (env : Environment) : Launch :=
  launchOf env path stage .terminalInput .terminalOutput .terminalError

/-- The request that is made for a stage, if it turns out to be a program and its streams can be
opened. -/
def request? (stage : Stage) (isLast : Bool) (upstream : Upstream) (s : Session) : Option Launch :=
  match s.call stage with
  | (.program path, s) =>
    match (openStreams stage isLast).run.run s with
    | (.ok (stderr, stdout), s) => some (stage.requestOn path upstream stderr stdout s)
    | (.error _, _) => none
  | _ => none

theorem request?_of_program (hb : Builtin.lookup stage.name stage.args = none)
    (hresolve : (s.resolve stage.name).1 = some path) :
    stage.request? isLast upstream s =
      match (openStreams stage isLast).run.run (s.resolve stage.name).2 with
      | (.ok (stderr, stdout), s) => some (stage.requestOn path upstream stderr stdout s)
      | (.error _, _) => none := by
  simp only [request?, call_of_program hb hresolve]

/-- **A program as a stage** is started by its request when its streams are open. -/
theorem run_beginStage_of_program (hb : Builtin.lookup stage.name stage.args = none)
    (hresolve : (s.resolve stage.name).1 = some path) :
    (beginStage stage isLast upstream).run.run s =
      match (openStreams stage isLast).run.run (s.resolve stage.name).2 with
      | (.error f, s) => (.error f, { s with world := s.world.hand upstream .nobody })
      | (.ok (stderr, stdout), s) =>
        match (s.world.withPipes stdout upstream).launch
          (stage.requestOn path upstream stderr stdout s) with
        | some (process, w) => (.ok (.started process (s.world.outlet stdout).2.1),
            { s with world := w.hand upstream .nobody })
        | none => (.ok .unstarted, { s with
            world := (((s.world.withPipes stdout upstream).hand upstream .nobody).hand
              (.ofPipe (s.world.outlet stdout).2.1) .nobody) }) := by
  rw [run_beginStage, call_of_program hb hresolve, Course.inPipeline]
  simp only [run_tryCatch, beginProgram_eq, run_bind]
  rcases (openStreams stage isLast).run.run (s.resolve stage.name).2 with
    ⟨f | ⟨stderr, stdout⟩, s₁⟩
  · simp only [run_release, run_throw]
  · simp only [run_connectOutput, run_inlet, run_launch, requestOn, World.withPipes]
    rcases World.launch _ _ with _ | ⟨process, w⟩
    · simp only [run_bind, run_release, run_pure]
    · simp only [run_bind, run_release, run_pure]

/-- **A command that does not exist** lets go of what it would read, and is reported. -/
theorem run_beginStage_of_missing (hb : Builtin.lookup stage.name stage.args = none)
    (hresolve : (s.resolve stage.name).1 = none) :
    (beginStage stage isLast upstream).run.run s =
      match (openStreams stage false).run.run
        { (s.resolve stage.name).2 with world := s.world.hand upstream .nobody } with
      | (.error f, s) => (.error f, s)
      | (.ok (stderr, _), s) =>
        match Sink.write s.world (.channel stderr)
          (Text.encode (stage.name ++ ": command not found\n")) with
        | .ok (_, world) => (.ok .missing, { s with world })
        | .error f => (.error f, s) := by
  have hworld : (s.resolve stage.name).2.world = s.world := rfl
  rw [run_beginStage, call_of_missing hb hresolve, Course.inPipeline, run_bind, run_release, hworld]
  simp only [run_bind]
  rcases (openStreams stage false).run.run _ with ⟨f | ⟨stderr, stdout⟩, s₁⟩
  · rfl
  · simp only [run_reportMissing]
    rcases Sink.write _ _ _ with f | ⟨sink, world⟩ <;> rfl

/-- What a stage asks about files rests on some of them. -/
structure UsesOnly (used : Location → Prop) (stage : Stage) (isLast : Bool) (s : Session) :
    Prop where
  /-- Where the redirections lead that count for it. -/
  targets : ∀ stream ∈ streamsOf isLast, ∀ r, stage.redirection? stream = some r →
    s.world.files.RestsOn used (·.locateForCreation s.world.directory
      (Path.join s.env.directory r.target))
  /-- What the operands of a built-in command lead to. -/
  operands : ∀ b, Builtin.lookup stage.name stage.args = some b → b.UsesOnly used s
  /-- Whether its program can be started. -/
  program : Builtin.lookup stage.name stage.args = none → ∀ path, s.lookup stage.name = some path →
    s.world.files.RestsOn used fun files =>
      { s.world with files }.canStart (stage.requestOnTerminal path s.env)

/-! ## 3. Beginning a stage -/

/-- Two built-in commands at work, or none: the same command, on streams that go to the same places,
comes to the same and says the same. -/
inductive JobsAlike (used : Location → Prop) :
    Option (Builtin × Job) → Option (Builtin × Job) → Prop
  | none : JobsAlike used none none
  | some {b : Builtin} {job job' : Job} {said : List (Stream × Bytes)}
      (halike : job.Alike used job')
      (hresult : (b.run.run.run job').1 = (b.run.run.run job).1)
      (hsaid : Builtin.Says job said (b.run.run.run job).2)
      (hsaid' : Builtin.Says job' said (b.run.run.run job').2) :
      JobsAlike used (some (b, job)) (some (b, job'))

/-- A stage comes to the same in two sessions. -/
structure BegunAlike (used : Location → Prop) (stage : Stage) (isLast : Bool)
    (upstream upstream' : Upstream) (s s' : Session) : Prop where
  result : ((beginStage stage isLast upstream').run.run s').1.map Beginning.unnumbered =
    ((beginStage stage isLast upstream).run.run s).1.map Beginning.unnumbered
  request : (stage.request? isLast upstream' s').map Launch.unnumbered =
    (stage.request? isLast upstream s).map Launch.unnumbered
  jobs : JobsAlike used (Attempt.inPipeline stage isLast upstream s).job?
    (Attempt.inPipeline stage isLast upstream' s').job?
  after : Session.Alike used ((beginStage stage isLast upstream).run.run s).2
    ((beginStage stage isLast upstream').run.run s').2

/-- Where redirections lead stays the same as long as the shell stays where it is. -/
theorem UsesOnly.targets_keeps (h : stage.UsesOnly used isLast s) {s₁ : Session}
    (hdirectory : s₁.env.directory = s.env.directory) (hkeeps : s.world.Keeps s₁.world) :
    ∀ stream ∈ streamsOf isLast, ∀ r, stage.redirection? stream = some r →
      s₁.world.files.RestsOn used (·.locateForCreation s₁.world.directory
        (Path.join s₁.env.directory r.target)) := by
  rw [hdirectory, hkeeps.directory]
  exact fun stream hstream r hr => (h.targets stream hstream r hr).later hkeeps.files

/-- **A built-in command as a stage**, whatever it might have read. -/
theorem begunAlike_of_builtin {b : Builtin} (h : s.Alike used s')
    (huses : stage.UsesOnly used isLast s)
    (hb : Builtin.lookup stage.name stage.args = some b) (upstream upstream' : Upstream) :
    stage.BegunAlike used isLast upstream upstream' s s' := by
  have hkeeps := (World.leavesFiles_hand s.world upstream .drains).keeps
  have hstreams := openStreams_alike (h.elsewhere (World.leavesFiles_hand s.world upstream .drains)
    (World.leavesFiles_hand s'.world upstream' .drains)) (huses.targets_keeps rfl hkeeps)
  have hrun := @run_beginStage_of_builtin stage s b hb isLast upstream
  have hrun' := @run_beginStage_of_builtin stage s' b hb isLast upstream'
  have hrequest : ∀ (upstream : Upstream) (s : Session),
      stage.request? isLast upstream s = none := fun _ _ => by
    simp only [request?, call_of_builtin hb]
  rcases Attempt.job?_inPipeline (s := s) hb isLast upstream with ⟨f, s₁, hopen, hjob⟩ |
      ⟨stderr, stdout, w, hopen, hjob⟩ <;>
    rcases Attempt.job?_inPipeline (s := s') hb isLast upstream' with ⟨f', s₁', hopen', hjob'⟩ |
      ⟨stderr', stdout', w', hopen', hjob'⟩ <;>
    rw [hopen, hopen'] at hstreams <;>
    rw [hopen] at hrun <;>
    rw [hopen'] at hrun'
  · cases hstreams with
    | error f halike =>
      exact ⟨by rw [hrun, hrun'], by rw [hrequest, hrequest], by rw [hjob, hjob']; exact .none,
        by rw [hrun, hrun']; exact halike⟩
  · cases hstreams
  · cases hstreams
  · cases hstreams with
    | ok halike =>
      have hopened := keeps_openStreams stage isLast
        { s with world := s.world.hand upstream .drains }
      rw [hopen] at hopened
      have huses' : b.UsesOnly used { s with world := w } :=
        (huses.operands b hb).keeps rfl (hkeeps.trans hopened)
      obtain ⟨hresult, hrelated, said, hsays, hsays'⟩ :=
        (Builtin.twins_alike used b).run ⟨halike, huses'⟩
      have hjobs : JobsAlike used (Attempt.inPipeline stage isLast upstream s).job?
          (Attempt.inPipeline stage isLast upstream' s').job? := by
        rw [hjob, hjob']
        exact .some halike hresult hsays hsays'
      have hcollected := (hrelated.1.sink .stdout).collected_eq
      have hafter := hrelated.1.session
      simp only at hrun hrun'
      generalize b.run.run.run _ = out at hrun hresult hcollected hafter
      generalize b.run.run.run _ = out' at hrun' hresult hcollected hafter
      obtain ⟨r, i⟩ := out
      obtain ⟨r', i'⟩ := out'
      obtain rfl : r' = r := hresult
      cases r' with
      | error f =>
        exact ⟨by rw [hrun, hrun'], by rw [hrequest, hrequest], hjobs,
          by rw [hrun, hrun']; exact hafter⟩
      | ok status =>
        refine ⟨?_, by rw [hrequest, hrequest], hjobs, by rw [hrun, hrun']; exact hafter⟩
        have hsame : i'.stdout.collected = i.stdout.collected := hcollected
        rw [hrun, hrun']
        simp only [Except.map, hsame]

theorem jobsAlike_of_not_builtin (hb : Builtin.lookup stage.name stage.args = none) :
    JobsAlike used (Attempt.inPipeline stage isLast upstream s).job?
      (Attempt.inPipeline stage isLast upstream' s').job? := by
  rw [Attempt.job?_of_not_builtin (a := .inPipeline stage isLast upstream s) hb,
    Attempt.job?_of_not_builtin (a := .inPipeline stage isLast upstream' s') hb]
  exact .none

/-- **A command that does not exist**, whatever it might have read. -/
theorem begunAlike_of_missing (h : s.Alike used s') (huses : stage.UsesOnly used isLast s)
    (hb : Builtin.lookup stage.name stage.args = none) (hmissing : s.lookup stage.name = none)
    (upstream upstream' : Upstream) : stage.BegunAlike used isLast upstream upstream' s s' := by
  obtain ⟨hfound, hresolved⟩ := h.resolve stage.name
  have hresolve : (s.resolve stage.name).1 = none :=
    (h.remembers.resolve_eq stage.name).trans hmissing
  have hresolve' : (s'.resolve stage.name).1 = none := hfound.trans hresolve
  have hleaves := World.leavesFiles_hand s.world upstream .nobody
  have hsubset : ∀ stream ∈ streamsOf false, stream ∈ streamsOf isLast := by
    cases isLast <;> simp [streamsOf]
  have htargets : ∀ stream ∈ streamsOf false, ∀ r, stage.redirection? stream = some r →
      (s.world.hand upstream .nobody).files.RestsOn used
        (·.locateForCreation (s.world.hand upstream .nobody).directory
          (Path.join s.env.directory r.target)) := fun stream hstream =>
    @UsesOnly.targets_keeps _ _ _ _ huses { s with world := s.world.hand upstream .nobody } rfl
      hleaves.keeps stream (hsubset stream hstream)
  have hstreams := openStreams_alike
    (hresolved.elsewhere hleaves (World.leavesFiles_hand s'.world upstream' .nobody)) htargets
  have hrun := @run_beginStage_of_missing stage isLast upstream s hb hresolve
  have hrun' := @run_beginStage_of_missing stage isLast upstream' s' hb hresolve'
  have hrequest : stage.request? isLast upstream s = none := by
    simp only [request?, call_of_missing hb hresolve]
  have hrequest' : stage.request? isLast upstream' s' = none := by
    simp only [request?, call_of_missing hb hresolve']
  have hjobs := @jobsAlike_of_not_builtin used stage isLast upstream upstream' s s' hb
  generalize (openStreams stage false).run.run _ = opened at hrun hstreams
  generalize (openStreams stage false).run.run _ = opened' at hrun' hstreams
  cases hstreams with
  | error f halike =>
    exact ⟨by rw [hrun, hrun'], by rw [hrequest, hrequest'], hjobs,
      by rw [hrun, hrun']; exact halike⟩
  | @ok s₁ s₁' stderr stderr' stdout stdout' halike =>
    have hreport := Sink.matches_alike halike.session.world (halike.sink .stderr)
      (Text.encode (stage.name ++ ": command not found\n"))
    simp only [Job.sink] at hrun hrun' hreport
    generalize hw : Sink.write s₁.world _ _ = r at hrun hreport
    generalize hw' : Sink.write s₁'.world _ _ = r' at hrun' hreport
    cases hreport with
    | error f =>
      exact ⟨by rw [hrun, hrun'], by rw [hrequest, hrequest'], hjobs,
        by rw [hrun, hrun']; exact halike.session⟩
    | ok hwrote =>
      refine ⟨by rw [hrun, hrun'], by rw [hrequest, hrequest'], hjobs, ?_⟩
      rw [hrun, hrun']
      exact halike.session.later (World.keeps_of_sinkWrite hw) (World.keeps_of_sinkWrite hw')
        hwrote.world

/-- The requests for a program are alike when its streams are. -/
theorem requestOn_unnumbered {stderr stderr' : Channel} {stdout stdout' : Option Channel}
    (h : Job.Alike used ⟨s, .ofOutput stdout, .channel stderr⟩
      ⟨s', .ofOutput stdout', .channel stderr'⟩)
    (hup : upstream'.unnumbered = upstream.unnumbered) :
    (stage.requestOn path upstream' stderr' stdout' s').unnumbered =
      (stage.requestOn path upstream stderr stdout s).unnumbered := by
  have hinput := World.inlet_unnumbered hup (s.world.outlet stdout).2.2
    (s'.world.outlet stdout').2.2
  have houtput := (World.outlet_unnumbered (h.sink .stdout) s.world s'.world).1
  have herror : stderr'.unnumbered = stderr.unnumbered := by
    cases h.sink .stderr with
    | channel hc => exact hc.unnumbered_eq
  have hvars : s'.env.vars = s.env.vars := h.session.vars
  have hdirectory : s'.env.directory = s.env.directory := h.session.directory
  simp only [requestOn, Launch.unnumbered, launchOf, hinput, houtput, herror, hvars, hdirectory]

/-- Whether a program can be started is a question about its request and the files. -/
theorem canStart_requestOn {s₁ : Session} (hvars : s₁.env.vars = s.env.vars)
    (hdirectory : s₁.env.directory = s.env.directory) (hkeeps : s.world.Keeps s₁.world)
    (upstream : Upstream) (stderr : Channel) (stdout : Option Channel) :
    (s₁.world.withPipes stdout upstream).canStart
        (stage.requestOn path upstream stderr stdout s₁) =
      { s.world with files := s₁.world.files }.canStart (stage.requestOnTerminal path s.env) := by
  have hleaves := World.leavesFiles_withPipes s₁.world stdout upstream
  rw [← World.canStart_onTerminal]
  refine (World.canStart_congr (w := { s.world with files := s₁.world.files })
    hleaves.files (hleaves.directory.trans hkeeps.directory) _).trans ?_
  simp only [requestOn, Launch.onTerminal, requestOnTerminal, launchOf, hvars, hdirectory]

/-- Whether the program can be started is the same question in two sessions that are alike, when the
streams of the stage are open in both. -/
theorem canStart_alike {s₁ s₁' : Session} {stderr stderr' : Channel}
    {stdout stdout' : Option Channel} (h : s.Alike used s') (huses : stage.UsesOnly used isLast s)
    (hb : Builtin.lookup stage.name stage.args = none) (hpath : s.lookup stage.name = some path)
    (hvars : s₁.env.vars = s.env.vars) (hdirectory : s₁.env.directory = s.env.directory)
    (hkeeps : s.world.Keeps s₁.world) (hvars' : s₁'.env.vars = s'.env.vars)
    (hdirectory' : s₁'.env.directory = s'.env.directory) (hkeeps' : s'.world.Keeps s₁'.world)
    (upstream upstream' : Upstream)
    (halike : Job.Alike used ⟨s₁, .ofOutput stdout, .channel stderr⟩
      ⟨s₁', .ofOutput stdout', .channel stderr'⟩) :
    (s₁'.world.withPipes stdout' upstream').canStart
        (stage.requestOn path upstream' stderr' stdout' s₁') =
      (s₁.world.withPipes stdout upstream).canStart
        (stage.requestOn path upstream stderr stdout s₁) := by
  rw [canStart_requestOn (hvars'.trans h.vars) (hdirectory'.trans h.directory)
      (h.world.keeps.trans hkeeps'), canStart_requestOn hvars hdirectory hkeeps]
  exact ((huses.program hb path hpath).later hkeeps.files).eq halike.session.world.files.shape
    halike.session.world.files.agree

/-- **A program as a stage**, if it reads through a channel of the same kind. -/
theorem begunAlike_of_program (h : s.Alike used s') (huses : stage.UsesOnly used isLast s)
    (hb : Builtin.lookup stage.name stage.args = none) (hpath : s.lookup stage.name = some path)
    (hup : upstream'.unnumbered = upstream.unnumbered) :
    stage.BegunAlike used isLast upstream upstream' s s' := by
  obtain ⟨hfound, hresolved⟩ := h.resolve stage.name
  have hresolve : (s.resolve stage.name).1 = some path :=
    (h.remembers.resolve_eq stage.name).trans hpath
  have hresolve' : (s'.resolve stage.name).1 = some path := hfound.trans hresolve
  have hstreams := openStreams_alike hresolved (huses.targets_keeps rfl (.refl s.world))
  have hrun := @run_beginStage_of_program stage isLast upstream s path hb hresolve
  have hrun' := @run_beginStage_of_program stage isLast upstream' s' path hb hresolve'
  have hrequest := @request?_of_program stage isLast upstream s path hb hresolve
  have hrequest' := @request?_of_program stage isLast upstream' s' path hb hresolve'
  have hjobs := @jobsAlike_of_not_builtin used stage isLast upstream upstream' s s' hb
  have hopened := keeps_openStreams stage isLast (s.resolve stage.name).2
  have hopened' := keeps_openStreams stage isLast (s'.resolve stage.name).2
  have henv := (quiet_openStreams stage isLast (s.resolve stage.name).2).env
  have henv' := (quiet_openStreams stage isLast (s'.resolve stage.name).2).env
  generalize (openStreams stage isLast).run.run _ = opened
    at hrun hrequest hstreams hopened henv
  generalize (openStreams stage isLast).run.run _ = opened'
    at hrun' hrequest' hstreams hopened' henv'
  cases hstreams with
  | error f halike =>
    refine ⟨by rw [hrun, hrun'], by rw [hrequest, hrequest'], hjobs, ?_⟩
    rw [hrun, hrun']
    exact halike.elsewhere (World.leavesFiles_hand ..) (World.leavesFiles_hand ..)
  | @ok s₁ s₁' stderr stderr' stdout stdout' halike =>
    have hask := canStart_alike h huses hb hpath (congrArg Environment.vars henv :)
      (congrArg Environment.directory henv :) hopened (congrArg Environment.vars henv' :)
      (congrArg Environment.directory henv' :) hopened' upstream upstream' halike
    have hleaves := World.leavesFiles_withPipes s₁.world stdout upstream
    have hleaves' := World.leavesFiles_withPipes s₁'.world stdout' upstream'
    have hpipe := (World.outlet_unnumbered (halike.sink .stdout) s₁.world s₁'.world).2
    have hrequests : (stage.request? isLast upstream' s').map Launch.unnumbered =
        (stage.request? isLast upstream s).map Launch.unnumbered := by
      rw [hrequest, hrequest']
      exact congrArg some (requestOn_unnumbered halike hup)
    simp only at hrun hrun'
    rw [← World.isSome_launch, ← World.isSome_launch] at hask
    generalize hlaunch : World.launch _ (stage.requestOn path upstream _ _ _) = launched
      at hrun hask
    generalize hlaunch' : World.launch _ (stage.requestOn path upstream' _ _ _) = launched'
      at hrun' hask
    rcases launched with _ | ⟨process, w⟩ <;> rcases launched' with _ | ⟨process', w'⟩
    · refine ⟨by rw [hrun, hrun'], hrequests, hjobs, ?_⟩
      rw [hrun, hrun']
      exact halike.session.elsewhere
        ((hleaves.trans (World.leavesFiles_hand ..)).trans (World.leavesFiles_hand ..))
        ((hleaves'.trans (World.leavesFiles_hand ..)).trans (World.leavesFiles_hand ..))
    · cases hask
    · cases hask
    · refine ⟨?_, hrequests, hjobs, ?_⟩
      · rw [hrun, hrun']
        exact congrArg (fun pipe => Except.ok (Beginning.started 0 pipe)) hpipe
      · rw [hrun, hrun']
        exact halike.session.elsewhere
          ((hleaves.trans (World.leavesFiles_of_launch hlaunch)).trans (World.leavesFiles_hand ..))
          ((hleaves'.trans (World.leavesFiles_of_launch hlaunch')).trans
            (World.leavesFiles_hand ..))

/-- **A stage comes to the same in sessions that are alike**, whatever comes before a built-in
command. -/
theorem begun_alike (h : s.Alike used s') (huses : stage.UsesOnly used isLast s)
    (hup : Builtin.lookup stage.name stage.args = none →
      upstream'.unnumbered = upstream.unnumbered) :
    stage.BegunAlike used isLast upstream upstream' s s' := by
  cases hb : Builtin.lookup stage.name stage.args with
  | some b => exact begunAlike_of_builtin h huses hb upstream upstream'
  | none =>
    cases hfound : s.lookup stage.name with
    | none => exact begunAlike_of_missing h huses hb hfound upstream upstream'
    | some path => exact begunAlike_of_program h huses hb hfound (hup hb)

end Stage

end CommandShell
