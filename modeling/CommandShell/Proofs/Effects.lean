/-
# What a shell can do to its session

Everything a shell does is made of few changes.  A built-in command prints, changes the directory,
looks up a name, uses a history file or asks to exit (`Builtin.Change`), and `Builtin.reaches_run`
says that it does nothing else, whatever comes of it.  A line that is run is recorded, looks up its
commands, runs built-in commands and makes the machine go on (`Session.Change`).

So what each of these changes keeps is kept by every action that is made of them.
-/
import CommandShell.Engine.Line
import Mathlib.Logic.Relation

namespace CommandShell

open Relation

/-! ## 1. Actions that can fail -/

section Running

variable {σ α β : Type} {R : σ → σ → Prop}

/-- An action of the shell or of a built-in command, on the state that it works on. -/
abbrev Doing (σ α : Type) := ExceptT Failure (StateM σ) α

@[simp] theorem run_pure (a : α) (s : σ) : (pure a : Doing σ α).run.run s = (.ok a, s) := rfl

@[simp] theorem run_throw (f : Failure) (s : σ) :
    (throw f : Doing σ α).run.run s = (.error f, s) := rfl

@[simp] theorem run_get (s : σ) : (get : Doing σ σ).run.run s = (.ok s, s) := rfl

@[simp] theorem run_modify (f : σ → σ) (s : σ) :
    (modify f : Doing σ PUnit).run.run s = (.ok ⟨⟩, f s) := rfl

/-- One action after another: the second is left out when the first fails. -/
theorem run_bind (m : Doing σ α) (f : α → Doing σ β) (s : σ) :
    (m >>= f).run.run s = match m.run.run s with
      | (.ok a, s) => (f a).run.run s
      | (.error e, s) => (.error e, s) := by
  simp only [ExceptT.run, StateT.run, bind, ExceptT.bind, ExceptT.mk, StateT.bind,
    ExceptT.bindCont]
  rcases m s with ⟨⟨e⟩ | ⟨a⟩, s'⟩ <;> rfl

/-- An action that is taken back to when another one fails. -/
theorem run_tryCatch (m : Doing σ α) (h : Failure → Doing σ α) (s : σ) :
    (tryCatch m h).run.run s = match m.run.run s with
      | (.ok a, s) => (.ok a, s)
      | (.error e, s) => (h e).run.run s := by
  simp only [tryCatch, tryCatchThe, MonadExceptOf.tryCatch, ExceptT.tryCatch, ExceptT.mk,
    ExceptT.run, StateT.run, bind, StateT.bind]
  rcases m s with ⟨⟨e⟩ | ⟨a⟩, s'⟩ <;> rfl

/-- What two actions do one after the other is related if what each does is. -/
theorem related_bind (htrans : ∀ {a b c}, R a b → R b c → R a c) {m : Doing σ α}
    {f : α → Doing σ β} {s : σ} (hm : R s (m.run.run s).2)
    (hf : ∀ a s', m.run.run s = (.ok a, s') → R s' ((f a).run.run s').2) :
    R s ((m >>= f).run.run s).2 := by
  rw [run_bind]
  rcases hr : m.run.run s with ⟨e | a, s'⟩
  · simpa [hr] using hm
  · rw [hr] at hm
    exact htrans hm (hf a s' hr)

end Running

/-! ## 2. Built-in commands -/

def Job.sink (job : Job) : Stream → Sink
  | .stdout => job.stdout
  | .stderr => job.stderr

/-- A job after something was written to one of its streams. -/
def Job.wrote (job : Job) (stream : Stream) (sink : Sink) (world : World) : Job :=
  match stream with
  | .stdout => { job with session := { job.session with world }, stdout := sink }
  | .stderr => { job with session := { job.session with world }, stderr := sink }

namespace Deed

@[simp] theorem run_env (job : Job) : env.run.run job = (.ok job.session.env, job) := rfl

@[simp] theorem run_world (job : Job) : world.run.run job = (.ok job.session.world, job) := rfl

@[simp] theorem run_setSession (s : Session) (job : Job) :
    (setSession s).run.run job = (.ok ⟨⟩, { job with session := s }) := rfl

@[simp] theorem run_setEnv (env : Environment) (job : Job) :
    (setEnv env).run.run job = (.ok ⟨⟩, { job with session := { job.session with env } }) := rfl

@[simp] theorem run_setWorld (world : World) (job : Job) :
    (setWorld world).run.run job =
      (.ok ⟨⟩, { job with session := { job.session with world } }) := rfl

@[simp] theorem run_orFail {α : Type} (r : Except Failure α) (job : Job) :
    (orFail r).run.run job = (r, job) := by
  cases r <;> rfl

/-- Printing writes to the sink of the stream, or does nothing. -/
theorem run_print (stream : Stream) (text : String) (job : Job) :
    (print stream text).run.run job =
      match Sink.write job.session.world (job.sink stream) (Text.encode text) with
      | .ok (sink, world) => (.ok ⟨⟩, job.wrote stream sink world)
      | .error f => (.error f, job) := by
  rcases hw : Sink.write job.session.world (job.sink stream) (Text.encode text) with
    f | ⟨sink, world⟩
  · cases stream <;> simp only [Job.sink] at hw <;>
      simp only [print, run_bind, run_get, run_orFail, hw]
  · cases stream <;> simp only [Job.sink] at hw <;>
      simp only [print, run_bind, run_get, run_orFail, hw, run_setWorld, run_modify, Job.wrote]

end Deed

namespace Builtin

/-- What is written to the output when something is written to a stream. -/
def outputOf (stream : Stream) (bytes : Bytes) : Bytes :=
  match stream with
  | .stdout => bytes
  | .stderr => []

/-- One change that a built-in command can make, with what it writes to its output. -/
inductive Change (job : Job) : Bytes → Job → Prop
  | printed {stream : Stream} {bytes : Bytes} {sink : Sink} {world : World}
      (h : Sink.write job.session.world (job.sink stream) bytes = .ok (sink, world)) :
      Change job (outputOf stream bytes) (job.wrote stream sink world)
  | entered {target : String} {loc : Location} (h : destination job.session target = .ok loc) :
      Change job [] { job with session := enter job.session loc }
  | resolved (name : String) :
      Change job [] { job with session := (job.session.resolve name).2 }
  | rewrote {path : String} {files : FileSystem}
      (h : job.session.env.history.writeTo job.session.world.files job.session.world.directory path
        = .ok files) :
      Change job [] { job with session := { job.session with
        world := { job.session.world with files } } }
  | reread {path : String} {history : History}
      (h : job.session.env.history.readFrom job.session.world.files job.session.world.directory path
        = .ok history) :
      Change job [] { job with session := { job.session with
        env := { job.session.env with history } } }
  | appended {path : String} {history : History} {files : FileSystem}
      (h : job.session.env.history.appendNewTo job.session.world.files job.session.world.directory
        path = (history, .ok files)) :
      Change job [] { job with session :=
        { env := { job.session.env with history }, world := { job.session.world with files } } }
  | exiting (status : Int) :
      Change job [] { job with session := { job.session with
        env := job.session.env.requestExit status } }

/-- Several changes one after the other, with all that they write to the output. -/
inductive Writes (job : Job) : Bytes → Job → Prop
  | refl : Writes job [] job
  | tail {written bytes : Bytes} {job' job'' : Job} (h : Writes job written job')
      (hc : Change job' bytes job'') : Writes job (written ++ bytes) job''

theorem Writes.trans {written more : Bytes} {job job' job'' : Job} (h : Writes job written job')
    (h' : Writes job' more job'') : Writes job (written ++ more) job'' := by
  induction h' with
  | refl => rwa [List.append_nil]
  | tail _ hc ih =>
    rw [← List.append_assoc]
    exact ih.tail hc

/-- Several changes, one after the other. -/
def Reaches (job job' : Job) : Prop := ∃ written, Writes job written job'

namespace Reaches

variable {job job' job'' : Job}

theorem refl : Reaches job job := ⟨[], .refl⟩

theorem single {bytes : Bytes} (h : Change job bytes job') : Reaches job job' :=
  ⟨_, Writes.refl.tail h⟩

theorem trans (h : Reaches job job') (h' : Reaches job' job'') : Reaches job job'' := by
  obtain ⟨written, h⟩ := h
  obtain ⟨more, h'⟩ := h'
  exact ⟨written ++ more, h.trans h'⟩

theorem keeps {P : Job → Prop} (h : Reaches job job')
    (hP : ∀ {a b bytes}, Change a bytes b → P a → P b) (hjob : P job) : P job' := by
  obtain ⟨_, h⟩ := h
  induction h with
  | refl => exact hjob
  | tail _ hc ih => exact hP hc ih

end Reaches

theorem reaches_print (stream : Stream) (text : String) (job : Job) :
    Reaches job ((Deed.print stream text).run.run job).2 := by
  rw [Deed.run_print]
  split
  next sink world h => exact .single (.printed h)
  next => exact .refl

/-- What comes after printing. -/
theorem reaches_print_bind {α : Type} (stream : Stream) (text : String) {f : PUnit → Deed α}
    (hf : ∀ job, Reaches job ((f ⟨⟩).run.run job).2) (job : Job) :
    Reaches job ((Deed.print stream text >>= f).run.run job).2 :=
  related_bind .trans (reaches_print stream text job) fun _ job' _ => hf job'

theorem reaches_performCd (target : Option String) (job : Job) :
    Reaches job ((performCd target).run.run job).2 := by
  simp only [performCd, run_bind, Deed.run_env]
  split
  next => exact .refl
  next text _ =>
    simp only [run_bind, run_get, Deed.run_orFail]
    rcases hd : destination job.session text with f | loc
    · exact .refl
    · exact .single (.entered hd)

theorem reaches_describe (name : String) (job : Job) :
    Reaches job { job with session := (describe job.session name).2.2 } := by
  have hresolved : Reaches job { job with session := (job.session.resolve name).2 } :=
    .single (.resolved name)
  simp only [describe]
  split
  · exact .refl
  · rcases hr : job.session.resolve name with ⟨found | found, s'⟩ <;>
      simpa only [hr] using hresolved

theorem reaches_performType (names : List String) : ∀ (status : Int) (job : Job),
    Reaches job ((performType names status).run.run job).2 := by
  induction names with
  | nil => exact fun _ _ => .refl
  | cons name rest ih =>
    intro status job
    simp only [performType, run_bind, run_get, Deed.run_setSession]
    refine (reaches_describe name job).trans ?_
    have hprint := reaches_print_bind (f := fun _ => performType rest
        (if (describe job.session name).2.1 then status else 1)) .stdout
      (describe job.session name).1 (ih _) { job with session := (describe job.session name).2.2 }
    rwa [run_bind] at hprint

theorem reaches_printEntries (entries : List (Nat × String)) : ∀ job : Job,
    Reaches job ((printEntries entries).run.run job).2 := by
  induction entries with
  | nil => exact fun _ => .refl
  | cons entry rest ih => exact fun job => reaches_print_bind .stdout _ ih job

theorem appendNewTo_error {h history : History} {fs : FileSystem} {base : Location}
    {path : String} {f : Failure} (he : h.appendNewTo fs base path = (history, .error f)) :
    history = h := by
  simp only [History.appendNewTo] at he
  split at he
  next => cases he
  next => exact (Prod.mk.inj he).1.symm

theorem reaches_performHistory (r : HistoryRequest) (job : Job) :
    Reaches job ((performHistory r).run.run job).2 := by
  simp only [performHistory, run_bind, Deed.run_env, Deed.run_world]
  split
  next path _ =>
    simp only [run_bind, Deed.run_orFail]
    rcases hw : job.session.env.history.writeTo job.session.world.files
      job.session.world.directory (Path.join job.session.env.directory path) with f | files
    · exact .refl
    · exact .single (.rewrote hw)
  next path _ _ =>
    simp only [run_bind, Deed.run_orFail]
    rcases hr : job.session.env.history.readFrom job.session.world.files
      job.session.world.directory (Path.join job.session.env.directory path) with f | history
    · exact .refl
    · exact .single (.reread hr)
  next path _ _ _ =>
    simp only [run_bind, Deed.run_setEnv, Deed.run_orFail]
    rcases ha : job.session.env.history.appendNewTo job.session.world.files
      job.session.world.directory (Path.join job.session.env.directory path) with
      ⟨history, f | files⟩
    · obtain rfl := appendNewTo_error ha
      exact .refl
    · exact .single (.appended ha)
  next =>
    exact related_bind .trans (reaches_printEntries _ job) fun _ _ _ => .refl

theorem reaches_perform (b : Builtin) (job : Job) : Reaches job (b.perform.run.run job).2 := by
  cases b with
  | cd target => exact reaches_performCd target job
  | echo words => exact reaches_print_bind .stdout _ (fun _ => .refl) job
  | exit status => exact .single (.exiting status)
  | history request => exact reaches_performHistory request job
  | pwd =>
    rw [perform, run_bind, Deed.run_env]
    exact reaches_print_bind .stdout _ (fun _ => .refl) job
  | type names =>
    rw [perform]
    split
    · exact reaches_print_bind .stderr _ (fun _ => .refl) job
    · exact reaches_performType names 0 job
  | help text => exact reaches_print_bind .stdout _ (fun _ => .refl) job
  | refuse message => exact reaches_print_bind .stderr _ (fun _ => .refl) job

/-- **A built-in command does nothing else**, whatever comes of it. -/
theorem reaches_run (b : Builtin) (job : Job) : Reaches job (b.run.run.run job).2 := by
  rw [run]
  split
  · exact reaches_perform b job
  · have hperform := reaches_perform b job
    rw [run_tryCatch]
    rcases hr : b.perform.run.run job with ⟨f | status, after⟩
    · rw [hr] at hperform
      exact hperform.trans (reaches_print_bind .stderr _ (fun _ => .refl) after)
    · rwa [hr] at hperform

end Builtin
/-! ## 3. The actions of the shell -/

/-- The machine after something was done with the pipe that a stage would read from. -/
def World.hand (w : World) (upstream : Upstream) (holder : PipeHolder) : World :=
  match upstream with
  | .pipe n => w.setHolder n holder
  | _ => w

/-- The channel through which a program reads from upstream, with the pipe that holds what a
built-in command has written. -/
def World.inlet (w : World) : Upstream → Channel × World
  | .terminal => (.terminalInput, w)
  | .pipe n => (.pipeReader n, w)
  | .bytes content => (.pipeReader w.pipes.length, (w.addPipe { content }).2)
  | .closed => (.device .null, w)

namespace Action

@[simp] theorem run_takeNumbers (s : Session) :
    takeNumbers.run.run s = (.ok s.world.nextFile,
      { s with world := { s.world with nextFile := s.world.nextFile + 2 } }) := rfl

theorem run_openOutlet (first : Nat) (stream : Stream) (redirection : Option Redirection)
    (s : Session) :
    (openOutlet first stream redirection).run.run s =
      match s.world.openOutlet s.env.directory first stream redirection with
      | .ok (c, world) => (.ok c, { s with world })
      | .error f => (.error f, s) := by
  simp only [openOutlet, run_bind, run_get]
  rcases s.world.openOutlet s.env.directory first stream redirection with f | ⟨c, world⟩ <;> rfl

@[simp] theorem run_resolve (name : String) (s : Session) :
    (resolve name).run.run s = (.ok (s.resolve name).1, (s.resolve name).2) := rfl

theorem run_runBuiltin (b : Builtin) (stdout stderr : Sink) (s : Session) :
    (runBuiltin b stdout stderr).run.run s =
      match b.run.run.run { session := s, stdout, stderr } with
      | (.ok _, job) => (.ok job.stdout, job.session)
      | (.error f, job) => (.error f, job.session) := by
  simp only [runBuiltin, run_bind, run_get]
  rcases b.run.run.run { session := s, stdout, stderr } with ⟨f | code, job⟩ <;> rfl

theorem run_reportMissing (name : String) (stderr : Channel) (s : Session) :
    (reportMissing name stderr).run.run s =
      match Sink.write s.world (.channel stderr)
        (Text.encode (name ++ ": command not found\n")) with
      | .ok (_, world) => (.ok ⟨⟩, { s with world })
      | .error f => (.error f, s) := by
  simp only [reportMissing, run_bind, run_get]
  rcases Sink.write s.world (.channel stderr) (Text.encode (name ++ ": command not found\n")) with
    f | ⟨sink, world⟩ <;> rfl

theorem run_launch (program : String) (stage : Stage) (stdin stdout stderr : Channel)
    (s : Session) :
    (launch program stage stdin stdout stderr).run.run s =
      match s.world.launch (launchOf s.env program stage stdin stdout stderr) with
      | some (process, world) => (.ok (some process), { s with world })
      | none => (.ok none, s) := by
  simp only [launch, run_bind, run_get]
  rcases s.world.launch (launchOf s.env program stage stdin stdout stderr) with
    _ | ⟨process, world⟩ <;> rfl

@[simp] theorem run_release (upstream : Upstream) (s : Session) :
    (release upstream).run.run s = (.ok ⟨⟩, { s with world := s.world.hand upstream .nobody }) := by
  cases upstream <;> rfl

@[simp] theorem run_drain (upstream : Upstream) (s : Session) :
    (drain upstream).run.run s = (.ok ⟨⟩, { s with world := s.world.hand upstream .drains }) := by
  cases upstream <;> rfl

@[simp] theorem run_inlet (upstream : Upstream) (s : Session) :
    (inlet upstream).run.run s =
      (.ok (s.world.inlet upstream).1, { s with world := (s.world.inlet upstream).2 }) := by
  cases upstream <;> rfl

end Action

namespace Session

/-- One change that a line can make to a session. -/
inductive Change (s : Session) : Session → Prop
  | recorded (line : String) : Change s (s.record line)
  | resolved (name : String) : Change s (s.resolve name).2
  | commanded {job job' : Job} {bytes : Bytes} (hs : job.session = s)
      (h : Builtin.Change job bytes job') : Change s job'.session
  | machine (world : World) : Change s { s with world }

/-- Several changes, one after the other. -/
abbrev Reaches : Session → Session → Prop := ReflTransGen Change

theorem reaches_of_env {s s' : Session} (h : s'.env = s.env) : Reaches s s' := by
  obtain ⟨env, world⟩ := s'
  obtain rfl : env = s.env := h
  exact .single (.machine world)

theorem reaches_run (b : Builtin) (job : Job) :
    Reaches job.session (b.run.run.run job).2.session :=
  (Builtin.reaches_run b job).keeps (P := fun job' => Reaches job.session job'.session)
    (fun hc hs => hs.tail (.commanded rfl hc)) .refl

end Session
end CommandShell
