/-
# What a machine leaves in place

The processes of a machine write files and make new ones.  They make and remove no directory, no
link, no device and no program, and the directory that the shell is in is not theirs to change.  So
a machine that goes on keeps its shape and its place (`World.Keeps`), and so does one on which the
shell opens the streams of a stage and starts its program.

In a pipeline that leaves the built-in commands as the only ones that move the shell to another
directory: between two stages, nothing does (`Pipeline.Run.keeps`).
-/
import CommandShell.Proofs.Opening
import CommandShell.Proofs.RunLog

namespace CommandShell

namespace World

variable {w w' w'' : World}

/-- The shape of the files stays the same, and so does the directory that the shell is in. -/
structure Keeps (w w' : World) : Prop where
  directory : w'.directory = w.directory
  files : w.files.SameShape w'.files

namespace Keeps

theorem of_same (hdirectory : w'.directory = w.directory) (hfiles : w'.files = w.files) :
    Keeps w w' := ⟨hdirectory, fun loc => by rw [hfiles]⟩

theorem refl (w : World) : Keeps w w := .of_same rfl rfl

theorem trans (h : Keeps w w') (h' : Keeps w' w'') : Keeps w w'' :=
  ⟨h'.directory.trans h.directory, h.files.trans h'.files⟩

/-- A process is changed, or one of the pipes, or the clock: no file is. -/
theorem same (h : Keeps w w') (hdirectory : w''.directory = w'.directory)
    (hfiles : w''.files = w'.files) : Keeps w w'' := h.trans (.of_same hdirectory hfiles)

end Keeps

/-! ## 1. One request -/

theorem keeps_of_openFor {own : Nat → Option Channel} {number : Nat} {base : Location}
    {path : String} {access : Access} {c : Channel}
    (h : w.openFor own number base path access = .ok (c, w')) : Keeps w w' := by
  have hopened : ∀ {files : FileSystem} {openFiles}, w.files.SameShape files →
      Keeps w { w with files, openFiles } := fun hfiles => ⟨rfl, hfiles⟩
  cases access
  all_goals
    simp only [openFor, bind, Except.bind] at h
    split at h
    next => cases h
    next hopen =>
      split at h
      next =>
        split at h
        next =>
          obtain ⟨-, rfl⟩ := Prod.mk.inj (Except.ok.inj h)
          first
            | exact .refl w
            | exact hopened (FileSystem.sameShape_of_openForWriting hopen)
            | exact hopened (FileSystem.sameShape_of_openForUpdate hopen)
        next => cases h
      all_goals
        obtain ⟨-, rfl⟩ := Prod.mk.inj (Except.ok.inj h)
        first
          | exact .refl w
          | exact .of_same rfl rfl
          | exact hopened (FileSystem.sameShape_of_openForWriting hopen)
          | exact hopened (FileSystem.sameShape_of_openForUpdate hopen)

theorem keeps_writeFile (w : World) (number : Nat) (bytes : Bytes) :
    Keeps w (w.writeFile number bytes) := by
  rw [writeFile]
  split
  · exact .refl w
  · exact ⟨rfl, FileSystem.sameShape_setContent _ _ _⟩

theorem keeps_of_write {c : Channel} {bytes rest : Bytes} (h : w.write c bytes = .taken w' rest) :
    Keeps w w' := by
  cases c with
  | file number =>
    obtain ⟨rfl, -⟩ := Written.taken.inj h
    exact keeps_writeFile w number bytes
  | terminalOutput | terminalError =>
    obtain ⟨rfl, -⟩ := Written.taken.inj h
    exact .of_same rfl rfl
  | device d =>
    cases d <;> simp only [write] at h
    case full =>
      split at h
      · obtain ⟨rfl, -⟩ := Written.taken.inj h
        exact .refl w
      · cases h
    all_goals
      obtain ⟨rfl, -⟩ := Written.taken.inj h
      exact .refl w
  | pipeWriter n =>
    simp only [write] at h
    repeat' split at h
    all_goals cases h
    all_goals exact .of_same rfl rfl
  | terminalInput | pipeReader n => cases h

/-- What is written to a sink leaves the machine in place. -/
theorem keeps_of_sinkWrite {sink sink' : Sink} {bytes : Bytes}
    (h : sink.write w bytes = .ok (sink', w')) : Keeps w w' := by
  cases sink with
  | buffer collected =>
    obtain ⟨-, rfl⟩ := Prod.mk.inj (Except.ok.inj h)
    exact .refl w
  | channel c =>
    simp only [Sink.write] at h
    split at h
    next hw =>
      obtain ⟨-, rfl⟩ := Prod.mk.inj (Except.ok.inj h)
      exact keeps_of_write hw
    next => cases h
    all_goals
      obtain ⟨-, rfl⟩ := Prod.mk.inj (Except.ok.inj h)
      exact .refl w

theorem keeps_of_read {c : Channel} {limit : Nat} {bytes : Bytes}
    (h : w.read c limit = some (.ok (bytes, w'))) : Keeps w w' := by
  cases c with
  | terminalInput =>
    obtain ⟨-, rfl⟩ := Prod.mk.inj (Except.ok.inj (Option.some.inj h))
    exact .of_same rfl rfl
  | device d =>
    cases d <;>
      obtain ⟨-, rfl⟩ := Prod.mk.inj (Except.ok.inj (Option.some.inj h)) <;> exact .refl w
  | file number | pipeReader number =>
    simp only [read] at h
    repeat' split at h
    all_goals cases h
    all_goals exact .of_same rfl rfl
  | terminalOutput | terminalError | pipeWriter n => cases h

theorem keeps_unread (w : World) (c : Channel) (bytes : Bytes) : Keeps w (w.unread c bytes) := by
  cases c <;> try exact .refl w
  case terminalInput => exact .of_same rfl rfl
  case file number =>
    rw [unread]
    split <;> exact .of_same rfl rfl

/-- What a request makes of the machine, if it makes anything of it, is in place. -/
def Outcome.Keeps (w : World) : Outcome → Prop
  | .answered _ w' => w.Keeps w'
  | .pending _ w' => w.Keeps w'
  | .blocked => True
  | .ends _ => True
  | .becomes _ => True

/-- **A request of a process keeps the shape of the files.** -/
theorem keeps_perform (w : World) (process : Nat) (p : Process) (request : Call) :
    (w.perform process p request).Keeps w := by
  have hsame : ∀ {reply}, (Outcome.answered reply w).Keeps w := Keeps.refl w
  cases request with
  | read fd limit =>
    simp only [perform]
    split
    next => exact hsame
    next =>
      split
      next => trivial
      next hr => exact keeps_of_read hr
      next => exact hsame
  | unread fd bytes =>
    simp only [perform]
    split
    next c _ => exact keeps_unread w c bytes
    next => exact hsame
  | write fd bytes =>
    simp only [perform]
    split
    next => exact hsame
    next =>
      split
      next hw => exact keeps_of_write hw
      next hw => exact keeps_of_write hw
      next => trivial
      next => exact hsame
      next =>
        split
        next => exact hsame
        next => exact Keeps.of_same rfl rfl
        next => trivial
  | openFile fd path access =>
    simp only [perform]
    split
    next => exact hsame
    next text _ =>
      rcases ho : w.openNext p text access with fault | ⟨c, w'⟩
      · exact hsame
      · simp only [openNext, bind, Except.bind] at ho
        split at ho
        next => cases ho
        next hopen =>
          obtain ⟨rfl, rfl⟩ := Prod.mk.inj (Except.ok.inj ho)
          exact (keeps_of_openFor hopen).same rfl rfl
  | copy | changeDirectory | isHeard | sleepUntil | await | signal | become =>
    simp only [perform]
    repeat' split
    all_goals first | exact hsame | exact Keeps.of_same rfl rfl | trivial
  | sleep => exact Keeps.refl w
  | exit | sleepForever => trivial
  | _ => exact Keeps.of_same rfl rfl

/-- **A process that goes on keeps it.** -/
theorem keeps_step {process : Nat} (h : w.step process = some w') : Keeps w w' := by
  simp only [step] at h
  split at h
  next => cases h
  next p _ =>
    split at h
    next => cases h
    next =>
      obtain rfl := Option.some.inj h
      exact .of_same rfl rfl
    next request _ _ =>
      have hperform := keeps_perform w process p request
      split at h
      next hr =>
        obtain rfl := Option.some.inj h
        rw [hr] at hperform
        exact Keeps.same hperform rfl rfl
      next hr =>
        obtain rfl := Option.some.inj h
        rw [hr] at hperform
        exact Keeps.same hperform rfl rfl
      next => cases h
      all_goals
        obtain rfl := Option.some.inj h
        exact .of_same rfl rfl

/-! ## 2. What the shell does for a stage -/

theorem keeps_of_openOutlet {directory : String} {first : Nat} {stream : Stream}
    {redirection : Option Redirection} {c : Channel}
    (h : w.openOutlet directory first stream redirection = .ok (c, w')) : Keeps w w' := by
  cases redirection with
  | none =>
    obtain ⟨-, rfl⟩ := Prod.mk.inj (Except.ok.inj h)
    exact .refl w
  | some r =>
    obtain ⟨target, files, hopen, -, rfl⟩ := openOutlet_some_iff.mp h
    exact ⟨rfl, FileSystem.sameShape_of_openForWriting hopen⟩

/-- No file is touched, and the shell stays where it is. -/
structure LeavesFiles (w w' : World) : Prop where
  directory : w'.directory = w.directory
  files : w'.files = w.files

namespace LeavesFiles

theorem trans (h : LeavesFiles w w') (h' : LeavesFiles w' w'') : LeavesFiles w w'' :=
  ⟨h'.directory.trans h.directory, h'.files.trans h.files⟩

theorem keeps (h : LeavesFiles w w') : Keeps w w' := .of_same h.directory h.files

end LeavesFiles

theorem leavesFiles_hand (w : World) (upstream : Upstream) (holder : PipeHolder) :
    LeavesFiles w (w.hand upstream holder) := by
  cases upstream <;> exact ⟨rfl, rfl⟩

theorem leavesFiles_outlet (w : World) (stdout : Option Channel) :
    LeavesFiles w (w.outlet stdout).2.2 := by
  cases stdout <;> exact ⟨rfl, rfl⟩

theorem leavesFiles_inlet (w : World) (upstream : Upstream) :
    LeavesFiles w (w.inlet upstream).2 := by
  cases upstream <;> exact ⟨rfl, rfl⟩

theorem leavesFiles_of_launch {l : Launch} {process : Nat} (h : w.launch l = some (process, w')) :
    LeavesFiles w w' := by
  obtain ⟨-, p, -, -, rfl⟩ := exists_of_launch h
  exact ⟨rfl, rfl⟩

end World

namespace Action

theorem keeps_openOutlet (first : Nat) (stream : Stream) (redirection : Option Redirection)
    (s : Session) :
    s.world.Keeps ((openOutlet first stream redirection).run.run s).2.world := by
  rw [run_openOutlet]
  split
  next h => exact World.keeps_of_openOutlet h
  next => exact .refl s.world

/-- Opening the streams of a stage leaves the machine in place, also when they cannot be opened. -/
theorem keeps_openStreams (stage : Stage) (isLast : Bool) (s : Session) :
    s.world.Keeps ((openStreams stage isLast).run.run s).2.world := by
  refine related_bind (R := fun s s' : Session => s.world.Keeps s'.world) .trans
    (.of_same rfl rfl) fun first s₁ _ =>
      related_bind (R := fun s s' : Session => s.world.Keeps s'.world) .trans
        (keeps_openOutlet _ _ _ s₁) fun stderr s₂ _ => ?_
  cases isLast with
  | false => exact .refl s₂.world
  | true =>
    exact related_bind (R := fun s s' : Session => s.world.Keeps s'.world) .trans
      (keeps_openOutlet _ _ _ s₂) fun _ s₃ _ => .refl s₃.world

end Action

/-! ## 3. Pipelines -/

namespace Pipeline

variable {first st st' : State} {log : List Entry}

/-- **Between two stages the machine stays in place.** -/
theorem keeps_of_after? {e : Event} (he : e ≠ .begin) (h : st.after? e = some st') :
    st.session.world.Keeps st'.session.world := by
  cases e with
  | begin => exact absurd rfl he
  | register =>
    simp only [State.after?, Option.ite_none_left_eq_some, not_or, Option.some.injEq] at h
    obtain ⟨⟨hw, -⟩, rfl⟩ := h
    obtain ⟨stage, waiting, hw⟩ := List.exists_cons_of_ne_nil hw
    rw [register_eq hw]
    exact .refl _
  | work process =>
    simp only [State.after?, Option.map_eq_some_iff] at h
    obtain ⟨w, hw, rfl⟩ := h
    exact World.keeps_step hw
  | interrupt process | elapse duration =>
    obtain rfl := Option.some.inj h
    exact .of_same rfl rfl
  | terminate stage process | settle stage process =>
    simp only [State.after?, Option.ite_none_right_eq_some, Option.some.injEq] at h
    obtain ⟨-, rfl⟩ := h
    exact .of_same rfl rfl

/-- Since the last stage of a log was begun, the machine has stayed in place. -/
theorem Run.keeps (h : Run first log st) :
    (lastSession first.session log).world.Keeps st.session.world := by
  induction h with
  | start => exact .refl _
  | began _ hp =>
    rw [lastSession_concat, session_begin hp]
    exact .refl _
  | passed _ he hs ih => exact ih.trans (keeps_of_after? he hs)

end Pipeline
end CommandShell
