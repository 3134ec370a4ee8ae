/-
# What goes on on a machine

The processes of a machine go on by requests of their own (`World.step`), are killed, and wait for
the clock.  However that goes, a process that has ended stays as it is, pipes stay in the shell's
hands as they were, and an end of a pipe is only passed on: a process has it from another one, or
made the pipe (`World.Follows`).

What the shell does with files, and what it writes to the terminal, touches neither processes nor
pipes, and reads nothing (`World.Quiet`).
-/
import CommandShell.Engine.Outlet
import CommandShell.Engine.Wait
import Mathlib.Data.List.Basic
import Mathlib.Tactic.SplitIfs

namespace CommandShell

/-- The pipe that a channel is an end of. -/
def Channel.pipe? : Channel → Option Nat
  | .pipeReader n => some n
  | .pipeWriter n => some n
  | _ => none

namespace World

variable {w w' w'' : World}

/-! ## 1. Files and the terminal -/

/-- Nothing happens to processes and pipes, and nothing is read from the terminal. -/
structure Quiet (w w' : World) : Prop where
  processes : w'.processes = w.processes
  pipes : w'.pipes = w.pipes
  input : w'.terminal.input = w.terminal.input

theorem Quiet.refl (w : World) : Quiet w w := ⟨rfl, rfl, rfl⟩

theorem Quiet.trans (h : Quiet w w') (h' : Quiet w' w'') : Quiet w w'' :=
  ⟨h'.processes.trans h.processes, h'.pipes.trans h.pipes, h'.input.trans h.input⟩

/-- Opening a file is quiet, and gives no end of a pipe that the one who opens it does not have. -/
theorem quiet_of_openFor {own : Nat → Option Channel} {number : Nat} {base : Location}
    {path : String} {access : Access} {c : Channel}
    (h : w.openFor own number base path access = .ok (c, w')) :
    Quiet w w' ∧ (c.pipe? = none ∨ ∃ fd, own fd = some c) := by
  cases access
  all_goals
    simp only [openFor, bind, Except.bind] at h
    split at h
    next => cases h
    -- What is opened is a channel that is there already, another device, or a file.
    next =>
      split at h
      next =>
        split at h
        next hown =>
          obtain ⟨rfl, rfl⟩ := Prod.mk.inj (Except.ok.inj h)
          exact ⟨⟨rfl, rfl, rfl⟩, .inr ⟨_, hown⟩⟩
        next => cases h
      all_goals
        obtain ⟨rfl, rfl⟩ := Prod.mk.inj (Except.ok.inj h)
        exact ⟨⟨rfl, rfl, rfl⟩, .inl rfl⟩

/-- Opening the target of a redirection is quiet, and gives no end of a pipe. -/
theorem quiet_of_openOutlet {directory : String} {first : Nat} {stream : Stream}
    {redirection : Option Redirection} {c : Channel}
    (h : w.openOutlet directory first stream redirection = .ok (c, w')) :
    Quiet w w' ∧ c.pipe? = none := by
  cases redirection with
  | none =>
    obtain ⟨rfl, rfl⟩ := Prod.mk.inj (Except.ok.inj h)
    cases stream <;> exact ⟨.refl w, rfl⟩
  | some r =>
    simp only [openOutlet] at h
    rcases ho : w.openAs (outletNumber first stream) w.directory (Path.join directory r.target)
      (.write r.mode) with fault | ⟨c', w''⟩
    · simp [ho, Except.mapError] at h
    · obtain ⟨rfl, rfl⟩ : c' = c ∧ w'' = w' := by simpa [ho, Except.mapError] using h
      obtain ⟨hquiet, hend⟩ := quiet_of_openFor ho
      refine ⟨hquiet, hend.elim id fun ⟨fd, hfd⟩ => ?_⟩
      match fd, hfd with
      | 0, rfl => rfl
      | 1, rfl => rfl
      | 2, rfl => rfl

/-- Writing to anything but a pipe is quiet. -/
theorem quiet_of_write {c : Channel} (hc : c.pipe? = none) {bytes rest : Bytes}
    (h : w.write c bytes = .taken w' rest) : Quiet w w' := by
  cases c with
  | pipeReader n => cases hc
  | pipeWriter n => cases hc
  | terminalInput => cases h
  | device d =>
    cases d <;> simp only [write] at h
    case full =>
      split at h
      · obtain ⟨rfl, -⟩ := Written.taken.inj h
        exact .refl w
      · cases h
    all_goals
      obtain ⟨rfl, -⟩ := Written.taken.inj h
      exact .refl w
  | file number =>
    obtain ⟨rfl, -⟩ := Written.taken.inj h
    rw [writeFile]
    split <;> exact ⟨rfl, rfl, rfl⟩
  | terminalOutput | terminalError =>
    obtain ⟨rfl, -⟩ := Written.taken.inj h
    exact ⟨rfl, rfl, rfl⟩

end World

namespace Sink

def pipe? : Sink → Option Nat
  | .channel c => c.pipe?
  | .buffer _ => none

/-- A sink with more bytes in it, if it keeps them. -/
def plus : Sink → Bytes → Sink
  | .channel c, _ => .channel c
  | .buffer collected, bytes => .buffer (collected ++ bytes)

@[simp] theorem plus_nil (sink : Sink) : sink.plus [] = sink := by
  cases sink <;> simp [plus]

@[simp] theorem plus_plus (sink : Sink) (bytes more : Bytes) :
    (sink.plus bytes).plus more = sink.plus (bytes ++ more) := by
  cases sink <;> simp [plus]

/-- What becomes of a sink that is written to. -/
theorem eq_of_write {w w' : World} {sink sink' : Sink} {bytes : Bytes}
    (h : sink.write w bytes = .ok (sink', w')) : sink' = sink.plus bytes := by
  cases sink with
  | buffer collected => exact (Prod.mk.inj (Except.ok.inj h)).1.symm
  | channel c =>
    simp only [write] at h
    split at h
    · exact (Prod.mk.inj (Except.ok.inj h)).1.symm
    · cases h
    all_goals exact (Prod.mk.inj (Except.ok.inj h)).1.symm

theorem quiet_of_write {w w' : World} {sink sink' : Sink} {bytes : Bytes}
    (h : sink.write w bytes = .ok (sink', w')) (hend : sink.pipe? = none) : w.Quiet w' := by
  cases sink with
  | buffer collected =>
    obtain ⟨-, rfl⟩ := Prod.mk.inj (Except.ok.inj h)
    exact .refl w
  | channel c =>
    simp only [write] at h
    split at h
    next hw =>
      obtain ⟨-, rfl⟩ := Prod.mk.inj (Except.ok.inj h)
      exact World.quiet_of_write hend hw
    next => cases h
    all_goals
      obtain ⟨-, rfl⟩ := Prod.mk.inj (Except.ok.inj h)
      exact .refl w

end Sink

/-! ## 2. Processes among themselves -/

def Process.channels (p : Process) : List Channel := p.descriptors.map Prod.snd

namespace Process

variable {p : Process} {c : Channel}

theorem channel?_mem {fd : Nat} (h : p.channel? fd = some c) : c ∈ p.channels := by
  rw [channel?, List.lookup_eq_some_iff] at h
  obtain ⟨before, after, hsplit, -⟩ := h
  simp [channels, hsplit]

theorem mem_channels_setChannel {fd : Nat} {new : Channel}
    (h : c ∈ (p.setChannel fd new).channels) : c = new ∨ c ∈ p.channels := by
  simp only [channels, setChannel, List.map_cons, List.mem_cons] at h
  refine h.imp id fun h => ?_
  exact List.map_subset _ (List.filter_subset_self _) h

theorem mem_channels_dropChannel {fd : Nat} (h : c ∈ (p.dropChannel fd).channels) :
    c ∈ p.channels := List.map_subset _ (List.filter_subset_self _) h

end Process

namespace World

variable {w w' w'' : World}

def Has (w : World) (c : Channel) : Prop := ∃ p ∈ w.processes, c ∈ p.channels

/-- A process of a machine on which one was changed. -/
theorem of_mem_updateProcess {process : Nat} {f : Process → Process} {p : Process}
    (h : p ∈ (w.updateProcess process f).processes) :
    p ∈ w.processes ∨ ∃ q, w.processes[process]? = some q ∧ p = f q := by
  obtain ⟨i, hi⟩ := List.getElem?_of_mem h
  rw [updateProcess, List.getElem?_modify, Option.map_eq_map, Option.map_eq_some_iff] at hi
  obtain ⟨q, hq, rfl⟩ := hi
  by_cases hip : process = i
  · subst hip
    exact .inr ⟨q, hq, if_pos rfl⟩
  · rw [if_neg hip]
    exact .inl (List.mem_of_getElem? hq)

def pipeContent (w : World) (pipe : Nat) : Bytes := ((w.pipes[pipe]?).map Pipe.content).getD []

/-- What can have become of a machine when its processes went on. -/
structure Follows (w w' : World) : Prop where
  /-- A process that has ended stays so. -/
  status : ∀ q n, w.statusOf? q = some n → w'.statusOf? q = some n
  processes : w.processes.length ≤ w'.processes.length
  /-- What the shell does with pipes stays the same. -/
  holders : w.pipes.map Pipe.holder <+: w'.pipes.map Pipe.holder
  /-- An end of a pipe is passed on, or is that of a new pipe. -/
  ends : ∀ c n, c.pipe? = some n → w'.Has c → w.Has c ∨ w.pipes.length ≤ n ∧ n < w'.pipes.length
  /-- A pipe that nobody can write to is only read. -/
  content : ∀ n, n < w.pipes.length → ¬ w.Has (.pipeWriter n) →
    w'.pipeContent n <:+ w.pipeContent n

namespace Follows

theorem pipes (h : Follows w w') : w.pipes.length ≤ w'.pipes.length := by
  simpa using h.holders.length_le

theorem of_eq (hp : w'.processes = w.processes)
    (hh : w'.pipes.map Pipe.holder = w.pipes.map Pipe.holder)
    (hc : ∀ n, ¬ w.Has (.pipeWriter n) → w'.pipeContent n <:+ w.pipeContent n) : Follows w w' where
  status q n hq := by simpa [statusOf?, hp] using hq
  processes := Nat.le_of_eq (by rw [hp])
  holders := hh ▸ List.prefix_rfl
  ends c n _ hc := .inl (by simpa [Has, hp] using hc)
  content n _ := hc n

theorem of_same (hprocesses : w'.processes = w.processes) (hpipes : w'.pipes = w.pipes) :
    Follows w w' :=
  .of_eq hprocesses (by rw [hpipes]) fun n _ => by
    rw [pipeContent, hpipes]
    exact List.suffix_rfl

theorem of_quiet (h : Quiet w w') : Follows w w' := .of_same h.processes h.pipes

theorem refl (w : World) : Follows w w := .of_same rfl rfl

theorem trans (h : Follows w w') (h' : Follows w' w'') : Follows w w'' where
  status q n hq := h'.status q n (h.status q n hq)
  processes := Nat.le_trans h.processes h'.processes
  holders := h.holders.trans h'.holders
  ends c n hn hc := by
    have hle := h.pipes
    have hle' := h'.pipes
    rcases h'.ends c n hn hc with hc | hnew
    · exact (h.ends c n hn hc).imp id fun hnew => ⟨hnew.1, by omega⟩
    · exact .inr ⟨by omega, hnew.2⟩
  content n hlt hc := by
    have hlt' : n < w'.pipes.length := Nat.lt_of_lt_of_le hlt h.pipes
    refine (h'.content n hlt' fun hc' => ?_).trans (h.content n hlt hc)
    rcases h.ends _ n rfl hc' with hc' | hnew
    · exact hc hc'
    · omega

/-- A process that still runs is changed. -/
theorem update {process : Nat} {f : Process → Process} (h : Follows w w')
    (hrun : w.statusOf? process = none)
    (hf : ∀ p, w'.processes[process]? = some p → ∀ c n, c.pipe? = some n → c ∈ (f p).channels →
      c ∈ p.channels ∨ w.Has c ∨ w.pipes.length ≤ n ∧ n < w'.pipes.length) :
    Follows w (w'.updateProcess process f) where
  status q n hq := by
    have hne : process ≠ q := by
      rintro rfl
      simp [hrun] at hq
    have hq' := h.status q n hq
    simpa [statusOf?, updateProcess, List.getElem?_modify, hne] using hq'
  processes := by simpa [updateProcess] using h.processes
  holders := h.holders
  ends c n hn hc := by
    obtain ⟨p, hp, hc⟩ := hc
    rcases of_mem_updateProcess hp with hp | ⟨q, hq, rfl⟩
    · exact h.ends c n hn ⟨p, hp, hc⟩
    · rcases hf q hq c n hn hc with hc | hc
      · exact h.ends c n hn ⟨q, List.mem_of_getElem? hq, hc⟩
      · exact hc
  content := h.content

/-- The change leaves it no channel that it did not have. -/
theorem update_of_subset {process : Nat} {f : Process → Process} (h : Follows w w')
    (hrun : w.statusOf? process = none) (hf : ∀ p, (f p).channels ⊆ p.channels) :
    Follows w (w'.updateProcess process f) :=
  h.update hrun fun p _ _ _ _ hc => .inl (hf p hc)

/-- The change gives it one channel more. -/
theorem update_setChannel {process fd : Nat} {new : Channel} (h : Follows w w')
    (hrun : w.statusOf? process = none) (hnew : new.pipe? = none ∨ w.Has new) :
    Follows w (w'.updateProcess process (·.setChannel fd new)) := by
  refine h.update hrun fun p _ c n hn hc => ?_
  rcases Process.mem_channels_setChannel hc with rfl | hc
  · rcases hnew with hnone | hhas
    · simp [hnone] at hn
    · exact .inr (.inl hhas)
  · exact .inl hc

theorem addProcess {q : Process} (h : Follows w w')
    (hq : ∀ c n, c.pipe? = some n → c ∈ q.channels → w.Has c) :
    Follows w { w' with processes := w'.processes ++ [q] } where
  status i n hi := by
    have hi' := h.status i n hi
    have hlt : i < w'.processes.length := by
      by_contra hge
      simp [statusOf?, List.getElem?_eq_none (Nat.le_of_not_lt hge)] at hi'
    simpa [statusOf?, List.getElem?_append_left hlt] using hi'
  processes := by
    have hle := h.processes
    simp only [List.length_append, List.length_singleton]
    omega
  holders := h.holders
  ends c n hn hc := by
    obtain ⟨p, hp, hc⟩ := hc
    rcases List.mem_append.mp hp with hp | hp
    · exact h.ends c n hn ⟨p, hp, hc⟩
    · obtain rfl := List.mem_singleton.mp hp
      exact .inl (hq c n hn hc)
  content := h.content

/-- One pipe more, which the shell does not have. -/
theorem addPipe (w : World) : Follows w { w with pipes := w.pipes ++ [Pipe.mk [] .nobody] } where
  status _ _ h := h
  processes := Nat.le_refl _
  holders := by
    rw [List.map_append]
    exact List.prefix_append _ _
  ends _ _ _ hc := .inl hc
  content n hlt _ := by
    rw [pipeContent, List.getElem?_append_left hlt]
    exact List.suffix_rfl

/-- The content of one pipe changes; nothing is added if nobody can write to it. -/
theorem setContent {pipe : Nat} {p : Pipe} {content : Bytes} (hp : w.pipes[pipe]? = some p)
    (hc : w.Has (.pipeWriter pipe) ∨ content <:+ p.content) :
    Follows w { w with pipes := w.pipes.set pipe { p with content } } := by
  obtain ⟨hlt, rfl⟩ := List.getElem?_eq_some_iff.mp hp
  refine .of_eq rfl (List.ext_getElem? fun i => ?_) fun n hn => ?_
  · by_cases hi : pipe = i
    · subst hi
      simp [hlt]
    · simp [hi]
  · by_cases hi : pipe = n
    · subst hi
      simpa [pipeContent, hlt] using hc.resolve_left hn
    · simp [pipeContent, hi]

end Follows

/-! ## 3. One request -/

theorem follows_of_read {c : Channel} {limit : Nat} {bytes : Bytes}
    (h : w.read c limit = some (.ok (bytes, w'))) : Follows w w' := by
  cases c with
  | pipeReader n =>
    simp only [read] at h
    split at h
    next =>
      obtain ⟨-, rfl⟩ := Prod.mk.inj (Except.ok.inj (Option.some.inj h))
      exact .refl w
    next p hp =>
      split at h
      next =>
        split at h
        · cases h
        · obtain ⟨-, rfl⟩ := Prod.mk.inj (Except.ok.inj (Option.some.inj h))
          exact .refl w
      next =>
        obtain ⟨-, rfl⟩ := Prod.mk.inj (Except.ok.inj (Option.some.inj h))
        exact .setContent hp (.inr (List.drop_suffix _ _))
  | terminalInput =>
    obtain ⟨-, rfl⟩ := Prod.mk.inj (Except.ok.inj (Option.some.inj h))
    exact .of_same rfl rfl
  | device d =>
    cases d <;>
      obtain ⟨-, rfl⟩ := Prod.mk.inj (Except.ok.inj (Option.some.inj h)) <;> exact .refl w
  | file number =>
    simp only [read] at h
    split at h
    next =>
      obtain ⟨-, rfl⟩ := Prod.mk.inj (Except.ok.inj (Option.some.inj h))
      exact .refl w
    next =>
      split at h
      · cases h
      · obtain ⟨-, rfl⟩ := Prod.mk.inj (Except.ok.inj (Option.some.inj h))
        exact .of_same rfl rfl
  | terminalOutput | terminalError | pipeWriter n => cases h

theorem follows_unread (w : World) (c : Channel) (bytes : Bytes) :
    Follows w (w.unread c bytes) := by
  cases c <;> try exact .refl w
  case terminalInput => exact .of_same rfl rfl
  case file number =>
    rw [unread]
    split
    · exact .of_same rfl rfl
    · exact .refl w

/-- Writing to a channel that somebody has. -/
theorem follows_of_write {c : Channel} {bytes rest : Bytes} (hc : w.Has c)
    (h : w.write c bytes = .taken w' rest) : Follows w w' := by
  cases hpipe : c.pipe? with
  | none => exact .of_quiet (quiet_of_write hpipe h)
  | some n =>
    cases c with
    | pipeWriter n =>
      simp only [write] at h
      split at h
      next => cases h
      next p hp =>
        split_ifs at h
        · obtain ⟨rfl, -⟩ := Written.taken.inj h
          exact .refl w
        · obtain ⟨rfl, -⟩ := Written.taken.inj h
          exact .setContent hp (.inl hc)
    | pipeReader n => cases h
    | _ => cases hpipe

/-- What a request makes of the machine, if it makes anything of it, follows from what it was. -/
def Outcome.Follows (w : World) : Outcome → Prop
  | .answered _ w' => w.Follows w'
  | .pending _ w' => w.Follows w'
  | .blocked => True
  | .ends _ => True
  | .becomes _ => True

theorem statusOf?_of_isRunning {process : Nat} {p : Process} (hp : w.processes[process]? = some p)
    (hrun : p.isRunning = true) : w.statusOf? process = none := by
  obtain ⟨_ | _, _, _, _, _⟩ := p
  · simp [statusOf?, hp]
  · cases hrun

/-- A process that is born has what its parent has. -/
theorem mem_channels_of_inherit {p q : Process} (changes : List (Nat × Option Nat))
    (hq : q.descriptors = inherit p changes) : q.channels ⊆ p.channels := by
  rw [Process.channels, hq]
  refine List.foldlRecOn (motive := fun r : Process => r.channels ⊆ p.channels) changes _
    (fun _ h => h) fun r hr change _ c hc => ?_
  obtain ⟨fd, _ | source⟩ := change
  · exact hr (Process.mem_channels_dropChannel hc)
  · simp only at hc
    split at hc
    next new hnew =>
      rcases Process.mem_channels_setChannel hc with rfl | hc
      · exact Process.channel?_mem hnew
      · exact hr hc
    next => exact hr (Process.mem_channels_dropChannel hc)

theorem follows_signal {other : Nat} (number : Nat) (hrun : w.statusOf? other = none) :
    Follows w (w.signal other number) := by
  refine (Follows.refl w).update_of_subset hrun fun p => ?_
  have hsame : p.channels ⊆ p.channels := fun _ h => h
  have hended : ∀ status, (p.ended status).channels ⊆ p.channels := fun _ => List.nil_subset _
  split
  · exact hsame
  · split
    · exact hended _
    · split
      · exact hsame
      · exact hsame
      · split
        · exact hsame
        · exact hended _

/-- Opening a file is quiet, and a pipe can be opened only by a process that has it. -/
theorem quiet_of_openNext {p : Process} {text : String} {access : Access} {c : Channel}
    (h : w.openNext p text access = .ok (c, w')) :
    Quiet w w' ∧ (c.pipe? = none ∨ ∃ fd, p.channel? fd = some c) := by
  simp only [openNext, bind, Except.bind] at h
  split at h
  next => cases h
  next hopen =>
    obtain ⟨rfl, rfl⟩ := Prod.mk.inj (Except.ok.inj h)
    obtain ⟨hquiet, hend⟩ := quiet_of_openFor hopen
    exact ⟨⟨hquiet.processes, hquiet.pipes, hquiet.input⟩, hend⟩

/-- A new pipe, of which one process has both ends. -/
theorem follows_newPipe {process : Nat} (hrun : w.statusOf? process = none) (reader writer : Nat) :
    Follows w (updateProcess { w with pipes := w.pipes ++ [Pipe.mk [] .nobody] } process fun p =>
      (p.setChannel reader (.pipeReader w.pipes.length)).setChannel writer
        (.pipeWriter w.pipes.length)) := by
  refine (Follows.addPipe w).update hrun fun q _ c n hn hc => ?_
  have hnew : w.pipes.length < (w.pipes ++ [Pipe.mk [] .nobody]).length := by simp
  rcases Process.mem_channels_setChannel hc with rfl | hc
  · obtain rfl := Option.some.inj hn
    exact .inr (.inr ⟨Nat.le_refl _, hnew⟩)
  · rcases Process.mem_channels_setChannel hc with rfl | hc
    · obtain rfl := Option.some.inj hn
      exact .inr (.inr ⟨Nat.le_refl _, hnew⟩)
    · exact .inl hc

section Request

variable {process : Nat} {p : Process}

theorem has_of_channel? (hp : w.processes[process]? = some p) {fd : Nat} {c : Channel}
    (hc : p.channel? fd = some c) : w.Has c :=
  ⟨p, List.mem_of_getElem? hp, Process.channel?_mem hc⟩

theorem follows_perform_read (fd limit : Nat) :
    (w.perform process p (.read fd limit)).Follows w := by
  simp only [perform]
  split
  next => exact Follows.refl w
  next c hc =>
    split
    next => trivial
    next hr => exact follows_of_read hr
    next => exact Follows.refl w

/-- What a process writes may break a pipe, and it may wait to be told so. -/
theorem follows_perform_write (hp : w.processes[process]? = some p)
    (hrun : w.statusOf? process = none) (fd : Nat) (bytes : Bytes) :
    (w.perform process p (.write fd bytes)).Follows w := by
  simp only [perform]
  split
  next => exact Follows.refl w
  next c hc =>
    split
    next hw => exact follows_of_write (has_of_channel? hp hc) hw
    next hw => exact follows_of_write (has_of_channel? hp hc) hw
    next => trivial
    next => exact Follows.refl w
    next =>
      split
      next => exact Follows.refl w
      next => exact (Follows.refl w).update_of_subset hrun fun _ _ h => h
      next => trivial

theorem follows_perform_openFile (hp : w.processes[process]? = some p)
    (hrun : w.statusOf? process = none) (fd : Nat) (path : ByteText) (access : Access) :
    (w.perform process p (.openFile fd path access)).Follows w := by
  simp only [perform]
  split
  next => exact Follows.refl w
  next text _ =>
    rcases hopen : w.openNext p text access with fault | ⟨c, w'⟩
    · exact Follows.refl w
    · obtain ⟨hquiet, hend⟩ := quiet_of_openNext hopen
      exact (Follows.of_quiet hquiet).update_setChannel hrun
        (hend.imp id fun ⟨_, hc⟩ => has_of_channel? hp hc)

theorem follows_perform_changeDirectory (hrun : w.statusOf? process = none) (path : ByteText) :
    (w.perform process p (.changeDirectory path)).Follows w := by
  simp only [perform]
  split
  next => exact Follows.refl w
  next loc _ =>
    split
    · exact (Follows.refl w).update_of_subset hrun fun _ _ h => h
    · exact Follows.refl w

theorem follows_perform_signal (other number : Nat) :
    (w.perform process p (.signal other number)).Follows w := by
  simp only [perform]
  split
  next h =>
    obtain ⟨q, hq, hqrun⟩ : ∃ q, w.processes[other]? = some q ∧ q.isRunning = true := by
      simpa [Option.any_eq_true] using h
    exact follows_signal number (statusOf?_of_isRunning hq hqrun)
  next => exact Follows.refl w

/-- **What becomes of the machine by one request.** -/
theorem follows_perform (hp : w.processes[process]? = some p) (hrun : p.isRunning = true)
    (request : Call) : (w.perform process p request).Follows w := by
  have hstatus := statusOf?_of_isRunning hp hrun
  have hsame : ∀ {reply}, (Outcome.answered reply w).Follows w := Follows.refl w
  cases request with
  | read fd limit => exact follows_perform_read fd limit
  | unread fd bytes =>
    simp only [perform]
    split
    next c hc => exact follows_unread w c bytes
    next => exact hsame
  | write fd bytes => exact follows_perform_write hp hstatus fd bytes
  | openFile fd path access => exact follows_perform_openFile hp hstatus fd path access
  | copy source target =>
    simp only [perform]
    split
    next c hc =>
      exact (Follows.refl w).update_setChannel hstatus (.inr (has_of_channel? hp hc))
    next => exact hsame
  | close fd =>
    exact (Follows.refl w).update_of_subset hstatus fun _ _ h =>
      Process.mem_channels_dropChannel h
  | pipe reader writer => exact follows_newPipe hstatus reader writer
  | changeDirectory path => exact follows_perform_changeDirectory hstatus path
  | fork task changes =>
    refine (Follows.refl w).addProcess fun c n _ hc => ?_
    exact ⟨p, List.mem_of_getElem? hp, mem_channels_of_inherit changes rfl hc⟩
  | await other yielding =>
    simp only [perform]
    repeat' split
    all_goals first | exact hsame | trivial
  | signal other number => exact follows_perform_signal other number
  | sleepUntil time =>
    simp only [perform]
    split
    · exact hsame
    · trivial
  | onSignal number reaction =>
    exact (Follows.refl w).update_of_subset hstatus fun _ _ h => h
  | caught => exact (Follows.refl w).update_of_subset hstatus fun _ _ h => h
  | become path argv environment =>
    simp only [perform]
    split
    · trivial
    · exact hsame
  | sleep duration => exact Follows.refl w
  | exit status => trivial
  | sleepForever => trivial
  | _ => exact hsame

end Request

theorem setProcess_eq {process : Nat} {p : Process} (hp : w.processes[process]? = some p)
    (f : Process → Process) : w.setProcess process (f p) = w.updateProcess process f := by
  simp [setProcess, updateProcess, List.modify_eq_set_getElem?, hp]

/-- **What becomes of the machine when a process goes on.** -/
theorem follows_step {process : Nat} (h : w.step process = some w') : Follows w w' := by
  simp only [step] at h
  split at h
  next => cases h
  next p hp =>
    split at h
    next => cases h
    next activity hcond =>
      obtain rfl := Option.some.inj h
      have hrun : p.isRunning = true := by simp [Process.isRunning, hcond]
      rw [setProcess_eq hp fun p => { p with condition := .running activity.round }]
      exact (Follows.refl w).update_of_subset (statusOf?_of_isRunning hp hrun) fun _ _ h => h
    next request next hcond =>
      have hrun : p.isRunning = true := by simp [Process.isRunning, hcond]
      have hstatus := statusOf?_of_isRunning hp hrun
      have hperform := follows_perform hp hrun request
      split at h
      next hr =>
        obtain rfl := Option.some.inj h
        rw [hr] at hperform
        refine Follows.update_of_subset hperform hstatus fun q c hc => ?_
        split at hc
        · exact hc
        · exact hc
      next hr =>
        obtain rfl := Option.some.inj h
        rw [hr] at hperform
        exact Follows.update_of_subset hperform hstatus fun _ _ hc => hc
      next => cases h
      next =>
        obtain rfl := Option.some.inj h
        exact (Follows.refl w).update_of_subset hstatus fun _ => List.nil_subset _
      next =>
        obtain rfl := Option.some.inj h
        refine (Follows.refl w).update_of_subset hstatus fun q => ?_
        exact List.map_subset _ (List.filter_subset_self _)

theorem follows_kill (w : World) (process : Nat) : Follows w (w.kill process) := by
  cases hstatus : w.statusOf? process with
  | none =>
    refine (Follows.refl w).update_of_subset hstatus fun p => ?_
    split
    · exact List.nil_subset _
    · exact fun _ h => h
  | some status =>
    -- A process that has ended stays as it is.
    have hsame : w.kill process = w := by
      cases hp : w.processes[process]? with
      | none => simp [statusOf?, hp] at hstatus
      | some p =>
        have hrun : p.isRunning = false := by
          by_contra hrun
          simp [statusOf?_of_isRunning hp (by simpa using hrun)] at hstatus
        rw [kill, ← setProcess_eq hp]
        obtain ⟨hlt, rfl⟩ := List.getElem?_eq_some_iff.mp hp
        simp [setProcess, hrun]
    rw [hsame]
    exact .refl w

/-! ## 4. Many requests -/

section Related

variable {R : World → World → Prop} (hrefl : ∀ w, R w w)
  (htrans : ∀ {a b c}, R a b → R b c → R a c)
  (hstep : ∀ {process w w'}, w.step process = some w' → R w w')
include hrefl htrans hstep

/-- What is so of one request is so of a turn. -/
theorem related_turn (process : Nat) : ∀ (n : Nat) (w : World), R w (turn n process w).1
  | 0, w => hrefl w
  | n + 1, w => by
    rw [turn]
    split
    next => exact hrefl w
    next h =>
      split
      · exact hstep h
      · exact htrans (hstep h) (related_turn process n _)

theorem related_turns : ∀ (processes : List Nat) (w : World), R w (turns w processes).1
  | [], w => hrefl w
  | process :: rest, w =>
    htrans (related_turn hrefl htrans hstep process turnLength w) (related_turns rest _)

/-- **What is so of one request, and of time that passes, is so of a round.** -/
theorem related_advance
    (helapse : ∀ (w : World) (duration : Nat), R w { w with clock := w.clock + duration })
    (h : w.advance = some w') : R w w' := by
  have hturns := related_turns hrefl htrans hstep (List.range w.processes.length) w
  rcases hr : turns w (List.range w.processes.length) with ⟨after, moved⟩
  rw [hr] at hturns
  simp only [advance, hr] at h
  cases moved with
  | true =>
    obtain rfl := Option.some.inj h
    exact hturns
  | false =>
    obtain ⟨time, -, rfl⟩ := Option.map_eq_some_iff.mp h
    -- The clock is never put back.
    have hclock : max after.clock time = after.clock + (time - after.clock) := by omega
    rw [hclock]
    exact htrans hturns (helapse after (time - after.clock))

end Related

theorem follows_advance (h : w.advance = some w') : Follows w w' :=
  related_advance .refl .trans follows_step (fun _ _ => .of_same rfl rfl) h

/-- **What becomes of the machine while the shell waits.** -/
theorem follows_runUntil {happened : World → Bool} : ∀ {patience : Nat} {w : World},
    runUntil happened patience w = some w' → Follows w w'
  | 0, w, h => by
    obtain ⟨-, rfl⟩ : happened w = true ∧ w = w' := by simpa [runUntil] using h
    exact .refl w
  | patience + 1, w, h => by
    rw [runUntil] at h
    split at h
    · obtain rfl := Option.some.inj h
      exact .refl w
    · obtain ⟨after, hadvance, hrest⟩ := Option.bind_eq_some_iff.mp h
      exact (follows_advance hadvance).trans (follows_runUntil hrest)

end World
end CommandShell
