/-
# Who has the ends of pipes

A pipe has a number, and its ends are handed around: from the shell to a program that it starts, and
from one process to another.  No process ever has an end of a pipe that does not exist yet
(`World.IsSound`), so the ends of a new pipe are with those alone who were given them.

A stage that begins touches no pipe but the one that it reads from and those that it makes
(`World.Spares`).  A program that is started as a stage gets what it reads (`World.ReadsFrom`) and
what it writes to (`World.WritesTo`), and nobody else has its ends of these pipes.
-/
import CommandShell.Proofs.Execution

namespace CommandShell

/-! ## 1. Pipes and their ends -/

namespace World

variable {w w' w'' : World} {c : Channel} {n : Nat} {upstream : Upstream}

/-- No process has an end of a pipe that there is not. -/
def IsSound (w : World) : Prop := ∀ c n, c.pipe? = some n → w.Has c → n < w.pipes.length

/-- What the shell does with a pipe, if there is one of that number. -/
def holder? (w : World) (pipe : Nat) : Option PipeHolder := (w.pipes[pipe]?).map Pipe.holder

def descriptors? (w : World) (process : Nat) : Option (List (Nat × Channel)) :=
  (w.processes[process]?).map Process.descriptors

/-- One process, and no other, has a channel. -/
def HasAlone (w : World) (process : Nat) (c : Channel) : Prop :=
  ∀ i, (∃ p, w.processes[i]? = some p ∧ c ∈ p.channels) ↔ i = process

/-- The shell keeps a pipe that nobody else reads. -/
structure IsKept (w : World) (pipe : Nat) : Prop where
  holder : w.holder? pipe = some .keeps
  reader : ¬ w.Has (.pipeReader pipe)

theorem isSound_of_processes_nil (h : w.processes = []) : w.IsSound := fun c n _ ⟨p, hp, _⟩ => by
  simp [h] at hp

theorem lt_of_holder? {holder : PipeHolder} (h : w.holder? n = some holder) :
    n < w.pipes.length := by
  obtain ⟨p, hp, -⟩ := Option.map_eq_some_iff.mp h
  exact (List.getElem?_eq_some_iff.mp hp).1

theorem has_congr (h : w'.processes = w.processes) (c : Channel) : w'.Has c ↔ w.Has c := by
  rw [Has, Has, h]

/-- A new pipe is not known to anybody. -/
theorem IsSound.not_has (h : w.IsSound) (hc : c.pipe? = some n) (hn : w.pipes.length ≤ n) :
    ¬ w.Has c := fun hhas => Nat.not_lt_of_le hn (h c n hc hhas)

theorem IsSound.quiet (h : w.IsSound) (hq : w.Quiet w') : w'.IsSound := fun c n hc hhas => by
  rw [hq.pipes]
  exact h c n hc ((has_congr hq.processes c).mp hhas)

/-- **Reading a pipe to which nobody writes** never has to wait: it gives what is there, and the end
after that. -/
theorem exists_read (h : ¬ w.Has (.pipeWriter n)) (limit : Nat) :
    ∃ w', w.read (.pipeReader n) limit = some (.ok ((w.pipeContent n).take limit, w')) ∧
      w'.pipeContent n = (w.pipeContent n).drop limit := by
  have hwriter : w.hasWriter n = false := by
    rw [hasWriter, List.any_eq_false]
    intro p hp hholds
    simp only [Process.holds, Bool.and_eq_true, List.any_eq_true, beq_iff_eq] at hholds
    obtain ⟨-, d, hd, heq⟩ := hholds
    exact h ⟨p, hp, heq ▸ List.mem_map_of_mem hd⟩
  simp only [read]
  cases hp : w.pipes[n]? with
  | none => exact ⟨w, by simp [pipeContent, hp]⟩
  | some p =>
    by_cases hc : p.content = []
    · exact ⟨w, by simp [pipeContent, hp, hc, hwriter]⟩
    · let rest : Pipe := { p with content := p.content.drop limit }
      refine ⟨{ w with pipes := w.pipes.set n rest }, by simp [pipeContent, hp, hc, rest], ?_⟩
      obtain ⟨hlt, rfl⟩ := List.getElem?_eq_some_iff.mp hp
      simp [pipeContent, hlt, rest]

namespace Follows

theorem isSound (h : w.Follows w') (hs : w.IsSound) : w'.IsSound := fun c n hc hhas => by
  rcases h.ends c n hc hhas with hhas | ⟨-, hlt⟩
  · exact Nat.lt_of_lt_of_le (hs c n hc hhas) h.pipes
  · exact hlt

theorem holder?_eq (h : w.Follows w') {holder : PipeHolder} (hn : w.holder? n = some holder) :
    w'.holder? n = some holder := by
  obtain ⟨more, hmore⟩ := h.holders
  have hlt : n < (w.pipes.map Pipe.holder).length := by
    rw [List.length_map]
    exact lt_of_holder? hn
  rw [holder?, ← List.getElem?_map, ← hmore, List.getElem?_append_left hlt, List.getElem?_map]
  exact hn

theorem not_has (h : w.Follows w') (hc : c.pipe? = some n) (hn : n < w.pipes.length)
    (hhas : ¬ w.Has c) : ¬ w'.Has c := fun hhas' => by
  rcases h.ends c n hc hhas' with hhas' | ⟨hge, -⟩
  · exact hhas hhas'
  · omega

theorem isKept (h : w.Follows w') (hk : w.IsKept n) : w'.IsKept n :=
  ⟨h.holder?_eq hk.holder, h.not_has rfl (lt_of_holder? hk.holder) hk.reader⟩

end Follows

/-! ## 2. Handing a pipe over -/

@[simp] theorem length_pipes_hand (w : World) (upstream : Upstream) (holder : PipeHolder) :
    (w.hand upstream holder).pipes.length = w.pipes.length := by
  cases upstream <;> simp [hand, setHolder]

@[simp] theorem pipeContent_hand (w : World) (upstream : Upstream) (holder : PipeHolder) (n : Nat) :
    (w.hand upstream holder).pipeContent n = w.pipeContent n := by
  cases upstream with
  | pipe number =>
    simp only [pipeContent, hand, setHolder, List.getElem?_modify, Option.map_eq_map,
      Option.map_map]
    congr 2
    funext p
    simp only [Function.comp_apply]
    split <;> rfl
  | _ => rfl

@[simp] theorem input_hand (w : World) (upstream : Upstream) (holder : PipeHolder) :
    (w.hand upstream holder).terminal.input = w.terminal.input := by
  cases upstream <;> rfl

theorem holder?_hand (hn : n < w.pipes.length) (holder : PipeHolder) :
    (w.hand (.pipe n) holder).holder? n = some holder := by
  simp [holder?, hand, setHolder, hn]

theorem holder?_hand_of_ne (h : upstream ≠ .pipe n) (holder : PipeHolder) :
    (w.hand upstream holder).holder? n = w.holder? n := by
  cases upstream with
  | pipe number =>
    have hne : number ≠ n := fun heq => h (heq ▸ rfl)
    simp [holder?, hand, setHolder, hne]
  | _ => rfl

/-- What a stage leaves as it is that reads from upstream. -/
structure Spares (upstream : Upstream) (w w' : World) : Prop where
  pipes : w.pipes.length ≤ w'.pipes.length
  /-- An end of a pipe is given away only if it was read from, or if the pipe is new. -/
  ends : ∀ c n, c.pipe? = some n → w'.Has c →
    w.Has c ∨ upstream = .pipe n ∨ w.pipes.length ≤ n ∧ n < w'.pipes.length
  content : ∀ n < w.pipes.length, w'.pipeContent n = w.pipeContent n
  holder : ∀ n < w.pipes.length, upstream ≠ .pipe n → w'.holder? n = w.holder? n

namespace Spares

theorem trans (h : Spares upstream w w') (h' : Spares upstream w' w'') :
    Spares upstream w w'' where
  pipes := Nat.le_trans h.pipes h'.pipes
  ends c n hc hhas := by
    have hle := h.pipes
    have hle' := h'.pipes
    rcases h'.ends c n hc hhas with hhas | hup | hnew
    · refine (h.ends c n hc hhas).imp id (Or.imp id fun hnew => ?_)
      exact ⟨hnew.1, by omega⟩
    · exact .inr (.inl hup)
    · exact .inr (.inr ⟨by omega, hnew.2⟩)
  content n hn := (h'.content n (Nat.lt_of_lt_of_le hn h.pipes)).trans (h.content n hn)
  holder n hn hup := (h'.holder n (Nat.lt_of_lt_of_le hn h.pipes) hup).trans (h.holder n hn hup)

theorem of_quiet (h : w.Quiet w') : Spares upstream w w' where
  pipes := Nat.le_of_eq (by rw [h.pipes])
  ends c _ _ hhas := .inl ((has_congr h.processes c).mp hhas)
  content n _ := by rw [pipeContent, pipeContent, h.pipes]
  holder n _ _ := by rw [holder?, holder?, h.pipes]

theorem hand (w : World) (upstream : Upstream) (holder : PipeHolder) :
    Spares upstream w (w.hand upstream holder) where
  pipes := by simp
  ends c _ _ hhas := .inl ((has_congr (processes_hand w upstream holder) c).mp hhas)
  content n _ := pipeContent_hand w upstream holder n
  holder _ _ hup := holder?_hand_of_ne hup holder

/-- Handing over a pipe of its own. -/
theorem hand_new {own : Upstream} {holder : PipeHolder} (h : Spares upstream w w')
    (hown : ∀ n, own = .pipe n → w.pipes.length ≤ n) :
    Spares upstream w (w'.hand own holder) where
  pipes := by simpa using h.pipes
  ends c n hc hhas := by
    rw [has_congr (processes_hand w' own holder)] at hhas
    simpa using h.ends c n hc hhas
  content n hn := by simpa using h.content n hn
  holder n hn hup := by
    rw [holder?_hand_of_ne fun heq => Nat.not_lt_of_le (hown n heq) hn]
    exact h.holder n hn hup

theorem isSound (h : Spares upstream w w') (hs : w.IsSound)
    (hup : ∀ n, upstream = .pipe n → n < w.pipes.length) : w'.IsSound := fun c n hc hhas => by
  have hle := h.pipes
  rcases h.ends c n hc hhas with hhas | heq | hnew
  · have hlt := hs c n hc hhas
    omega
  · have hlt := hup n heq
    omega
  · exact hnew.2

end Spares

/-! ## 3. Starting a program -/

variable {opened : Option Channel} {stdin stdout stderr : Channel} {pipe : Option Nat}
  {w₁ w₂ : World} {p : Process}

theorem Spares.addPipes (w : World) (pipes : List Pipe) :
    Spares upstream w { w with pipes := w.pipes ++ pipes } where
  pipes := by simp
  ends _ _ _ hhas := .inl hhas
  content n hn := by rw [pipeContent, pipeContent, List.getElem?_append_left hn]
  holder n hn _ := by rw [holder?, holder?, List.getElem?_append_left hn]

/-- One process more, with ends of pipes that it may have. -/
theorem Spares.addProcess (h : Spares upstream w w')
    (hp : ∀ c n, c.pipe? = some n → c ∈ p.channels →
      upstream = .pipe n ∨ w.pipes.length ≤ n ∧ n < w'.pipes.length) :
    Spares upstream w { w' with processes := w'.processes ++ [p] } where
  pipes := h.pipes
  ends c n hc hhas := by
    obtain ⟨q, hq, hhas⟩ := hhas
    rcases List.mem_append.mp hq with hq | hq
    · exact h.ends c n hc ⟨q, hq, hhas⟩
    · obtain rfl := List.mem_singleton.mp hq
      exact .inr (hp c n hc hhas)
  content := h.content
  holder := h.holder

theorem spares_of_outlet (h : w.outlet opened = (stdout, pipe, w')) : Spares upstream w w' := by
  obtain rfl := congrArg (·.2.2) h
  cases opened with
  | none => exact .addPipes w _
  | some _ => exact .of_quiet (.refl w)

theorem spares_of_inlet (h : w.inlet upstream = (stdin, w')) : Spares upstream w w' := by
  obtain rfl := congrArg (·.2) h
  cases upstream with
  | bytes _ => exact .addPipes w _
  | _ => exact .of_quiet (.refl w)

/-- What a program writes to is what was opened, or a new pipe. -/
theorem pipe?_of_outlet (hopened : (Sink.ofOutput opened).pipe? = none)
    (h : w.outlet opened = (stdout, pipe, w')) (hn : stdout.pipe? = some n) :
    w.pipes.length ≤ n ∧ n < w'.pipes.length := by
  obtain rfl := congrArg (·.2.2) h
  obtain rfl := congrArg (·.1) h
  cases opened with
  | none =>
    obtain rfl := Option.some.inj hn
    simp [outlet, addPipe]
  | some c => cases hopened.symm.trans hn

/-- The pipe for the next stage, if there is one, is new. -/
theorem eq_of_outlet (h : w.outlet opened = (stdout, pipe, w')) (hn : pipe = some n) :
    w.pipes.length = n := by
  obtain rfl := congrArg (·.2.1) h
  cases opened with
  | none => exact Option.some.inj hn
  | some c => cases hn

/-- What a program reads is what was upstream, or a new pipe. -/
theorem pipe?_of_inlet (h : w.inlet upstream = (stdin, w')) (hn : stdin.pipe? = some n) :
    upstream = .pipe n ∨ w.pipes.length ≤ n ∧ n < w'.pipes.length := by
  obtain rfl := congrArg (·.2) h
  obtain rfl := congrArg (·.1) h
  cases upstream with
  | pipe m => exact .inl (congrArg Upstream.pipe (Option.some.inj hn))
  | bytes content =>
    obtain rfl := Option.some.inj hn
    simp [inlet, addPipe]
  | terminal => cases hn
  | closed => cases hn

/-- What a new process reads on a machine on which the pipes from the first one on are new. -/
inductive ReadsFrom (w : World) (first process : Nat) : Upstream → Channel → Prop
  | terminal : ReadsFrom w first process .terminal .terminalInput
  /-- The pipe of the program before it, which the shell lets go of. -/
  | pipe {n : Nat} (halone : w.HasAlone process (.pipeReader n))
      (hholder : w.holder? n = some .nobody) : ReadsFrom w first process (.pipe n) (.pipeReader n)
  /-- A new pipe that holds what a built-in command has written, and to which nobody writes. -/
  | bytes {content : Bytes} {n : Nat} (hnew : first ≤ n)
      (halone : w.HasAlone process (.pipeReader n)) (hholder : w.holder? n = some .nobody)
      (hcontent : w.pipeContent n = content) (hwriter : ¬ w.Has (.pipeWriter n)) :
      ReadsFrom w first process (.bytes content) (.pipeReader n)
  | closed : ReadsFrom w first process .closed (.device .null)

/-- What a new process writes to: what was opened for it, or the first new pipe, which the shell
keeps for the next stage. -/
inductive WritesTo (w : World) (first process : Nat) :
    Option Channel → Channel → Option Nat → Prop
  | opened (c : Channel) : WritesTo w first process (some c) c none
  | pipe (halone : w.HasAlone process (.pipeWriter first)) (hkept : w.IsKept first) :
      WritesTo w first process none (.pipeWriter first) (some first)

namespace ReadsFrom

variable {first process : Nat}

theorem eq_terminalInput_iff (h : w.ReadsFrom first process upstream stdin) :
    stdin = .terminalInput ↔ upstream = .terminal := by
  cases h <;> simp

/-- The shell has nothing to do any more with what a process reads. -/
theorem holder?_eq (h : w.ReadsFrom first process upstream (.pipeReader n)) :
    w.holder? n = some .nobody := by
  cases h <;> assumption

end ReadsFrom

theorem has_concat (h : w'.processes = w.processes ++ [p]) (c : Channel) :
    w'.Has c ↔ w.Has c ∨ c ∈ p.channels := by
  simp [Has, h, or_and_right, exists_or]

/-- What nobody had is only with a new process. -/
theorem hasAlone_concat (h : w'.processes = w.processes ++ [p])
    (hc : c ∈ p.channels) (hnot : ¬ w.Has c) : w'.HasAlone w.processes.length c := fun i => by
  rw [h]
  constructor
  · rintro ⟨q, hq, hcq⟩
    by_contra hne
    have hlt : i < w.processes.length := by
      have hlt' := (List.getElem?_eq_some_iff.mp hq).1
      rw [List.length_append, List.length_singleton] at hlt'
      omega
    rw [List.getElem?_append_left hlt] at hq
    exact hnot ⟨q, List.mem_of_getElem? hq, hcq⟩
  · rintro rfl
    exact ⟨p, by simp, hc⟩

/-- A program is started on a machine, with pipes for what it reads and what it writes. -/
structure Starts (w : World) (upstream : Upstream) (opened : Option Channel)
    (stdin stdout stderr : Channel) (pipe : Option Nat) (p : Process) (w' : World) : Prop where
  hopened : (Sink.ofOutput opened).pipe? = none
  hstderr : stderr.pipe? = none
  descriptors : p.descriptors = [(0, stdin), (1, stdout), (2, stderr)]
  after : ∃ w₁ w₂, w.outlet opened = (stdout, pipe, w₁) ∧ w₁.inlet upstream = (stdin, w₂) ∧
    w' = { w₂ with processes := w₂.processes ++ [p] }.hand upstream .nobody

namespace Starts

theorem mem_channels (h : w.Starts upstream opened stdin stdout stderr pipe p w') :
    c ∈ p.channels ↔ c = stdin ∨ c = stdout ∨ c = stderr := by
  simp [Process.channels, h.descriptors]

theorem processes (h : w.Starts upstream opened stdin stdout stderr pipe p w') :
    w'.processes = w.processes ++ [p] := by
  obtain ⟨w₁, w₂, houtput, hinput, rfl⟩ := h.after
  rw [processes_hand]
  exact congrArg (· ++ [p]) (processes_of_inlet houtput hinput)

theorem spares (h : w.Starts upstream opened stdin stdout stderr pipe p w') :
    Spares upstream w w' := by
  obtain ⟨w₁, w₂, houtput, hinput, rfl⟩ := h.after
  have hout : Spares upstream w w₁ := spares_of_outlet houtput
  have hin : Spares upstream w₁ w₂ := spares_of_inlet hinput
  refine Spares.trans (Spares.addProcess (hout.trans hin) fun c n hc hmem => ?_)
    (.hand _ upstream .nobody)
  have hle := hout.pipes
  have hle' := hin.pipes
  rcases h.mem_channels.mp hmem with rfl | rfl | rfl
  · exact (pipe?_of_inlet hinput hc).imp id fun hnew => ⟨by omega, hnew.2⟩
  · have hnew := pipe?_of_outlet h.hopened houtput hc
    exact .inr ⟨hnew.1, by omega⟩
  · cases h.hstderr.symm.trans hc

theorem descriptors?_eq (h : w.Starts upstream opened stdin stdout stderr pipe p w') :
    w'.descriptors? w.processes.length = some [(0, stdin), (1, stdout), (2, stderr)] := by
  simp [World.descriptors?, h.processes, h.descriptors]

/-- **What the program reads.** -/
theorem readsFrom (h : w.Starts upstream opened stdin stdout stderr pipe p w') (hs : w.IsSound)
    (hkept : ∀ n, upstream = .pipe n → w.IsKept n) :
    w'.ReadsFrom w.pipes.length w.processes.length upstream stdin := by
  have hprocesses := h.processes
  have hmem : stdin ∈ p.channels := h.mem_channels.mpr (.inl rfl)
  obtain ⟨w₁, w₂, houtput, hinput, rfl⟩ := h.after
  have hle := (spares_of_outlet houtput : Spares .closed w w₁).pipes
  obtain rfl := congrArg (·.1) hinput
  obtain rfl := congrArg (·.2) hinput
  cases upstream with
  | terminal => exact .terminal
  | closed => exact .closed
  | pipe n =>
    have hn := lt_of_holder? (hkept n rfl).holder
    exact .pipe (hasAlone_concat hprocesses hmem (hkept n rfl).reader)
      (holder?_hand (Nat.lt_of_lt_of_le hn hle) .nobody)
  | bytes content =>
    refine .bytes hle (hasAlone_concat hprocesses hmem (hs.not_has rfl hle)) ?_ ?_ fun hhas => ?_
    · simp [holder?, hand, inlet, addPipe]
    · simp [pipeContent, hand, inlet, addPipe]
    -- The other pipe that the program may write to has another number.
    · rcases (has_concat hprocesses _).mp hhas with hhas | hhas
      · exact hs.not_has rfl hle hhas
      · rcases h.mem_channels.mp hhas with heq | heq | heq
        · cases heq
        · have hnew := pipe?_of_outlet h.hopened houtput (congrArg Channel.pipe? heq.symm)
          omega
        · cases h.hstderr.symm.trans (congrArg Channel.pipe? heq.symm)

/-- **What the program writes to.** -/
theorem writesTo (h : w.Starts upstream opened stdin stdout stderr pipe p w') (hs : w.IsSound)
    (hkept : ∀ n, upstream = .pipe n → w.IsKept n) :
    w'.WritesTo w.pipes.length w.processes.length opened stdout pipe := by
  have hprocesses := h.processes
  have hmem : stdout ∈ p.channels := h.mem_channels.mpr (.inr (.inl rfl))
  obtain ⟨w₁, w₂, houtput, hinput, rfl⟩ := h.after
  obtain rfl := congrArg (·.1) houtput
  obtain rfl := congrArg (·.2.1) houtput
  obtain rfl := congrArg (·.2.2) houtput
  cases opened with
  | some c => exact .opened c
  | none =>
    have hup : upstream ≠ .pipe w.pipes.length := fun heq =>
      Nat.lt_irrefl _ (lt_of_holder? (hkept _ heq).holder)
    have hlt : w.pipes.length < (w.outlet none).2.2.pipes.length := by simp [outlet, addPipe]
    refine .pipe (hasAlone_concat hprocesses hmem (hs.not_has rfl (Nat.le_refl _))) ⟨?_, ?_⟩
    · rw [holder?_hand_of_ne hup]
      refine ((spares_of_inlet hinput).holder _ hlt hup).trans ?_
      simp [holder?, outlet, addPipe]
    · intro hhas
      rcases (has_concat hprocesses _).mp hhas with hhas | hhas
      · exact hs.not_has rfl (Nat.le_refl _) hhas
      · rcases h.mem_channels.mp hhas with heq | heq | heq
        · rcases pipe?_of_inlet hinput (congrArg Channel.pipe? heq.symm) with hpipe | hnew
          · exact hup hpipe
          · omega
        · cases heq
        · cases h.hstderr.symm.trans (congrArg Channel.pipe? heq.symm)

end Starts

end World

/-! ## 4. Beginning a stage -/

theorem eq_some_of_ofPipe {pipe : Option Nat} {n : Nat} (h : Upstream.ofPipe pipe = .pipe n) :
    pipe = some n := by
  cases pipe with
  | none => cases h
  | some m => exact congrArg some (Upstream.pipe.inj h)

namespace Stage.Begins

open World

variable {stage : Stage} {isLast : Bool} {upstream : Upstream} {s s' : Session}
  {result : Except Failure Beginning} {process : Nat} {pipe : Option Nat}

/-- A program that is started is that of a command which is not built in. -/
theorem exists_program (h : stage.Begins isLast upstream s (.ok (.started process pipe)) s') :
    Builtin.lookup stage.name stage.args = none ∧
      ∃ program, (s.resolve stage.name).1 = some program := by
  cases h with
  | started hb hresolve => exact ⟨hb, _, hresolve⟩

/-- **How the program of a stage is started.** -/
theorem starts (h : stage.Begins isLast upstream s (.ok (.started process pipe)) s') :
    ∃ stderr opened stdin stdout p w, stage.Opens (s.resolve stage.name).2 isLast stderr opened w ∧
      s.world.Quiet w ∧ process = w.processes.length ∧
      w.Starts upstream opened stdin stdout stderr pipe p s'.world := by
  cases h with
  | @started program stderr stdout stdin opened s₁ _ _ w₁ w₂ w₃ hb hresolve hopen houtput hinput
      hlaunch =>
    obtain ⟨-, hopens⟩ := opens_of_openStreams hopen
    obtain ⟨hstderr, hopened⟩ := hopens.pipe?_eq_none
    obtain ⟨rfl, p, -, hp, rfl⟩ := exists_of_launch hlaunch
    have hstarts : s₁.world.Starts upstream opened stdin stdout stderr pipe p
        ({ w₂ with processes := w₂.processes ++ [p] }.hand upstream .nobody) :=
      ⟨hopened, hstderr, hp, w₁, w₂, houtput, hinput, rfl⟩
    exact ⟨stderr, opened, stdin, stdout, p, s₁.world, hopens, (quiet_of_openStreams hopen).world,
      congrArg List.length (processes_of_inlet houtput hinput), hstarts⟩

/-- **A stage touches no pipe** but the one that it reads from and those that it makes. -/
theorem spares (h : stage.Begins isLast upstream s result s') :
    Spares upstream s.world s'.world := by
  have hopened : ∀ {s s₁ : Session} {isLast : Bool} {r : Except Failure (Channel × Option Channel)},
      (Action.openStreams stage isLast).run.run s = (r, s₁) → Spares upstream s.world s₁.world :=
    fun hopen => .of_quiet (quiet_of_openStreams hopen).world
  cases h with
  | builtin hb hopen hrun | builtinFailed hb hopen hrun =>
    exact (Spares.hand s.world upstream .drains).trans (.of_quiet (quiet_of_run hopen hrun))
  | builtinUnopened hb hopen =>
    exact (Spares.hand s.world upstream .drains).trans (hopened hopen)
  | missing hb hresolve hopen hreport | missingUnreported hb hresolve hopen hreport =>
    exact (Spares.hand s.world upstream .nobody).trans
      (.of_quiet (quiet_of_reportMissing hopen hreport).world)
  | missingUnopened hb hresolve hopen =>
    exact (Spares.hand s.world upstream .nobody).trans (hopened hopen)
  | programUnopened hb hresolve hopen => exact (hopened hopen).trans (.hand _ upstream .nobody)
  | started hb hresolve hopen houtput hinput hlaunch =>
    have hstarted := started hb hresolve hopen houtput hinput hlaunch
    obtain ⟨_, _, _, _, _, _, -, hquiet, -, hstarts⟩ := starts hstarted
    exact (Spares.of_quiet hquiet).trans hstarts.spares
  | @unstarted program stderr stdout stdin opened s₁ pipe w₁ w₂ hb hresolve hopen houtput hinput =>
    have hmade := (hopened hopen).trans ((spares_of_outlet houtput).trans (spares_of_inlet hinput))
    refine (hmade.trans (.hand w₂ upstream .nobody)).hand_new fun n hn => ?_
    -- The pipe that it would have written to is new.
    rw [← eq_of_outlet houtput (eq_some_of_ofPipe hn)]
    exact (hopened hopen).pipes

/-- A program that could not be started leaves the pipe that it would have read to nobody. -/
theorem holder?_of_unstarted {n : Nat} (h : stage.Begins isLast (.pipe n) s (.ok .unstarted) s')
    (hn : n < s.world.pipes.length) : s'.world.holder? n = some .nobody := by
  cases h with
  | @unstarted program stderr stdout stdin opened s₁ pipe w₁ w₂ hb hresolve hopen houtput hinput =>
    have hquiet : s.world.Quiet s₁.world := (quiet_of_openStreams hopen).world
    have hmade : Spares (.pipe n) s.world w₂ :=
      (Spares.of_quiet hquiet).trans ((spares_of_outlet houtput).trans (spares_of_inlet hinput))
    have hne : Upstream.ofPipe pipe ≠ .pipe n := fun heq => by
      have hnew := eq_of_outlet houtput (eq_some_of_ofPipe heq)
      rw [hquiet.pipes] at hnew
      exact Nat.ne_of_gt hn hnew
    rw [holder?_hand_of_ne hne, holder?_hand (Nat.lt_of_lt_of_le hn hmade.pipes)]

end Stage.Begins

/-! ## 5. Single commands -/

/-- **A single command gets no end of a pipe.** -/
theorem Stage.BeginsAlone.isSound {stage : Stage} {s s' : Session}
    {result : Except Failure (Option Nat)} (h : stage.BeginsAlone s result s')
    (hs : s.world.IsSound) : s'.world.IsSound := by
  rcases h.world with hquiet | ⟨w, p, hquiet, hp, hs'⟩
  · exact hs.quiet hquiet
  · rw [hs']
    refine ((World.Follows.refl w).addProcess fun c n hc hmem => ?_).isSound (hs.quiet hquiet)
    cases (hp c hmem).symm.trans hc

end CommandShell
