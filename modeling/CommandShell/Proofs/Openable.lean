/-
# Targets that can be opened

Whether the target of a redirection can be opened is a question about the shape of the files and
about the directories that the shell and its machine are in (`Session.canOpen`).  So it is answered
alike under any number, and before and after other targets were opened.

The streams of a command are opened one after the other.  If all targets can be opened they are, in
any order (`exists_openAll`); otherwise it stops at the first one that cannot be (`StopsAt`), and
nothing but files was changed before (`World.Opens`).
-/
import CommandShell.Proofs.Refusal
import CommandShell.Proofs.Steadiness

namespace CommandShell

open CommandShell.Action

namespace World

variable {w w' w'' : World} {directory : String} {first : Nat} {stage : Stage} {stream : Stream}
  {r : Redirection}

/-! ## 1. One target -/

/-- Whether the target of a redirection can be opened. -/
def canOpen (w : World) (directory : String) (r : Redirection) : Bool :=
  (w.openAs 0 w.directory (Path.join directory r.target) (.write r.mode)).isOk

/-- The number under which a file is opened is not what keeps it from being opened. -/
theorem isSome_channelTo (number number' : Nat) (target : Target) :
    (channelTo number target).isSome = (channelTo number' target).isSome := by
  cases target with
  | file => rfl
  | device d => cases d <;> rfl

/-- **When a target can be opened:** its path leads to a file that can be written, or to a device
that the shell has. -/
theorem isOk_openAs (number : Nat) :
    (w.openAs number w.directory (Path.join directory r.target) (.write r.mode)).isOk = true ↔
      ∃ loc, w.files.locateForCreation w.directory (Path.join directory r.target) = .ok loc ∧
        (channelTo 0 (w.files.targetAt loc)).isSome = true := by
  constructor
  · intro h
    rcases ho : w.openAs number w.directory (Path.join directory r.target) (.write r.mode) with
      fault | ⟨c, w'⟩
    · rw [ho] at h
      cases h
    · obtain ⟨target, files, hopen, hc, -⟩ := openAs_eq_ok_iff.mp ho
      obtain ⟨loc, hloc, rfl, -⟩ := FileSystem.openForWriting_eq_ok hopen
      exact ⟨loc, hloc, by rw [isSome_channelTo 0 number, hc]; rfl⟩
  · rintro ⟨loc, hloc, hchannel⟩
    rw [isSome_channelTo 0 number] at hchannel
    obtain ⟨c, hc⟩ := Option.isSome_iff_exists.mp hchannel
    obtain ⟨files, hopen, -⟩ := FileSystem.exists_openForWriting r.mode hloc
    rw [openAs_eq_ok_iff.mpr ⟨_, files, hopen, hc, rfl⟩]
    rfl

/-- **A target can be opened as long as the files keep their shape.** -/
theorem canOpen_of_keeps (h : w.Keeps w') (directory : String) (r : Redirection) :
    w'.canOpen directory r = w.canOpen directory r := by
  rw [Bool.eq_iff_iff, canOpen, canOpen, isOk_openAs, isOk_openAs, h.directory]
  simp only [FileSystem.locateForCreation_iff h.files, FileSystem.targetAt_of_sameShape h.files]

theorem exists_openOutlet (first : Nat) (stream : Stream) (h : w.canOpen directory r = true) :
    ∃ c w', w.openOutlet directory first stream (some r) = .ok (c, w') := by
  have hok := (isOk_openAs (w := w) (outletNumber first stream)).mpr ((isOk_openAs 0).mp h)
  rcases ho : w.openAs (outletNumber first stream) w.directory (Path.join directory r.target)
    (.write r.mode) with fault | ⟨c, w'⟩
  · rw [ho] at hok
    cases hok
  · exact ⟨c, w', by simp [openOutlet, ho, Except.mapError]⟩

theorem canOpen_of_openOutlet {c : Channel}
    (h : w.openOutlet directory first stream (some r) = .ok (c, w')) :
    w.canOpen directory r = true := by
  rw [canOpen, isOk_openAs, ← isOk_openAs (outletNumber first stream)]
  rw [openOutlet] at h
  rcases ho : w.openAs (outletNumber first stream) w.directory (Path.join directory r.target)
    (.write r.mode) with fault | opened
  · simp [ho, Except.mapError] at h
  · rfl

/-- A stream that is not opened has a target that cannot be, and that is the failure. -/
theorem exists_of_openOutlet_error {redirection : Option Redirection} {f : Failure}
    (h : w.openOutlet directory first stream redirection = .error f) :
    ∃ r fault, redirection = some r ∧ f = .redirection r.target fault ∧
      w.canOpen directory r = false := by
  cases redirection with
  | none => cases h
  | some r =>
    have hcannot : w.canOpen directory r = false := by
      rw [Bool.eq_false_iff]
      intro hcan
      obtain ⟨c, w', hopen⟩ := exists_openOutlet first stream hcan
      cases h.symm.trans hopen
    rw [openOutlet] at h
    rcases ho : w.openAs (outletNumber first stream) w.directory (Path.join directory r.target)
      (.write r.mode) with fault | opened
    · rw [ho] at h
      exact ⟨r, fault, rfl, (Except.error.inj h).symm, hcannot⟩
    · simp [ho, Except.mapError] at h

/-! ## 2. Several streams -/

/-- Only files are opened, and created or emptied for that. -/
structure Opens (w w' : World) : Prop where
  rest : w' = { w with files := w'.files, openFiles := w'.openFiles, nextFile := w'.nextFile }
  files : w.files.SameShape w'.files

namespace Opens

theorem refl (w : World) : w.Opens w := ⟨rfl, .refl _⟩

theorem trans (h : w.Opens w') (h' : w'.Opens w'') : w.Opens w'' where
  rest := by
    rw [h'.rest, h.rest]
  files := h.files.trans h'.files

theorem keeps (h : w.Opens w') : w.Keeps w' := ⟨by rw [h.rest], h.files⟩

theorem processes (h : w.Opens w') : w'.processes = w.processes := by rw [h.rest]

theorem terminal (h : w.Opens w') : w'.terminal = w.terminal := by rw [h.rest]

end Opens

theorem opens_of_openOutlet {redirection : Option Redirection} {c : Channel}
    (h : w.openOutlet directory first stream redirection = .ok (c, w')) : w.Opens w' := by
  cases redirection with
  | none =>
    obtain ⟨-, rfl⟩ := Prod.mk.inj (Except.ok.inj h)
    exact .refl w
  | some r =>
    obtain ⟨target, files, hopen, -, rfl⟩ := openOutlet_some_iff.mp h
    exact ⟨rfl, FileSystem.sameShape_of_openForWriting hopen⟩

/-- **What opening several streams does:** their targets could be opened, and only files are. -/
theorem opens_of_openAll {streams : List Stream} {channels : List (Stream × Channel)}
    (h : w.openAll directory first stage streams = .ok (channels, w')) :
    w.Opens w' ∧ ∀ stream ∈ streams, ∀ r, stage.redirection? stream = some r →
      w.canOpen directory r = true := by
  induction streams generalizing w channels with
  | nil =>
    obtain ⟨-, rfl⟩ := Prod.mk.inj (Except.ok.inj h)
    exact ⟨.refl w, nofun⟩
  | cons stream rest ih =>
    rw [openAll] at h
    split at h
    · cases h
    next c w₁ hopen =>
      split at h
      · cases h
      next opened w₂ hrest =>
        obtain ⟨-, rfl⟩ := Prod.mk.inj (Except.ok.inj h)
        obtain ⟨hopens, hcan⟩ := ih hrest
        have hfirst := opens_of_openOutlet hopen
        refine ⟨hfirst.trans hopens, List.forall_mem_cons.mpr ⟨fun r hr => ?_, ?_⟩⟩
        · rw [hr] at hopen
          exact canOpen_of_openOutlet hopen
        · intro other hother r hr
          rw [← canOpen_of_keeps hfirst.keeps]
          exact hcan other hother r hr

/-- **Streams whose targets can all be opened are opened**, in any order. -/
theorem exists_openAll (first : Nat) {streams : List Stream}
    (h : ∀ stream ∈ streams, ∀ r, stage.redirection? stream = some r →
      w.canOpen directory r = true) :
    ∃ channels w', w.openAll directory first stage streams = .ok (channels, w') := by
  induction streams generalizing w with
  | nil => exact ⟨[], w, rfl⟩
  | cons stream rest ih =>
    obtain ⟨hfirst, hrest⟩ := List.forall_mem_cons.mp h
    obtain ⟨c, w₁, hopen⟩ : ∃ c w₁,
        w.openOutlet directory first stream (stage.redirection? stream) = .ok (c, w₁) := by
      cases hr : stage.redirection? stream with
      | none => exact ⟨_, w, rfl⟩
      | some r => exact exists_openOutlet first stream (hfirst r hr)
    have hkeeps := (opens_of_openOutlet hopen).keeps
    obtain ⟨channels, w', hopened⟩ := ih (w := w₁) fun other hother r hr => by
      rw [canOpen_of_keeps hkeeps]
      exact hrest other hother r hr
    exact ⟨(stream, c) :: channels, w', by simp only [openAll, hopen, hopened]⟩

end World

/-! ## 3. The streams of a command -/

/-- The targets of some streams of a stage, in the order of the streams. -/
def Stage.targets (stage : Stage) (streams : List Stream) : List Redirection :=
  streams.filterMap stage.redirection?

/-- Whether the target of a redirection can be opened in a session. -/
def Session.canOpen (s : Session) (r : Redirection) : Bool := s.world.canOpen s.env.directory r

namespace Session

variable {s s' : Session} {stage : Stage} {streams : List Stream} {r : Redirection} {fault : Fault}
  {f : Failure}

theorem canOpen_of_keeps (hdirectory : s'.env.directory = s.env.directory)
    (hkeeps : s.world.Keeps s'.world) (r : Redirection) : s'.canOpen r = s.canOpen r := by
  rw [canOpen, canOpen, hdirectory, World.canOpen_of_keeps hkeeps]

theorem opens_numbered (w : World) : w.Opens { w with nextFile := w.nextFile + 2 } :=
  ⟨rfl, .refl _⟩

/-- **What opening the streams of a command does.** -/
theorem opens_of_openAll {channels : List (Stream × Channel)} {w : World}
    (h : s.openAll stage streams = .ok (channels, w)) :
    s.world.Opens w ∧ ∀ stream ∈ streams, ∀ r, stage.redirection? stream = some r →
      s.canOpen r = true := by
  obtain ⟨hopens, hcan⟩ := World.opens_of_openAll h
  refine ⟨(opens_numbered s.world).trans hopens, fun stream hstream r hr => ?_⟩
  rw [canOpen, ← World.canOpen_of_keeps (opens_numbered s.world).keeps]
  exact hcan stream hstream r hr

/-- **Streams whose targets can all be opened are opened.** -/
theorem exists_openAll (h : ∀ stream ∈ streams, ∀ r, stage.redirection? stream = some r →
      s.canOpen r = true) : ∃ channels w, s.openAll stage streams = .ok (channels, w) :=
  World.exists_openAll s.world.nextFile fun stream hstream r hr => by
    rw [World.canOpen_of_keeps (opens_numbered s.world).keeps]
    exact h stream hstream r hr

/-- The streams are opened up to one whose target cannot be opened. -/
inductive StopsAt (s : Session) (stage : Stage) (streams : List Stream) (r : Redirection)
    (fault : Fault) : Session → Prop
  | intro (front : List Stream) (stream : Stream) (rest : List Stream)
      {channels : List (Stream × Channel)} {w : World}
      (hstreams : streams = front ++ stream :: rest)
      (hopened : s.openAll stage front = .ok (channels, w))
      (hr : stage.redirection? stream = some r) (hcannot : w.canOpen s.env.directory r = false) :
      StopsAt s stage streams r fault { s with world := w }

namespace StopsAt

variable (h : s.StopsAt stage streams r fault s')
include h

theorem env : s'.env = s.env := by
  cases h
  rfl

/-- What was changed is files that were opened before. -/
theorem opens : s.world.Opens s'.world := by
  cases h with
  | intro _ _ _ _ hopened => exact (opens_of_openAll hopened).1

/-- **It is the first target that cannot be opened.** -/
theorem find? : (stage.targets streams).find? (fun r => !s.canOpen r) = some r := by
  cases h with
  | @intro front stream rest channels w hstreams hopened hr hcannot =>
    obtain ⟨hopens, hcan⟩ := opens_of_openAll hopened
    rw [World.canOpen_of_keeps hopens.keeps] at hcannot
    have hfront : (stage.targets front).find? (fun r => !s.canOpen r) = none := by
      simp only [List.find?_eq_none, Stage.targets, List.mem_filterMap]
      rintro r' ⟨stream', hstream', hr'⟩
      simp [hcan stream' hstream' r' hr']
    rw [Stage.targets, hstreams, List.filterMap_append, List.find?_append, ← Stage.targets, hfront,
      List.filterMap_cons_some hr, Option.none_or]
    exact List.find?_cons_of_pos (by simpa [canOpen] using hcannot)

end StopsAt

/-- **Both streams of a single command are opened up to a target that cannot be.** -/
theorem stopsAt_of_openBoth (h : (openBoth stage).run.run s = (.error f, s')) :
    ∃ r fault, f = .redirection r.target fault ∧
      s.StopsAt stage [.stdout, .stderr] r fault s' := by
  simp only [openBoth, run_bind, run_takeNumbers, run_openOutlet] at h
  rcases hout : { s.world with nextFile := s.world.nextFile + 2 }.openOutlet s.env.directory
    s.world.nextFile .stdout stage.stdout with f' | ⟨stdout, w₁⟩
  · simp only [hout] at h
    obtain ⟨hf, rfl⟩ := Prod.mk.inj h
    obtain ⟨r, fault, hr, rfl, hcannot⟩ := World.exists_of_openOutlet_error hout
    exact ⟨r, fault, (Except.error.inj hf).symm, .intro [] .stdout _ rfl rfl hr hcannot⟩
  · have hfront : s.openAll stage [.stdout] = .ok ([(.stdout, stdout)], w₁) := by
      simp only [openAll, World.openAll, Stage.redirection?, hout]
    simp only [hout] at h
    rcases herr : w₁.openOutlet s.env.directory s.world.nextFile .stderr stage.stderr with
      f' | ⟨stderr, w₂⟩
    · simp only [herr] at h
      obtain ⟨hf, rfl⟩ := Prod.mk.inj h
      obtain ⟨r, fault, hr, rfl, hcannot⟩ := World.exists_of_openOutlet_error herr
      exact ⟨r, fault, (Except.error.inj hf).symm,
        .intro [.stdout] .stderr _ rfl hfront hr hcannot⟩
    · simp only [herr] at h
      cases (Prod.mk.inj h).1

/-- **So are the streams of a stage.** -/
theorem stopsAt_of_openStreams {isLast : Bool}
    (h : (openStreams stage isLast).run.run s = (.error f, s')) :
    ∃ r fault, f = .redirection r.target fault ∧
      s.StopsAt stage (streamsOf isLast) r fault s' := by
  simp only [openStreams, run_bind, run_takeNumbers, run_openOutlet] at h
  rcases herr : { s.world with nextFile := s.world.nextFile + 2 }.openOutlet s.env.directory
    s.world.nextFile .stderr stage.stderr with f' | ⟨stderr, w₁⟩
  · simp only [herr] at h
    obtain ⟨hf, rfl⟩ := Prod.mk.inj h
    obtain ⟨r, fault, hr, rfl, hcannot⟩ := World.exists_of_openOutlet_error herr
    refine ⟨r, fault, (Except.error.inj hf).symm, ?_⟩
    cases isLast <;> exact .intro [] .stderr _ rfl rfl hr hcannot
  · have hfront : s.openAll stage [.stderr] = .ok ([(.stderr, stderr)], w₁) := by
      simp only [openAll, World.openAll, Stage.redirection?, herr]
    simp only [herr] at h
    cases isLast with
    | false => cases (Prod.mk.inj h).1
    | true =>
      simp only [if_true, run_bind, run_openOutlet] at h
      rcases hout : w₁.openOutlet s.env.directory s.world.nextFile .stdout stage.stdout with
        f' | ⟨stdout, w₂⟩
      · simp only [hout] at h
        obtain ⟨hf, rfl⟩ := Prod.mk.inj h
        obtain ⟨r, fault, hr, rfl, hcannot⟩ := World.exists_of_openOutlet_error hout
        exact ⟨r, fault, (Except.error.inj hf).symm,
          .intro [.stderr] .stdout _ rfl hfront hr hcannot⟩
      · simp only [hout] at h
        cases (Prod.mk.inj h).1

end Session
end CommandShell
