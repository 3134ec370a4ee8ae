/-
# In which order files are opened

Opening a file for writing creates or empties one file, and keeps the shape of the file system.  So
it does not matter in which order the two streams of a command are opened, as long as both can be
(`openOutlet_comm`), and what is opened does not depend on the terminal (`openOutlet_onTerminal`).

A single command opens its output first and a stage of a pipeline its error stream; the last stage
of a pipeline gets the same streams in the same session as a single command does
(`openBoth_of_openStreams`).
-/
import CommandShell.Proofs.Execution
import CommandShell.Proofs.Shape

namespace CommandShell

/-! ## 1. Files -/

namespace FileSystem

variable {fs fs₁ fs₂ : FileSystem} {base base' : Location} {path path' : String}
  {mode mode' : WriteMode} {target target' : Target} {loc : Location}

/-- What opening a file for writing makes of what is at its location. -/
def prepared (mode : WriteMode) : Option Node → Option Node
  | none => some (.file [] false)
  | some n =>
    match mode, n with
    | .append, n => some n
    | .overwrite, .file _ executable => some (.file [] executable)
    | .overwrite, .program _ => some (.file [] true)
    | .overwrite, n => some n

theorem prepared_comm (mode mode' : WriteMode) (n : Option Node) :
    prepared mode (prepared mode' n) = prepared mode' (prepared mode n) := by
  rcases n with _ | n
  · cases mode <;> cases mode' <;> rfl
  · cases n <;> cases mode <;> cases mode' <;> rfl

def targetAt (fs : FileSystem) (loc : Location) : Target :=
  match fs.node? loc with
  | some (.device d) => .device d
  | _ => .file loc

theorem targetAt_of_sameShape (h : fs.SameShape fs₁) : fs₁.targetAt loc = fs.targetAt loc := by
  unfold targetAt
  split
  next d hd => rw [h.symm.device hd]
  next hd =>
    split
    next d hd' => exact (hd d (h.device hd')).elim
    next => rfl

theorem node?_setContent (fs : FileSystem) (loc other : Location) (bytes : Bytes) :
    (fs.setContent loc bytes).node? other = if loc = other then
      match fs.node? loc with
      | none => some (.file bytes false)
      | some (.file _ executable) => some (.file bytes executable)
      | some (.program _) => some (.file bytes true)
      | some n => some n
    else fs.node? other := by
  unfold setContent
  by_cases h : loc = other
  · subst h
    rw [if_pos rfl]
    split <;> simp_all
  · rw [if_neg h]
    split
    · exact node?_set_of_ne fs _ h
    · exact node?_set_of_ne fs _ h
    · exact node?_set_of_ne fs _ h
    · rfl

theorem exists_openForWriting (mode : WriteMode) (h : fs.locateForCreation base path = .ok loc) :
    ∃ fs', fs.openForWriting base path mode = .ok (fs.targetAt loc, fs') ∧ ∀ other,
      fs'.node? other = if loc = other then prepared mode (fs.node? loc) else fs.node? other := by
  have hsame : ∀ {n : Node}, fs.node? loc = some n → ∀ other,
      fs.node? other = if loc = other then some n else fs.node? other := by
    intro n hn other
    split
    next heq => rw [← heq, hn]
    next => rfl
  simp only [openForWriting, h, bind, Except.bind, targetAt]
  rcases hn : fs.node? loc with _ | n
  · refine ⟨_, rfl, fun other => ?_⟩
    rw [node?_setContent, hn]
    cases mode <;> rfl
  · cases mode with
    | append => cases n <;> exact ⟨fs, rfl, hsame hn⟩
    | overwrite =>
      cases n with
      | device d => exact ⟨fs, rfl, hsame hn⟩
      | _ =>
        refine ⟨_, rfl, fun other => ?_⟩
        rw [node?_setContent, hn]
        rfl

theorem openForWriting_eq_ok (h : fs.openForWriting base path mode = .ok (target, fs₁)) :
    ∃ loc, fs.locateForCreation base path = .ok loc ∧ target = fs.targetAt loc ∧ ∀ other,
      fs₁.node? other = if loc = other then prepared mode (fs.node? loc) else fs.node? other := by
  rcases hloc : fs.locateForCreation base path with fault | loc
  · simp [openForWriting, hloc, bind, Except.bind] at h
  · obtain ⟨fs', hopen, hnodes⟩ := exists_openForWriting mode hloc
    obtain ⟨rfl, rfl⟩ := Prod.mk.inj (Except.ok.inj (h.symm.trans hopen))
    exact ⟨loc, rfl, rfl, hnodes⟩

/-- **Two files are opened in any order.** -/
theorem openForWriting_comm (h : fs.openForWriting base path mode = .ok (target, fs₁))
    (h' : fs₁.openForWriting base' path' mode' = .ok (target', fs₂)) :
    ∃ fs₁', fs.openForWriting base' path' mode' = .ok (target', fs₁') ∧
      fs₁'.openForWriting base path mode = .ok (target, fs₂) := by
  have hshape := sameShape_of_openForWriting h
  obtain ⟨loc, hloc, rfl, hnodes⟩ := openForWriting_eq_ok h
  obtain ⟨loc', hloc', rfl, hnodes'⟩ := openForWriting_eq_ok h'
  obtain ⟨fs₁', hfirst, hfirst'⟩ :=
    exists_openForWriting mode' ((locateForCreation_iff hshape).mp hloc')
  have hshape' := sameShape_of_openForWriting hfirst
  obtain ⟨fs₂', hsecond, hsecond'⟩ :=
    exists_openForWriting mode ((locateForCreation_iff hshape').mpr hloc)
  have hsame : fs₂' = fs₂ := by
    ext1 other
    rw [hsecond', hnodes', hfirst', hfirst', hnodes, hnodes]
    by_cases heq : loc = loc'
    · subst heq
      by_cases hother : loc = other
      · simp [hother, prepared_comm mode mode']
      · simp [hother]
    · by_cases hother : loc = other
      · subst hother
        simp [Ne.symm heq]
      · by_cases hother' : loc' = other
        · subst hother'
          simp [heq]
        · simp [hother, hother']
  rw [targetAt_of_sameShape hshape, targetAt_of_sameShape hshape'] at *
  exact ⟨fs₁', hfirst, by rw [hsecond, hsame]⟩

end FileSystem

/-! ## 2. Streams -/

namespace World

variable {w w₁ w₂ : World} {directory : String} {first : Nat} {c : Channel}

/-- The channel to what was opened under a number. -/
def channelTo (number : Nat) : Target → Option Channel
  | .file _ => some (.file number)
  | .device (.own fd) => standardChannel fd
  | .device d => some (.device d)

/-- The open files with the one that was opened under a number. -/
def openedAs (number : Nat) (append : Bool) (files : Std.ExtTreeMap Nat OpenFile) :
    Target → Std.ExtTreeMap Nat OpenFile
  | .file loc => files.insert number ⟨loc, 0, append⟩
  | .device _ => files

/-- What opening a file for writing does to the machine. -/
theorem openAs_eq_ok_iff {number : Nat} {base : Location} {path : String} {mode : WriteMode} :
    w.openAs number base path (.write mode) = .ok (c, w₁) ↔ ∃ target files,
      w.files.openForWriting base path mode = .ok (target, files) ∧
        channelTo number target = some c ∧
        w₁ = { w with
          files
          openFiles := openedAs number (mode == .append) w.openFiles target } := by
  simp only [openAs, openFor]
  rcases w.files.openForWriting base path mode with fault | ⟨target, files⟩
  · simp [bind, Except.bind]
  · simp only [bind, Except.bind, Except.ok.injEq, Prod.mk.injEq, and_assoc]
    constructor
    · intro h
      refine ⟨target, files, rfl, rfl, ?_⟩
      cases target with
      | file loc =>
        obtain ⟨rfl, rfl⟩ := Prod.mk.inj (Except.ok.inj h)
        exact ⟨rfl, rfl⟩
      | device d =>
        cases d with
        | own fd =>
          simp only at h
          split at h
          next c' hc =>
            obtain ⟨rfl, rfl⟩ := Prod.mk.inj (Except.ok.inj h)
            exact ⟨hc, rfl⟩
          next => cases h
        | null | full | zero =>
          obtain ⟨rfl, rfl⟩ := Prod.mk.inj (Except.ok.inj h)
          exact ⟨rfl, rfl⟩
    · rintro ⟨_, _, rfl, rfl, hc, rfl⟩
      cases target with
      | file loc =>
        obtain rfl := Option.some.inj hc
        rfl
      | device d =>
        cases d with
        | own fd =>
          simp only [channelTo] at hc
          simp only [hc, openedAs]
        | null | full | zero =>
          obtain rfl := Option.some.inj hc
          rfl

theorem openOutlet_some_iff {stream : Stream} {r : Redirection} :
    w.openOutlet directory first stream (some r) = .ok (c, w₁) ↔ ∃ target files,
      w.files.openForWriting w.directory (Path.join directory r.target) r.mode =
          .ok (target, files) ∧
        channelTo (outletNumber first stream) target = some c ∧
        w₁ = { w with
          files
          openFiles :=
            openedAs (outletNumber first stream) (r.mode == .append) w.openFiles target } := by
  rw [← openAs_eq_ok_iff, openOutlet]
  rcases w.openAs (outletNumber first stream) w.directory (Path.join directory r.target)
    (.write r.mode) with fault | opened <;> simp [Except.mapError]

theorem openedAs_comm {number number' : Nat} (h : number ≠ number') (append append' : Bool)
    (files : Std.ExtTreeMap Nat OpenFile) (target target' : Target) :
    openedAs number append (openedAs number' append' files target') target =
      openedAs number' append' (openedAs number append files target) target' := by
  cases target with
  | device => cases target' <;> rfl
  | file loc =>
    cases target' with
    | device => rfl
    | file loc' =>
      ext1 k
      simp only [openedAs, Std.ExtTreeMap.getElem?_insert, Std.compare_eq_iff_eq]
      by_cases hk : number = k
      · subst hk
        simp [Ne.symm h]
      · simp [hk]

/-- **The two streams of a command are opened in any order.** -/
theorem openOutlet_comm {stderr stdout : Channel} {r r' : Option Redirection}
    (h : w.openOutlet directory first .stderr r = .ok (stderr, w₁))
    (h' : w₁.openOutlet directory first .stdout r' = .ok (stdout, w₂)) :
    ∃ w₁', w.openOutlet directory first .stdout r' = .ok (stdout, w₁') ∧
      w₁'.openOutlet directory first .stderr r = .ok (stderr, w₂) := by
  cases r with
  | none =>
    obtain ⟨rfl, rfl⟩ := Prod.mk.inj (Except.ok.inj h)
    exact ⟨w₂, h', rfl⟩
  | some r =>
    cases r' with
    | none =>
      obtain ⟨rfl, rfl⟩ := Prod.mk.inj (Except.ok.inj h')
      exact ⟨w, rfl, h⟩
    | some r' =>
      obtain ⟨target, files, hopen, hc, rfl⟩ := openOutlet_some_iff.mp h
      obtain ⟨target', files', hopen', hc', rfl⟩ := openOutlet_some_iff.mp h'
      obtain ⟨between, hfirst, hsecond⟩ := FileSystem.openForWriting_comm hopen hopen'
      refine ⟨_, openOutlet_some_iff.mpr ⟨target', between, hfirst, hc', rfl⟩,
        openOutlet_some_iff.mpr ⟨target, files', hsecond, hc, ?_⟩⟩
      simp only [World.mk.injEq, true_and, and_true]
      exact openedAs_comm (by simp [outletNumber]) _ _ _ _ _

end World

/-! ## 3. A command alone and in a pipeline -/

/-- The stage as a command of its own: of its redirections only those count that would count in its
place in a pipeline. -/
def Stage.solo (stage : Stage) (isLast : Bool) : Stage :=
  if isLast then stage else { stage with stdout := none }

namespace Action

variable {stage : Stage} {isLast : Bool} {s s' : Session} {stderr : Channel}
  {stdout : Option Channel}

/-- **Alone a command gets the streams that it gets in a pipeline**, and the terminal in place of
the next stage. -/
theorem openBoth_of_openStreams
    (h : (openStreams stage isLast).run.run s = (.ok (stderr, stdout), s')) :
    (openBoth (stage.solo isLast)).run.run s = (.ok (stdout.getD .terminalOutput, stderr), s') := by
  obtain ⟨hs, hopens⟩ := Stage.opens_of_openStreams h
  rw [hs]
  generalize s'.world = w at hopens
  cases hopens with
  | last herror houtput =>
    obtain ⟨w₁', hout, herr⟩ := World.openOutlet_comm herror houtput
    simp only [openBoth, Stage.solo, if_true, run_bind, run_takeNumbers, run_openOutlet, hout, herr]
    rfl
  | other herror =>
    have hout : ∀ w : World, w.openOutlet s.env.directory s.world.nextFile .stdout none =
        .ok (.terminalOutput, w) := fun _ => rfl
    simp only [openBoth, Stage.solo, Bool.false_eq_true, if_false, run_bind, run_takeNumbers,
      run_openOutlet, hout, herror]
    rfl

end Action
end CommandShell
