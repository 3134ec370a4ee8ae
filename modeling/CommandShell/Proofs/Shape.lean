/-
# The shape of a file system

Writing files changes less than it may seem.  Where paths lead depends on directories, links and
devices, and which programs there are on who may run a file; what a file holds matters to neither,
and not even whether a file that nobody may run is there at all.  This is the shape of a file system
(`FileSystem.shape`).

Writing keeps it (`sameShape_setContent`), and so does opening a file for that.  So in two file
systems of one shape a path leads to the same directory or program, and is opened for writing at the
same location (`create_iff`, `isExecutable_eq`).
-/
import CommandShell.Proofs.Creation

namespace CommandShell

/-! ## 1. Shapes -/

/-- What there is to be seen of a location without reading files. -/
inductive Shape
  /-- Nothing, or a file that nobody may run. -/
  | plain
  /-- A file that may be run. -/
  | runnable
  | directory
  | link (target : String)
  | device (device : Device)
deriving DecidableEq

namespace FileSystem

def shape (fs : FileSystem) (loc : Location) : Shape :=
  match fs.node? loc with
  | none => .plain
  | some (.file _ executable) => if executable then .runnable else .plain
  | some (.program _) => .runnable
  | some .directory => .directory
  | some (.link target) => .link target
  | some (.device d) => .device d

/-- Two file systems have the same shape everywhere. -/
def SameShape (fs fs' : FileSystem) : Prop := ∀ loc, fs'.shape loc = fs.shape loc

variable {fs fs' fs'' : FileSystem} {loc result base : Location} {path : String}

theorem SameShape.refl (fs : FileSystem) : fs.SameShape fs := fun _ => rfl

theorem SameShape.symm (h : fs.SameShape fs') : fs'.SameShape fs := fun loc => (h loc).symm

theorem SameShape.trans (h : fs.SameShape fs') (h' : fs'.SameShape fs'') : fs.SameShape fs'' :=
  fun loc => (h' loc).trans (h loc)

theorem shape_eq_directory_iff : fs.shape loc = .directory ↔ fs.node? loc = some .directory := by
  unfold shape
  split <;> simp_all
  split <;> simp

theorem shape_eq_link_iff {target : String} :
    fs.shape loc = .link target ↔ fs.node? loc = some (.link target) := by
  unfold shape
  split <;> simp_all
  split <;> simp

theorem shape_eq_device_iff {d : Device} :
    fs.shape loc = .device d ↔ fs.node? loc = some (.device d) := by
  unfold shape
  split <;> simp_all
  split <;> simp

theorem shape_eq_runnable_iff :
    fs.shape loc = .runnable ↔ (fs.node? loc).any Node.isExecutable = true := by
  unfold shape
  split <;> simp_all [Node.isExecutable]

theorem shape_of_none (h : fs.node? loc = none) : fs.shape loc = .plain := by
  simp only [shape, h]

namespace SameShape

theorem directory (h : fs.SameShape fs') (hd : fs.node? loc = some .directory) :
    fs'.node? loc = some .directory :=
  shape_eq_directory_iff.mp ((h loc).trans (shape_eq_directory_iff.mpr hd))

theorem link (h : fs.SameShape fs') {target : String} (hl : fs.node? loc = some (.link target)) :
    fs'.node? loc = some (.link target) :=
  shape_eq_link_iff.mp ((h loc).trans (shape_eq_link_iff.mpr hl))

theorem device (h : fs.SameShape fs') {d : Device} (hd : fs.node? loc = some (.device d)) :
    fs'.node? loc = some (.device d) :=
  shape_eq_device_iff.mp ((h loc).trans (shape_eq_device_iff.mpr hd))

theorem isSome (h : fs.SameShape fs') (hs : fs.shape loc ≠ .plain) : (fs'.node? loc).isSome := by
  cases hn : fs'.node? loc with
  | none => exact absurd ((h loc).symm.trans (shape_of_none hn)) hs
  | some n => rfl

end SameShape

/-! ## 2. Following names -/

section Following

variable {follow follow' : Location → List String → Except OsError Location}

/-- Following one name that is not the last, or leads to something of a shape of its own. -/
theorem pass_of_sameShape {go go' : Location → Except OsError Location} {name : String}
    {rest : List String} (h : fs.SameShape fs')
    (hgo : ∀ next, go next = .ok result → fs.shape next ≠ .plain ∧ go' next = .ok result)
    (hfollow : ∀ next names, follow next names = .ok result → follow' next names = .ok result)
    (hpass : fs.pass follow go loc name rest = .ok result) :
    fs'.pass follow' go' loc name rest = .ok result := by
  simp only [pass] at hpass ⊢
  split_ifs at hpass ⊢
  · exact (hgo _ hpass).2
  · exact (hgo _ hpass).2
  · split at hpass
    next => cases hpass
    next target hlink =>
      simp only [h.link hlink]
      exact hfollow _ _ hpass
    next n hlink hn =>
      obtain ⟨n', hn'⟩ := Option.isSome_iff_exists.mp (h.isSome (hgo _ hpass).1)
      rw [hn']
      cases n' with
      | link target => exact (hlink target (Option.some.inj (hn.symm.trans (h.symm.link hn')))).elim
      | _ => exact (hgo _ hpass).2

/-- What names are followed from has a shape of its own, if what they lead to has one. -/
theorem shape_of_walkWith (hresult : fs.shape result ≠ .plain) {names : List String}
    (hwalk : fs.walkWith follow loc names = .ok result) : fs.shape loc ≠ .plain := by
  cases names with
  | nil => rwa [Except.ok.inj hwalk]
  | cons name rest =>
    rw [walkWith] at hwalk
    split at hwalk
    next hd => simp [shape_eq_directory_iff.mpr hd]
    next => cases hwalk
    next => cases hwalk

/-- What names of a file are followed from is a directory. -/
theorem shape_of_createWith {names : List String}
    (hcreate : fs.createWith follow loc names = .ok result) : fs.shape loc ≠ .plain := by
  cases names with
  | nil => cases hcreate
  | cons name rest =>
    rw [createWith] at hcreate
    split at hcreate
    next hd => simp [shape_eq_directory_iff.mpr hd]
    next => cases hcreate
    next => cases hcreate

end Following

/-- **Names that lead to something of a shape of its own** lead to it in every file system of that
shape. -/
theorem walk_of_sameShape (h : fs.SameShape fs') (hresult : fs.shape result ≠ .plain) :
    ∀ (links : Nat) {loc : Location} {names : List String},
      fs.walk links loc names = .ok result → fs'.walk links loc names = .ok result := by
  have hwith : ∀ {follow follow' : Location → List String → Except OsError Location},
      (∀ next names, follow next names = .ok result → follow' next names = .ok result) →
      ∀ (names : List String) {loc : Location}, fs.walkWith follow loc names = .ok result →
        fs'.walkWith follow' loc names = .ok result := by
    intro follow follow' hfollow names
    induction names with
    | nil =>
      intro loc hwalk
      exact hwalk
    | cons name rest ih =>
      intro loc hwalk
      rw [walkWith] at hwalk ⊢
      split at hwalk
      next hd =>
        simp only [h.directory hd]
        exact pass_of_sameShape h (fun _ hgo => ⟨shape_of_walkWith hresult hgo, ih hgo⟩) hfollow
          hwalk
      next => cases hwalk
      next => cases hwalk
  intro links
  induction links with
  | zero => exact fun {loc names} => hwith (fun _ _ hf => by cases hf) names
  | succ links ih => exact fun {loc names} => hwith (fun _ _ => ih) names

theorem createIn_of_sameShape {follow follow' : Location → List String → Except OsError Location}
    {name : String} {slashes : List String} (h : fs.SameShape fs')
    (hfollow : ∀ next names, follow next names = .ok result → follow' next names = .ok result)
    (hcreate : fs.createIn follow loc name slashes = .ok result) :
    fs'.createIn follow' loc name slashes = .ok result := by
  simp only [createIn] at hcreate ⊢
  split_ifs at hcreate ⊢
  split at hcreate
  next => cases hcreate
  next target hlink =>
    simp only [h.link hlink]
    exact hfollow _ _ hcreate
  next hdir hlink =>
    split
    next hdir' => exact (hdir (h.symm.directory hdir')).elim
    next target hlink' => exact (hlink target (h.symm.link hlink')).elim
    next => exact hcreate

/-- **A file is written at the same location** in all file systems of one shape. -/
theorem create_of_sameShape (h : fs.SameShape fs') : ∀ (links : Nat) {loc : Location}
    {names : List String}, fs.create links loc names = .ok result →
      fs'.create links loc names = .ok result := by
  have hwith : ∀ {follow follow' : Location → List String → Except OsError Location},
      (∀ next names, follow next names = .ok result → follow' next names = .ok result) →
      ∀ (names : List String) {loc : Location}, fs.createWith follow loc names = .ok result →
        fs'.createWith follow' loc names = .ok result := by
    intro follow follow' hfollow names
    induction names with
    | nil =>
      intro loc hcreate
      cases hcreate
    | cons name rest ih =>
      intro loc hcreate
      rw [createWith] at hcreate ⊢
      split at hcreate
      next hd =>
        simp only [h.directory hd]
        split_ifs at hcreate ⊢
        · exact createIn_of_sameShape h hfollow hcreate
        · exact pass_of_sameShape h (fun _ hgo => ⟨shape_of_createWith hgo, ih hgo⟩) hfollow
            hcreate
      next => cases hcreate
      next => cases hcreate
  intro links
  induction links with
  | zero => exact fun {loc names} => hwith (fun _ _ hf => by cases hf) names
  | succ links ih => exact fun {loc names} => hwith (fun _ _ => ih) names

theorem locateForCreation_iff (h : fs.SameShape fs') :
    fs'.locateForCreation base path = .ok result ↔ fs.locateForCreation base path = .ok result := by
  rw [locateForCreation_eq_ok_iff, locateForCreation_eq_ok_iff]
  exact and_congr_right fun _ =>
    ⟨create_of_sameShape h.symm linkLimit, create_of_sameShape h linkLimit⟩

/-- **The same paths lead to programs** in all file systems of one shape. -/
theorem isExecutable_eq (h : fs.SameShape fs') (base : Location) (path : String) :
    fs'.isExecutable base path = fs.isExecutable base path := by
  have hone : ∀ {fs fs' : FileSystem}, fs.SameShape fs' → fs.isExecutable base path = true →
      fs'.isExecutable base path = true := by
    intro fs fs' h hexec
    simp only [isExecutable, nodeAt?] at hexec ⊢
    split at hexec
    next loc hloc =>
      have hshape := shape_eq_runnable_iff.mpr hexec
      obtain ⟨hvalid, hwalk⟩ := locate_eq_ok_iff.mp hloc
      have hloc' := locate_eq_ok_iff.mpr
        ⟨hvalid, walk_of_sameShape h (by simp [hshape]) linkLimit hwalk⟩
      simp only [hloc']
      exact shape_eq_runnable_iff.mp ((h loc).trans hshape)
    next => cases hexec
  rw [Bool.eq_iff_iff]
  exact ⟨hone h.symm, hone h⟩

/-- Paths that are too long are so in all file systems. -/
theorem SameShape.nameable (h : fs.SameShape fs') : fs.nameable.SameShape fs'.nameable := by
  intro loc
  have hloc := h loc
  simp only [shape, node?_nameable] at hloc ⊢
  by_cases hshort : loc.path.utf8ByteSize < pathLimit
  · simpa [hshort] using hloc
  · simp [hshort]

/-- A path leads to the same directory in all file systems of one shape. -/
theorem locateStepwise_of_directory (h : fs.SameShape fs')
    (hd : fs.nameable.node? loc = some .directory) (hl : fs.locateStepwise base path = some loc) :
    fs'.locateStepwise base path = some loc := by
  have hshape : fs.nameable.shape loc ≠ .plain := by
    rw [shape_eq_directory_iff.mpr hd]
    simp
  rw [locateStepwise_eq_some_iff] at hl ⊢
  exact hl.imp_right (And.imp_right (walk_of_sameShape h.nameable hshape linkLimit))

/-! ## 3. Writing files -/

/-- **Writing a file keeps the shape.** -/
theorem sameShape_setContent (fs : FileSystem) (loc : Location) (bytes : Bytes) :
    fs.SameShape (fs.setContent loc bytes) := by
  intro other
  by_cases heq : loc = other
  · subst heq
    unfold setContent
    split <;> simp_all [shape]
  · have hnode : (fs.setContent loc bytes).node? other = fs.node? other := by
      unfold setContent
      split
      · exact node?_set_of_ne fs _ heq
      · exact node?_set_of_ne fs _ heq
      · exact node?_set_of_ne fs _ heq
      · rfl
    simp only [shape, hnode]

theorem sameShape_of_openForWriting {mode : WriteMode} {target : Target}
    (h : fs.openForWriting base path mode = .ok (target, fs')) : fs.SameShape fs' := by
  simp only [openForWriting] at h
  rcases hc : fs.locateForCreation base path with fault | loc
  · simp [hc, bind, Except.bind] at h
  · simp only [hc, bind, Except.bind] at h
    split at h <;> obtain ⟨-, rfl⟩ := Prod.mk.inj (Except.ok.inj h)
    · exact .refl fs
    · exact .refl fs
    · exact sameShape_setContent fs loc []
    · exact sameShape_setContent fs loc []

theorem sameShape_of_openForUpdate {target : Target}
    (h : fs.openForUpdate base path = .ok (target, fs')) : fs.SameShape fs' := by
  simp only [openForUpdate] at h
  rcases hc : fs.locateForCreation base path with fault | loc
  · simp [hc, bind, Except.bind] at h
  · simp only [hc, bind, Except.bind] at h
    split at h <;> obtain ⟨-, rfl⟩ := Prod.mk.inj (Except.ok.inj h)
    · exact .refl fs
    · exact .refl fs
    · exact sameShape_setContent fs loc []

theorem sameShape_of_extend {target : Target} {bytes : Bytes}
    (h : fs.extend target bytes = .ok fs') : fs.SameShape fs' := by
  simp only [extend] at h
  split at h
  next loc =>
    obtain rfl := Except.ok.inj h
    exact sameShape_setContent fs loc _
  next =>
    split at h
    · obtain rfl := Except.ok.inj h
      exact .refl fs
    · cases h
  next =>
    obtain rfl := Except.ok.inj h
    exact .refl fs

end FileSystem
end CommandShell
