/-
# Files that are written can be read

A path is followed in two ways: to a node that exists (`FileSystem.locate`) and to the file that is
to be written (`FileSystem.locateForCreation`).  The file that a path is opened for writing at is
afterwards the node that the path leads to (`locate_of_created`), whether it was there before or
not, and a path that leads somewhere is opened for writing nowhere else (`located_eq_created`).

Both rest on one observation: following names asks for directories, for links, and whether anything
is there at all.  So what a path leads to stays the same when a plain node is put where there was
nothing, or where there was another plain node (`Fills`).
-/
import CommandShell.FileSystem.Access
import Mathlib.Tactic.SplitIfs

namespace CommandShell.FileSystem

variable {fs fs' : FileSystem} {loc target result : Location} {base : Location} {path : String}

/-! ## 1. Plain nodes -/

/-- A node that a path can end at, but cannot lead through. -/
def IsPlain : Option Node → Prop
  | some .directory => False
  | some (.link _) => False
  | _ => True

/-- A file system that differs from another one in a plain node at one location. -/
structure Fills (fs fs' : FileSystem) (loc : Location) : Prop where
  others : ∀ other, other ≠ loc → fs'.node? other = fs.node? other
  before : IsPlain (fs.node? loc)
  after : IsPlain (fs'.node? loc)
  isSome : (fs'.node? loc).isSome

theorem fills_set (h : IsPlain (fs.node? loc)) (content : Bytes) (executable : Bool) :
    Fills fs (fs.set loc (.file content executable)) loc where
  others other hne := node?_set_of_ne fs _ (Ne.symm hne)
  before := h
  after := by simp [IsPlain]
  isSome := by simp

namespace Fills

theorem directory (h : Fills fs fs' loc) {other : Location}
    (hd : fs.node? other = some .directory) : fs'.node? other = some .directory := by
  rw [h.others other, hd]
  rintro rfl
  simpa [hd, IsPlain] using h.before

theorem link (h : Fills fs fs' loc) {other : Location} {text : String}
    (hl : fs.node? other = some (.link text)) : fs'.node? other = some (.link text) := by
  rw [h.others other, hl]
  rintro rfl
  simpa [hl, IsPlain] using h.before

/-- What is there and is no link stays so. -/
theorem notLink (h : Fills fs fs' loc) {other : Location} {n : Node}
    (hn : fs.node? other = some n) (hl : ∀ text, n ≠ .link text) :
    ∃ n', fs'.node? other = some n' ∧ ∀ text, n' ≠ .link text := by
  by_cases heq : other = loc
  · subst heq
    obtain ⟨n', hn'⟩ := Option.isSome_iff_exists.mp h.isSome
    refine ⟨n', hn', fun text htext => ?_⟩
    simpa [hn', htext, IsPlain] using h.after
  · exact ⟨n, by rw [h.others other heq, hn], hl⟩

end Fills

/-! ## 2. Following names -/

/-- One name alone leads nowhere: what is found is found by following the others. -/
theorem continues_of_pass {follow : Location → List String → Except OsError Location}
    {go : Location → Except OsError Location} {name : String} {rest : List String}
    (hpass : fs.pass follow go loc name rest = .ok result) :
    (∃ next, go next = .ok result) ∨ ∃ next names, follow next names = .ok result := by
  simp only [pass] at hpass
  split_ifs at hpass
  · exact .inl ⟨_, hpass⟩
  · exact .inl ⟨_, hpass⟩
  · split at hpass
    next => cases hpass
    next => exact .inr ⟨_, _, hpass⟩
    next => exact .inl ⟨_, hpass⟩

theorem pass_of_fills {follow follow' : Location → List String → Except OsError Location}
    {go go' : Location → Except OsError Location} {name : String} {rest : List String}
    (h : Fills fs fs' target)
    (hgo : ∀ next, go next = .ok result → go' next = .ok result)
    (hfollow : ∀ next names, follow next names = .ok result → follow' next names = .ok result)
    (hpass : fs.pass follow go loc name rest = .ok result) :
    fs'.pass follow' go' loc name rest = .ok result := by
  simp only [pass] at hpass ⊢
  split_ifs at hpass ⊢ with hstay hup hlong
  · exact hgo _ hpass
  · exact hgo _ hpass
  · split at hpass
    next => cases hpass
    next text hlink =>
      simp only [h.link hlink]
      exact hfollow _ _ hpass
    next n hlink hn =>
      obtain ⟨n', hn', hlink'⟩ := h.notLink hn fun text htext => hlink text htext
      rw [hn']
      cases n' with
      | link text => exact absurd rfl (hlink' text)
      | _ => exact hgo _ hpass

/-- What names lead to, they still lead to. -/
theorem walk_of_fills (h : Fills fs fs' target) : ∀ (links : Nat) {loc : Location}
    {names : List String}, fs.walk links loc names = .ok result →
      fs'.walk links loc names = .ok result := by
  have hwith : ∀ {follow follow' : Location → List String → Except OsError Location},
      (∀ next names, follow next names = .ok result → follow' next names = .ok result) →
      ∀ (names : List String) {loc : Location}, fs.walkWith follow loc names = .ok result →
        fs'.walkWith follow' loc names = .ok result := by
    intro follow follow' hfollow names
    induction names with
    | nil =>
      intro loc hwalk
      exact hwalk
    | cons name rest ih =>
      intro loc hwalk
      rw [walkWith] at hwalk ⊢
      split at hwalk
      next hd =>
        simp only [h.directory hd]
        exact pass_of_fills h (fun _ => ih) hfollow hwalk
      next => cases hwalk
      next => cases hwalk
  intro links
  induction links with
  | zero => exact fun {loc names} => hwith (fun _ _ hf => by cases hf) names
  | succ links ih => exact fun {loc names} => hwith (fun _ _ => ih) names

/-- The file that is to be written, given its name: it is no directory and no link, and once it is
there the name leads to it. -/
theorem walkWith_of_createIn {follow follow' : Location → List String → Except OsError Location}
    {name : String} {slashes : List String}
    (hfollow : ∀ next names, follow next names = .ok target → IsPlain (fs.node? target) ∧
      (Fills fs fs' target → follow' next names = .ok target))
    (hd : fs.node? loc = some .directory)
    (hcreate : fs.createIn follow loc name slashes = .ok target) :
    IsPlain (fs.node? target) ∧
      (Fills fs fs' target → fs'.walkWith follow' loc (name :: slashes) = .ok target) := by
  simp only [createIn] at hcreate
  split_ifs at hcreate with hbad hlong
  simp only [not_or, ne_eq, Decidable.not_not] at hbad
  obtain ⟨hempty, hdot, hdots, rfl⟩ := hbad
  -- Following the name is passing it, unless it is that of a link.
  have hwalk (h : Fills fs fs' target) : fs'.walkWith follow' loc [name] =
      fs'.pass follow' (fun next => .ok next) loc name [] := by
    simp only [walkWith, h.directory hd]
  split at hcreate
  next => cases hcreate
  next text hlink =>
    obtain ⟨hplain, hlead⟩ := hfollow _ _ hcreate
    refine ⟨hplain, fun h => ?_⟩
    rw [hwalk h]
    simpa [pass, hempty, hdot, hdots, hlong, h.link hlink] using hlead h
  next hnotDirectory hnotLink =>
    obtain rfl := Except.ok.inj hcreate
    refine ⟨?_, fun h => ?_⟩
    · cases hn : fs.node? (loc ++ [name]) with
      | none => trivial
      | some n =>
        cases n with
        | directory => exact absurd hn hnotDirectory
        | link text => exact absurd hn (hnotLink text)
        | _ => trivial
    · rw [hwalk h]
      obtain ⟨n, hn⟩ := Option.isSome_iff_exists.mp h.isSome
      have hafter := h.after
      rw [hn] at hafter
      cases n with
      | directory => exact hafter.elim
      | link text => exact hafter.elim
      | _ => simp [pass, hempty, hdot, hdots, hlong, hn]

/-- **The file that names are to be written at** is no directory and no link, and once it is there
the names lead to it. -/
theorem walk_of_create : ∀ (links : Nat) {loc : Location} {names : List String},
    fs.create links loc names = .ok target → IsPlain (fs.node? target) ∧
      (Fills fs fs' target → fs'.walk links loc names = .ok target) := by
  have hwith : ∀ {follow follow' : Location → List String → Except OsError Location},
      (∀ next names, follow next names = .ok target → IsPlain (fs.node? target) ∧
        (Fills fs fs' target → follow' next names = .ok target)) →
      ∀ (names : List String) {loc : Location}, fs.createWith follow loc names = .ok target →
        IsPlain (fs.node? target) ∧
          (Fills fs fs' target → fs'.walkWith follow' loc names = .ok target) := by
    intro follow follow' hfollow names
    induction names with
    | nil =>
      intro loc hcreate
      cases hcreate
    | cons name rest ih =>
      intro loc hcreate
      rw [createWith] at hcreate
      split at hcreate
      next hd =>
        split_ifs at hcreate with hlast
        · exact walkWith_of_createIn hfollow hd hcreate
        · refine ⟨?_, fun h => ?_⟩
          · rcases continues_of_pass hcreate with ⟨next, hgo⟩ | ⟨next, names, hf⟩
            · exact (ih hgo).1
            · exact (hfollow next names hf).1
          · simp only [walkWith, h.directory hd]
            exact pass_of_fills h (fun _ hgo => (ih hgo).2 h)
              (fun _ _ hf => (hfollow _ _ hf).2 h) hcreate
      next => cases hcreate
      next => cases hcreate
  intro links
  induction links with
  | zero => exact fun {loc names} => hwith (fun _ _ hf => by cases hf) names
  | succ links ih => exact fun {loc names} => hwith (fun _ _ => ih) names

/-! ## 3. Following paths -/

/-- A path that is followed to a node is a proper one. -/
theorem locate_eq_ok_iff : fs.locate base path = .ok result ↔
    requireValid path = .ok () ∧
      fs.walk linkLimit (start base path) (Path.segments path) = .ok result := by
  rw [locate]
  rcases requireValid path with fault | ⟨⟩
  · simp [bind, Except.bind]
  · rcases fs.walk linkLimit (start base path) (Path.segments path) with e | found <;>
      simp [bind, Except.bind, Except.mapError]

theorem locateForCreation_eq_ok_iff : fs.locateForCreation base path = .ok result ↔
    requireValid path = .ok () ∧
      fs.create linkLimit (start base path) (Path.segments path) = .ok result := by
  rw [locateForCreation]
  rcases requireValid path with fault | ⟨⟩
  · simp [bind, Except.bind]
  · rcases fs.create linkLimit (start base path) (Path.segments path) with e | found <;>
      simp [bind, Except.bind, Except.mapError]

/-- A file that is to be written is no directory and no link. -/
theorem isPlain_of_locateForCreation (hc : fs.locateForCreation base path = .ok target) :
    IsPlain (fs.node? target) :=
  (@walk_of_create fs fs target linkLimit _ _ (locateForCreation_eq_ok_iff.mp hc).2).1

/-- **A file that was written can be read:** the path it was opened at leads to it. -/
theorem locate_of_created (hc : fs.locateForCreation base path = .ok target)
    (h : Fills fs fs' target) : fs'.locate base path = .ok target := by
  obtain ⟨hvalid, hcreate⟩ := locateForCreation_eq_ok_iff.mp hc
  exact locate_eq_ok_iff.mpr ⟨hvalid, (walk_of_create linkLimit hcreate).2 h⟩

/-- **A path that leads somewhere is opened for writing there.** -/
theorem located_eq_created (hl : fs.locate base path = .ok loc)
    (hc : fs.locateForCreation base path = .ok target) : loc = target := by
  -- With a file at the target, both ways lead there.
  have h := fills_set (isPlain_of_locateForCreation hc) [] false
  obtain ⟨hvalid, hwalk⟩ := locate_eq_ok_iff.mp hl
  have hboth := locate_of_created hc h
  rw [locate_eq_ok_iff.mpr ⟨hvalid, walk_of_fills h linkLimit hwalk⟩] at hboth
  exact Except.ok.inj hboth

end CommandShell.FileSystem
