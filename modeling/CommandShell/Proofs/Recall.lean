/-
# A memory that is right

A shell remembers what its commands were found to be.  On a list of absolute directories it
remembers only what it would find again (`Session.Remembers`), wherever it moves to and whatever
becomes of its files, as long as they keep their shape.  So a look-up finds what it would find
without memory (`Remembers.resolve_eq`), and what was remembered before makes no difference.
-/
import CommandShell.Proofs.Foretelling
import CommandShell.Proofs.Steadiness
import Mathlib.Data.List.Find

namespace CommandShell

/-! ## 1. Absolute paths -/

namespace Path

variable {dir path : String}

theorem isAbsolute_append (h : isAbsolute dir = true) (rest : String) :
    isAbsolute (dir ++ rest) = true := by
  simp only [isAbsolute, beq_iff_eq, String.toList_append] at h ⊢
  rw [List.head?_append, h]
  rfl

theorem isAbsolute_join (h : isAbsolute dir = true) (path : String) :
    isAbsolute (join dir path) = true := by
  rw [join]
  split
  · assumption
  · split
    · exact isAbsolute_append h _
    · exact isAbsolute_append (isAbsolute_append h _) _

theorem join_of_absolute (h : isAbsolute path = true) (dir : String) : join dir path = path :=
  if_pos h

theorem hasSlash_of_absolute (h : isAbsolute path = true) : hasSlash path = true := by
  simp only [isAbsolute, beq_iff_eq] at h
  simp [hasSlash, List.mem_of_head? h]

theorem isAbsolute_path (loc : Location) : isAbsolute loc.path = true := by
  cases loc with
  | nil => decide
  | cons name rest =>
    simp [Location.path, isAbsolute, String.toList_join]

end Path

/-- Where an absolute path is followed from makes no difference. -/
theorem FileSystem.isExecutable_of_absolute {path : String} (h : Path.isAbsolute path = true)
    (fs : FileSystem) (base base' : Location) :
    fs.isExecutable base' path = fs.isExecutable base path := by
  simp only [isExecutable, nodeAt?, locate, start, h, if_true]

namespace Session

variable {s s' : Session} {name : String}

/-! ## 2. Looking up without memory -/

/-- What a look-up finds that remembers nothing. -/
def lookup (s : Session) (name : String) : Option String :=
  (s.query name).lookedUp s.env.search.dirs

/-- A name stands for no more than its key. -/
theorem lookup_eq_of_key_eq {other : String} (h : (s.query name).key = (s.query other).key) :
    s.lookup name = s.lookup other := by
  cases hslash : Path.hasSlash other with
  | false => rw [show name = other from Search.name_eq_of_key_eq h hslash]
  | true =>
    have hslash' : Path.hasSlash (s.query name).name = true := by
      rw [← Search.hasSlash_key, h, Search.hasSlash_key]
      exact hslash
    rw [lookup, lookup, Search.lookedUp_of_path (q := s.query name) hslash',
      Search.lookedUp_of_path (q := s.query other) hslash, h]
    rfl

/-- The shape of the files is all that a look-up sees of them. -/
theorem lookup_of_keeps (hdirs : s'.env.search.dirs = s.env.search.dirs)
    (hdirectory : s'.env.directory = s.env.directory) (hkeeps : s.world.Keeps s'.world) :
    s'.lookup name = s.lookup name := by
  have hexecutable : s'.world.files.isExecutable s.world.directory =
      s.world.files.isExecutable s.world.directory :=
    funext fun path => FileSystem.isExecutable_eq hkeeps.files _ path
  simp only [lookup, query, Search.Query.lookedUp, Search.lookup, hdirs, hdirectory,
    hkeeps.directory, hexecutable]
  rfl

/-- A bare name is found from everywhere on a list of absolute directories. -/
theorem lookup_enter_of_bare (habs : ∀ dir ∈ s.env.search.dirs, Path.isAbsolute dir = true)
    (hname : Path.hasSlash name = false) (loc : Location) :
    (Builtin.enter s loc).lookup name = s.lookup name := by
  have hfound : ∀ cwd base, Search.Query.lookedUp ⟨s.world.files, base, name, cwd⟩
      s.env.search.dirs = if name = "" then none else
        (s.env.search.dirs.map fun dir => Path.join dir name).find?
          (s.world.files.isExecutable s.world.directory) := by
    intro cwd base
    have hmap : (s.env.search.dirs.map fun dir => Path.join (Path.join cwd dir) name) =
        s.env.search.dirs.map fun dir => Path.join dir name :=
      List.map_congr_left fun dir hdir => by rw [Path.join_of_absolute (habs dir hdir)]
    simp only [Search.Query.lookedUp, Search.lookup, hname, hmap, Bool.false_eq_true, if_false]
    congr 1
    refine List.find?_congr fun path hpath => ?_
    obtain ⟨dir, hdir, rfl⟩ := List.mem_map.mp hpath
    exact FileSystem.isExecutable_of_absolute (Path.isAbsolute_join (habs dir hdir) name) _ _ _
  exact (hfound loc.path loc).trans (hfound s.env.directory s.world.directory).symm

/-! ## 3. Looking up with memory -/

/-- All directories of the search list are absolute, and what is remembered would be found again. -/
structure Remembers (s : Session) : Prop where
  absolute : ∀ dir ∈ s.env.search.dirs, Path.isAbsolute dir = true
  found : ∀ name found, s.env.search.memo[(s.query name).key]? = some found → found = s.lookup name

namespace Remembers

theorem of_empty (habs : ∀ dir ∈ s.env.search.dirs, Path.isAbsolute dir = true)
    (hempty : s.env.search.memo = ∅) : s.Remembers where
  absolute := habs
  found name found h := by simp [hempty] at h

/-- **A look-up finds what it would find without memory.** -/
theorem resolve_eq (h : s.Remembers) (name : String) : (s.resolve name).1 = s.lookup name := by
  have hanswer : (s.resolve name).1 = s.env.search.answer (s.query name) := rfl
  rw [hanswer, Search.answer_eq]
  cases hmemo : s.env.search.memo[(s.query name).key]? with
  | none => rfl
  | some found => exact h.found name found hmemo

/-- What it finds is remembered rightly. -/
theorem resolve (h : s.Remembers) (name : String) : (s.resolve name).2.Remembers := by
  have hafter : (s.resolve name).2.env.search = s.env.search.afterUse (.ask (s.query name)) := rfl
  have hdirs : (s.resolve name).2.env.search.dirs = s.env.search.dirs :=
    (s.grows_resolve name).dirs
  have hlookup : ∀ other, (s.resolve name).2.lookup other = s.lookup other := fun other =>
    lookup_of_keeps hdirs rfl (.refl s.world)
  refine ⟨hdirs ▸ h.absolute, fun other found hmemo => ?_⟩
  rw [hlookup]
  have hquery : (s.resolve name).2.query other = s.query other := rfl
  rw [hafter, hquery, Search.memo_afterUse_ask] at hmemo
  split at hmemo
  next hkey =>
    rw [← Option.some.inj hmemo, ← lookup_eq_of_key_eq hkey]
    exact h.resolve_eq name
  next => exact h.found other found hmemo

/-- It stays right as long as the machine stays in place. -/
theorem keeps (h : s.Remembers) (hsearch : s'.env.search = s.env.search)
    (hdirectory : s'.env.directory = s.env.directory) (hkeeps : s.world.Keeps s'.world) :
    s'.Remembers := by
  refine ⟨hsearch ▸ h.absolute, fun name found hmemo => ?_⟩
  have hkey : (s'.query name).key = (s.query name).key := by
    simp only [query, Search.Query.key, hdirectory]
  rw [hsearch, hkey] at hmemo
  rw [lookup_of_keeps (congrArg Search.dirs hsearch) hdirectory hkeeps]
  exact h.found name found hmemo

/-- **It stays right when the shell moves to another directory.**  What was found at a path is
remembered by the whole path, and a bare name is found from everywhere. -/
theorem enter (h : s.Remembers) (loc : Location) : (Builtin.enter s loc).Remembers := by
  refine ⟨h.absolute, fun name found hmemo => ?_⟩
  have hmemo' : s.env.search.memo[((Builtin.enter s loc).query name).key]? = some found := hmemo
  cases hslash : Path.hasSlash name with
  | false =>
    have hkey : ((Builtin.enter s loc).query name).key = (s.query name).key := by
      rw [Search.key_of_bare (q := (Builtin.enter s loc).query name) hslash,
        Search.key_of_bare (q := s.query name) hslash]
      rfl
    rw [hkey] at hmemo'
    rw [lookup_enter_of_bare h.absolute hslash]
    exact h.found name found hmemo'
  | true =>
    -- Its key is an absolute path, and so a name that has itself as its key.
    have habs : Path.isAbsolute ((Builtin.enter s loc).query name).key = true := by
      rw [Search.key_of_path (q := (Builtin.enter s loc).query name) hslash]
      exact Path.isAbsolute_join (Path.isAbsolute_path loc) name
    have hlookup : (Builtin.enter s loc).lookup name =
        if s.world.files.isExecutable loc ((Builtin.enter s loc).query name).key then
          some ((Builtin.enter s loc).query name).key else none :=
      Search.lookedUp_of_path (q := (Builtin.enter s loc).query name) hslash _
    rw [hlookup]
    generalize ((Builtin.enter s loc).query name).key = path at habs hmemo'
    have hslash' : Path.hasSlash (s.query path).name = true := Path.hasSlash_of_absolute habs
    have hkey : (s.query path).key = path := by
      rw [Search.key_of_path (q := s.query path) hslash']
      exact Path.join_of_absolute habs _
    have hfound := h.found path found (by rw [hkey]; exact hmemo')
    rw [lookup, Search.lookedUp_of_path (q := s.query path) hslash', hkey] at hfound
    rw [hfound, FileSystem.isExecutable_of_absolute habs _ s.world.directory loc]
    rfl

end Remembers
end Session
end CommandShell
