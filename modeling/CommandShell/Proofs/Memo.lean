/-
# What a search list remembers

A search list is used by asking it for names and by changing it (`Search.Use`).  What it remembers
after a run of uses depends on the whole run, and `memo_after` says how: under each key there is
what the first query with that key since the last change found, and nothing else.  So a query is
answered by the look-up of the first query with its key (`answer_after`), on the current list but
with the files and the current directory of that first query.

The key of a path holds the current directory; the key of a bare name does not.  As long as the
files stay as they are, a remembered path is therefore what a new search finds, and a remembered
bare name need not be: `answer_eq_fresh_iff` says exactly when it is, and `answer_ne_fresh` has a
directory list and two current directories for which it is not.
-/
import CommandShell.Search
import Mathlib.Data.List.DropRight

namespace CommandShell.Search

/-! ## 1. Runs -/

/-- A name that is looked up, with the files there are at that time, the location that relative
paths start at, and the current directory. -/
structure Query where
  fs : FileSystem
  base : Location
  name : String
  cwd : String

namespace Query

/-- What the answer to a query is remembered by. -/
def key (q : Query) : String := Search.key q.name q.cwd

/-- The answer to a query when nothing is remembered. -/
def lookedUp (q : Query) (dirs : List String) : Option String :=
  Search.lookup dirs q.fs q.base q.name q.cwd

end Query

/-- One use of a search list. -/
inductive Use
  | ask (q : Query)
  | replaceDirs (dirs : List String)
  | setPath (value : String)
  | prepend (dir : String)

namespace Use

/-- The query that a use makes. -/
def query? : Use → Option Query
  | ask q => some q
  | _ => none

/-- Whether a use changes the list, which a blank directory does not. -/
def changes : Use → Bool
  | ask _ => false
  | replaceDirs _ => true
  | setPath _ => true
  | prepend dir => Text.trim dir != ""

end Use

def answer (s : Search) (q : Query) : Option String := (s.resolve q.fs q.base q.name q.cwd).1

def afterUse (s : Search) : Use → Search
  | .ask q => (s.resolve q.fs q.base q.name q.cwd).2
  | .replaceDirs dirs => s.replaceDirs dirs
  | .setPath value => s.setPath value
  | .prepend dir => s.prepend dir

def after (s : Search) (uses : List Use) : Search := uses.foldl afterUse s

/-- The queries of a run since the list was changed for the last time. -/
def recent (uses : List Use) : List Query := (uses.rtakeWhile (!·.changes)).filterMap Use.query?

/-- The first query with the key of `q` since the last change; `q` itself if there was none. -/
def first (uses : List Use) (q : Query) : Query := ((recent uses).find? (·.key = q.key)).getD q

@[simp] theorem after_nil (s : Search) : s.after [] = s := rfl

@[simp] theorem after_append (s : Search) (uses : List Use) (u : Use) :
    s.after (uses ++ [u]) = (s.after uses).afterUse u := by
  simp [after, List.foldl_append]

@[simp] theorem recent_nil : recent [] = [] := rfl

theorem recent_append (uses : List Use) (u : Use) :
    recent (uses ++ [u]) = if u.changes then [] else recent uses ++ u.query?.toList := by
  rw [recent, List.rtakeWhile_concat]
  cases u.changes <;> cases hq : u.query? <;> simp [recent, hq]

/-! ## 2. What is remembered -/

@[simp] theorem memo_ofDirs (dirs : List String) (k : String) : (ofDirs dirs).memo[k]? = none := by
  simp [ofDirs]

/-- A use that changes the list leaves a list that has not been used. -/
theorem afterUse_of_changes {s : Search} {u : Use} (h : u.changes) :
    ∃ dirs, s.afterUse u = ofDirs dirs := by
  cases u with
  | ask q => cases h
  | replaceDirs dirs => exact ⟨dirs, rfl⟩
  | setPath value => exact ⟨split value, rfl⟩
  | prepend dir =>
    have hdir : Text.trim dir ≠ "" := by simpa [Use.changes] using h
    exact ⟨Text.trim dir :: s.dirs, by simp [afterUse, prepend, hdir, replaceDirs]⟩

/-- A use that neither changes the list nor asks for anything does nothing. -/
theorem afterUse_of_idle {s : Search} {u : Use} (h : u.changes = false) (hq : u.query? = none) :
    s.afterUse u = s := by
  cases u with
  | ask q => cases hq
  | replaceDirs dirs => cases h
  | setPath value => cases h
  | prepend dir =>
    have hdir : Text.trim dir = "" := by simpa [Use.changes] using h
    simp [afterUse, prepend, hdir]

/-- A query whose key is remembered gets what is remembered. -/
theorem resolve_of_remembered {s : Search} {q : Query} {found : Option String}
    (h : s.memo[q.key]? = some found) : s.resolve q.fs q.base q.name q.cwd = (found, s) := by
  rw [Query.key] at h
  simp only [resolve, h]

/-- Any other query is looked up, and the answer remembered. -/
theorem resolve_of_new {s : Search} {q : Query} (h : s.memo[q.key]? = none) :
    s.resolve q.fs q.base q.name q.cwd =
      (q.lookedUp s.dirs, { s with memo := s.memo.insert q.key (q.lookedUp s.dirs) }) := by
  rw [Query.key] at h
  simp only [resolve, h, Query.key, Query.lookedUp]

/-- An answer is what is remembered, or else what is looked up. -/
theorem answer_eq (s : Search) (q : Query) :
    s.answer q = (s.memo[q.key]?).getD (q.lookedUp s.dirs) := by
  cases h : s.memo[q.key]? with
  | none => rw [answer, resolve_of_new h, Option.getD_none]
  | some found => rw [answer, resolve_of_remembered h, Option.getD_some]

@[simp] theorem dirs_afterUse_ask (s : Search) (q : Query) :
    (s.afterUse (.ask q)).dirs = s.dirs := by
  cases h : s.memo[q.key]? with
  | none => rw [afterUse, resolve_of_new h]
  | some found => rw [afterUse, resolve_of_remembered h]

/-- What a query leaves behind: its answer, under its key. -/
theorem memo_afterUse_ask (s : Search) (q : Query) (k : String) :
    (s.afterUse (.ask q)).memo[k]? = if q.key = k then some (s.answer q) else s.memo[k]? := by
  cases h : s.memo[q.key]? with
  | none => simp [afterUse, answer, resolve_of_new h, Std.ExtTreeMap.getElem?_insert]
  | some found =>
    rw [afterUse, answer, resolve_of_remembered h]
    split_ifs with hk
    · rw [← hk, h]
    · rfl

/-- **What is remembered after a run.**  Under each key it is what the first query with that key
since the last change found on the current list. -/
theorem memo_after (dirs : List String) (uses : List Use) (k : String) :
    ((ofDirs dirs).after uses).memo[k]? =
      ((recent uses).find? (·.key = k)).map (·.lookedUp ((ofDirs dirs).after uses).dirs) := by
  induction uses using List.reverseRecOn with
  | nil => simp
  | append_singleton uses u ih =>
    rw [after_append, recent_append]
    cases hc : u.changes with
    | true =>
      -- The memory and the recent queries are both empty.
      obtain ⟨dirs', h⟩ := afterUse_of_changes (s := (ofDirs dirs).after uses) hc
      simp [h]
    | false =>
      cases u with
      | replaceDirs dirs' => cases hc
      | setPath value => cases hc
      | prepend dir => simp [afterUse_of_idle hc rfl, Use.query?, ih]
      | ask q =>
        -- A first query with this key is remembered already, or it is this one.
        rw [memo_afterUse_ask, answer_eq, dirs_afterUse_ask]
        by_cases hk : q.key = k
        · subst hk
          rw [if_pos rfl, ih]
          cases hf : (recent uses).find? (·.key = q.key) <;> simp [Use.query?, hf]
        · simp [hk, Use.query?, ih]

/-- **The answer to a query after a run** is what the first query with its key since the last
change looked up. -/
theorem answer_after (dirs : List String) (uses : List Use) (q : Query) :
    ((ofDirs dirs).after uses).answer q =
      (first uses q).lookedUp ((ofDirs dirs).after uses).dirs := by
  rw [answer_eq, memo_after, first]
  cases (recent uses).find? (·.key = q.key) <;> rfl

/-- A search list that has not been used looks a query up. -/
theorem answer_ofDirs (dirs : List String) (q : Query) :
    (ofDirs dirs).answer q = q.lookedUp dirs := by
  simp [answer_eq, ofDirs]

/-! ## 3. Keys -/

theorem key_of_bare {q : Query} (h : Path.hasSlash q.name = false) : q.key = q.name := by
  simp [Query.key, Search.key, h]

/-- The key of a path is the path, taken from the current directory. -/
theorem key_of_path {q : Query} (h : Path.hasSlash q.name = true) :
    q.key = Path.join q.cwd q.name := by
  simp [Query.key, Search.key, h]

/-- A key has a slash exactly when the name has one, so a bare name and a path never share a
key. -/
@[simp] theorem hasSlash_key (q : Query) : Path.hasSlash q.key = Path.hasSlash q.name := by
  cases h : Path.hasSlash q.name with
  | false => rw [key_of_bare h, h]
  | true =>
    rw [key_of_path h, Path.join]
    split_ifs
    · exact h
    · simp_all [Path.hasSlash]
    · simp [Path.hasSlash]

/-- Queries with one key are both for paths or both for one bare name. -/
theorem name_eq_of_key_eq {q q' : Query} (h : q.key = q'.key) (hq : Path.hasSlash q'.name = false) :
    q.name = q'.name := by
  have hq' : Path.hasSlash q.name = false := by rw [← hasSlash_key, h, hasSlash_key, hq]
  rw [← key_of_bare hq', h, key_of_bare hq]

/-- Looking up a path asks only whether there is a program at its key. -/
theorem lookedUp_of_path {q : Query} (h : Path.hasSlash q.name = true) (dirs : List String) :
    q.lookedUp dirs = if q.fs.isExecutable q.base q.key then some q.key else none := by
  have hname : q.name ≠ "" := by
    intro he
    rw [he] at h
    cases h
  simp only [Query.lookedUp, lookup, if_neg hname, if_pos h, key_of_path h]

@[simp] theorem key_first (uses : List Use) (q : Query) : (first uses q).key = q.key := by
  cases h : (recent uses).find? (·.key = q.key) with
  | none => simp [first, h]
  | some q' =>
    have hq' := List.find?_some h
    simpa [first, h] using hq'

/-- The first query with a key was made in the run, if it is not the query itself. -/
theorem ask_first_mem (uses : List Use) (q : Query) :
    first uses q = q ∨ Use.ask (first uses q) ∈ uses := by
  cases h : (recent uses).find? (·.key = q.key) with
  | none => exact .inl (by simp [first, h])
  | some q' =>
    obtain ⟨u, hu, hq'⟩ := List.mem_filterMap.mp (List.mem_of_find?_eq_some h)
    have hmem : u ∈ uses := (List.rtakeWhile_suffix _ _).subset hu
    cases u with
    | ask q'' =>
      obtain rfl : q'' = q' := by simpa [Use.query?] using hq'
      exact .inr (by simpa [first, h] using hmem)
    | replaceDirs | setPath | prepend => cases hq'

/-! ## 4. Files that stay as they are -/

/-- A run during which neither the files change nor the location that relative paths start at. -/
def Steady (fs : FileSystem) (base : Location) (uses : List Use) : Prop :=
  ∀ q, Use.ask q ∈ uses → q.fs = fs ∧ q.base = base

/-- The first query with a key saw the same files. -/
theorem Steady.first {uses : List Use} {q : Query} (h : Steady q.fs q.base uses) :
    (Search.first uses q).fs = q.fs ∧ (Search.first uses q).base = q.base := by
  rcases ask_first_mem uses q with heq | hmem
  · rw [heq]
    exact ⟨rfl, rfl⟩
  · exact h _ hmem

/-- While the files stay as they are, a path is answered as if nothing were remembered. -/
theorem answer_of_path (dirs : List String) {uses : List Use} {q : Query}
    (h : Steady q.fs q.base uses) (hq : Path.hasSlash q.name = true) :
    ((ofDirs dirs).after uses).answer q = q.lookedUp ((ofDirs dirs).after uses).dirs := by
  obtain ⟨hfs, hbase⟩ := h.first
  have hfirst : Path.hasSlash (first uses q).name = true := by
    rw [← hasSlash_key, key_first, hasSlash_key, hq]
  rw [answer_after, lookedUp_of_path hq, lookedUp_of_path hfirst, key_first, hfs, hbase]

/-- While the files stay as they are, a bare name is answered as if the current directory were that
of the first query for it since the last change. -/
theorem answer_of_bare (dirs : List String) {uses : List Use} {q : Query}
    (h : Steady q.fs q.base uses) (hq : Path.hasSlash q.name = false) :
    ((ofDirs dirs).after uses).answer q =
      Query.lookedUp { q with cwd := (first uses q).cwd } ((ofDirs dirs).after uses).dirs := by
  obtain ⟨hfs, hbase⟩ := h.first
  rw [answer_after, Query.lookedUp, hfs, hbase, name_eq_of_key_eq (key_first uses q) hq]
  rfl

/-- The look-up on a list of absolute directories does not depend on the current directory. -/
theorem lookedUp_of_absolute {q : Query} (hq : Path.hasSlash q.name = false) {dirs : List String}
    (h : ∀ dir ∈ dirs, Path.isAbsolute dir = true) (cwd : String) :
    Query.lookedUp { q with cwd } dirs = q.lookedUp dirs := by
  have hmap : dirs.map (fun dir => Path.join (Path.join cwd dir) q.name) =
      dirs.map fun dir => Path.join (Path.join q.cwd dir) q.name :=
    List.map_congr_left fun dir hdir => by simp [Path.join, h dir hdir]
  simp only [Query.lookedUp, lookup, hq, hmap, Bool.false_eq_true, if_false]

/-- **Memory makes no difference on a list of absolute directories**, while the files stay as they
are. -/
theorem answer_of_absolute (dirs : List String) {uses : List Use} {q : Query}
    (h : Steady q.fs q.base uses)
    (habs : ∀ dir ∈ ((ofDirs dirs).after uses).dirs, Path.isAbsolute dir = true) :
    ((ofDirs dirs).after uses).answer q = q.lookedUp ((ofDirs dirs).after uses).dirs := by
  cases hq : Path.hasSlash q.name with
  | true => exact answer_of_path dirs h hq
  | false =>
    rw [answer_of_bare dirs h hq]
    exact lookedUp_of_absolute hq habs _

/-- **When memory makes no difference.**  While the files stay as they are, a query is answered as
by a search list with the same directories that remembers nothing exactly when the name is a path or
the look-up would have found the same from the current directory of the first query for that name
since the last change. -/
theorem answer_eq_fresh_iff (dirs : List String) (uses : List Use) (q : Query)
    (h : Steady q.fs q.base uses) :
    let s := (ofDirs dirs).after uses
    s.answer q = (ofDirs s.dirs).answer q ↔
      Path.hasSlash q.name = true ∨
        Query.lookedUp { q with cwd := (first uses q).cwd } s.dirs = q.lookedUp s.dirs := by
  intro s
  rw [answer_ofDirs]
  cases hq : Path.hasSlash q.name with
  | true =>
    have hpath : s.answer q = q.lookedUp s.dirs := answer_of_path dirs h hq
    exact ⟨fun _ => .inl rfl, fun _ => hpath⟩
  | false =>
    have hbare : s.answer q = Query.lookedUp { q with cwd := (first uses q).cwd } s.dirs :=
      answer_of_bare dirs h hq
    rw [hbare]
    simp

/-- A machine with a program `tool` below each of two directories. -/
def twoTools : FileSystem :=
  let directories : FileSystem := [["a"], ["b"], ["a", "bin"], ["b", "bin"]].foldl
    (fun fs dir => fs.set dir .directory) .empty
  (directories.set ["a", "bin", "tool"] (.file [] true)).set ["b", "bin", "tool"] (.file [] true)

/-- The query for the bare name `tool` on that machine. -/
def toolFrom (cwd : String) : Query := { fs := twoTools, base := [], name := "tool", cwd }

/-- With an absolute directory, moving from one directory to the other makes no difference. -/
theorem answer_eq_fresh_iff_absolute :
    Steady twoTools [] [.ask (toolFrom "/a")] ∧
      (((ofDirs ["/b/bin"]).after [.ask (toolFrom "/a")]).answer (toolFrom "/b") =
          (ofDirs ["/b/bin"]).answer (toolFrom "/b") ↔
        Path.hasSlash "tool" = true ∨
          Query.lookedUp (toolFrom "/a") ["/b/bin"] = (toolFrom "/b").lookedUp ["/b/bin"]) := by
  have h : Steady twoTools [] [.ask (toolFrom "/a")] := by
    intro q hq
    obtain rfl : q = toolFrom "/a" := by simpa using hq
    exact ⟨rfl, rfl⟩
  exact ⟨h, answer_eq_fresh_iff ["/b/bin"] [.ask (toolFrom "/a")] (toolFrom "/b") h⟩

/-- **With a relative directory it does**: the program below the first directory is found again
where a new search finds the one below the second. -/
theorem answer_ne_fresh :
    let s := (ofDirs ["bin"]).after [.ask (toolFrom "/a")]
    s.answer (toolFrom "/b") = some "/a/bin/tool" ∧
      (ofDirs s.dirs).answer (toolFrom "/b") = some "/b/bin/tool" := by
  decide

end CommandShell.Search
