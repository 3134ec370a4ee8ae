/-
# Where an answer comes from

While a search list is used, files come and go, and what is remembered is not looked up again.  An
answer is therefore as old as the look-up it comes from.  This look-up is read off the run itself
(`IsEarliest`): it was made at the earliest query with the same key that no change of the list came
after, which may be the query that is answered.

`answer_eq_earliest` says that every answer is what this query looked up, with the files of that
time and the current directory of that query, but on the list that is still in place.  For a bare
name the answer is therefore the first program of that name in the listed directories as they were
then.
-/
import CommandShell.Proofs.Memo

namespace CommandShell.Search

variable {uses older newer rest : List Use} {q q₀ : Query} {s : Search}

/-! ## 1. Runs without a change -/

/-- The list is not changed; blank directories may be put in front of it. -/
def Unchanging (uses : List Use) : Prop := ∀ u ∈ uses, u.changes = false

theorem Unchanging.nil : Unchanging [] := List.forall_mem_nil _

theorem unchanging_append : Unchanging (older ++ newer) ↔ Unchanging older ∧ Unchanging newer :=
  List.forall_mem_append

theorem unchanging_cons {u : Use} :
    Unchanging (u :: newer) ↔ u.changes = false ∧ Unchanging newer :=
  List.forall_mem_cons

theorem after_append_list (s : Search) (older newer : List Use) :
    s.after (older ++ newer) = (s.after older).after newer :=
  List.foldl_append

theorem dirs_afterUse {u : Use} (h : u.changes = false) : (s.afterUse u).dirs = s.dirs := by
  cases hq : u.query? with
  | none => rw [afterUse_of_idle h hq]
  | some q =>
    cases u with
    | ask q' => exact dirs_afterUse_ask s q'
    | replaceDirs | setPath | prepend => cases hq

theorem Unchanging.dirs_after (h : Unchanging uses) : (s.after uses).dirs = s.dirs := by
  induction uses using List.reverseRecOn with
  | nil => rfl
  | append_singleton uses u ih =>
    obtain ⟨huses, hu⟩ := unchanging_append.mp h
    rw [after_append, dirs_afterUse (hu u List.mem_cons_self), ih huses]

/-- The queries of such a run come behind the recent ones. -/
theorem Unchanging.recent_append_list (h : Unchanging newer) :
    recent (older ++ newer) = recent older ++ newer.filterMap Use.query? := by
  induction newer using List.reverseRecOn with
  | nil => simp
  | append_singleton newer u ih =>
    obtain ⟨hnewer, hu⟩ := unchanging_append.mp h
    have hkeep : u.changes = false := hu u List.mem_cons_self
    rw [← List.append_assoc, recent_append, hkeep, ih hnewer, List.filterMap_append,
      List.append_assoc]
    cases hq : u.query? <;> simp [hq]

/-- A query is recent if no change came after it. -/
theorem mem_recent_iff :
    q ∈ recent uses ↔
      ∃ before later, uses = before ++ .ask q :: later ∧ Unchanging later := by
  constructor
  · intro hq
    induction uses using List.reverseRecOn with
    | nil => simp at hq
    | append_singleton uses u ih =>
      rw [recent_append] at hq
      cases hc : u.changes with
      | true => simp [hc] at hq
      | false =>
        simp only [hc, Bool.false_eq_true, if_false, List.mem_append] at hq
        rcases hq with hq | hq
        · obtain ⟨before, later, rfl, hlater⟩ := ih hq
          refine ⟨before, later ++ [u], by simp, ?_⟩
          exact unchanging_append.mpr ⟨hlater, unchanging_cons.mpr ⟨hc, .nil⟩⟩
        · cases u with
          | ask q' =>
            obtain rfl : q = q' := by simpa [Use.query?] using hq
            exact ⟨uses, [], rfl, .nil⟩
          | replaceDirs | setPath | prepend => simp [Use.query?] at hq
  · rintro ⟨before, later, rfl, hlater⟩
    have hall : Unchanging (.ask q :: later) := unchanging_cons.mpr ⟨rfl, hlater⟩
    rw [hall.recent_append_list]
    exact List.mem_append_right _ (by simp [Use.query?])

/-! ## 2. The earliest query with a key -/

/-- In a run, `q₀` is the earliest query with the key of `q` since the list was last changed, and
`older` came before it. -/
structure IsEarliest (uses : List Use) (q : Query) (older : List Use) (q₀ : Query) : Prop where
  /-- It was made, and the list has not been changed since. -/
  kept : ∃ newer, uses = older ++ .ask q₀ :: newer ∧ Unchanging newer
  key : q₀.key = q.key
  /-- Every query before it has another key, or came before a change. -/
  least : ∀ before q' later, older = before ++ .ask q' :: later → Unchanging later →
    q'.key ≠ q.key

/-- If there is such a query, there is an earliest one. -/
theorem exists_earliest {run : List Use} (hrun : run = older ++ .ask q₀ :: newer)
    (hnewer : Unchanging newer) (hkey : q₀.key = q.key) :
    ∃ older' q', IsEarliest run q older' q' := by
  -- Whatever came before `q₀` and is as good has less before it.
  induction hn : older.length using Nat.strong_induction_on generalizing older q₀ newer with
  | _ n ih =>
    by_cases hleast : ∀ before q' later, older = before ++ .ask q' :: later → Unchanging later →
        q'.key ≠ q.key
    · exact ⟨older, q₀, ⟨newer, hrun, hnewer⟩, hkey, hleast⟩
    · push Not at hleast
      obtain ⟨before, q', later, hsplit, hlater, hkey'⟩ := hleast
      have hless : before.length < n := by
        rw [← hn, hsplit, List.length_append, List.length_cons]
        omega
      have hrun' : run = before ++ .ask q' :: (later ++ .ask q₀ :: newer) := by
        rw [hrun, hsplit, List.append_assoc, List.cons_append]
      have hnewer' : Unchanging (later ++ .ask q₀ :: newer) :=
        unchanging_append.mpr ⟨hlater, unchanging_cons.mpr ⟨rfl, hnewer⟩⟩
      exact ih before.length hless hrun' hnewer' hkey' rfl

/-- The memory answers from the earliest query. -/
theorem IsEarliest.first_eq (h : IsEarliest (uses ++ [.ask q]) q older q₀) : first uses q = q₀ := by
  obtain ⟨newer, hrun, hnewer⟩ := h.kept
  have hold : (recent older).find? (·.key = q.key) = none := by
    rw [List.find?_eq_none]
    intro q' hq'
    obtain ⟨before, later, hsplit, hlater⟩ := mem_recent_iff.mp hq'
    simpa using h.least before q' later hsplit hlater
  have hall : Unchanging (.ask q₀ :: newer) := unchanging_cons.mpr ⟨rfl, hnewer⟩
  have hleft : recent (uses ++ [.ask q]) = recent uses ++ [q] := recent_append uses (.ask q)
  have hright : recent (uses ++ [.ask q]) =
      recent older ++ q₀ :: newer.filterMap Use.query? := by
    rw [hrun, hall.recent_append_list]
    simp [Use.query?]
  calc first uses q = ((recent uses ++ [q]).find? (·.key = q.key)).getD q := by
        cases hf : (recent uses).find? (·.key = q.key) <;> simp [first, hf]
    _ = ((recent older ++ q₀ :: newer.filterMap Use.query?).find? (·.key = q.key)).getD q := by
        rw [← hleft, hright]
    _ = q₀ := by simp [hold, h.key]

/-- The list it was looked up on is still in place. -/
theorem IsEarliest.dirs_eq (h : IsEarliest (uses ++ [.ask q]) q older q₀) :
    (s.after older).dirs = (s.after uses).dirs := by
  obtain ⟨newer, hrun, hnewer⟩ := h.kept
  have hall : Unchanging (.ask q₀ :: newer) := unchanging_cons.mpr ⟨rfl, hnewer⟩
  calc (s.after older).dirs = (s.after (older ++ .ask q₀ :: newer)).dirs := by
        rw [after_append_list, hall.dirs_after]
    _ = (s.after (uses ++ [.ask q])).dirs := by rw [hrun]
    _ = (s.after uses).dirs := by rw [after_append, dirs_afterUse_ask]

/-! ## 3. What is found -/

/-- The program that `dir` has for a name, taken from a current directory. -/
def candidate (cwd dir name : String) : String := Path.join (Path.join cwd dir) name

/-- Looking up a bare name finds the first program in the order of the list. -/
theorem lookedUp_eq_some_of_bare {dirs : List String} {path : String}
    (hname : Path.hasSlash q.name = false) (h : q.lookedUp dirs = some path) :
    ∃ before dir later, dirs = before ++ dir :: later ∧ path = candidate q.cwd dir q.name ∧
      q.fs.isExecutable q.base path = true ∧
      ∀ d ∈ before, q.fs.isExecutable q.base (candidate q.cwd d q.name) = false := by
  have hsome : q.name ≠ "" := by
    intro hempty
    simp [Query.lookedUp, lookup, hempty] at h
  have hfind : (dirs.map (candidate q.cwd · q.name)).find? (q.fs.isExecutable q.base) =
      some path := by
    simpa [Query.lookedUp, lookup, hsome, hname, candidate] using h
  obtain ⟨hexec, before, later, hsplit, hbefore⟩ := List.find?_eq_some_iff_append.mp hfind
  obtain ⟨earlier, remaining, rfl, rfl, hrest⟩ := List.map_eq_append_iff.mp hsplit
  obtain ⟨dir, behind, rfl, hpath, -⟩ := List.map_eq_cons_iff.mp hrest
  refine ⟨earlier, dir, behind, rfl, hpath.symm, hexec, ?_⟩
  intro d hd
  simpa using hbefore _ (List.mem_map_of_mem hd)

/-- **Where an answer comes from.**  Take any run of a search list that starts without memory, with
files that change as they like.  Whatever is asked at its end, there is an earliest query with that
key since the list was last changed, and the answer is what that query looked up: with its files and
its current directory, on the list that was in place then and still is.

Queries with one key are for paths only or for one bare name.  What is found for a bare name is the
program of that name in a listed directory, and no directory before it had one. -/
theorem answer_eq_earliest (dirs : List String) (uses : List Use) (q : Query) :
    let s := (ofDirs dirs).after uses
    (∃ older q₀, IsEarliest (uses ++ [.ask q]) q older q₀) ∧
      ∀ older q₀, IsEarliest (uses ++ [.ask q]) q older q₀ →
        s.answer q = q₀.lookedUp ((ofDirs dirs).after older).dirs ∧
        ((ofDirs dirs).after older).dirs = s.dirs ∧
        (∀ q' : Query, q'.key = q.key → Path.hasSlash q'.name = Path.hasSlash q.name) ∧
        (Path.hasSlash q.name = false → q₀.name = q.name ∧
          ∀ path, s.answer q = some path →
            ∃ before dir later, s.dirs = before ++ dir :: later ∧
              path = candidate q₀.cwd dir q.name ∧ q₀.fs.isExecutable q₀.base path = true ∧
              ∀ d ∈ before,
                q₀.fs.isExecutable q₀.base (candidate q₀.cwd d q.name) = false) := by
  intro s
  refine ⟨exists_earliest rfl .nil rfl, ?_⟩
  intro older q₀ hearliest
  have hdirs : ((ofDirs dirs).after older).dirs = s.dirs := hearliest.dirs_eq
  have hanswer : s.answer q = q₀.lookedUp s.dirs := by
    rw [← hearliest.first_eq]
    exact answer_after dirs uses q
  refine ⟨by rw [hdirs, hanswer], hdirs, ?_, ?_⟩
  · intro q' hkey
    rw [← hasSlash_key, hkey, hasSlash_key]
  · intro hbare
    have hname : q₀.name = q.name := name_eq_of_key_eq hearliest.key hbare
    refine ⟨hname, ?_⟩
    intro path hpath
    rw [← hname] at hbare ⊢
    exact lookedUp_eq_some_of_bare hbare (hanswer ▸ hpath)

/-- The query for the bare name `tool` when there are no files any more. -/
def toolGone : Query := { fs := .empty, base := [], name := "tool", cwd := "/b" }

/-- **A program that is gone is still found**, and a blank directory changes nothing: the answer is
that of the query before. -/
theorem answer_eq_earliest_gone :
    IsEarliest [.replaceDirs ["/c", "/b/bin"], .ask (toolFrom "/a"), .prepend " ", .ask toolGone]
        toolGone [.replaceDirs ["/c", "/b/bin"]] (toolFrom "/a") ∧
      ((ofDirs []).after [.replaceDirs ["/c", "/b/bin"], .ask (toolFrom "/a"), .prepend " "]).answer
        toolGone = some "/b/bin/tool" ∧
      toolGone.lookedUp ["/c", "/b/bin"] = none := by
  have hearliest : IsEarliest
      [.replaceDirs ["/c", "/b/bin"], .ask (toolFrom "/a"), .prepend " ", .ask toolGone]
      toolGone [.replaceDirs ["/c", "/b/bin"]] (toolFrom "/a") := by
    refine ⟨⟨[.prepend " ", .ask toolGone], rfl, ?_⟩, by decide, ?_⟩
    · exact unchanging_cons.mpr ⟨by decide, unchanging_cons.mpr ⟨rfl, .nil⟩⟩
    · -- Nothing was asked before the list was replaced.
      intro before q' later hsplit
      have hasked : Use.ask q' ∈ [Use.replaceDirs ["/c", "/b/bin"]] := by simp [hsplit]
      simp at hasked
  obtain ⟨-, hall⟩ := answer_eq_earliest []
    [.replaceDirs ["/c", "/b/bin"], .ask (toolFrom "/a"), .prepend " "] toolGone
  obtain ⟨hanswer, -⟩ := hall _ _ hearliest
  refine ⟨hearliest, ?_, by decide⟩
  rw [hanswer]
  decide

end CommandShell.Search
