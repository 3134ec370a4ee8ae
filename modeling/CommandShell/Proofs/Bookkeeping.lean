/-
# The counts of a history

A history counts how many entries of its session are in its file, and how many it has given to each
other file.  The counts bound what is written next, so they have to fit the session at any time,
also after requests that failed half way.

They do: no count is ever beyond the end of the session, and none is taken back.  And what a line
editor is offered are the lines of the session behind those that were there before it, which are
none unless the history takes every line at once and found its file there (`linesBefore`).  This is
what a history is created with (`Created.balanced`), and what every request keeps, whatever the
files are (`Served.balanced`), so it holds after any of them (`Balanced.after`).
-/
import CommandShell.Proofs.HistoryRun
import CommandShell.Proofs.Reload

namespace CommandShell.History

open FileSystem

variable {fs fs' : FileSystem} {base : Location} {path : String} {h h' h'' h₀ : History}
  {before : List String} {r : Request} {result : Except Failure FileSystem}

/-! ## 1. How a history begins, and what becomes of it -/

/-- The lines that are recalled before those of the session: what is in the file of a history that
takes every line at once.  In on-exit mode these lines are in the session. -/
def linesBefore (fs : FileSystem) (base : Location) (path : String) : PersistMode → List String
  | .onExit => []
  | .immediate => entries ((fs.readText base path).toOption.getD "")

/-- A history that is created, with the lines that it recalls before those of the session. -/
inductive Created : History → List String → Prop
  /-- It is in memory only. -/
  | inMemory : Created {} []
  | loaded {fs : FileSystem} {base : Location} {path : String} {mode : PersistMode} {h : History}
      (hload : load fs base path mode = .ok h) : Created h (linesBefore fs base path mode)

/-- A request, with the files and the directory that it is made with. -/
structure Call where
  request : Request
  fs : FileSystem
  base : Location

/-- A history after one call, whether or not it succeeds. -/
def afterCall (h : History) (c : Call) : History := (c.request.serve h c.fs c.base).1

/-- A history after some calls.  The files may be any at each of them. -/
def after (h : History) (calls : List Call) : History := calls.foldl afterCall h

/-! ## 2. Counts that fit the session -/

/-- The counts of a history are not beyond the end of its session, and it recalls the session behind
some lines from before it. -/
structure Balanced (before : List String) (h : History) : Prop where
  flushed_le : h.flushed ≤ h.session.length
  mark_le : ∀ (key : List String) (n : Nat), h.marks[key]? = some n → n ≤ h.session.length
  recalled_eq : h.recalled = before ++ h.session

theorem Balanced.mark_le_length (hb : Balanced before h) (path : String) :
    h.mark path ≤ h.session.length := by
  rw [mark, Std.ExtTreeMap.getD_eq_getD_getElem?]
  cases hmark : h.marks[Path.components path]? with
  | none => exact Nat.zero_le _
  | some n => exact hb.mark_le _ n hmark

/-- No count is taken back. -/
structure Advances (h h' : History) : Prop where
  flushed_le : h.flushed ≤ h'.flushed
  mark_le : ∀ (key : List String) (n : Nat), h.marks[key]? = some n →
    ∃ n', h'.marks[key]? = some n' ∧ n ≤ n'

theorem Advances.of_eq (hflushed : h'.flushed = h.flushed) (hmarks : h'.marks = h.marks) :
    h.Advances h' where
  flushed_le := Nat.le_of_eq hflushed.symm
  mark_le _ n hn := ⟨n, hmarks ▸ hn, Nat.le_refl n⟩

theorem Advances.trans (ha : h.Advances h') (ha' : h'.Advances h'') : h.Advances h'' where
  flushed_le := Nat.le_trans ha.flushed_le ha'.flushed_le
  mark_le key n hn := by
    obtain ⟨n', hn', hle⟩ := ha.mark_le key n hn
    obtain ⟨n'', hn'', hle'⟩ := ha'.mark_le key n' hn'
    exact ⟨n'', hn'', Nat.le_trans hle hle'⟩

/-! ## 3. What a request does to them -/

/-- Lines that come to the session leave the counts where they are. -/
theorem Balanced.extend (hb : Balanced before h) (lines : List String) :
    Balanced before (h.extend lines) ∧ h.Advances (h.extend lines) := by
  have hlonger : h.session.length ≤ (h.extend lines).session.length := by
    simp [History.extend]
  refine ⟨⟨?_, fun key n hn => ?_, ?_⟩, .of_eq rfl rfl⟩
  · exact Nat.le_trans hb.flushed_le hlonger
  · exact Nat.le_trans (hb.mark_le key n hn) hlonger
  · simp [History.extend, hb.recalled_eq]

theorem Balanced.flush (hb : Balanced before h) :
    Balanced before { h with flushed := h.session.length } ∧
      h.Advances { h with flushed := h.session.length } :=
  ⟨⟨Nat.le_refl _, hb.mark_le, hb.recalled_eq⟩,
    hb.flushed_le, fun _ n hn => ⟨n, hn, Nat.le_refl n⟩⟩

theorem Balanced.give (hb : Balanced before h) (key : List String) :
    Balanced before { h with marks := h.marks.insert key h.session.length } ∧
      h.Advances { h with marks := h.marks.insert key h.session.length } := by
  have hget (other : List String) : (h.marks.insert key h.session.length)[other]? =
      if key = other then some h.session.length else h.marks[other]? := by
    simp [Std.ExtTreeMap.getElem?_insert]
  constructor
  · refine ⟨hb.flushed_le, fun other n hn => ?_, hb.recalled_eq⟩
    rw [hget] at hn
    split at hn
    · exact Nat.le_of_eq (Option.some.inj hn).symm
    · exact hb.mark_le other n hn
  · refine ⟨Nat.le_refl _, fun other n hn => ?_⟩
    have hle := hb.mark_le other n hn
    simp only [hget]
    split
    · exact ⟨_, rfl, hle⟩
    · exact ⟨n, hn, Nat.le_refl n⟩

/-- **A request keeps the counts right**, and takes none back. -/
theorem Served.balanced (hr : Served h fs base r h' result) (hb : Balanced before h) :
    Balanced before h' ∧ h.Advances h' := by
  have hsame : Balanced before h ∧ h.Advances h := ⟨hb, .of_eq rfl rfl⟩
  cases hr with
  | added | unsaved | extended | reread => exact hb.extend _
  | saved =>
    obtain ⟨hextended, hgrown⟩ := hb.extend _
    obtain ⟨hflushed, hsaved⟩ := hextended.flush
    exact ⟨hflushed, hgrown.trans hsaved⟩
  | flushed => exact hb.flush
  | appended => exact hb.give _
  | wrote | unkept | refused => exact hsame

/-- **So do any calls**, one after the other. -/
theorem Balanced.after (hb : Balanced before h) (calls : List Call) :
    Balanced before (h.after calls) ∧ h.Advances (h.after calls) := by
  induction calls generalizing h with
  | nil => exact ⟨hb, .of_eq rfl rfl⟩
  | cons c calls ih =>
    obtain ⟨hkept, hadvanced⟩ := (served_serve h c.fs c.base c.request).balanced hb
    obtain ⟨hkept', hadvanced'⟩ := ih hkept
    exact ⟨hkept', hadvanced.trans hadvanced'⟩

/-! ## 4. From the beginning -/

theorem readText_of_absent (habsent : fs.present base path = false) :
    (fs.readText base path).toOption.getD "" = "" := by
  rcases hl : fs.locate base path with fault | loc
  · simp [readText, hl, bind, Except.bind, Except.toOption]
  · have hnone : fs.node? loc = none := by simpa [present, nodeAt?, hl] using habsent
    have hempty : Text.decode? [] = some "" := Text.decode?_encode ""
    simp [readText, hl, hnone, content, bind, Except.bind, Except.toOption, hempty]

/-- The entries of a file are recalled before the session, or open it. -/
theorem linesBefore_append_opening {lines : List String}
    (hlines : fs.present base path = false ∧ lines = [] ∨ readEntries fs base path = .ok lines)
    (mode : PersistMode) : linesBefore fs base path mode ++ opening mode lines = lines := by
  cases mode with
  | onExit => rfl
  | immediate =>
    rw [opening, List.append_nil, linesBefore]
    rcases hlines with ⟨habsent, rfl⟩ | hread
    · rw [readText_of_absent habsent, entries_empty]
    · unfold readEntries at hread
      split at hread
      next text htext =>
        rw [htext]
        exact Except.ok.inj hread
      next => cases hread

/-- **The counts of a history that is created are right.** -/
theorem Created.balanced (hc : Created h before) : Balanced before h := by
  have hnew (key : List String) (n bound : Nat) :
      (∅ : Std.ExtTreeMap (List String) Nat)[key]? = some n → n ≤ bound := by simp
  cases hc with
  | inMemory => exact ⟨Nat.le_refl _, fun key n => hnew key n _, rfl⟩
  | @loaded fs base path mode _ hload =>
    obtain ⟨lines, hlines, rfl⟩ := load_eq_ok hload
    have hrecalled := linesBefore_append_opening hlines mode
    exact ⟨Nat.le_refl _, fun key n => hnew key n _, hrecalled.symm⟩

/-- **The counts of a history always fit its session.**  Take a history that is created, any calls,
and more calls after them.  Neither the count of what is in the history file nor a count of what was
given to another file is beyond the end of the session, so no count has to be cut off there before
the rest of the session is taken; and neither is ever taken back.  What is recalled is the session
behind the lines from before it: those that were loaded in immediate mode, and none else. -/
theorem counts_fit (hcreated : Created h₀ before) (calls more : List Call) :
    let h := h₀.after calls
    let h' := h.after more
    (h.flushed ≤ h.session.length ∧
      ∀ (key : List String) (n : Nat), h.marks[key]? = some n → n ≤ h.session.length) ∧
    (min h.flushed h.session.length = h.flushed ∧
      ∀ path, min (h.mark path) h.session.length = h.mark path) ∧
    (h.flushed ≤ h'.flushed ∧
      ∀ (key : List String) (n : Nat), h.marks[key]? = some n →
        ∃ n', h'.marks[key]? = some n' ∧ n ≤ n') ∧
    h.recalled = before ++ h.session := by
  intro h h'
  obtain ⟨hfit, -⟩ := hcreated.balanced.after calls
  obtain ⟨-, hadvances⟩ := hfit.after more
  refine ⟨⟨hfit.flushed_le, hfit.mark_le⟩, ⟨Nat.min_eq_left hfit.flushed_le, fun path => ?_⟩,
    ⟨hadvances.flushed_le, hadvances.mark_le⟩, hfit.recalled_eq⟩
  exact Nat.min_eq_left (hfit.mark_le_length path)

/-- A machine with a directory where the history file was. -/
def blocked : FileSystem := FileSystem.empty.set ["h"] .directory

/-- A history takes every line at once, but its second line finds a directory in the place of the
file, and so does a `history -a`.  Some of the session is given to another file, and the rest of it
later. -/
theorem counts_fit_blocked :
    ∃ h₀, Created h₀ ["x", "y"] ∧
      let h := h₀.after [⟨.add "a", kept "x\n\ny\n", []⟩, ⟨.add "b", blocked, []⟩,
        ⟨.appendNewTo "/k", blocked, []⟩, ⟨.extend ["c"], blocked, []⟩,
        ⟨.appendNewTo "/h", blocked, []⟩]
      let h' := h.after [⟨.appendNewTo "/k", blocked, []⟩]
      h.session = ["a", "b", "c"] ∧ h.flushed = 1 ∧ h.mark "/k" = 2 ∧ h'.mark "/k" = 3 ∧
        min h.flushed h.session.length = h.flushed ∧ h.recalled = ["x", "y"] ++ h.session := by
  have hload : load (kept "x\n\ny\n") [] "/h" .immediate =
      .ok { file := some ("/h", .immediate), recalled := ["x", "y"] } := by rfl
  have hcreated : Created { file := some ("/h", .immediate), recalled := ["x", "y"] } ["x", "y"] :=
    .loaded hload
  refine ⟨_, hcreated, ?_⟩
  intro h h'
  obtain ⟨-, ⟨hmin, -⟩, -, hrecalled⟩ := counts_fit hcreated _ [⟨.appendNewTo "/k", blocked, []⟩]
  exact ⟨rfl, rfl, rfl, rfl, hmin, hrecalled⟩

end CommandShell.History
