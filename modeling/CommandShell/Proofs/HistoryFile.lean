/-
# The file of a history

What a history file holds, seen from outside, is a text or, before it is created, nothing
(`FileSystem.Holds`).  Loading reads the entries of the text (`load_of_holds`), and appending lines
puts them behind it (`holds_appendLines`), creating the file if it has to.
-/
import CommandShell.Proofs.Creation
import CommandShell.Proofs.Lines

namespace CommandShell

namespace FileSystem

variable {fs fs' : FileSystem} {base loc : Location} {path : String} {text : Option String}

/-! ## 1. Files that hold a text -/

/-- What the regular file at a path holds, or that there is nothing at the path. -/
def Holds (fs : FileSystem) (base : Location) (path : String) : Option String → Prop
  | none => fs.present base path = false
  | some text => ∃ loc executable, fs.locate base path = .ok loc ∧
      fs.node? loc = some (.file (Text.encode text) executable)

theorem set_set (fs : FileSystem) (loc : Location) (n n' : Node) :
    (fs.set loc n).set loc n' = fs.set loc n' := by
  ext1 other
  by_cases h : loc = other
  · subst h
    simp
  · simp only [node?_set_of_ne _ _ h]

theorem present_of_locate (hl : fs.locate base path = .ok loc) {n : Node}
    (hn : fs.node? loc = some n) : fs.present base path = true := by
  simp [present, nodeAt?, hl, hn]

/-- A file that holds a text is read as that text. -/
theorem readText_of_holds {t : String} (h : fs.Holds base path (some t)) :
    fs.readText base path = .ok t := by
  obtain ⟨loc, executable, hl, hn⟩ := h
  simp [readText, hl, hn, content, Text.decode?_encode, bind, Except.bind]

/-- What bytes are put behind, once the file at a path is opened for that: nothing is opened unless
it can be created, and a file that was not there is empty. -/
theorem openForWriting_append {target : Target}
    (h : fs.openForWriting base path .append = .ok (target, fs')) :
    ∃ loc, fs.locateForCreation base path = .ok loc ∧
      ((∃ d, fs.node? loc = some (.device d) ∧ target = .device d ∧ fs' = fs) ∨
        (∃ n, fs.node? loc = some n ∧ target = .file loc ∧ fs' = fs) ∨
        (fs.node? loc = none ∧ target = .file loc ∧ fs' = fs.set loc (.file [] false))) := by
  simp only [openForWriting] at h
  rcases hc : fs.locateForCreation base path with fault | loc
  · simp [hc, bind, Except.bind] at h
  · refine ⟨loc, rfl, ?_⟩
    simp only [hc, bind, Except.bind] at h
    split at h
    next d hd =>
      obtain ⟨rfl, rfl⟩ := Prod.mk.inj (Except.ok.inj h)
      exact .inl ⟨d, hd, rfl, rfl⟩
    next n _ hn _ =>
      obtain ⟨rfl, rfl⟩ := Prod.mk.inj (Except.ok.inj h)
      exact .inr (.inl ⟨n, hn, rfl, rfl⟩)
    next hmode => cases hmode
    next hn =>
      obtain ⟨rfl, rfl⟩ := Prod.mk.inj (Except.ok.inj h)
      exact .inr (.inr ⟨hn, rfl, by simp [setContent, hn]⟩)

end FileSystem

namespace History

open FileSystem

variable {fs fs' : FileSystem} {base : Location} {path : String} {text : Option String}

/-! ## 2. Loading and appending -/

@[simp] theorem entries_empty : entries "" = [] := rfl

/-- The entries of a history file that open the session. -/
def opening : PersistMode → List String → List String
  | .onExit, lines => lines
  | .immediate, _ => []

/-- **A history that is loaded** recalls the entries of its file, which has those that open the
session.  If there is no file, there are none. -/
theorem load_eq_ok {mode : PersistMode} {h : History} (hload : load fs base path mode = .ok h) :
    ∃ lines, (fs.present base path = false ∧ lines = [] ∨ readEntries fs base path = .ok lines) ∧
      h = { file := some (path, mode), session := opening mode lines, recalled := lines,
            flushed := (opening mode lines).length } := by
  unfold load at hload
  split at hload
  next =>
    split at hload
    next => cases hload
    next lines hread =>
      refine ⟨lines, .inr hread, ?_⟩
      cases mode <;> exact (Except.ok.inj hload).symm
  next habsent =>
    refine ⟨[], .inl ⟨by simpa using habsent, rfl⟩, ?_⟩
    cases mode <;> exact (Except.ok.inj hload).symm

/-- **What is loaded from a history file:** the entries of its text, which open the session. -/
theorem load_of_holds (h : fs.Holds base path text) :
    load fs base path .onExit = .ok
      { file := some (path, .onExit)
        session := entries (text.getD "")
        recalled := entries (text.getD "")
        flushed := (entries (text.getD "")).length } := by
  cases text with
  | none => simp [load, show fs.present base path = false from h, entries_empty]
  | some t =>
    obtain ⟨loc, executable, hl, hn⟩ := h
    have hread : readEntries fs base path = .ok (entries t) := by
      rw [readEntries, readText_of_holds ⟨loc, executable, hl, hn⟩]
    simp [load, present_of_locate hl hn, hread]

/-- Appending to a regular file that is open for it. -/
theorem appendLines_of_open {loc : Location} {opened : FileSystem} {old : Bytes}
    {executable : Bool} {lines : List String}
    (hopen : fs.openForWriting base path .append = .ok (.file loc, opened))
    (hn : opened.node? loc = some (.file old executable)) :
    appendLines fs base path lines =
      .ok (opened.set loc (.file (old ++ Text.encode (Text.unlines lines)) executable)) := by
  simp [appendLines, hopen, FileSystem.extend, content, setContent, hn, Except.mapError]

/-- **Lines that are appended stand behind the text that was there**, in a file that is created if
there was none. -/
theorem holds_appendLines (h : fs.Holds base path text) {lines : List String}
    (ha : appendLines fs base path lines = .ok fs') :
    fs'.Holds base path (some (text.getD "" ++ Text.unlines lines)) := by
  rcases hopen : fs.openForWriting base path .append with fault | ⟨target, opened⟩
  · simp [appendLines, hopen] at ha
  obtain ⟨loc, hc, hcases⟩ := openForWriting_append hopen
  have hplain := isPlain_of_locateForCreation hc
  cases text with
  | some t =>
    obtain ⟨place, executable, hl, hn⟩ := h
    obtain rfl := located_eq_created hl hc
    obtain ⟨rfl, hsame⟩ : target = .file place ∧ opened = fs := by simpa [hn] using hcases
    rw [appendLines_of_open hopen (hsame ▸ hn), hsame, ← Text.encode_append] at ha
    obtain rfl := Except.ok.inj ha
    exact ⟨place, executable, locate_of_created hc (fills_set hplain _ _), node?_set_self ..⟩
  | none =>
    have hfree : fs.node? loc = none := by
      by_contra hsome
      obtain ⟨n, hn⟩ := Option.ne_none_iff_exists'.mp hsome
      have hfills : Fills fs fs loc := ⟨fun _ _ => rfl, hplain, hplain, by simp [hn]⟩
      have hpresent := present_of_locate (locate_of_created hc hfills) hn
      simp [show fs.present base path = false from h] at hpresent
    obtain ⟨rfl, rfl⟩ : target = .file loc ∧ opened = fs.set loc (.file [] false) := by
      simpa [hfree] using hcases
    rw [appendLines_of_open hopen (node?_set_self ..), set_set, List.nil_append] at ha
    obtain rfl := Except.ok.inj ha
    refine ⟨loc, false, locate_of_created hc (fills_set hplain _ _), ?_⟩
    simp

end History
end CommandShell
