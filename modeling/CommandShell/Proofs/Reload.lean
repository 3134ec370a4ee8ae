/-
# Histories that are saved and loaded again

A history that is kept in a file until the shell exits grows by lines that are added and by lines
that come from elsewhere (`Addition`), and flushing it appends what the file does not have.  Loading
that file again gives the entries of its text (`load_flushed`).

They are the entries of the session exactly when nothing was appended or the text that was there
ended with a line feed, or was empty (`reload_eq_iff`).  Behind a last line without an end the first
new entry is lost in that line (`reload_ne`).
-/
import CommandShell.Proofs.HistoryFile

namespace CommandShell.History

open FileSystem

variable {fs fs' : FileSystem} {base : Location} {path : String} {text : Option String}

/-! ## 1. Growing -/

/-- One way for the session to grow: by an accepted line, or by lines from elsewhere. -/
inductive Addition
  | line (line : String)
  | lines (lines : List String)

def Addition.added : Addition → List String
  | line l => [l]
  | lines ls => ls

/-- The history after an addition, whatever becomes of its file. -/
def grow (fs : FileSystem) (base : Location) (h : History) : Addition → History
  | .line l => (h.add fs base l).1
  | .lines ls => h.extend ls

def added (additions : List Addition) : List String := additions.flatMap Addition.added

/-- A history that is written when the shell exits has only longer lists after additions. -/
theorem foldl_grow (additions : List Addition) {h : History} (hf : h.file = some (path, .onExit)) :
    additions.foldl (grow fs base) h = h.extend (added additions) := by
  induction additions generalizing h with
  | nil => simp [added, extend]
  | cons a rest ih =>
    have hstep : grow fs base h a = h.extend a.added := by
      cases a with
      | line l => simp [grow, add, extend, hf, Addition.added]
      | lines ls => rfl
    rw [List.foldl_cons, hstep, ih (by simpa [extend] using hf)]
    simp [extend, added, List.append_assoc]

/-! ## 2. Flushing -/

/-- Flushing a history that has all but some last entries in its file. -/
theorem flush_of_pending {h flushed : History} (hf : h.file = some (path, .onExit))
    (hflush : h.flush fs base = (flushed, .ok fs')) :
    flushed.session = h.session ∧
      appendPending fs base path (h.session.drop h.flushed) = .ok fs' := by
  simp only [flush, hf] at hflush
  split at hflush
  next written hpending =>
    obtain ⟨rfl, hok⟩ := Prod.mk.inj hflush
    exact ⟨rfl, by rw [hpending, Except.ok.inj hok]⟩
  next => cases hflush

/-- What a history file holds after lines were appended, if there were any. -/
theorem holds_appendPending (h : fs.Holds base path text) {lines : List String}
    (ha : appendPending fs base path lines = .ok fs') :
    fs'.Holds base path
      (if lines = [] then text else some (text.getD "" ++ Text.unlines lines)) := by
  rw [appendPending] at ha
  split_ifs at ha ⊢
  · obtain rfl := Except.ok.inj ha
    exact h
  · exact holds_appendLines h ha

/-! ## 3. Loading again -/

/-- The session that is loaded from a text, with some lines added to it. -/
theorem load_flushed (htext : fs.Holds base path text) {loaded : History}
    (hload : load fs base path .onExit = .ok loaded) (additions : List Addition)
    {flushed : History}
    (hflush : (additions.foldl (grow fs base) loaded).flush fs base = (flushed, .ok fs')) :
    flushed.session = entries (text.getD "") ++ added additions ∧
      ∃ again, load fs' base path .onExit = .ok again ∧
        again.session = entries (text.getD "" ++ Text.unlines (added additions)) := by
  rw [load_of_holds htext, Except.ok.injEq] at hload
  subst hload
  rw [foldl_grow additions rfl] at hflush
  obtain ⟨hsession, hpending⟩ := flush_of_pending rfl hflush
  simp only [extend, List.drop_left] at hsession hpending
  refine ⟨hsession, _, load_of_holds (holds_appendPending htext hpending), ?_⟩
  split_ifs with hnone
  · simp [hnone, Text.unlines]
  · rfl

/-- **When a saved history is loaded as the same session.**  For every text that a history file
holds, or none, loading it succeeds, and after any additions and a flush that succeeds, loading the
file again does too.  It gives the same session exactly when there were no additions or every line
of the text had an end. -/
theorem reload_eq_iff (htext : fs.Holds base path text) :
    ∃ loaded, load fs base path .onExit = .ok loaded ∧
      ∀ additions : List Addition, (∀ e ∈ added additions, IsEntry e) →
        ∀ flushed fs', (additions.foldl (grow fs base) loaded).flush fs base = (flushed, .ok fs') →
          ∃ again, load fs' base path .onExit = .ok again ∧
            (again.session = flushed.session ↔
              added additions = [] ∨ Text.IsClosed (text.getD "")) := by
  refine ⟨_, load_of_holds htext, fun additions hentries flushed fs' hflush => ?_⟩
  obtain ⟨hsession, again, hagain, hread⟩ :=
    load_flushed htext (load_of_holds htext) additions hflush
  refine ⟨again, hagain, ?_⟩
  rw [hread, hsession]
  by_cases hclosed : Text.IsClosed (text.getD "")
  · simp [entries_append_unlines hclosed hentries, hclosed]
  · cases hadded : added additions with
    | nil => simp [Text.unlines]
    | cons first rest =>
      rw [hadded] at hentries
      obtain ⟨before, last, hbefore, hafter⟩ := entries_append_unlines_of_open hclosed
        (hentries first List.mem_cons_self) fun e he => hentries e (.tail _ he)
      have hne : (before ++ (last ++ first) :: rest).length ≠
          (before ++ [last] ++ first :: rest).length := by
        simp only [List.length_append, List.length_cons, List.length_nil]
        omega
      rw [hafter, hbefore]
      simp only [hclosed, or_false, reduceCtorEq, iff_false]
      exact fun heq => hne (congrArg List.length heq)

/-- A machine with a history file in its root. -/
def kept (text : String) : FileSystem :=
  FileSystem.empty.set ["h"] (.file (Text.encode text) false)

/-- A file with an empty line between its entries, and a line that comes from a terminal. -/
theorem reload_eq_iff_ended :
    (kept "first\n\nsecond\n").Holds [] "/h" (some "first\n\nsecond\n") ∧
      (∀ e ∈ added [.line "third"], IsEntry e) ∧
      ∃ loaded, load (kept "first\n\nsecond\n") [] "/h" .onExit = .ok loaded ∧
        ∀ flushed fs', (grow (kept "first\n\nsecond\n") [] loaded (.line "third")).flush
            (kept "first\n\nsecond\n") [] = (flushed, .ok fs') →
          ∃ again, load fs' [] "/h" .onExit = .ok again ∧ again.session = flushed.session := by
  have htext : (kept "first\n\nsecond\n").Holds [] "/h" (some "first\n\nsecond\n") :=
    ⟨["h"], false, by rfl, by rfl⟩
  have hentries : ∀ e ∈ added [.line "third"], IsEntry e := by
    intro e he
    obtain rfl : e = "third" := by simpa [added, Addition.added] using he
    exact ⟨⟨by decide, by decide⟩, by decide⟩
  obtain ⟨loaded, hload, hall⟩ := reload_eq_iff htext
  refine ⟨htext, hentries, loaded, hload, fun flushed fs' hflush => ?_⟩
  obtain ⟨again, hagain, hiff⟩ := hall [.line "third"] hentries flushed fs' hflush
  exact ⟨again, hagain, hiff.mpr (.inr (.inr (by decide)))⟩

/-- **Behind a last line without an end an entry is lost:** two entries are saved, and one is loaded
again. -/
theorem reload_ne :
    ∃ loaded flushed fs' again, load (kept "a") [] "/h" .onExit = .ok loaded ∧
      (grow (kept "a") [] loaded (.line "b")).flush (kept "a") [] = (flushed, .ok fs') ∧
      load fs' [] "/h" .onExit = .ok again ∧
      flushed.session = ["a", "b"] ∧ again.session = ["ab"] := by
  refine ⟨_, _, _, _, rfl, rfl, rfl, ?_, ?_⟩
  · decide
  · decide

end CommandShell.History
