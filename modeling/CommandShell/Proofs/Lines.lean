/-
# Lines that are written are read back

`Text.unlines` ends every line with a line feed and `Text.lines` reads the lines of a text.  What is
written behind a text is read as lines of its own exactly when the text ends with a line feed or is
empty (`Text.IsClosed`): then the lines are those of both (`lines_append`).  Otherwise the first
line that is written becomes the end of the last one that was there.

Different lines may have the same bytes, as a line may hold line feeds, but not if the ones are a
part of the others (`eq_of_encode_unlines`).

A history file is read by its lines that are not empty (`History.entries`), so the same holds of its
entries (`entries_append_unlines`, `entries_append_unlines_of_open`).
-/
import CommandShell.History
import Mathlib.Data.List.Basic

namespace CommandShell

namespace Text

/-! ## 1. Texts as lines -/

/-- Reading the lines of a text whose last line has an end goes on behind it with a new line. -/
theorem linesFrom_append (line : String) (front rest : List Char) :
    linesFrom line (front ++ '\n' :: rest) =
      linesFrom line (front ++ ['\n']) ++ linesFrom "" rest := by
  induction front generalizing line with
  | nil => simp [linesFrom]
  | cons c front ih =>
    simp only [List.cons_append, linesFrom]
    split
    · rw [ih, List.cons_append]
    · exact ih _

/-- A line without a line feed inside is read as it is, apart from a carriage return at its end. -/
theorem linesFrom_unbroken {cs : List Char} (h : '\n' ∉ cs) (line : String) (rest : List Char) :
    linesFrom line (cs ++ '\n' :: rest) =
      dropReturn (line ++ String.ofList cs) :: linesFrom "" rest := by
  induction cs generalizing line with
  | nil => simp [linesFrom]
  | cons c cs ih =>
    obtain ⟨hc, hcs⟩ := List.ne_and_not_mem_of_not_mem_cons h
    rw [List.cons_append, linesFrom, if_neg hc.symm, ih hcs]
    congr 2
    simp [← String.toList_inj]

/-- A last line without an end is read as it is. -/
theorem linesFrom_open {cs : List Char} (h : '\n' ∉ cs) (line : String) :
    linesFrom line cs =
      if line ++ String.ofList cs = "" then [] else [line ++ String.ofList cs] := by
  induction cs generalizing line with
  | nil => simp [linesFrom]
  | cons c cs ih =>
    obtain ⟨hc, hcs⟩ := List.ne_and_not_mem_of_not_mem_cons h
    have hsame : line.push c ++ String.ofList cs = line ++ String.ofList (c :: cs) := by
      simp [← String.toList_inj]
    rw [linesFrom, if_neg hc.symm, ih hcs, hsame]

/-- Whether every line of a text has an end. -/
def IsClosed (s : String) : Prop := s = "" ∨ s.toList.getLast? = some '\n'

instance (s : String) : Decidable (IsClosed s) := inferInstanceAs (Decidable (_ ∨ _))

/-- What is written behind a text whose lines all have ends is read as lines of its own. -/
theorem lines_append {s : String} (h : IsClosed s) (t : String) :
    lines (s ++ t) = lines s ++ lines t := by
  rcases h with rfl | h
  · simp [lines, linesFrom]
  · obtain ⟨front, hfront⟩ := List.getLast?_eq_some_iff.mp h
    simp only [lines, String.toList_append, hfront, List.append_assoc, List.singleton_append]
    exact linesFrom_append "" front t.toList

/-- Every text is one whose lines all have ends, and a last line without one. -/
theorem exists_closed_append (s : String) :
    ∃ front last : String, s = front ++ last ∧ IsClosed front ∧ '\n' ∉ last.toList := by
  suffices h : ∀ cs : List Char, ∃ front last : List Char, cs = front ++ last ∧
      (front = [] ∨ front.getLast? = some '\n') ∧ '\n' ∉ last by
    obtain ⟨front, last, hs, hfront, hlast⟩ := h s.toList
    refine ⟨String.ofList front, String.ofList last, ?_, ?_, by simpa using hlast⟩
    · simp [← String.toList_inj, hs]
    · simpa [IsClosed, ← String.toList_inj] using hfront
  intro cs
  induction cs with
  | nil => exact ⟨[], [], rfl, .inl rfl, by simp⟩
  | cons c cs ih =>
    obtain ⟨front, last, rfl, hfront, hlast⟩ := ih
    by_cases hopen : front = [] ∧ c ≠ '\n'
    · obtain ⟨rfl, hc⟩ := hopen
      exact ⟨[], c :: last, rfl, .inl rfl, by simp [hlast, hc.symm]⟩
    · refine ⟨c :: front, last, rfl, .inr ?_, hlast⟩
      rcases hfront with rfl | hfront
      · simpa using hopen
      · simp [List.getLast?_cons, hfront]

/-- What can be written as one line and read back: it has no line feed inside, and no carriage
return at its end. -/
structure IsLine (s : String) : Prop where
  unbroken : '\n' ∉ s.toList
  noReturn : s.toList.getLast? ≠ some '\r'

/-- The end of a line is read back with what stands before it. -/
theorem dropReturn_append (front : String) {s : String} (h : IsLine s) (hs : s ≠ "") :
    dropReturn (front ++ s) = front ++ s := by
  have hne : s.toList ≠ [] := by simpa using hs
  have hlast : (front ++ s).toList.getLast? = s.toList.getLast? := by
    rw [String.toList_append, List.getLast?_append_of_ne_nil _ hne]
  rw [dropReturn, if_neg]
  rw [hlast]
  exact h.noReturn

theorem dropReturn_of_isLine {s : String} (h : IsLine s) : dropReturn s = s := by
  rw [dropReturn, if_neg h.noReturn]

/-- **Lines that are written are read back.** -/
theorem lines_unlines {ls : List String} (h : ∀ l ∈ ls, IsLine l) : lines (unlines ls) = ls := by
  induction ls with
  | nil => simp [lines, unlines, linesFrom]
  | cons l ls ih =>
    have hl := h l List.mem_cons_self
    have hrest : linesFrom "" (unlines ls).toList = ls := ih fun l hmem => h l (.tail _ hmem)
    have htext : (unlines (l :: ls)).toList = l.toList ++ '\n' :: (unlines ls).toList := by
      simp [unlines]
    rw [lines, htext, linesFrom_unbroken hl.unbroken, hrest]
    simp [dropReturn_of_isLine hl]

/-! ## 2. The bytes of lines -/

theorem unlines_append (ls ls' : List String) :
    unlines (ls ++ ls') = unlines ls ++ unlines ls' := by
  induction ls with
  | nil => simp [unlines]
  | cons l ls ih => simp [unlines, ih, String.append_assoc]

/-- The bytes of fewer lines are no more. -/
theorem length_encode_unlines_le {ls ls' : List String} (h : ls.Sublist ls') :
    (encode (unlines ls)).length ≤ (encode (unlines ls')).length := by
  induction h with
  | slnil => exact Nat.le_refl _
  | cons l _ ih =>
    simp only [unlines, encode_append, List.length_append]
    omega
  | cons_cons l _ ih =>
    simp only [unlines, encode_append, List.length_append]
    omega

/-- **Lines that were left out are missed among the bytes.** -/
theorem eq_of_encode_unlines {ls ls' : List String} (h : ls.Sublist ls')
    (heq : encode (unlines ls) = encode (unlines ls')) : ls = ls' := by
  induction h with
  | slnil => rfl
  | @cons ls ls' l hsub ih =>
    have hle := length_encode_unlines_le hsub
    have hbreak : (encode "\n").length = 1 := rfl
    have hlen := congrArg List.length heq
    simp only [unlines, encode_append, List.length_append] at hlen
    omega
  | @cons_cons ls ls' l _ ih =>
    have hrest : encode (unlines ls) = encode (unlines ls') := by
      simpa [unlines] using heq
    rw [ih hrest]

end Text

namespace History

open Text

/-! ## 3. Texts as entries -/

/-- A line that a history file can hold as an entry of its own. -/
structure IsEntry (s : String) : Prop extends IsLine s where
  nonempty : s ≠ ""

/-- What is written behind a file whose lines all have ends is read as entries of its own. -/
theorem entries_append {s : String} (h : IsClosed s) (t : String) :
    entries (s ++ t) = entries s ++ entries t := by
  rw [entries, lines_append h, List.filter_append]
  rfl

theorem entries_unlines {new : List String} (h : ∀ e ∈ new, IsEntry e) :
    entries (unlines new) = new := by
  rw [entries, lines_unlines fun e he => (h e he).toIsLine]
  exact List.filter_eq_self.mpr fun e he => by simpa using (h e he).nonempty

/-- **Entries that are written behind a file whose lines all have ends are read back** behind those
that it had. -/
theorem entries_append_unlines {s : String} (hs : IsClosed s) {new : List String}
    (h : ∀ e ∈ new, IsEntry e) : entries (s ++ unlines new) = entries s ++ new := by
  rw [entries_append hs, entries_unlines h]

/-- **Behind a last line without an end, the first of them is lost in that line.** -/
theorem entries_append_unlines_of_open {s : String} (hs : ¬ IsClosed s) {first : String}
    {new : List String} (hfirst : IsEntry first) (h : ∀ e ∈ new, IsEntry e) :
    ∃ before last, entries s = before ++ [last] ∧
      entries (s ++ unlines (first :: new)) = before ++ (last ++ first) :: new := by
  obtain ⟨front, last, rfl, hfront, hlast⟩ := exists_closed_append s
  have hne : last ≠ "" := by
    rintro rfl
    exact hs (by simpa using hfront)
  have hlastLine : entries last = [last] := by
    rw [entries, lines, linesFrom_open hlast]
    simp [hne]
  refine ⟨entries front, last, by rw [entries_append hfront, hlastLine], ?_⟩
  have hline : lines (last ++ unlines (first :: new)) = (last ++ first) :: new := by
    have htext : (last ++ unlines (first :: new)).toList =
        (last ++ first).toList ++ '\n' :: (unlines new).toList := by
      simp [unlines]
    have hunbroken : '\n' ∉ (last ++ first).toList := by
      simpa using ⟨hlast, hfirst.unbroken⟩
    have hrest : linesFrom "" (unlines new).toList = new :=
      lines_unlines fun e he => (h e he).toIsLine
    rw [lines, htext, linesFrom_unbroken hunbroken, hrest]
    simp [dropReturn_append last hfirst.toIsLine hfirst.nonempty]
  rw [String.append_assoc, entries_append hfront, List.append_cancel_left_eq, entries, hline]
  refine List.filter_eq_self.mpr fun e he => ?_
  rcases List.mem_cons.mp he with rfl | he
  · simp [hne]
  · simpa using (h e he).nonempty

end History
end CommandShell
