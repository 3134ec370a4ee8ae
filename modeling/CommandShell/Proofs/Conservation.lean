/-
# Reading a line loses nothing

The reader leaves characters of a line out: spaces and tabs between words, and the quotes and
backslashes that were put around the others.  All other characters come into a word, each once and
in the order of the line.  So the words of a line, one after the other, are the line again, as far
as characters are concerned that stand for themselves (`keeps_readFrom`).

A pipe character stands for itself when a line is read as one command, which is what becomes of a
line with an empty segment.  Each of its pipe characters is then found in one of the words, between
the same ordinary characters as in the line (`ordinary_readAll`).
-/
import CommandShell.Proofs.Completed
import CommandShell.Syntax.Line

namespace CommandShell.Word

/-! ## 1. Ordinary characters -/

/-- Some characters without the spaces, tabs, backslashes and quotes among them. -/
def ordinary (cs : List Char) : List Char := cs.filter (IsOrdinary ·)

/-- The characters of some words, one word after the other. -/
def letters (ws : List Word) : List Char := ws.flatMap (·.text.toList)

theorem ordinary_append (cs ds : List Char) : ordinary (cs ++ ds) = ordinary cs ++ ordinary ds :=
  List.filter_append ..

theorem ordinary_cons {c : Char} (hc : IsOrdinary c) (cs : List Char) :
    ordinary (c :: cs) = c :: ordinary cs :=
  List.filter_cons_of_pos (decide_eq_true hc)

theorem ordinary_cons_of_not {c : Char} (hc : ¬ IsOrdinary c) (cs : List Char) :
    ordinary (c :: cs) = ordinary cs :=
  List.filter_cons_of_neg (by simpa using hc)

/-! ## 2. The reader keeps them -/

/-- The ordinary characters of some words are those of a word that was begun and of the characters
behind it. -/
def Keeps (w : Word) (cs : List Char) (ws : List Word) : Prop :=
  ordinary (letters ws) = ordinary (w.text.toList ++ cs)

namespace Keeps

variable {w : Word} {c : Char} {cs : List Char} {ws : List Word}

theorem done (h : Keeps {} cs ws) (w : Word) : Keeps w cs (w :: ws) := by
  have hrest : ordinary (letters ws) = ordinary cs := h
  rw [Keeps, letters, List.flatMap_cons, ordinary_append, ordinary_append, ← hrest, letters]

theorem take (h : Keeps (w.push c) cs ws) : Keeps w (c :: cs) ws := by
  simpa [Keeps, push] using h

/-- A character that is not an ordinary one is left out. -/
theorem drop (h : Keeps w cs ws) (hc : ¬ IsOrdinary c) : Keeps w (c :: cs) ws := by
  rw [Keeps, ordinary_append, ordinary_cons_of_not hc, ← ordinary_append]
  exact h

end Keeps

/-- **The reader keeps the ordinary characters**, those of the word that was begun and those behind
it.  Between two words none is begun. -/
theorem keeps_readFrom {place : Place} {w : Word} (hbegun : place ≠ .gap ∨ w = {})
    (cs : List Char) : Keeps w cs (readFrom place w cs) := by
  fun_induction readFrom place w cs
  -- The line ends.
  case case1 =>
    obtain rfl := hbegun.resolve_left fun hgap => hgap rfl
    rfl
  case case2 w | case3 w | case4 w => exact .done rfl w
  -- A quote is left out, at the end of a span and at its start.
  case case5 ih | case9 ih | case13 ih | case14 ih | case18 ih | case19 ih =>
    exact (ih (.inl (by decide))).drop (by decide)
  -- So is a backslash, and what it escapes is not.
  case case7 ih | case8 ih => exact (ih (.inl (by decide))).take.drop (by decide)
  case case11 ih | case16 ih => exact Keeps.drop (.take (ih (.inl (by decide)))) (by decide)
  -- So is a separator, which may end a word.
  case case12 hsep ih => exact (ih hbegun).drop (not_isOrdinary_iff.mpr (.inl hsep))
  case case17 w _ _ _ hsep ih =>
    exact ((ih (.inr rfl)).done w).drop (not_isOrdinary_iff.mpr (.inl hsep))
  -- All others go into the word.
  case case6 ih | case10 ih | case15 ih | case20 ih => exact (ih (.inl (by decide))).take

/-! ## 3. Where a character comes to stand -/

/-- A character stands in one of some words, behind the characters `front` of this word and of those
before it, and in front of the characters `back`. -/
def IsAt (c : Char) (front back : List Char) (ws : List Word) : Prop :=
  ∃ before w after left right, ws = before ++ w :: after ∧ w.text.toList = left ++ c :: right ∧
    front = letters before ++ left ∧ back = right ++ letters after

/-- The same, as far as ordinary characters are concerned. -/
def Stands (c : Char) (front back : List Char) (ws : List Word) : Prop :=
  ∃ front' back', IsAt c front' back' ws ∧ ordinary front' = ordinary front ∧
    ordinary back' = ordinary back

variable {w : Word} {c : Char} {front back left right : List Char} {ws : List Word}

theorem IsAt.head (hw : w.text.toList = left ++ c :: right) (ws : List Word) :
    IsAt c left (right ++ letters ws) (w :: ws) :=
  ⟨[], w, ws, left, right, rfl, hw, rfl, rfl⟩

theorem IsAt.cons (h : IsAt c front back ws) (w : Word) :
    IsAt c (w.text.toList ++ front) back (w :: ws) := by
  obtain ⟨before, v, after, left, right, rfl, hv, rfl, rfl⟩ := h
  refine ⟨w :: before, v, after, left, right, rfl, hv, ?_, rfl⟩
  rw [letters, letters, List.flatMap_cons, List.append_assoc]

/-- A character of some words is a character of one of them. -/
theorem isAt_of_letters (h : letters ws = front ++ c :: back) : IsAt c front back ws := by
  induction ws generalizing front with
  | nil => simp [letters] at h
  | cons w ws ih =>
    rw [letters, List.flatMap_cons, ← letters] at h
    rcases List.append_eq_append_iff.mp h with ⟨mid, rfl, hmid⟩ | ⟨mid, hw, hmid⟩
    · exact (ih hmid).cons w
    · cases mid with
      | nil =>
        -- The word ends in front of the character.
        have hnil : letters ws = [] ++ c :: back := hmid.symm
        have hnext := (ih hnil).cons w
        rw [List.append_nil] at hw hnext
        rwa [hw] at hnext
      | cons d mid =>
        obtain ⟨rfl, rfl⟩ := List.cons.inj hmid
        exact .head hw ws

/-- **An ordinary character that is kept stands in one of the words**, between the same ordinary
characters as before. -/
theorem stands_of_ordinary_eq (hc : IsOrdinary c)
    (h : ordinary (letters ws) = ordinary (front ++ c :: back)) : Stands c front back ws := by
  rw [ordinary_append, ordinary_cons hc] at h
  obtain ⟨head, tail, hletters, hhead, htail⟩ := List.filter_eq_append_iff.mp h
  obtain ⟨gap, rest, rfl, hgap, -, hrest⟩ := List.filter_eq_cons_iff.mp htail
  rw [← List.append_assoc] at hletters
  have hnone : ordinary gap = [] := List.filter_eq_nil_iff.mpr hgap
  refine ⟨head ++ gap, rest, isAt_of_letters hletters, ?_, hrest⟩
  rw [ordinary_append, hnone, List.append_nil]
  exact hhead

/-! ## 4. Lines -/

/-- **Reading a line loses nothing and reorders nothing.**  Without spaces, tabs, backslashes and
quotes, the words of a line, one after the other, are the line.  So when a line with an empty
segment is read as one command, each of its pipe characters stands in one of the words of that
command, behind the same ordinary characters and in front of the same as in the line. -/
theorem ordinary_readAll (line : String) :
    ordinary (letters (readAll line)) = ordinary line.toList ∧
      (2 ≤ (Segment.split line).length →
        (∃ seg ∈ Segment.split line, (Stage.parse seg).isEmpty = true) →
        Line.parse line = .single (Stage.ofWords (readAll line)) ∧
          ∀ front back, line.toList = front ++ '|' :: back →
            Stands '|' front back (readAll line)) := by
  have hkept : ordinary (letters (readAll line)) = ordinary line.toList :=
    keeps_readFrom (.inr rfl) line.toList
  refine ⟨hkept, fun _ hempty => ⟨?_, fun front back hline => ?_⟩⟩
  · have hany : ((Segment.split line).map Stage.parse).any Stage.isEmpty = true := by
      simpa using hempty
    simp [Line.parse, hany, Stage.parse]
  · have hpipe : IsOrdinary '|' := by decide
    exact stands_of_ordinary_eq hpipe (hkept.trans (congrArg ordinary hline))

/-- Two pipes with nothing between them, one in quotes and one behind a backslash: the line is one
command, and the last of the two has a word of its own. -/
theorem ordinary_readAll_fallback :
    let line := "echo 'a|' | | b\\|"
    (2 ≤ (Segment.split line).length ∧
      (∃ seg ∈ Segment.split line, (Stage.parse seg).isEmpty = true) ∧
      line.toList = "echo 'a|' | ".toList ++ '|' :: " b\\|".toList) ∧
    Line.parse line = .single { name := "echo", args := ["a|", "|", "|", "b|"] } ∧
    Stands '|' "echo 'a|' | ".toList " b\\|".toList (readAll line) := by
  intro line
  have hlong : 2 ≤ (Segment.split line).length := by decide
  have hempty : ∃ seg ∈ Segment.split line, (Stage.parse seg).isEmpty = true := by decide
  have hline : line.toList = "echo 'a|' | ".toList ++ '|' :: " b\\|".toList := by decide
  obtain ⟨hparse, hstands⟩ := (ordinary_readAll line).2 hlong hempty
  exact ⟨⟨hlong, hempty, hline⟩, hparse.trans (by decide), hstands _ _ hline⟩

end CommandShell.Word
