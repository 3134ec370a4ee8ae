/-
# Writing words down again

The words that were read from a line can be written down as a line once more: a quoted word in
single quotes, a word without quotes as it is, and one space between two words (`Word.requote`).
The new line is read as the same words, quoted or not as they were, and so as the same stage
(`readAll_requote`).

For a quoted word there is nothing to say about its text, since single quotes are one of the ways to
write any text down (`writtenWord_singleQuoted`).  A word without quotes is written as it is, so it
matters what it can hold: no character that separates, quotes or escapes, except that the last word
of a line may end with a backslash that had nothing to escape.  `Readable` says this for a list of
words, and it holds of exactly those lists that are read from some line (`readable_iff`).
-/
import CommandShell.Proofs.Completed
import CommandShell.Proofs.Written

namespace CommandShell.Word

/-! ## 1. Words as they are written down -/

/-- Characters as they are written between single quotes.  A single quote closes them, stands behind
a backslash, and opens them again. -/
def escapeSingle : List Char → List Char
  | [] => []
  | c :: cs =>
    if c = '\'' then '\'' :: '\\' :: '\'' :: '\'' :: escapeSingle cs else c :: escapeSingle cs

def singleQuoted (cs : List Char) : List Char := '\'' :: (escapeSingle cs ++ ['\''])

/-- A word as it is written down again. -/
def requoted (w : Word) : String :=
  if w.quoted then String.ofList (singleQuoted w.text.toList) else w.text

/-- Words as they are written down again, with single spaces between them. -/
def requote (ws : List Word) : String := " ".intercalate (ws.map requoted)

theorem requoted_of_quoted {w : Word} (h : w.quoted = true) :
    w.requoted = String.ofList (singleQuoted w.text.toList) := if_pos h

theorem requoted_of_bare {w : Word} (h : w.quoted = false) : w.requoted = w.text :=
  if_neg (by rw [h]; decide)

/-- What stands behind a word. -/
def behind : List Word → List Char
  | [] => []
  | w :: ws => ' ' :: (requote (w :: ws)).toList

theorem toList_requote_cons (w : Word) (ws : List Word) :
    (requote (w :: ws)).toList = w.requoted.toList ++ behind ws := by
  cases ws with
  | nil => simp [requote, behind]
  | cons v ws => simp [requote, behind, String.intercalate_cons_cons]

/-- A word ends where it was written to end. -/
theorem readFrom_behind (w : Word) (ws : List Word) :
    readFrom .bare w (behind ws) = w :: readFrom .gap {} (requote ws).toList := by
  cases ws with
  | nil => simp [behind, requote, readFrom]
  | cons v ws =>
    have hpad : IsPad [' '] := List.forall_mem_singleton.mpr rfl
    have hgap : IsGap [' '] := ⟨List.cons_ne_nil _ _, hpad⟩
    exact readFrom_bare_gap hgap w _

/-! ## 2. Single quotes write any text down -/

/-- Single quotes that are open, with some characters behind them already, in front of the rest of a
text. -/
theorem exists_chunks (cs : List Char) {front : List Char} (free : '\'' ∉ front) :
    ∃ chunks : List Chunk, chunks ≠ [] ∧
      '\'' :: (front ++ (escapeSingle cs ++ ['\''])) = chunks.flatMap Chunk.source ∧
      front ++ cs = chunks.flatMap Chunk.text := by
  induction cs generalizing front with
  | nil =>
    refine ⟨[.single front free], List.cons_ne_nil _ _, ?_, ?_⟩
    · simp [escapeSingle, Chunk.source]
    · simp [Chunk.text]
  | cons c cs ih =>
    by_cases hc : c = '\''
    · have hfree : '\'' ∉ ([] : List Char) := List.not_mem_nil
      obtain ⟨chunks, -, hsource, htext⟩ := ih hfree
      refine ⟨.single front free :: .escaped c :: chunks, List.cons_ne_nil _ _, ?_, ?_⟩
      · rw [List.flatMap_cons, List.flatMap_cons, ← hsource]
        simp [escapeSingle, Chunk.source, hc]
      · rw [List.flatMap_cons, List.flatMap_cons, ← htext]
        simp [Chunk.text]
    · have hfree : '\'' ∉ front ++ [c] := by simp [free, Ne.symm hc]
      obtain ⟨chunks, hne, hsource, htext⟩ := ih hfree
      refine ⟨chunks, hne, ?_, ?_⟩
      · rw [← hsource]
        simp [escapeSingle, hc]
      · rw [← htext, List.append_assoc, List.singleton_append]

/-- **A text in single quotes is one of its written forms.** -/
theorem writtenWord_singleQuoted (text : String) : WrittenWord text (singleQuoted text.toList) := by
  have hfree : '\'' ∉ ([] : List Char) := List.not_mem_nil
  obtain ⟨chunks, hne, hsource, htext⟩ := exists_chunks text.toList hfree
  refine ⟨chunks, hne, hsource, ?_⟩
  rw [← htext, List.nil_append, String.ofList_toList]

/-! ## 3. Words that a line can hold -/

/-- Words that can be read from a line.  One without quotes has a character, and all of its
characters stand for themselves; only behind the last of them there may be a backslash. -/
inductive Readable : List Word → Prop
  | nil : Readable []
  | quoted {w ws} : w.quoted = true → Readable ws → Readable (w :: ws)
  | bare {w ws} : w.quoted = false → w.text ≠ "" → IsVerbatim w.text.toList → Readable ws →
      Readable (w :: ws)
  | slash {w front} : w.quoted = false → w.text.toList = front ++ ['\\'] → IsVerbatim front →
      Readable [w]

/-- What the reader knows of the word begun so far. -/
def Place.Holds : Place → Word → Prop
  | .gap, w => w = {}
  | .bare, w => w.quoted = true ∨ w.quoted = false ∧ w.text ≠ "" ∧ IsVerbatim w.text.toList
  | .single, w => w.quoted = true
  | .double, w => w.quoted = true

theorem IsVerbatim.push {w : Word} {c : Char} (h : IsVerbatim w.text.toList) (hc : IsOrdinary c) :
    IsVerbatim (w.push c).text.toList := by
  intro d hd
  rw [Word.push, String.toList_push, List.mem_append, List.mem_singleton] at hd
  rcases hd with hd | rfl
  · exact h d hd
  · exact hc

/-- A word outside quotes goes on with a character that stands for itself. -/
theorem Place.Holds.push {place : Place} (hp : place.isUnquoted = true) {w : Word}
    (h : place.Holds w) {c : Char} (hc : IsOrdinary c) : Place.bare.Holds (w.push c) := by
  have hne : (w.push c).text ≠ "" := by simp [Word.push]
  cases place with
  | gap =>
    cases h
    exact .inr ⟨rfl, hne, IsVerbatim.push (w := {}) (List.forall_mem_nil _) hc⟩
  | bare =>
    rcases h with hquoted | ⟨hbare, -, hverbatim⟩
    · exact .inl hquoted
    · exact .inr ⟨hbare, hne, hverbatim.push hc⟩
  | single | double => cases hp

/-- A word that is complete stands in front of the words behind it. -/
theorem Place.Holds.readable {w : Word} (h : Place.bare.Holds w) {ws : List Word}
    (hws : Readable ws) : Readable (w :: ws) := by
  rcases h with hquoted | ⟨hbare, hne, hverbatim⟩
  · exact .quoted hquoted hws
  · exact .bare hbare hne hverbatim hws

/-- A backslash that ends the line is part of the last word. -/
theorem Place.Holds.slash {place : Place} (hp : place.isUnquoted = true) {w : Word}
    (h : place.Holds w) : Readable [w.push '\\'] := by
  have hback {v : Word} (hbare : v.quoted = false) (hv : IsVerbatim v.text.toList) :
      Readable [v.push '\\'] := .slash hbare (by simp [Word.push]) hv
  cases place with
  | gap =>
    cases h
    exact hback rfl (List.forall_mem_nil _)
  | bare =>
    rcases h with hquoted | ⟨hbare, -, hverbatim⟩
    · exact .quoted hquoted .nil
    · exact hback hbare hverbatim
  | single | double => cases hp

/-- A character outside quotes that separates and quotes nothing goes into the word.  If it is a
backslash, the line ends behind it. -/
theorem Place.Holds.readable_push {place : Place} (hp : place.isUnquoted = true) {w : Word}
    (h : place.Holds w) {c : Char} {cs : List Char}
    (hslash : ∀ e es, c = '\\' → cs = e :: es → False) (hsep : ¬ Text.isSeparator c = true)
    (hsingle : c ≠ '\'') (hdouble : c ≠ '"')
    (ih : Place.bare.Holds (w.push c) → Readable (readFrom .bare (w.push c) cs)) :
    Readable (readFrom .bare (w.push c) cs) := by
  by_cases hc : c = '\\'
  · cases cs with
    | nil =>
      subst hc
      exact h.slash hp
    | cons e es => exact (hslash e es hc rfl).elim
  · exact ih (h.push hp ⟨Bool.eq_false_of_not_eq_true hsep, hc, hsingle, hdouble⟩)

/-- **What is read of a line can be read.** -/
theorem readable_readFrom {place : Place} {w : Word} (h : place.Holds w) (cs : List Char) :
    Readable (readFrom place w cs) := by
  fun_induction readFrom place w cs
  -- The line ends.
  case case1 => exact .nil
  case case2 => exact h.readable .nil
  case case3 | case4 => exact .quoted h .nil
  -- In quotes, and behind a quote or a backslash, the word is a quoted one.
  case case5 ih | case9 ih => exact ih (.inl h)
  case case6 ih | case7 ih | case8 ih | case10 ih => exact ih h
  case case11 ih | case16 ih => exact ih (.inl rfl)
  case case13 ih | case14 ih | case18 ih | case19 ih => exact ih rfl
  -- A separator ends the word, if there is one.
  case case12 ih => exact ih h
  case case17 ih => exact h.readable (ih rfl)
  case case15 hslash hsep hsingle hdouble ih | case20 hslash hsep hsingle hdouble ih =>
    exact h.readable_push rfl hslash hsep hsingle hdouble ih

/-! ## 4. Reading them back -/

/-- A word without quotes is read back in front of what stands behind it. -/
theorem readFrom_bare {w : Word} (hbare : w.quoted = false) (hne : w.text ≠ "")
    (h : IsVerbatim w.text.toList) (cs : List Char) :
    readFrom .gap {} (w.text.toList ++ cs) = readFrom .bare w cs := by
  obtain ⟨text, quoted⟩ := w
  cases hbare
  rw [Stage.readFrom_name h, if_neg (mt String.toList_eq_nil_iff.mp hne), String.ofList_toList]

/-- **Words that can be read are read back** from what they are written as. -/
theorem readFrom_requote {ws : List Word} (h : Readable ws) :
    readFrom .gap {} (requote ws).toList = ws := by
  induction h with
  | nil => simp [requote, readFrom]
  | @quoted w ws hquoted _ ih =>
    obtain ⟨text, quoted⟩ := w
    cases hquoted
    rw [toList_requote_cons, requoted_of_quoted rfl, String.toList_ofList,
      readFrom_writtenWord (writtenWord_singleQuoted text) rfl, readFrom_behind, ih]
  | bare hbare hne hverbatim _ ih =>
    rw [toList_requote_cons, requoted_of_bare hbare, readFrom_bare hbare hne hverbatim,
      readFrom_behind, ih]
  | @slash w front hbare htext hfront =>
    have hback : Stage.ReadsBack w.text.toList [] := .inr ⟨rfl, front, htext, hfront⟩
    have hne : w.text.toList ≠ [] := by simp [htext]
    rw [toList_requote_cons, requoted_of_bare hbare, behind,
      Stage.readFrom_of_readsBack hne (List.forall_mem_nil _) hback, String.ofList_toList, ← hbare]

/-- **What can be read from a line**: words with quotes, and words of characters that stand for
themselves. -/
theorem readable_iff {ws : List Word} : Readable ws ↔ ∃ line, readAll line = ws := by
  constructor
  · intro h
    exact ⟨requote ws, readFrom_requote h⟩
  · rintro ⟨line, rfl⟩
    have hstart : Place.gap.Holds {} := rfl
    exact readable_readFrom hstart line.toList

/-- **Writing words down again loses nothing.**  The words of a line, written with single quotes
where they were quoted and as they are where they were not, with single spaces between them, are
read as the same words, and as the same stage. -/
theorem readAll_requote (line : String) :
    readAll (requote (readAll line)) = readAll line ∧
      Stage.parse (requote (readAll line)) = Stage.parse line := by
  have hread : readAll (requote (readAll line)) = readAll line :=
    readFrom_requote (readable_iff.mpr ⟨line, rfl⟩)
  exact ⟨hread, congrArg Stage.ofWords hread⟩

/-- A quoted operator stays an argument, and a backslash at the end stays where it is. -/
example : requote (readAll "echo  it\\'s \">\" a\tb\\") = "echo 'it'\\''s' '>' a b\\" := by decide

end CommandShell.Word
