/-
# Texts behind each other

A text is closed when the reader comes to its end outside quotes and no backslash is left there
that waits for its character (`Word.EndsClosed`).  What stands behind a closed text is read as if it
stood alone, whether or not it is closed itself:

* behind a separator, its words follow those of the text (`words_extended`);
* behind a pipe, its segments follow those of the text (`splitFrom_extended`).

So two texts with a pipe between them are the pipeline of the stages of both, unless one of their
segments names no command (`Line.parse_joined`).

Both facts follow the reader through the closed text.  A step does not see what stands behind the
text, but for a backslash at its very end (`next?_extended`), and that is what closed texts exclude.
-/
import CommandShell.Proofs.Splitting
import CommandShell.Syntax.Line

namespace CommandShell

open Word Segment

namespace Word

namespace Reader

variable {r r' : Reader}

/-! ## 1. Closed texts -/

/-- All that is left is a backslash, which waits for the character that it escapes. -/
def IsWaiting (r : Reader) : Prop := r.place.isUnquoted = true ∧ r.rest = ['\\']

instance (r : Reader) : Decidable r.IsWaiting := inferInstanceAs (Decidable (_ ∧ _))

/-- The reader comes to the end of its line outside quotes, and leaves no backslash waiting. -/
inductive Closes : Reader → Prop
  | ended {r : Reader} (hrest : r.rest = []) (hplace : r.place.isUnquoted = true) : Closes r
  | step {r r' : Reader} (hnext : r.next? = some r') (hwaits : ¬ r.IsWaiting) (h : Closes r') :
      Closes r

/-- A reader that closes is nowhere left with a backslash only: in quotes, these would stay open. -/
theorem Closes.rest_ne (h : r.Closes) : r.rest ≠ ['\\'] := by
  intro hrest
  cases h with
  | ended hnil =>
    rw [hnil] at hrest
    cases hrest
  | @step _ r' hnext hwaits h =>
    obtain ⟨place, w, rest, ws⟩ := r
    obtain rfl : rest = ['\\'] := hrest
    cases place with
    | gap | bare => exact hwaits ⟨rfl, rfl⟩
    | single | double =>
      obtain rfl := Option.some.inj hnext
      cases h with
      | ended _ hplace => cases hplace
      | step hnext => cases hnext

/-! ## 2. More text behind the line -/

/-- The reader with more text behind its line. -/
def extended (r : Reader) (more : List Char) : Reader := { r with rest := r.rest ++ more }

theorem readPlain_extended (place : Place) (w : Word) (c : Char) (cs : List Char) (ws : List Word)
    (more : List Char) :
    (readPlain place w c cs ws).extended more = readPlain place w c (cs ++ more) ws := by
  simp only [readPlain]
  split_ifs <;> rfl

/-- Outside quotes, a step at a character that is not a backslash in front of another one. -/
theorem next?_plain {place : Place} (hp : place.isUnquoted = true) (w : Word) {c : Char}
    {cs : List Char} (h : ∀ e es, c = '\\' → cs = e :: es → False) (ws : List Word) :
    next? ⟨place, w, c :: cs, ws⟩ = some (readPlain place w c cs ws) := by
  cases place with
  | single | double => cases hp
  | gap | bare =>
    rw [next?]
    all_goals simp_all

/-- **A step does not see what stands behind the line**, unless only a backslash is left. -/
theorem next?_extended (h : r.next? = some r') (hne : r.rest ≠ ['\\']) (more : List Char) :
    (r.extended more).next? = some (r'.extended more) := by
  revert h hne
  fun_cases next? r with
  | case1 => intro h; cases h
  | case2 w c cs ws =>
    rintro ⟨⟩ -
    by_cases hc : c = '\'' <;> simp [extended, next?, hc]
  | case3 | case4 | case6 | case7 =>
    rintro ⟨⟩ -
    rfl
  | case5 w c cs ws hslash hquote =>
    rintro ⟨⟩ hne
    have hstep : next? ⟨.double, w, c :: (cs ++ more), ws⟩ = some
        (if c = '"' then ⟨.bare, w, cs ++ more, ws⟩ else ⟨.double, w.push c, cs ++ more, ws⟩) := by
      rw [next?]
      all_goals
        rintro es rfl hes
        cases cs with
        | nil => exact hne rfl
        | cons d ds =>
          obtain ⟨rfl, -⟩ := List.cons.inj hes
          first | exact hslash ds rfl rfl | exact hquote ds rfl rfl
    by_cases hc : c = '"' <;> simpa [extended, hc] using hstep
  | case8 place w c cs ws hs _ _ hd hg hb =>
    rintro ⟨⟩ hne
    have hunq : place.isUnquoted = true := by cases place <;> simp_all [Place.isUnquoted]
    have hesc : ∀ e es, c = '\\' → cs ++ more = e :: es → False := by
      rintro e es rfl hes
      cases cs with
      | nil => exact hne rfl
      | cons d ds => cases place <;> simp_all
    rw [readPlain_extended, extended, List.cons_append, next?_plain hunq w hesc]

/-! ## 3. Words behind a separator -/

/-- Between two words none is begun. -/
def IsFresh (r : Reader) : Prop := r.place = .gap → r.word = {}

theorem IsFresh.next (hfresh : r.IsFresh) (h : r.next? = some r') : r'.IsFresh := by
  revert h hfresh
  fun_cases next? r with
  | case1 => intro _ h; cases h
  | case8 place w c cs ws =>
    rintro hfresh ⟨⟩
    cases place <;> simp only [readPlain] <;> split_ifs <;> simp_all [IsFresh]
  | case2 | case5 =>
    rintro - ⟨⟩
    split_ifs <;> exact fun hgap => by cases hgap
  | case3 | case4 | case6 | case7 =>
    rintro - ⟨⟩
    exact fun hgap => by cases hgap

/-- **Behind a separator, words are read as if they stood alone.** -/
theorem Closes.words_extended (h : r.Closes) (hfresh : r.IsFresh) {c : Char}
    (hc : Text.isSeparator c = true) (cs : List Char) :
    (r.extended (c :: cs)).words = r.words ++ readFrom .gap {} cs := by
  have hesc : ∀ e es, c = '\\' → cs = e :: es → False := by
    rintro e es rfl -
    exact absurd hc (by decide)
  induction h with
  | @ended r hrest hplace =>
    obtain ⟨place, w, rest, ws⟩ := r
    obtain rfl : rest = [] := hrest
    cases place with
    | single | double => cases hplace
    | gap =>
      obtain rfl : w = {} := hfresh rfl
      simp [words, extended, readFrom, readFrom_gap_cons hesc, hc]
    | bare => simp [words, extended, readFrom, readFrom_bare_cons hesc, hc]
  | @step r r' hnext hwaits h ih =>
    have hne : r.rest ≠ ['\\'] := (Closes.step hnext hwaits h).rest_ne
    rw [← words_of_next? hnext, ← words_of_next? (next?_extended hnext hne (c :: cs))]
    exact ih (hfresh.next hnext)

/-! ## 4. Segments behind a pipe -/

theorem readsPipe_extended (hne : r.rest ≠ []) (more : List Char) :
    (r.extended more).ReadsPipe ↔ r.ReadsPipe := by
  obtain ⟨c, cs, hrest⟩ := List.exists_cons_of_ne_nil hne
  simp [ReadsPipe, extended, hrest]

/-- **Behind a pipe, segments are cut as if the text stood alone.** -/
theorem Closes.splitFrom_extended (h : r.Closes) (seg : String) (cs : List Char) :
    splitFrom (quotesAt r.place) seg (r.rest ++ '|' :: cs) =
      splitFrom (quotesAt r.place) seg r.rest ++ splitFrom .none "" cs := by
  induction h generalizing seg with
  | @ended r hrest hplace =>
    obtain ⟨place, w, rest, ws⟩ := r
    obtain rfl : rest = [] := hrest
    cases place with
    | single | double => cases hplace
    | gap | bare => simp [quotesAt, splitFrom]
  | @step r r' hnext hwaits h ih =>
    have hnext' : (r.extended ('|' :: cs)).next? = some (r'.extended ('|' :: cs)) :=
      next?_extended hnext (Closes.step hnext hwaits h).rest_ne _
    have hne : r.rest ≠ [] := by
      rw [ne_eq, ← next?_eq_none_iff, hnext]
      exact Option.some_ne_none r'
    by_cases hp : r.ReadsPipe
    · have hp' := (readsPipe_extended hne ('|' :: cs)).mpr hp
      have hcut : splitFrom (quotesAt r.place) seg (r.rest ++ '|' :: cs) =
          seg :: splitFrom (quotesAt r'.place) "" (r'.rest ++ '|' :: cs) :=
        (splitFrom_of_readsPipe hnext' hp' seg).2
      rw [hcut, (splitFrom_of_readsPipe hnext hp seg).2, ih, List.cons_append]
    · have hp' := mt (readsPipe_extended hne ('|' :: cs)).mp hp
      obtain ⟨used, seg₁, hused, hseg₁, hsplit⟩ := splitFrom_of_next? hnext hp seg
      obtain ⟨used', seg₂, hused', hseg₂, hsplit'⟩ := splitFrom_of_next? hnext' hp' seg
      -- Both steps use up the same characters, so they go on with the same segment.
      obtain rfl : used' = used := by
        have happend : used' ++ (r'.rest ++ '|' :: cs) = used ++ (r'.rest ++ '|' :: cs) := by
          rw [← List.append_assoc used, ← hused]
          exact hused'.symm
        exact List.append_cancel_right happend
      obtain rfl : seg₂ = seg₁ := String.toList_inj.mp (hseg₂.trans hseg₁.symm)
      have hgoes : splitFrom (quotesAt r.place) seg (r.rest ++ '|' :: cs) =
          splitFrom (quotesAt r'.place) seg₂ (r'.rest ++ '|' :: cs) := hsplit'
      rw [hgoes, hsplit, ih]

end Reader

/-- A text is closed: behind it no quote is open, and no backslash waits for its character. -/
def EndsClosed (text : String) : Prop := (Reader.start text).Closes

/-- The words behind a blank follow those of a closed text. -/
theorem readAll_joined {a : String} (ha : EndsClosed a) (b : String) :
    readAll (a ++ " " ++ b) = readAll a ++ readAll b := by
  have h := Reader.Closes.words_extended ha (fun _ => rfl) (c := ' ') (by decide) b.toList
  have hstart : (Reader.start a).extended (' ' :: b.toList) = Reader.start (a ++ " " ++ b) := by
    simp [Reader.start, Reader.extended, String.toList_append]
  rwa [hstart, Reader.words_start, Reader.words_start] at h

end Word

/-- The segments behind a pipe follow those of a closed text. -/
theorem Segment.split_joined {a : String} (ha : EndsClosed a) (b : String) :
    split (a ++ "|" ++ b) = split a ++ split b := by
  have h := Reader.Closes.splitFrom_extended ha "" b.toList
  have htext : (a ++ "|" ++ b).toList = a.toList ++ '|' :: b.toList := by
    simp [String.toList_append]
  rw [split, htext]
  exact h

/-! ## 5. Lines -/

theorem Segment.length_split_pos (text : String) : 0 < (split text).length :=
  List.length_pos_iff.mpr (splitFrom_ne_nil _ _ _)

/-- **Two texts with a pipe between them.**  Take any closed text and any other text, which may be
closed or not.  If each of their segments names a command, the two with a pipe between them are the
pipeline of the stages of the first, followed by those of the second, and each stage is what its
segment is by itself.  If a segment of either names no command, they are a single command, in which
the pipe is an ordinary character.  And with a blank between them, their words are those of the
first, followed by those of the second. -/
theorem Line.parse_joined {a : String} (ha : EndsClosed a) (b : String) :
    ((∀ seg ∈ split a ++ split b, (Stage.parse seg).name ≠ "") →
      parse (a ++ "|" ++ b) =
        .pipeline ((split a).map Stage.parse ++ (split b).map Stage.parse)) ∧
    ((∃ seg ∈ split a ++ split b, (Stage.parse seg).name = "") →
      parse (a ++ "|" ++ b) = .single (Stage.parse (a ++ "|" ++ b))) ∧
    readAll (a ++ " " ++ b) = readAll a ++ readAll b := by
  have hcount : ¬ (split a ++ split b).length < 2 := by
    have hposA := length_split_pos a
    have hposB := length_split_pos b
    rw [List.length_append]
    omega
  refine ⟨?_, ?_, readAll_joined ha b⟩
  · intro hnames
    have hnone : ((split a ++ split b).map Stage.parse).any Stage.isEmpty = false := by
      simpa [Stage.isEmpty, or_imp, forall_and] using hnames
    simp only [parse, split_joined ha, List.length_map, hcount, hnone]
    simp
  · intro hmissing
    have hsome : ((split a ++ split b).map Stage.parse).any Stage.isEmpty = true := by
      simpa [Stage.isEmpty, or_and_right, exists_or] using hmissing
    simp only [parse, split_joined ha, hsome]
    simp

/-- Behind a text with a quoted and an escaped pipe, which is closed, a text whose quote stays open
is a second stage; a blank one makes all of it a single command. -/
theorem Line.parse_joined_open :
    let a := "'a|b' \\|"
    let b := "c \"d| e"
    EndsClosed a ∧
      (∀ seg ∈ split a ++ split b, (Stage.parse seg).name ≠ "") ∧
      parse (a ++ "|" ++ b) =
        .pipeline [{ name := "a|b", args := ["|"] }, { name := "c", args := ["d| e"] }] ∧
      (∃ seg ∈ split a ++ split " ", (Stage.parse seg).name = "") ∧
      parse (a ++ "|" ++ " ") = .single { name := "a|b", args := ["||"] } ∧
      readAll (a ++ " " ++ b) = [⟨"a|b", true⟩, ⟨"|", true⟩, ⟨"c", false⟩, ⟨"d| e", true⟩] := by
  intro a b
  have hclosed : EndsClosed a := by
    have hchars : a.toList = ['\'', 'a', '|', 'b', '\'', ' ', '\\', '|'] := by decide
    rw [EndsClosed, Reader.start, hchars]
    iterate 7 refine .step rfl (by decide) ?_
    exact .ended rfl rfl
  have hnames : ∀ seg ∈ split a ++ split b, (Stage.parse seg).name ≠ "" := by decide
  have hmissing : ∃ seg ∈ split a ++ split " ", (Stage.parse seg).name = "" := by decide
  obtain ⟨hpipeline, -, hwords⟩ := Line.parse_joined hclosed b
  obtain ⟨-, hsingle, -⟩ := Line.parse_joined hclosed " "
  exact ⟨hclosed, hnames, (hpipeline hnames).trans (by decide), hmissing,
    (hsingle hmissing).trans (by decide), hwords.trans (by decide)⟩

end CommandShell
