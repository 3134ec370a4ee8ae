/-
# Splitting a line agrees with reading its words

`Segment.split` and `Word.readAll` walk a line on their own, each with its own view of quotes and
escapes.  This file proves that they never disagree about a pipe character: the splitter cuts at a
pipe exactly when the word reader, at that point of the line, is outside quotes and takes it for an
ordinary character (`split_agrees`).

The splitter knows less than the reader, namely only which quotes are open (`quotesAt`).  One step
of the reader is matched by some characters of the splitter (`splitFrom_of_next?`), and the claim
follows along the points that the reader reaches.
-/
import CommandShell.Proofs.Reader
import CommandShell.Syntax.Segment

namespace CommandShell

open Word

/-! ## 1. Bare pipes, as the reader sees them -/

namespace Word.Reader

/-- The reader is about to read a pipe character outside quotes. -/
def ReadsPipe (r : Reader) : Prop := r.place.isUnquoted = true ∧ r.rest.head? = some '|'

/-- On its way through a line the reader reads a pipe character outside quotes, so many characters
from the start. -/
def ReadsPipeAt (line : String) (i : Nat) : Prop :=
  ∃ r, Reaches (start line) r ∧ r.ReadsPipe ∧ i + r.rest.length = line.toList.length

end Word.Reader

namespace Segment

/-- Where the cuts between segments are, if the first segment starts at `n`. -/
def cuts : Nat → List String → List Nat
  | _, [] => []
  | _, [_] => []
  | n, s :: t :: rest => (n + s.toList.length) :: cuts (n + s.toList.length + 1) (t :: rest)

/-- The quotes that are open where the reader stands. -/
def quotesAt : Place → Quotes
  | .gap => .none
  | .bare => .none
  | .single => .single
  | .double => .double

/-! ## 2. Nothing is lost -/

theorem splitFrom_ne_nil (q : Quotes) (seg : String) (cs : List Char) :
    splitFrom q seg cs ≠ [] := by
  fun_induction splitFrom q seg cs <;> simp_all

/-- The segments joined by pipes are the text that was split. -/
theorem intercalate_splitFrom (q : Quotes) (seg : String) (cs : List Char) :
    "|".intercalate (splitFrom q seg cs) = seg ++ String.ofList cs := by
  fun_induction splitFrom q seg cs with
  | case1 => simp
  | case7 seg cs _ ih =>
    rw [String.intercalate_cons_of_ne_nil (splitFrom_ne_nil _ _ _), ih]
    simp [← String.toList_inj]
  | case2 _ _ _ ih | case3 _ _ ih | case4 _ _ ih | case5 _ _ _ _ _ ih | case6 _ _ _ ih
  | case8 _ _ _ _ ih | case9 _ _ _ _ _ ih | case10 _ _ _ _ _ _ _ ih =>
    rw [ih]
    simp [← String.toList_inj]

/-! ## 3. One step of the reader, as the splitter sees it -/

/-- Outside quotes, a character that is not a backslash in front of another one. -/
theorem splitFrom_none_cons {seg : String} {c : Char} {cs : List Char}
    (h : ∀ e es, c = '\\' → cs = e :: es → False) :
    splitFrom .none seg (c :: cs) =
      if c = '|' then seg :: splitFrom .none "" cs
      else if c = '\'' then splitFrom .single (seg.push c) cs
      else if c = '"' then splitFrom .double (seg.push c) cs
      else splitFrom .none (seg.push c) cs := by
  rw [splitFrom]
  exact h

/-- What an ordinary character does to the open quotes. -/
theorem quotesAt_readPlain (place : Place) (w : Word) (c : Char) (cs : List Char)
    (ws : List Word) :
    quotesAt (Reader.readPlain place w c cs ws).place =
      if c = '\'' then .single else if c = '"' then .double else .none := by
  have hs : Text.isSeparator '\'' = false := by decide
  have hd : Text.isSeparator '"' = false := by decide
  unfold Reader.readPlain
  split_ifs <;> simp_all [quotesAt]

/-- **A pipe that the reader reads is a cut.** -/
theorem splitFrom_of_readsPipe {r r' : Reader} (h : r.next? = some r') (hp : r.ReadsPipe)
    (seg : String) :
    r.rest = '|' :: r'.rest ∧
      splitFrom (quotesAt r.place) seg r.rest =
        seg :: splitFrom (quotesAt r'.place) "" r'.rest := by
  obtain ⟨place, w, rest, ws⟩ := r
  obtain ⟨hplace, hhead⟩ := hp
  obtain ⟨cs, rfl⟩ : ∃ cs, rest = '|' :: cs := by
    cases rest with
    | nil => cases hhead
    | cons c cs => exact ⟨cs, by simpa using hhead⟩
  cases place with
  | single => cases hplace
  | double => cases hplace
  | gap | bare =>
    simp only [Reader.next?] at h
    obtain rfl := Option.some.inj h
    refine ⟨by simp, ?_⟩
    rw [quotesAt_readPlain]
    simp [quotesAt, splitFrom]

/-- **Every other step of the reader passes by without a cut.** -/
theorem splitFrom_of_next? {r r' : Reader} (h : r.next? = some r') (hp : ¬ r.ReadsPipe)
    (seg : String) :
    ∃ used seg', r.rest = used ++ r'.rest ∧ seg'.toList = seg.toList ++ used ∧
      splitFrom (quotesAt r.place) seg r.rest = splitFrom (quotesAt r'.place) seg' r'.rest := by
  revert h hp
  fun_cases Reader.next? r with
  | case1 => intro h; cases h
  | case2 w c cs ws =>
    rintro ⟨⟩ -
    refine ⟨[c], seg.push c, ?_⟩
    by_cases hc : c = '\'' <;> simp [quotesAt, splitFrom, hc]
  | case3 w cs ws =>
    rintro ⟨⟩ -
    exact ⟨['\\', '\\'], (seg.push '\\').push '\\', rfl, by simp, by simp [quotesAt, splitFrom]⟩
  | case4 w cs ws =>
    rintro ⟨⟩ -
    exact ⟨['\\', '"'], (seg.push '\\').push '"', rfl, by simp, by simp [quotesAt, splitFrom]⟩
  | case5 w c cs ws h₁ h₂ =>
    rintro ⟨⟩ -
    refine ⟨[c], seg.push c, ?_⟩
    by_cases hc : c = '"' <;> simp [quotesAt, splitFrom, hc]
  | case6 w c cs ws | case7 w c cs ws =>
    rintro ⟨⟩ -
    exact ⟨['\\', c], (seg.push '\\').push c, rfl, by simp, by simp [quotesAt, splitFrom]⟩
  | case8 place w c cs ws hs _ _ hd hg hb =>
    rintro ⟨⟩ hp
    have hunq : place.isUnquoted = true := by cases place <;> simp_all [Place.isUnquoted]
    have hpipe : c ≠ '|' := fun hc => hp ⟨hunq, by simp [hc]⟩
    have hq : quotesAt place = .none := by cases place <;> simp_all [quotesAt]
    have hesc : ∀ e es, c = '\\' → cs = e :: es → False := by
      cases place with
      | gap => exact fun e es => hg e es rfl
      | bare => exact fun e es => hb e es rfl
      | single | double => cases hunq
    refine ⟨[c], seg.push c, by simp, by simp, ?_⟩
    simp only [hq, splitFrom_none_cons hesc, if_neg hpipe, quotesAt_readPlain,
      Reader.readPlain_rest]
    split_ifs <;> rfl

/-! ## 4. The whole line -/

theorem cuts_cons (n : Nat) (s : String) {rest : List String} (h : rest ≠ []) :
    cuts n (s :: rest) = (n + s.toList.length) :: cuts (n + s.toList.length + 1) rest := by
  obtain ⟨t, ts, rfl⟩ := List.exists_cons_of_ne_nil h
  rfl

/-- The cuts behind a point of the line are the bare pipes that the reader meets behind it.  The
induction is on what is left of the line. -/
theorem mem_cuts_splitFrom_iff (r : Reader) (seg : String) (n i : Nat) :
    i ∈ cuts n (splitFrom (quotesAt r.place) seg r.rest) ↔
      ∃ r', Reader.Reaches r r' ∧ r'.ReadsPipe ∧
        i + r'.rest.length = n + seg.toList.length + r.rest.length := by
  induction hlen : r.rest.length using Nat.strongRecOn generalizing r seg n with
  | ind len ih =>
    rw [← hlen]
    cases hr : r.next? with
    | none =>
      have hrest := Reader.next?_eq_none_iff.mp hr
      constructor
      · rw [hrest]
        simp [splitFrom, cuts]
      · rintro ⟨r', hreach, ⟨-, hhead⟩, -⟩
        rcases Relation.ReflTransGen.cases_head hreach with rfl | ⟨r₁, hr₁, -⟩
        · simp [hrest] at hhead
        · simp [hr] at hr₁
    | some r₁ =>
      obtain ⟨c, used, hrest⟩ := Reader.rest_of_next? hr
      have hlonger := congrArg List.length hrest
      simp only [List.length_cons, List.length_append] at hlonger
      have hlt : r₁.rest.length < len := by omega
      have hstep : ∀ r', Reader.Reaches r r' ↔ r = r' ∨ Reader.Reaches r₁ r' := fun r' => by
        rw [Reader.Reaches, Relation.ReflTransGen.cases_head_iff]
        simp [hr]
      by_cases hp : r.ReadsPipe
      · obtain ⟨hbar, hsplit⟩ := splitFrom_of_readsPipe hr hp seg
        rw [hsplit, cuts_cons n seg (splitFrom_ne_nil _ _ _), List.mem_cons,
          ih _ hlt r₁ "" _ rfl]
        have hbarlen : r.rest.length = r₁.rest.length + 1 := by simp [hbar]
        constructor
        · rintro (rfl | ⟨r', hreach, hp', hi⟩)
          · exact ⟨r, .refl, hp, rfl⟩
          · rw [String.toList_empty, List.length_nil] at hi
            exact ⟨r', (hstep r').mpr (.inr hreach), hp', by omega⟩
        · rintro ⟨r', hreach, hp', hi⟩
          rcases (hstep r').mp hreach with rfl | hreach
          · exact .inl (by omega)
          · exact .inr ⟨r', hreach, hp', by rw [String.toList_empty, List.length_nil]; omega⟩
      · obtain ⟨used, seg', hused, hseg, hsplit⟩ := splitFrom_of_next? hr hp seg
        rw [hsplit, ih _ hlt r₁ seg' n rfl, hseg, List.length_append]
        have husedlen : r.rest.length = used.length + r₁.rest.length := by simp [hused]
        constructor
        · rintro ⟨r', hreach, hp', hi⟩
          exact ⟨r', (hstep r').mpr (.inr hreach), hp', by omega⟩
        · rintro ⟨r', hreach, hp', hi⟩
          rcases (hstep r').mp hreach with rfl | hreach
          · exact absurd hp' hp
          · exact ⟨r', hreach, hp', by omega⟩

/-- **The splitter and the word reader agree on every line.**  The segments joined by pipes are the
line.  The pipes between them are those that the reader, on its way through the whole line, reads as
ordinary characters outside quotes; and on that way it gives the words of the line. -/
theorem split_agrees (line : String) :
    "|".intercalate (split line) = line ∧
      (∀ i, i ∈ cuts 0 (split line) ↔ Reader.ReadsPipeAt line i) ∧
      ∃ r, Reader.Reaches (Reader.start line) r ∧ r.rest = [] ∧ r.words = readAll line := by
  refine ⟨?_, fun i => ?_, ?_⟩
  · rw [split, intercalate_splitFrom]
    simp
  · have h := mem_cuts_splitFrom_iff (Reader.start line) "" 0 i
    rwa [String.toList_empty, List.length_nil, Nat.zero_add] at h
  · obtain ⟨r, hreach, hrest⟩ := Reader.exists_reaches_end (Reader.start line)
    exact ⟨r, hreach, hrest, (Reader.words_of_reaches hreach).trans (Reader.words_start line)⟩

end Segment
end CommandShell
