/-
# The word reader, step by step

`Word.readFrom` gives the words of a line in one recursion, so it does not show where the reader
stands in between.  This file takes the same reader apart: a `Reader` is the reader at one point of
the line, and `Reader.next?` is what it does with the next character.

The steps and the recursion are one reader: a step does not change the words that come out in the
end (`words_of_next?`), and from every point the steps lead to the end of the line
(`exists_reaches_end`).  So what is said about the points that are reached is said about
`Word.readAll`.
-/
import CommandShell.Syntax.Word
import Mathlib.Logic.Relation
import Mathlib.Tactic.SplitIfs

namespace CommandShell.Word

/-! ## 1. Reading outside quotes -/

def Place.isUnquoted : Place → Bool
  | .gap => true
  | .bare => true
  | .single => false
  | .double => false

/-- Between words, a character that is not a backslash in front of another one. -/
theorem readFrom_gap_cons {w : Word} {c : Char} {cs : List Char}
    (h : ∀ e es, c = '\\' → cs = e :: es → False) :
    readFrom .gap w (c :: cs) =
      if Text.isSeparator c then readFrom .gap w cs
      else if c = '\'' then readFrom .single w.quote cs
      else if c = '"' then readFrom .double w.quote cs
      else readFrom .bare (w.push c) cs := by
  rw [readFrom]
  exact h

/-- In a word, a character that is not a backslash in front of another one. -/
theorem readFrom_bare_cons {w : Word} {c : Char} {cs : List Char}
    (h : ∀ e es, c = '\\' → cs = e :: es → False) :
    readFrom .bare w (c :: cs) =
      if Text.isSeparator c then w :: readFrom .gap {} cs
      else if c = '\'' then readFrom .single w.quote cs
      else if c = '"' then readFrom .double w.quote cs
      else readFrom .bare (w.push c) cs := by
  rw [readFrom]
  exact h

theorem readFrom_openSingle {place : Place} (hp : place.isUnquoted = true) (w : Word)
    (cs : List Char) : readFrom place w ('\'' :: cs) = readFrom .single w.quote cs := by
  have hsep : Text.isSeparator '\'' = false := by decide
  cases place with
  | gap | bare => simp [readFrom, hsep]
  | single | double => cases hp

theorem readFrom_openDouble {place : Place} (hp : place.isUnquoted = true) (w : Word)
    (cs : List Char) : readFrom place w ('"' :: cs) = readFrom .double w.quote cs := by
  have hsep : Text.isSeparator '"' = false := by decide
  cases place with
  | gap | bare => simp [readFrom, hsep]
  | single | double => cases hp

/-- A backslash outside quotes takes the next character as it is. -/
theorem readFrom_escape {place : Place} (hp : place.isUnquoted = true) (w : Word) (c : Char)
    (cs : List Char) : readFrom place w ('\\' :: c :: cs) = readFrom .bare (w.push c).quote cs := by
  cases place with
  | gap | bare => rw [readFrom]
  | single | double => cases hp

/-- A character that stands for itself, and ends no word. -/
def IsOrdinary (c : Char) : Prop :=
  Text.isSeparator c = false ∧ c ≠ '\\' ∧ c ≠ '\'' ∧ c ≠ '"'

instance (c : Char) : Decidable (IsOrdinary c) :=
  inferInstanceAs (Decidable (_ ∧ _ ∧ _ ∧ _))

theorem readFrom_ordinary {place : Place} (hp : place.isUnquoted = true) (w : Word) {c : Char}
    (hc : IsOrdinary c) (cs : List Char) :
    readFrom place w (c :: cs) = readFrom .bare (w.push c) cs := by
  obtain ⟨hsep, hb, hs, hd⟩ := hc
  cases place with
  | gap => simp [readFrom_gap_cons fun _ _ h => absurd h hb, hsep, hs, hd]
  | bare => simp [readFrom_bare_cons fun _ _ h => absurd h hb, hsep, hs, hd]
  | single | double => cases hp

/-! ## 2. The reader at one point of a line -/

/-- The reader at one point of a line. -/
structure Reader where
  place : Place := .gap
  /-- The word begun so far. -/
  word : Word := {}
  /-- What is left of the line. -/
  rest : List Char
  /-- The words that are complete. -/
  done : List Word := []

namespace Reader

def start (line : String) : Reader := { rest := line.toList }

/-- Reads a character outside quotes that escapes nothing; `cs` is what follows it. -/
def readPlain (place : Place) (w : Word) (c : Char) (cs : List Char) (ws : List Word) : Reader :=
  if Text.isSeparator c then
    if place = .bare then ⟨.gap, {}, cs, ws ++ [w]⟩ else ⟨.gap, w, cs, ws⟩
  else if c = '\'' then ⟨.single, w.quote, cs, ws⟩
  else if c = '"' then ⟨.double, w.quote, cs, ws⟩
  else ⟨.bare, w.push c, cs, ws⟩

@[simp] theorem readPlain_rest (place : Place) (w : Word) (c : Char) (cs : List Char)
    (ws : List Word) : (readPlain place w c cs ws).rest = cs := by
  unfold readPlain
  split_ifs <;> rfl

/-- Reads the next character, and with it the one that it escapes.  At the end of the line there is
none. -/
def next? : Reader → Option Reader
  | ⟨_, _, [], _⟩ => none
  | ⟨.single, w, c :: cs, ws⟩ =>
    some (if c = '\'' then ⟨.bare, w, cs, ws⟩ else ⟨.single, w.push c, cs, ws⟩)
  | ⟨.double, w, '\\' :: '\\' :: cs, ws⟩ => some ⟨.double, w.push '\\', cs, ws⟩
  | ⟨.double, w, '\\' :: '"' :: cs, ws⟩ => some ⟨.double, w.push '"', cs, ws⟩
  | ⟨.double, w, c :: cs, ws⟩ =>
    some (if c = '"' then ⟨.bare, w, cs, ws⟩ else ⟨.double, w.push c, cs, ws⟩)
  | ⟨.gap, w, '\\' :: c :: cs, ws⟩ => some ⟨.bare, (w.push c).quote, cs, ws⟩
  | ⟨.bare, w, '\\' :: c :: cs, ws⟩ => some ⟨.bare, (w.push c).quote, cs, ws⟩
  | ⟨place, w, c :: cs, ws⟩ => some (readPlain place w c cs ws)

/-- The words that come out in the end. -/
def words (r : Reader) : List Word := r.done ++ readFrom r.place r.word r.rest

theorem words_start (line : String) : (start line).words = readAll line := by
  simp [words, start, readAll]

/-- **A step keeps the words.** -/
theorem words_of_next? {r r' : Reader} (h : r.next? = some r') : r'.words = r.words := by
  revert h
  fun_cases next? r with
  | case1 => intro h; cases h
  | case2 w c cs ws =>
    rintro ⟨⟩
    by_cases hc : c = '\'' <;> simp [words, readFrom, hc]
  | case3 | case4 | case6 | case7 =>
    rintro ⟨⟩
    simp [words, readFrom]
  | case5 w c cs ws =>
    rintro ⟨⟩
    by_cases hc : c = '"' <;> simp [words, readFrom, hc]
  | case8 place w c cs ws hs _ _ hd hg hb =>
    rintro ⟨⟩
    cases place with
    | single => exact absurd rfl hs
    | double => exact absurd rfl hd
    | gap =>
      simp only [words, readFrom_gap_cons fun e es => hg e es rfl, readPlain, reduceCtorEq,
        if_false]
      split_ifs <;> rfl
    | bare =>
      simp only [words, readFrom_bare_cons fun e es => hb e es rfl, readPlain]
      split_ifs <;> simp

/-! ## 3. The points that are reached -/

/-- Whether the reader comes from one point to another. -/
def Reaches : Reader → Reader → Prop := Relation.ReflTransGen fun r r' => r.next? = some r'

theorem words_of_reaches {r r' : Reader} (h : Reaches r r') : r'.words = r.words := by
  induction h with
  | refl => rfl
  | tail _ hstep ih => exact (words_of_next? hstep).trans ih

/-- Only at the end of the line there is nothing to read. -/
theorem next?_eq_none_iff {r : Reader} : r.next? = none ↔ r.rest = [] := by
  fun_cases next? r <;> simp

/-- A step takes at least one character from the front of what is left. -/
theorem rest_of_next? {r r' : Reader} (h : r.next? = some r') :
    ∃ c used, r.rest = c :: used ++ r'.rest := by
  revert h
  fun_cases next? r with
  | case1 => intro h; cases h
  | case2 | case5 =>
    rintro ⟨⟩
    split_ifs <;> exact ⟨_, [], rfl⟩
  | case8 _ _ c =>
    rintro ⟨⟩
    exact ⟨c, [], by simp⟩
  | case3 | case4 | case6 | case7 =>
    rintro ⟨⟩
    exact ⟨_, [_], rfl⟩

/-- **The reader comes to the end of the line.** -/
theorem exists_reaches_end (r : Reader) : ∃ r', Reaches r r' ∧ r'.rest = [] := by
  induction hn : r.rest.length using Nat.strongRecOn generalizing r with
  | ind n ih =>
    cases hr : r.next? with
    | none => exact ⟨r, .refl, next?_eq_none_iff.mp hr⟩
    | some r' =>
      obtain ⟨c, used, hrest⟩ := rest_of_next? hr
      have hlen := congrArg List.length hrest
      simp only [List.length_cons, List.length_append] at hlen
      have hlt : r'.rest.length < n := by omega
      obtain ⟨e, he, hend⟩ := ih _ hlt r' rfl
      exact ⟨e, .head hr he, hend⟩

end Reader
end CommandShell.Word
