/-
# Words by a grammar

The word reader goes through a line character by character.  This file says what a line is made of,
without a reader: separators and words, a word of spans, and a span is a character that stands for
itself, an escaped character, a backslash at the end of the line, or a quoted span (`Span`,
`LinePart`, `IsDecomposition`).

* Every line has exactly one decomposition.  Each of the four layers -- parts of a double-quoted
  span, characters of a single-quoted one, spans of a word, parts of a line -- is a sequence whose
  next element the text determines (`Spelling.IsExact`), and such a sequence can be found
  (`exists_all`) and is determined (`unique_all`), whatever it is made of.
* The reader reads the words of the decomposition: `readFrom_span` for one span,
  `readFrom_lineParts` for a line.

`readAll_eq_words` has both together.
-/
import CommandShell.Proofs.Written
import Mathlib.Data.List.Chain

namespace CommandShell

open Word

/-! ## 1. Sequences that are written down -/

/-- How the elements of a sequence are written, one behind the other. -/
structure Spelling (α : Type) where
  /-- What is written for an element. -/
  source : α → List Char
  /-- Whether the element can be meant there, given the text behind it. -/
  Fits : α → List Char → Prop

namespace Spelling

variable {α : Type} {σ : Spelling α} {Stops : List Char → Prop}

def written (σ : Spelling α) (as : List α) : List Char := as.flatMap σ.source

/-- Whether every element of a sequence can be meant, given the text behind the sequence. -/
def FitAll (σ : Spelling α) : List α → List Char → Prop
  | [], _ => True
  | a :: as, after => σ.Fits a (σ.written as ++ after) ∧ FitAll σ as after

/-- Whether the text determines the sequence: it stops, or begins with exactly one element. -/
structure IsExact (σ : Spelling α) (Stops : List Char → Prop) : Prop where
  nonempty : ∀ a, σ.source a ≠ []
  exists_first : ∀ cs, Stops cs ∨ ∃ a after, σ.Fits a after ∧ cs = σ.source a ++ after
  not_stops : ∀ {a after}, σ.Fits a after → ¬ Stops (σ.source a ++ after)
  unique : ∀ {a b after after'}, σ.Fits a after → σ.Fits b after' →
    σ.source a ++ after = σ.source b ++ after' → a = b ∧ after = after'

/-- **Every text begins with a sequence**, up to where it stops. -/
theorem IsExact.exists_all (h : σ.IsExact Stops) (cs : List Char) :
    ∃ as after, σ.FitAll as after ∧ Stops after ∧ cs = σ.written as ++ after := by
  induction hn : cs.length using Nat.strongRecOn generalizing cs with
  | ind n ih =>
    rcases h.exists_first cs with hstop | ⟨a, rest, hfit, rfl⟩
    · exact ⟨[], cs, trivial, hstop, rfl⟩
    · have hlt : rest.length < n := by
        have hpos : 0 < (σ.source a).length := List.length_pos_of_ne_nil (h.nonempty a)
        rw [List.length_append] at hn
        omega
      obtain ⟨as, after, hfits, hstop, rfl⟩ := ih rest.length hlt rest rfl
      refine ⟨a :: as, after, ⟨hfit, hfits⟩, hstop, ?_⟩
      simp [written]

/-- **There is one such sequence.** -/
theorem IsExact.unique_all (h : σ.IsExact Stops) {as bs : List α} {after after' : List Char}
    (ha : σ.FitAll as after) (hb : σ.FitAll bs after') (hs : Stops after) (hs' : Stops after')
    (heq : σ.written as ++ after = σ.written bs ++ after') : as = bs ∧ after = after' := by
  induction as generalizing bs with
  | nil =>
    cases bs with
    | nil => exact ⟨rfl, heq⟩
    | cons b bs =>
      -- The text stops, and yet an element begins there.
      have hb' : ¬ Stops (σ.source b ++ (σ.written bs ++ after')) := h.not_stops hb.1
      have htext : after = σ.source b ++ (σ.written bs ++ after') := by simpa [written] using heq
      exact absurd (htext ▸ hs) hb'
  | cons a as ih =>
    cases bs with
    | nil =>
      have ha' : ¬ Stops (σ.source a ++ (σ.written as ++ after)) := h.not_stops ha.1
      have htext : after' = σ.source a ++ (σ.written as ++ after) := by
        simpa [written] using heq.symm
      exact absurd (htext ▸ hs') ha'
    | cons b bs =>
      have htext :
          σ.source a ++ (σ.written as ++ after) = σ.source b ++ (σ.written bs ++ after') := by
        simpa [written] using heq
      obtain ⟨rfl, hrest⟩ := h.unique ha.1 hb.1 htext
      obtain ⟨rfl, hafter⟩ := ih ha.2 hb.2 hrest
      exact ⟨rfl, hafter⟩

/-! ## 2. Quoted sequences -/

/-- Whether a text stops at a quote, or has ended. -/
def StopsAt (quote : Char) (cs : List Char) : Prop := cs = [] ∨ ∃ rest, cs = quote :: rest

/-- The closing quote, if there is one. -/
def closing (quote : Char) (closed : Bool) : List Char := if closed then [quote] else []

/-- A sequence in quotes, as it is written. -/
def quotedSource (σ : Spelling α) (quote : Char) (as : List α) (closed : Bool) : List Char :=
  quote :: (σ.written as ++ closing quote closed)

/-- Whether a sequence in quotes can be meant, given the text behind it; without a closing quote it
runs to the end of the line. -/
def FitsQuoted (σ : Spelling α) (quote : Char) (as : List α) (closed : Bool)
    (after : List Char) : Prop :=
  σ.FitAll as (closing quote closed ++ after) ∧ (closed = false → after = [])

theorem FitsQuoted.stopsAt {quote : Char} {as : List α} {closed : Bool} {after : List Char}
    (h : σ.FitsQuoted quote as closed after) : StopsAt quote (closing quote closed ++ after) := by
  cases closed with
  | true => exact .inr ⟨after, rfl⟩
  | false => exact .inl (h.2 rfl)

/-- Behind an opening quote there is a sequence in quotes. -/
theorem IsExact.exists_quoted {quote : Char} (h : σ.IsExact (StopsAt quote)) (cs : List Char) :
    ∃ as closed after, σ.FitsQuoted quote as closed after ∧
      quote :: cs = σ.quotedSource quote as closed ++ after := by
  obtain ⟨as, after, hfits, hstop, rfl⟩ := h.exists_all cs
  rcases hstop with rfl | ⟨rest, rfl⟩
  · exact ⟨as, false, [], ⟨by simpa [closing] using hfits, fun _ => rfl⟩,
      by simp [quotedSource, closing]⟩
  · exact ⟨as, true, rest, ⟨hfits, fun hf => absurd hf (by decide)⟩,
      by simp [quotedSource, closing]⟩

theorem IsExact.unique_quoted {quote : Char} (h : σ.IsExact (StopsAt quote)) {as bs : List α}
    {closed closed' : Bool} {after after' : List Char} (ha : σ.FitsQuoted quote as closed after)
    (hb : σ.FitsQuoted quote bs closed' after')
    (heq : σ.quotedSource quote as closed ++ after = σ.quotedSource quote bs closed' ++ after') :
    as = bs ∧ closed = closed' ∧ after = after' := by
  have htext : σ.written as ++ (closing quote closed ++ after) =
      σ.written bs ++ (closing quote closed' ++ after') := by
    simpa [quotedSource] using heq
  obtain ⟨rfl, hrest⟩ := h.unique_all ha.1 hb.1 ha.stopsAt hb.stopsAt htext
  refine ⟨rfl, ?_⟩
  -- Only one of two texts that agree can have ended.
  cases closed with
  | true =>
    cases closed' with
    | true => exact ⟨rfl, by simpa [closing] using hrest⟩
    | false => simp [closing, hb.2 rfl] at hrest
  | false =>
    cases closed' with
    | true => simp [closing, ha.2 rfl] at hrest
    | false => exact ⟨rfl, (ha.2 rfl).trans (hb.2 rfl).symm⟩

end Spelling

open Spelling

/-! ## 3. What a line is made of -/

/-- One part of a double-quoted span. -/
inductive QuotedPart
  /-- A character behind a backslash that escapes it. -/
  | escaped (c : Char)
  /-- A character that stands for itself. -/
  | plain (c : Char)

/-- The characters that a backslash escapes in double quotes. -/
def IsEscapable (c : Char) : Prop := c = '\\' ∨ c = '"'

/-- The character that a part stands for. -/
def QuotedPart.char : QuotedPart → Char
  | .escaped c => c
  | .plain c => c

/-- Parts of a double-quoted span.  A double quote does not stand for itself, and a backslash does
only where it escapes nothing. -/
def quotedParts : Spelling QuotedPart where
  source
    | .escaped c => ['\\', c]
    | .plain c => [c]
  Fits
    | .escaped c, _ => IsEscapable c
    | .plain c, after => c ≠ '"' ∧ (c = '\\' → ∀ d rest, after = d :: rest → ¬ IsEscapable d)

/-- Characters of a single-quoted span: all but the single quote. -/
def quotedChars : Spelling Char where
  source c := [c]
  Fits c _ := c ≠ '\''

/-- A part of a word. -/
inductive Span
  /-- A character that stands for itself. -/
  | plain (c : Char)
  /-- A character behind a backslash. -/
  | escaped (c : Char)
  /-- A backslash with nothing behind it. -/
  | backslash
  /-- Characters in single quotes, of which the closing one may be missing. -/
  | single (chars : List Char) (closed : Bool)
  /-- Parts in double quotes, of which the closing one may be missing. -/
  | double (parts : List QuotedPart) (closed : Bool)

namespace Span

/-- The characters that the span stands for. -/
def meaning : Span → List Char
  | .plain c => [c]
  | .escaped c => [c]
  | .backslash => ['\\']
  | .single chars _ => chars
  | .double parts _ => parts.map QuotedPart.char

/-- Whether the span is quoted or escaped. -/
def protects : Span → Bool
  | .plain _ => false
  | .escaped _ => true
  | .backslash => false
  | .single _ _ => true
  | .double _ _ => true

end Span

def spans : Spelling Span where
  source
    | .plain c => [c]
    | .escaped c => ['\\', c]
    | .backslash => ['\\']
    | .single chars closed => quotedChars.quotedSource '\'' chars closed
    | .double parts closed => quotedParts.quotedSource '"' parts closed
  Fits
    | .plain c, _ => IsOrdinary c
    | .escaped _, _ => True
    | .backslash, after => after = []
    | .single chars closed, after => quotedChars.FitsQuoted '\'' chars closed after
    | .double parts closed, after => quotedParts.FitsQuoted '"' parts closed after

/-- A part of a line. -/
inductive LinePart
  | separator (c : Char)
  /-- A word of at least one span. -/
  | word (first : Span) (more : List Span)

namespace LinePart

def isWord : LinePart → Bool
  | .separator _ => false
  | .word _ _ => true

def word? : LinePart → Option Word
  | .separator _ => none
  | .word first more => some
    { text := String.ofList ((first :: more).flatMap Span.meaning)
      quoted := (first :: more).any Span.protects }

end LinePart

def lineParts : Spelling LinePart where
  source
    | .separator c => [c]
    | .word first more => spans.written (first :: more)
  Fits
    | .separator c, _ => Text.isSeparator c = true
    | .word first more, after => spans.FitAll (first :: more) after

/-- A decomposition of a line into separators and words; between two words there is a separator. -/
structure IsDecomposition (ps : List LinePart) (line : String) : Prop where
  written_eq : lineParts.written ps = line.toList
  fits : lineParts.FitAll ps []
  separated : ps.IsChain fun p q => ¬ (p.isWord = true ∧ q.isWord = true)

/-! ## 4. Every line has one decomposition -/

theorem isExact_quotedChars : quotedChars.IsExact (StopsAt '\'') where
  nonempty c := by simp [quotedChars]
  exists_first cs := by
    cases cs with
    | nil => exact .inl (.inl rfl)
    | cons c rest =>
      by_cases hc : c = '\''
      · exact .inl (.inr ⟨rest, by rw [hc]⟩)
      · exact .inr ⟨c, rest, hc, rfl⟩
  not_stops := by
    rintro c after hc (hnil | ⟨rest, hquote⟩)
    · simp [quotedChars] at hnil
    · exact hc (List.cons.inj hquote).1
  unique := by
    intro c d after after' _ _ heq
    exact List.cons.inj heq

theorem isExact_quotedParts : quotedParts.IsExact (StopsAt '"') where
  nonempty p := by cases p <;> simp [quotedParts]
  exists_first cs := by
    cases cs with
    | nil => exact .inl (.inl rfl)
    | cons c rest =>
      by_cases hquote : c = '"'
      · exact .inl (.inr ⟨rest, by rw [hquote]⟩)
      · right
        by_cases hescape : c = '\\' ∧ ∃ d after, rest = d :: after ∧ IsEscapable d
        · obtain ⟨rfl, d, after, rfl, hd⟩ := hescape
          exact ⟨.escaped d, after, hd, rfl⟩
        · refine ⟨.plain c, rest, ⟨hquote, ?_⟩, rfl⟩
          intro hc d after hrest hd
          exact hescape ⟨hc, d, after, hrest, hd⟩
  not_stops := by
    rintro (c | c) after hfit (hnil | ⟨rest, hquote⟩)
    · simp [quotedParts] at hnil
    · exact absurd (List.cons.inj hquote).1 (by decide)
    · simp [quotedParts] at hnil
    · exact hfit.1 (List.cons.inj hquote).1
  unique := by
    rintro (c | c) (d | d) after after' hc hd heq
    · simpa [quotedParts] using heq
    · -- The backslash would escape the character behind it.
      obtain ⟨hbackslash, hrest⟩ := List.cons.inj heq
      exact absurd hc (hd.2 hbackslash.symm c after hrest.symm)
    · obtain ⟨hbackslash, hrest⟩ := List.cons.inj heq
      exact absurd hd (hc.2 hbackslash d after' hrest)
    · simpa [quotedParts] using heq

/-- Whether a text stops at a separator, or has ended. -/
def StopsWord (cs : List Char) : Prop :=
  cs = [] ∨ ∃ c rest, cs = c :: rest ∧ Text.isSeparator c = true

namespace Span

/-- The character that the span is written with first. -/
def opening : Span → Char
  | .plain c => c
  | .escaped _ => '\\'
  | .backslash => '\\'
  | .single _ _ => '\''
  | .double _ _ => '"'

theorem source_eq (s : Span) : spans.source s = s.opening :: (spans.source s).tail := by
  cases s <;> rfl

theorem isSeparator_opening {s : Span} {after : List Char} (h : spans.Fits s after) :
    Text.isSeparator s.opening = false := by
  cases s with
  | plain c => exact h.1
  | escaped | backslash | single | double => rfl

/-- A text that does not stop begins with a span. -/
theorem exists_first (cs : List Char) :
    StopsWord cs ∨ ∃ s after, spans.Fits s after ∧ cs = spans.source s ++ after := by
  cases cs with
  | nil => exact .inl (.inl rfl)
  | cons c rest =>
    by_cases hsep : Text.isSeparator c = true
    · exact .inl (.inr ⟨c, rest, rfl, hsep⟩)
    right
    by_cases hbackslash : c = '\\'
    · subst hbackslash
      cases rest with
      | nil => exact ⟨.backslash, [], rfl, rfl⟩
      | cons d after => exact ⟨.escaped d, after, trivial, rfl⟩
    by_cases hsingle : c = '\''
    · subst hsingle
      obtain ⟨chars, closed, after, hfits, heq⟩ := isExact_quotedChars.exists_quoted rest
      exact ⟨.single chars closed, after, hfits, heq⟩
    by_cases hdouble : c = '"'
    · subst hdouble
      obtain ⟨parts, closed, after, hfits, heq⟩ := isExact_quotedParts.exists_quoted rest
      exact ⟨.double parts closed, after, hfits, heq⟩
    exact ⟨.plain c, rest, ⟨by simpa using hsep, hbackslash, hsingle, hdouble⟩, rfl⟩

/-- A text begins with one span only.  The first character tells the kinds of spans apart, but for
the two with a backslash. -/
theorem eq_of_source_append {s t : Span} {after after' : List Char} (hs : spans.Fits s after)
    (ht : spans.Fits t after') (heq : spans.source s ++ after = spans.source t ++ after') :
    s = t ∧ after = after' := by
  have hhead : s.opening = t.opening := by
    rw [s.source_eq, t.source_eq] at heq
    exact (List.cons.inj heq).1
  cases s with
  | plain c =>
    cases t with
    | plain d => simpa [spans] using heq
    | escaped d => exact absurd hhead hs.2.1
    | backslash => exact absurd hhead hs.2.1
    | single chars closed => exact absurd hhead hs.2.2.1
    | double parts closed => exact absurd hhead hs.2.2.2
  | escaped c =>
    cases t with
    | plain d => exact absurd hhead.symm ht.2.1
    | escaped d => simpa [spans] using heq
    | backslash =>
      obtain rfl : after' = [] := ht
      simp [spans] at heq
    | single | double => simp [Span.opening] at hhead
  | backslash =>
    cases t with
    | plain d => exact absurd hhead.symm ht.2.1
    | escaped d =>
      obtain rfl : after = [] := hs
      simp [spans] at heq
    | backslash => exact ⟨rfl, Eq.trans hs (Eq.symm ht)⟩
    | single | double => simp [Span.opening] at hhead
  | single chars closed =>
    cases t with
    | plain d => exact absurd hhead.symm ht.2.2.1
    | single chars' closed' =>
      obtain ⟨rfl, rfl, hafter⟩ := isExact_quotedChars.unique_quoted hs ht heq
      exact ⟨rfl, hafter⟩
    | escaped | backslash | double => simp [Span.opening] at hhead
  | double parts closed =>
    cases t with
    | plain d => exact absurd hhead.symm ht.2.2.2
    | double parts' closed' =>
      obtain ⟨rfl, rfl, hafter⟩ := isExact_quotedParts.unique_quoted hs ht heq
      exact ⟨rfl, hafter⟩
    | escaped | backslash | single => simp [Span.opening] at hhead

end Span

theorem isExact_spans : spans.IsExact StopsWord where
  nonempty s := by cases s <;> simp [spans, quotedSource]
  exists_first := Span.exists_first
  not_stops := by
    rintro s after hfit hstop
    rw [Span.source_eq] at hstop
    rcases hstop with hnil | ⟨c, rest, heq, hsep⟩
    · cases hnil
    · rw [← (List.cons.inj heq).1, Span.isSeparator_opening hfit] at hsep
      cases hsep
  unique := Span.eq_of_source_append

/-- Parts of a line, where a word ends with the line or at a separator. -/
def wholeParts : Spelling LinePart where
  source := lineParts.source
  Fits p after := lineParts.Fits p after ∧ (p.isWord = true → StopsWord after)

theorem isExact_wholeParts : wholeParts.IsExact (· = []) where
  nonempty p := by
    cases p with
    | separator c => simp [wholeParts, lineParts]
    | word first more => simp [wholeParts, lineParts, written, isExact_spans.nonempty]
  exists_first cs := by
    cases cs with
    | nil => exact .inl rfl
    | cons c rest =>
      right
      by_cases hsep : Text.isSeparator c = true
      · exact ⟨.separator c, rest, ⟨hsep, fun hword => absurd hword Bool.false_ne_true⟩, rfl⟩
      · obtain ⟨ss, after, hfits, hstop, heq⟩ := isExact_spans.exists_all (c :: rest)
        cases ss with
        | nil =>
          obtain rfl : c :: rest = after := heq
          rcases hstop with hnil | ⟨d, rest', hcons, hsep'⟩
          · cases hnil
          · exact absurd ((List.cons.inj hcons).1 ▸ hsep') hsep
        | cons first more => exact ⟨.word first more, after, ⟨hfits, fun _ => hstop⟩, heq⟩
  not_stops := by
    rintro (c | ⟨first, more⟩) after _ hnil
    · simp [wholeParts, lineParts] at hnil
    · simp [wholeParts, lineParts, written, isExact_spans.nonempty] at hnil
  unique := by
    -- A separator is no beginning of a word.
    have hdiffer : ∀ {c : Char} {first : Span} {more : List Span} {after after' : List Char},
        Text.isSeparator c = true → spans.FitAll (first :: more) after' →
        c :: after ≠ spans.written (first :: more) ++ after' := by
      intro c first more after after' hc hfits heq
      have hcons : c :: after = spans.source first ++ (spans.written more ++ after') := by
        simpa [written] using heq
      exact isExact_spans.not_stops hfits.1 (hcons ▸ .inr ⟨c, after, rfl, hc⟩)
    rintro (c | ⟨first, more⟩) (d | ⟨first', more'⟩) after after' hp hq heq
    · simpa [wholeParts, lineParts] using heq
    · exact absurd heq (hdiffer hp.1 hq.1)
    · exact absurd heq.symm (hdiffer hq.1 hp.1)
    · obtain ⟨hspans, hafter⟩ :=
        isExact_spans.unique_all hp.1 hq.1 (hp.2 rfl) (hq.2 rfl) heq
      obtain ⟨rfl, rfl⟩ := List.cons.inj hspans
      exact ⟨rfl, hafter⟩

/-- Words are whole exactly if there is a separator between any two of them. -/
theorem fitAll_wholeParts_iff (ps : List LinePart) : wholeParts.FitAll ps [] ↔
    lineParts.FitAll ps [] ∧ ps.IsChain fun p q => ¬ (p.isWord = true ∧ q.isWord = true) := by
  induction ps with
  | nil => exact ⟨fun _ => ⟨trivial, .nil⟩, fun _ => trivial⟩
  | cons p ps ih =>
    have hnext : lineParts.FitAll ps [] →
        ((p.isWord = true → StopsWord (lineParts.written ps ++ [])) ↔
          ∀ q ∈ ps.head?, ¬ (p.isWord = true ∧ q.isWord = true)) := by
      intro hfits
      cases ps with
      | nil => exact ⟨fun _ q hq => absurd hq (by simp), fun _ _ => .inl rfl⟩
      | cons q qs =>
        cases q with
        | separator c =>
          refine ⟨fun _ q hq => ?_, fun _ _ => .inr ⟨c, _, rfl, hfits.1⟩⟩
          obtain rfl : LinePart.separator c = q := by simpa using hq
          simp [LinePart.isWord]
        | word first more =>
          have hgoes : ¬ StopsWord (lineParts.written (.word first more :: qs) ++ []) := by
            have h := isExact_spans.not_stops hfits.1.1
            simpa [written, lineParts] using h
          constructor
          · intro hstop q hq hboth
            exact hgoes (hstop hboth.1)
          · intro hnot hp
            exact absurd ⟨hp, rfl⟩ (hnot (.word first more) rfl)
    rw [List.isChain_cons]
    constructor
    · rintro ⟨⟨hfit, hstop⟩, hfits⟩
      obtain ⟨hrest, hchain⟩ := ih.mp hfits
      exact ⟨⟨hfit, hrest⟩, (hnext hrest).mp hstop, hchain⟩
    · rintro ⟨⟨hfit, hrest⟩, hstop, hchain⟩
      exact ⟨⟨hfit, (hnext hrest).mpr hstop⟩, ih.mpr ⟨hrest, hchain⟩⟩

/-- **Every line has a decomposition, and only one.** -/
theorem exists_decomposition (line : String) :
    ∃ ps, ∀ qs, IsDecomposition qs line ↔ qs = ps := by
  obtain ⟨ps, after, hfits, rfl, hline⟩ := isExact_wholeParts.exists_all line.toList
  obtain ⟨hparts, hchain⟩ := (fitAll_wholeParts_iff ps).mp hfits
  refine ⟨ps, fun qs => ⟨fun h => ?_, ?_⟩⟩
  · have hqs := (fitAll_wholeParts_iff qs).mpr ⟨h.fits, h.separated⟩
    have heq : wholeParts.written qs ++ [] = wholeParts.written ps ++ [] := by
      rw [← hline, List.append_nil]
      exact h.written_eq
    exact (isExact_wholeParts.unique_all hqs hfits rfl rfl heq).1
  · rintro rfl
    exact ⟨by rw [hline, List.append_nil]; rfl, hparts, hchain⟩

/-! ## 5. The words of the decomposition are read -/

theorem readFrom_quotedChars {chars after : List Char} (h : quotedChars.FitAll chars after)
    (w : Word) :
    readFrom .single w (quotedChars.written chars ++ after) =
      readFrom .single ⟨w.text ++ String.ofList chars, w.quoted⟩ after := by
  induction chars generalizing w with
  | nil => simp [written]
  | cons c cs ih =>
    have hc : c ≠ '\'' := h.1
    have hcons : quotedChars.written (c :: cs) ++ after =
        c :: (quotedChars.written cs ++ after) := rfl
    rw [hcons, readFrom, if_neg hc, ih h.2]
    simp [push, push_append_ofList]

theorem readFrom_quotedParts {parts : List QuotedPart} {after : List Char}
    (h : quotedParts.FitAll parts after) (w : Word) :
    readFrom .double w (quotedParts.written parts ++ after) =
      readFrom .double ⟨w.text ++ String.ofList (parts.map QuotedPart.char), w.quoted⟩ after := by
  induction parts generalizing w with
  | nil => simp [written]
  | cons p ps ih =>
    cases p with
    | escaped c =>
      have hcons : quotedParts.written (.escaped c :: ps) ++ after =
          '\\' :: c :: (quotedParts.written ps ++ after) := rfl
      have hread : readFrom .double w ('\\' :: c :: (quotedParts.written ps ++ after)) =
          readFrom .double (w.push c) (quotedParts.written ps ++ after) := by
        rcases h.1 with rfl | rfl
        · rw [readFrom]
        · rw [readFrom]
      rw [hcons, hread, ih h.2]
      simp [push, push_append_ofList, QuotedPart.char]
    | plain c =>
      obtain ⟨hquote, hescapes⟩ := h.1
      have hcons : quotedParts.written (.plain c :: ps) ++ after =
          c :: (quotedParts.written ps ++ after) := rfl
      rw [hcons, readFrom, if_neg hquote, ih h.2]
      · simp [push, push_append_ofList, QuotedPart.char]
      · exact fun rest hc hrest => hescapes hc '\\' rest hrest (.inl rfl)
      · exact fun rest hc hrest => hescapes hc '"' rest hrest (.inr rfl)

/-- A quoted span ends with its quote, or with the line. -/
theorem readFrom_closing {place : Place} {quote : Char} {closed : Bool} {after : List Char}
    (hplace : place = .single ∧ quote = '\'' ∨ place = .double ∧ quote = '"')
    (hclosed : closed = false → after = []) (w : Word) :
    readFrom place w (closing quote closed ++ after) = readFrom .bare w after := by
  cases closed with
  | false =>
    rw [hclosed rfl]
    rcases hplace with ⟨rfl, rfl⟩ | ⟨rfl, rfl⟩ <;> rfl
  | true =>
    rcases hplace with ⟨rfl, rfl⟩ | ⟨rfl, rfl⟩ <;> simp [closing, readFrom]

/-- **A span is read into the word** with what it stands for, and marks it if it is quoted or
escaped. -/
theorem readFrom_span {place : Place} (hp : place.isUnquoted = true) {s : Span}
    {after : List Char} (h : spans.Fits s after) (w : Word) :
    readFrom place w (spans.source s ++ after) =
      readFrom .bare ⟨w.text ++ String.ofList s.meaning, w.quoted || s.protects⟩ after := by
  cases s with
  | plain c =>
    have hread := readFrom_ordinary hp w h after
    simpa [spans, Span.meaning, Span.protects, push] using hread
  | escaped c =>
    have hread := readFrom_escape hp w c after
    simpa [spans, Span.meaning, Span.protects, push, quote] using hread
  | backslash =>
    obtain rfl : after = [] := h
    have hread : readFrom place w ['\\'] = readFrom .bare (w.push '\\') [] := by
      cases place with
      | gap | bare => simp [readFrom, Text.isSeparator]
      | single | double => cases hp
    have hpush : w.text.push '\\' = w.text ++ String.ofList ['\\'] := by
      rw [← push_append_ofList, String.ofList_nil, String.append_empty]
    rw [push, hpush] at hread
    simpa [spans, Span.meaning, Span.protects] using hread
  | single chars closed =>
    have hcons : spans.source (.single chars closed) ++ after =
        '\'' :: (quotedChars.written chars ++ (closing '\'' closed ++ after)) := by
      simp [spans, quotedSource]
    rw [hcons, readFrom_openSingle hp, readFrom_quotedChars h.1,
      readFrom_closing (.inl ⟨rfl, rfl⟩) h.2]
    simp [quote, Span.meaning, Span.protects]
  | double parts closed =>
    have hcons : spans.source (.double parts closed) ++ after =
        '"' :: (quotedParts.written parts ++ (closing '"' closed ++ after)) := by
      simp [spans, quotedSource]
    rw [hcons, readFrom_openDouble hp, readFrom_quotedParts h.1,
      readFrom_closing (.inr ⟨rfl, rfl⟩) h.2]
    simp [quote, Span.meaning, Span.protects]

theorem readFrom_spans {ss : List Span} {after : List Char} (h : spans.FitAll ss after)
    (w : Word) :
    readFrom .bare w (spans.written ss ++ after) =
      readFrom .bare ⟨w.text ++ String.ofList (ss.flatMap Span.meaning),
        w.quoted || ss.any Span.protects⟩ after := by
  induction ss generalizing w with
  | nil => simp [written]
  | cons s ss ih =>
    have hcons : spans.written (s :: ss) ++ after =
        spans.source s ++ (spans.written ss ++ after) := by
      simp [written]
    rw [hcons, readFrom_span rfl h.1, ih h.2]
    simp [String.append_assoc, Bool.or_assoc]

/-- A word ends where the line ends or a separator stands. -/
theorem readFrom_stops {after : List Char} (h : StopsWord after) (w : Word) :
    readFrom .bare w after = w :: readFrom .gap {} after := by
  rcases h with rfl | ⟨c, rest, rfl, hsep⟩
  · rfl
  · have hne : c ≠ '\\' := by
      rintro rfl
      exact absurd hsep (by decide)
    rw [readFrom_bare_cons fun _ _ e => absurd e hne,
      readFrom_gap_cons fun _ _ e => absurd e hne, if_pos hsep, if_pos hsep]

/-- **The words among the parts are read.** -/
theorem readFrom_lineParts {ps : List LinePart} (h : wholeParts.FitAll ps []) :
    readFrom .gap {} (lineParts.written ps) = ps.filterMap LinePart.word? := by
  induction ps with
  | nil => rfl
  | cons p ps ih =>
    obtain ⟨⟨hfit, hstop⟩, hfits⟩ := h
    have hrest := ih hfits
    cases p with
    | separator c =>
      have hsep : Text.isSeparator c = true := hfit
      have hne : c ≠ '\\' := by
        rintro rfl
        exact absurd hsep (by decide)
      have hcons : lineParts.written (.separator c :: ps) = c :: lineParts.written ps := rfl
      rw [hcons, readFrom_gap_cons fun _ _ e => absurd e hne, if_pos hsep, hrest]
      rfl
    | word first more =>
      rw [List.append_nil] at hfit hstop
      have hspans : spans.FitAll (first :: more) (lineParts.written ps) := hfit
      have hend : StopsWord (lineParts.written ps) := hstop rfl
      have hcons : lineParts.written (.word first more :: ps) =
          spans.source first ++ (spans.written more ++ lineParts.written ps) := by
        simp [written, lineParts]
      rw [hcons, readFrom_span rfl hspans.1, readFrom_spans hspans.2, readFrom_stops hend, hrest]
      simp [LinePart.word?]

/-! ## 6. Both together -/

/-- **The reader implements the grammar.**  Every line has exactly one decomposition, and the words
that are read are its words, in order: each stands for what its spans mean, and is marked exactly if
one of them is quoted or escaped. -/
theorem readAll_eq_words (line : String) :
    ∃ ps, (∀ qs, IsDecomposition qs line ↔ qs = ps) ∧
      readAll line = ps.filterMap LinePart.word? := by
  obtain ⟨ps, hps⟩ := exists_decomposition line
  have h : IsDecomposition ps line := (hps ps).mpr rfl
  have hfits := (fitAll_wholeParts_iff ps).mpr ⟨h.fits, h.separated⟩
  refine ⟨ps, hps, ?_⟩
  rw [readAll, ← h.written_eq, readFrom_lineParts hfits]

end CommandShell
