/-
# Redirections among the words of a command

The words behind the name of a command fall into portions: ordinary words, operators with their
target in the same word, and operators with the word behind them, whatever it is.  An operator that
is left over at the very end is no redirection (`Portion`, `Layout`).  What makes a word an operator
is said here by its spelling (`Operator.IsWritten`), without the table that the model goes through.

* `Operator.ofWord?_eq_some_iff`: the table recognises the words that are spelled so.
* `Layout.words_injective`, `Layout.exists_words`: all words fall into portions in exactly one way.
* `Layout.ofOperands_words`: the arguments of the stage are the ordinary words and the operator that
  is left over, and of the redirections of a stream the last counts.
* `Layout.stage_moved`: so a redirection may be moved past arguments and past redirections of the
  other stream.

`Stage.ofWords_layout` has all of them together.
-/
import CommandShell.Proofs.Written

namespace CommandShell

/-! ## 1. Operator words by their spelling -/

/-- A word that begins as an operator does: no part of it is quoted, and behind a `1`, a `2` or
nothing there is a `>`. -/
def Word.BeginsOperator (w : Word) : Prop :=
  w.quoted = false ∧ ∃ digit ∈ ["", "1", "2"], ∃ rest, w.text = digit ++ ">" ++ rest

namespace Operator

variable {w : Word} {op op' : Operator}

/-- The digit in front of the `>` that stands for a stream: `2` for the error stream, `1` or none
for the other. -/
def Stands (digit : String) (stream : Stream) : Prop :=
  digit ∈ ["", "1", "2"] ∧ (stream = .stderr ↔ digit = "2")

/-- How an operator is written: its stream's digit and a `>`.  Another `>` behind it says that the
target is extended, and what is left is glued to the operator. -/
structure IsWritten (op : Operator) (w : Word) : Prop where
  unquoted : w.quoted = false
  spelled : ∃ digit, Stands digit op.stream ∧ ∃ rest, w.text = digit ++ ">" ++ rest ∧
    (op.mode = .append ∧ rest = ">" ++ op.glued ∨
      op.mode = .overwrite ∧ rest = op.glued ∧ ∀ more, rest ≠ ">" ++ more)

theorem after?_eq_some_iff {start text rest : String} :
    after? start text = some rest ↔ text = start ++ rest := by
  rw [after?]
  constructor
  · intro h
    split at h
    · next hprefix =>
      obtain ⟨more, hmore⟩ := List.isPrefixOf_iff_prefix.mp hprefix
      obtain rfl := Option.some.inj h
      simp [← String.toList_inj, ← hmore]
    · cases h
  · rintro rfl
    simp [String.toList_append]

theorem after?_append (start rest : String) : after? start (start ++ rest) = some rest :=
  after?_eq_some_iff.mpr rfl

theorem beginsOperator_of_ofWord? (h : ofWord? w = some op) : w.BeginsOperator := by
  rw [ofWord?] at h
  split at h
  · cases h
  next hquoted =>
  obtain ⟨⟨start, stream, mode⟩, hmem, hop⟩ := List.exists_of_findSome?_eq_some h
  obtain ⟨rest, hrest, -⟩ := Option.map_eq_some_iff.mp hop
  have hstart : ∃ digit ∈ ["", "1", "2"], ∃ more, start = digit ++ ">" ++ more := by
    simp only [spellings, List.mem_cons, List.not_mem_nil, or_false, Prod.mk.injEq] at hmem
    rcases hmem with ⟨rfl, -⟩ | ⟨rfl, -⟩ | ⟨rfl, -⟩ | ⟨rfl, -⟩ | ⟨rfl, -⟩ | ⟨rfl, -⟩
    · exact ⟨"1", by decide, ">", rfl⟩
    · exact ⟨"2", by decide, ">", rfl⟩
    · exact ⟨"", by decide, ">", rfl⟩
    · exact ⟨"1", by decide, "", rfl⟩
    · exact ⟨"2", by decide, "", rfl⟩
    · exact ⟨"", by decide, "", rfl⟩
  obtain ⟨digit, hdigit, more, rfl⟩ := hstart
  exact ⟨Bool.eq_false_iff.mpr hquoted, digit, hdigit, more ++ rest, by
    rw [after?_eq_some_iff.mp hrest, String.append_assoc]⟩

/-- Each word that begins as an operator does is an operator. -/
theorem exists_isWritten (h : w.BeginsOperator) : ∃ op : Operator, op.IsWritten w := by
  obtain ⟨hquoted, digit, hdigit, rest, htext⟩ := h
  obtain ⟨stream, hstream⟩ : ∃ stream : Stream, stream = .stderr ↔ digit = "2" := by
    by_cases h2 : digit = "2"
    · exact ⟨.stderr, by simp [h2]⟩
    · exact ⟨.stdout, by simp [h2]⟩
  by_cases hmore : ∃ more, rest = ">" ++ more
  · obtain ⟨more, rfl⟩ := hmore
    exact ⟨⟨stream, .append, more⟩, hquoted, digit, ⟨hdigit, hstream⟩, _, htext, .inl ⟨rfl, rfl⟩⟩
  · exact ⟨⟨stream, .overwrite, rest⟩, hquoted, digit, ⟨hdigit, hstream⟩, rest, htext,
      .inr ⟨rfl, rfl, not_exists.mp hmore⟩⟩

/-- The table tries `>>` before `>`, so a second `>` is never taken for a part of the target. -/
theorem ofWord?_eq_elim {digit : String} {stream : Stream} (h : Stands digit stream)
    (rest : String) :
    ofWord? ⟨digit ++ ">" ++ rest, false⟩ =
      some ((after? ">" rest).elim ⟨stream, .overwrite, rest⟩ (⟨stream, .append, ·⟩)) := by
  obtain ⟨hdigit, hstream⟩ := h
  simp only [List.mem_cons, List.not_mem_nil, or_false] at hdigit
  cases hchars : rest.toList with
  | nil =>
    obtain rfl := String.toList_eq_nil_iff.mp hchars
    rcases hdigit with rfl | rfl | rfl <;> cases stream <;> revert hstream <;> decide
  | cons c cs =>
    obtain rfl : rest = String.ofList (c :: cs) := by simp [← String.toList_inj, hchars]
    by_cases hc : '>' = c
    · subst hc
      rcases hdigit with rfl | rfl | rfl <;> cases stream <;>
        simp_all [ofWord?, spellings, after?, String.toList_append]
    · rcases hdigit with rfl | rfl | rfl <;> cases stream <;>
        simp_all [ofWord?, spellings, after?, String.toList_append]

/-- **The table reads an operator as it is written.** -/
theorem ofWord?_of_isWritten (h : op.IsWritten w) : ofWord? w = some op := by
  obtain ⟨stream, mode, glued⟩ := op
  obtain ⟨text, quoted⟩ := w
  obtain ⟨hquoted, digit, hdigit, rest, htext, hmode⟩ := h
  obtain rfl : quoted = false := hquoted
  obtain rfl : text = digit ++ ">" ++ rest := htext
  rw [ofWord?_eq_elim hdigit]
  rcases hmode with ⟨hmode, hrest⟩ | ⟨hmode, hrest, hone⟩
  · obtain rfl : mode = .append := hmode
    obtain rfl : rest = ">" ++ glued := hrest
    rw [after?_append, Option.elim_some]
  · obtain rfl : mode = .overwrite := hmode
    obtain rfl : rest = glued := hrest
    have hnone : after? ">" rest = none :=
      Option.eq_none_iff_forall_ne_some.mpr fun more hmore =>
        hone more (after?_eq_some_iff.mp hmore)
    rw [hnone, Option.elim_none]

/-- **Operator words are the words that are spelled as operators.** -/
theorem ofWord?_eq_some_iff : ofWord? w = some op ↔ op.IsWritten w := by
  refine ⟨fun h => ?_, ofWord?_of_isWritten⟩
  obtain ⟨op', hop'⟩ := exists_isWritten (beginsOperator_of_ofWord? h)
  obtain rfl : op' = op := Option.some.inj ((ofWord?_of_isWritten hop').symm.trans h)
  exact hop'

theorem isSome_ofWord?_iff : (ofWord? w).isSome ↔ w.BeginsOperator := by
  rw [Option.isSome_iff_exists]
  constructor
  · rintro ⟨op, h⟩
    exact beginsOperator_of_ofWord? h
  · intro h
    obtain ⟨op, hop⟩ := exists_isWritten h
    exact ⟨op, ofWord?_of_isWritten hop⟩

end Operator

/-! ## 2. Portions -/

/-- A word that is written as an operator. -/
structure OperatorWord where
  word : Word
  op : Operator
  written : op.IsWritten word

theorem OperatorWord.ofWord?_word (o : OperatorWord) : Operator.ofWord? o.word = some o.op :=
  Operator.ofWord?_of_isWritten o.written

theorem OperatorWord.beginsOperator (o : OperatorWord) : o.word.BeginsOperator :=
  Operator.beginsOperator_of_ofWord? o.ofWord?_word

theorem OperatorWord.eq_of_word {o o' : OperatorWord} (h : o.word = o'.word) : o = o' := by
  obtain ⟨w, op, hw⟩ := o
  obtain ⟨w', op', hw'⟩ := o'
  obtain rfl : w = w' := h
  have hop : some op = some op' :=
    (Operator.ofWord?_of_isWritten hw).symm.trans (Operator.ofWord?_of_isWritten hw')
  obtain rfl := Option.some.inj hop
  rfl

/-- An operator with nothing glued to it. -/
abbrev BareOperator := { o : OperatorWord // o.op.glued = "" }

/-- What the words behind a name fall into. -/
inductive Portion
  /-- A word that is no operator. -/
  | ordinary (w : Word) (plain : ¬ w.BeginsOperator)
  /-- An operator with its target glued to it. -/
  | fused (o : OperatorWord) (glued : o.op.glued ≠ "")
  /-- An operator by itself, and the word behind it, whatever that is. -/
  | spaced (o : BareOperator) (target : Word)

namespace Portion

/-- The words of a portion. -/
def words : Portion → List Word
  | .ordinary w _ => [w]
  | .fused o _ => [o.word]
  | .spaced o target => [o.1.word, target]

/-- What a portion stands for. -/
def operand : Portion → Operand
  | .ordinary w _ => .argument w.text
  | .fused o _ => .redirection o.op.stream ⟨o.op.glued, o.op.mode⟩
  | .spaced o target => .redirection o.1.op.stream ⟨target.text, o.1.op.mode⟩

/-- The argument that a portion is. -/
def argument? (p : Portion) : Option String := p.operand.argument?

/-- The redirection of a stream that a portion is. -/
def redirection? (stream : Stream) (p : Portion) : Option Redirection :=
  p.operand.redirection? stream

/-- The first word of a portion says of which kind it is, so words begin with one portion only. -/
theorem eq_of_words {p q : Portion} {xs ys : List Word} (h : p.words ++ xs = q.words ++ ys) :
    p = q ∧ xs = ys := by
  cases p with
  | ordinary w plain =>
    cases q with
    | ordinary w' plain' =>
      obtain ⟨rfl, rfl⟩ := List.cons.inj h
      exact ⟨rfl, rfl⟩
    | fused o _ =>
      obtain ⟨rfl, -⟩ := List.cons.inj h
      exact absurd o.beginsOperator plain
    | spaced o _ =>
      obtain ⟨rfl, -⟩ := List.cons.inj h
      exact absurd o.1.beginsOperator plain
  | fused o glued =>
    cases q with
    | ordinary w plain =>
      obtain ⟨rfl, -⟩ := List.cons.inj h
      exact absurd o.beginsOperator plain
    | fused o' glued' =>
      obtain ⟨hword, rfl⟩ := List.cons.inj h
      obtain rfl := OperatorWord.eq_of_word hword
      exact ⟨rfl, rfl⟩
    | spaced o' _ =>
      obtain rfl := OperatorWord.eq_of_word (List.cons.inj h).1
      exact absurd o'.2 glued
  | spaced o target =>
    cases q with
    | ordinary w plain =>
      obtain ⟨rfl, -⟩ := List.cons.inj h
      exact absurd o.1.beginsOperator plain
    | fused o' glued =>
      obtain rfl := OperatorWord.eq_of_word (List.cons.inj h).1
      exact absurd o.2 glued
    | spaced o' target' =>
      obtain ⟨hword, hrest⟩ := List.cons.inj h
      obtain rfl := Subtype.ext (OperatorWord.eq_of_word hword)
      obtain ⟨rfl, rfl⟩ := List.cons.inj hrest
      exact ⟨rfl, rfl⟩

theorem words_append_ne (p : Portion) (xs : List Word) (o : BareOperator) :
    p.words ++ xs ≠ [o.1.word] := by
  intro h
  cases p with
  | ordinary w plain =>
    obtain ⟨rfl, -⟩ := List.cons.inj h
    exact plain o.1.beginsOperator
  | fused o' glued =>
    obtain rfl := OperatorWord.eq_of_word (List.cons.inj h).1
    exact glued o.2
  | spaced o' target => exact List.cons_ne_nil _ _ (List.cons.inj h).2

end Portion

/-! ## 3. Layouts -/

/-- Portions one behind the other, and perhaps an operator that is left over behind them. -/
structure Layout where
  portions : List Portion
  dangling : Option BareOperator := none

namespace Layout

def words (l : Layout) : List Word :=
  l.portions.flatMap Portion.words ++ l.dangling.toList.map (·.1.word)

/-- What a layout stands for: an operator that is left over is an argument. -/
def operands (l : Layout) : List Operand :=
  l.portions.map Portion.operand ++ l.dangling.toList.map (.argument ·.1.word.text)

def stage (name : Word) (l : Layout) : Stage where
  name := name.text
  args := l.portions.filterMap Portion.argument? ++ l.dangling.toList.map (·.1.word.text)
  stdout := (l.portions.filterMap (Portion.redirection? .stdout)).getLast?
  stderr := (l.portions.filterMap (Portion.redirection? .stderr)).getLast?

def cons (p : Portion) (l : Layout) : Layout := { l with portions := p :: l.portions }

@[simp] theorem words_cons (p : Portion) (l : Layout) : (l.cons p).words = p.words ++ l.words := by
  simp [words, cons]

/-- **All words fall into portions.** -/
theorem exists_words (ws : List Word) : ∃ l : Layout, l.words = ws := by
  induction ws using Stage.ofOperands.induct with
  | case1 => exact ⟨⟨[], none⟩, rfl⟩
  | case2 w rest hnone ih =>
    obtain ⟨l, rfl⟩ := ih
    have plain : ¬ w.BeginsOperator := by simp [← Operator.isSome_ofWord?_iff, hnone]
    exact ⟨l.cons (.ordinary w plain), words_cons _ _⟩
  | case3 w op hop hglued =>
    exact ⟨⟨[], some ⟨⟨w, op, Operator.ofWord?_eq_some_iff.mp hop⟩, hglued⟩⟩, rfl⟩
  | case4 w op hop hglued target rest ih =>
    obtain ⟨l, rfl⟩ := ih
    exact ⟨l.cons (.spaced ⟨⟨w, op, Operator.ofWord?_eq_some_iff.mp hop⟩, hglued⟩ target),
      words_cons _ _⟩
  | case5 w rest op hop hglued ih =>
    obtain ⟨l, rfl⟩ := ih
    exact ⟨l.cons (.fused ⟨w, op, Operator.ofWord?_eq_some_iff.mp hop⟩ hglued), words_cons _ _⟩

theorem words_cons_ne (p : Portion) (l : Layout) (d : Option BareOperator) :
    (l.cons p).words ≠ words ⟨[], d⟩ := by
  rw [words_cons]
  cases d with
  | none => cases p <;> exact List.cons_ne_nil _ _
  | some o => exact p.words_append_ne _ o

/-- **Words fall into portions in one way.** -/
theorem words_injective {l l' : Layout} (h : l.words = l'.words) : l = l' := by
  obtain ⟨ps, d⟩ := l
  obtain ⟨qs, d'⟩ := l'
  induction ps generalizing qs with
  | nil =>
    cases qs with
    | nil =>
      cases d <;> cases d'
      · rfl
      · cases h
      · cases h
      · rw [Subtype.ext (OperatorWord.eq_of_word (List.cons.inj h).1)]
    | cons q qs => exact absurd h.symm (words_cons_ne q ⟨qs, d'⟩ d)
  | cons p ps ih =>
    cases qs with
    | nil => exact absurd h (words_cons_ne p ⟨ps, d⟩ d')
    | cons q qs =>
      have hboth : p.words ++ words ⟨ps, d⟩ = q.words ++ words ⟨qs, d'⟩ :=
        (words_cons p ⟨ps, d⟩).symm.trans (h.trans (words_cons q ⟨qs, d'⟩))
      obtain ⟨rfl, hrest⟩ := Portion.eq_of_words hboth
      cases ih qs hrest
      rfl

/-! ## 4. Stages -/

theorem ofOperands_words_append (p : Portion) (ws : List Word) :
    Stage.ofOperands (p.words ++ ws) = p.operand.addTo (Stage.ofOperands ws) := by
  cases p with
  | ordinary w plain =>
    have hnone : Operator.ofWord? w = none := by
      simpa [← Operator.isSome_ofWord?_iff] using plain
    simp [Portion.words, Portion.operand, Operand.addTo, Stage.ofOperands, hnone]
  | fused o glued =>
    simp [Portion.words, Portion.operand, Operand.addTo, Stage.ofOperands, o.ofWord?_word, glued]
  | spaced o target =>
    simp [Portion.words, Portion.operand, Operand.addTo, Stage.ofOperands, o.1.ofWord?_word, o.2]

/-- **The words of a layout give its operands.** -/
theorem ofOperands_words (l : Layout) :
    Stage.ofOperands l.words = l.operands.foldr (fun op s => op.addTo s) {} := by
  obtain ⟨ps, d⟩ := l
  induction ps with
  | nil =>
    cases d with
    | none => rfl
    | some o =>
      simp [words, operands, Stage.ofOperands, o.1.ofWord?_word, o.2, Operand.addTo]
  | cons p ps ih =>
    have hwords : words ⟨p :: ps, d⟩ = p.words ++ words ⟨ps, d⟩ := words_cons p ⟨ps, d⟩
    rw [hwords, ofOperands_words_append, ih]
    rfl

theorem arguments_operands (l : Layout) :
    l.operands.filterMap Operand.argument? =
      l.portions.filterMap Portion.argument? ++ l.dangling.toList.map (·.1.word.text) := by
  obtain ⟨ps, d⟩ := l
  have hportions : (ps.map Portion.operand).filterMap Operand.argument? =
      ps.filterMap Portion.argument? := List.filterMap_map ..
  cases d <;> simp [operands, hportions, Operand.argument?]

/-- An operator that is left over is no redirection. -/
theorem redirections_operands (l : Layout) (stream : Stream) :
    l.operands.filterMap (Operand.redirection? stream) =
      l.portions.filterMap (Portion.redirection? stream) := by
  obtain ⟨ps, d⟩ := l
  have hportions : (ps.map Portion.operand).filterMap (Operand.redirection? stream) =
      ps.filterMap (Portion.redirection? stream) := List.filterMap_map ..
  cases d <;> simp [operands, hportions, Operand.redirection?]

theorem ofWords_words (name : Word) (l : Layout) :
    Stage.ofWords (name :: l.words) = l.stage name := by
  have hargs := args_foldr_addTo l.operands
  have hout := redirection?_foldr_addTo l.operands .stdout
  have herr := redirection?_foldr_addTo l.operands .stderr
  rw [arguments_operands] at hargs
  rw [redirections_operands] at hout herr
  rw [Stage.ofWords, ofOperands_words, stage, ← hargs, ← hout, ← herr]
  rfl

/-- An element that counts for nothing may stand behind others, and others may stand behind it if
they count for nothing. -/
theorem filterMap_moved {α β : Type} {f : α → Option β} {a : α} {between : List α}
    (h : f a = none ∨ ∀ b ∈ between, f b = none) (before after : List α) :
    (before ++ a :: (between ++ after)).filterMap f =
      (before ++ (between ++ a :: after)).filterMap f := by
  rcases h with ha | hbetween
  · simp [ha]
  · have hnil : between.filterMap f = [] := List.filterMap_eq_nil_iff.mpr hbetween
    simp [List.filterMap_cons, hnil]

/-- **A redirection may be moved**, past arguments and past redirections of the other stream. -/
theorem stage_moved (name : Word) {stream : Stream} {r : Portion} {between : List Portion}
    (hr : (r.redirection? stream).isSome) (hbetween : ∀ p ∈ between, p.redirection? stream = none)
    (before after : List Portion) (d : Option BareOperator) :
    stage name ⟨before ++ r :: (between ++ after), d⟩ =
      stage name ⟨before ++ (between ++ r :: after), d⟩ := by
  obtain ⟨red, hred⟩ : ∃ red, r.operand = .redirection stream red := by
    cases r <;> simp_all [Portion.redirection?, Operand.redirection?, Portion.operand]
  have hredirections : ∀ other, (before ++ r :: (between ++ after)).filterMap
      (Portion.redirection? other) =
        (before ++ (between ++ r :: after)).filterMap (Portion.redirection? other) := by
    intro other
    refine filterMap_moved ?_ before after
    by_cases hs : stream = other
    · exact .inr (hs ▸ hbetween)
    · exact .inl (by simp [Portion.redirection?, hred, Operand.redirection?, hs])
  have hargs : (before ++ r :: (between ++ after)).filterMap Portion.argument? =
      (before ++ (between ++ r :: after)).filterMap Portion.argument? :=
    filterMap_moved (.inl (by simp [Portion.argument?, hred, Operand.argument?])) before after
  simp only [stage, hredirections, hargs]

end Layout

/-- **Redirections among the words of a command.**  A word is an operator if it is spelled as one,
and then which one its spelling says.  Whatever words stand behind a name, they are the words of
exactly one layout.  The stage has the name's text for its name, whatever the name looks like; its
arguments are the ordinary words in their order, with the operator that is left over at the end;
and each of its redirections is the last one of its stream.  So a redirection may be moved past
arguments and past redirections of the other stream, in either direction. -/
theorem Stage.ofWords_layout (name : Word) (ws : List Word) :
    (∀ w, (Operator.ofWord? w).isSome ↔ w.BeginsOperator) ∧
    (∀ w op, Operator.ofWord? w = some op ↔ op.IsWritten w) ∧
    (∃ l : Layout, (∀ l' : Layout, l'.words = ws ↔ l' = l) ∧
      ofWords (name :: ws) = l.stage name) ∧
    (∀ stream r before between after dangling,
      (r.redirection? stream).isSome → (∀ p ∈ between, p.redirection? stream = none) →
      ofWords (name :: Layout.words ⟨before ++ r :: (between ++ after), dangling⟩) =
        ofWords (name :: Layout.words ⟨before ++ (between ++ r :: after), dangling⟩)) := by
  refine ⟨fun _ => Operator.isSome_ofWord?_iff, fun _ _ => Operator.ofWord?_eq_some_iff, ?_, ?_⟩
  · obtain ⟨l, rfl⟩ := Layout.exists_words ws
    refine ⟨l, fun l' => ⟨Layout.words_injective, fun h => h ▸ rfl⟩, Layout.ofWords_words name l⟩
  · intro stream r before between after dangling hr hbetween
    rw [Layout.ofWords_words, Layout.ofWords_words]
    exact Layout.stage_moved name hr hbetween before after dangling

/-- Behind a name that looks like an operator, `2> 2>` is moved past `x` and `1>>>f`; a `>` is left
over. -/
theorem Stage.ofWords_layout_moved :
    let word (text : String) : Word := ⟨text, false⟩
    ∃ (r : Portion) (between : List Portion) (left : BareOperator),
      (r.redirection? .stderr).isSome ∧ (∀ p ∈ between, p.redirection? .stderr = none) ∧
      Layout.words ⟨r :: between, left⟩ = ["2>", "2>", "x", "1>>>f", ">"].map word ∧
      Layout.words ⟨between ++ [r], left⟩ = ["x", "1>>>f", "2>", "2>", ">"].map word ∧
      ofWords ([">", "x", "1>>>f", "2>", "2>", ">"].map word) =
        ⟨">", ["x", ">"], some ⟨">f", .append⟩, some ⟨"2>", .overwrite⟩⟩ ∧
      ofWords ([">", "2>", "2>", "x", "1>>>f", ">"].map word) =
        ofWords ([">", "x", "1>>>f", "2>", "2>", ">"].map word) := by
  intro word
  obtain ⟨hbegins, hwritten, -, hmoved⟩ := Stage.ofWords_layout (word ">") []
  let r : Portion :=
    .spaced ⟨⟨word "2>", ⟨.stderr, .overwrite, ""⟩, (hwritten _ _).mp (by decide)⟩, rfl⟩ (word "2>")
  let f : Portion :=
    .fused ⟨word "1>>>f", ⟨.stdout, .append, ">f"⟩, (hwritten _ _).mp (by decide)⟩
      (show ">f" ≠ "" by decide)
  let x : Portion := .ordinary (word "x") (mt (hbegins _).mpr (by decide))
  let left : BareOperator :=
    ⟨⟨word ">", ⟨.stdout, .overwrite, ""⟩, (hwritten _ _).mp (by decide)⟩, rfl⟩
  have hr : (r.redirection? .stderr).isSome := rfl
  have hbetween : ∀ p ∈ [x, f], p.redirection? .stderr = none := by
    simp [x, f, Portion.redirection?, Portion.operand, Operand.redirection?]
  exact ⟨r, [x, f], left, hr, hbetween, rfl, rfl, by decide,
    hmoved .stderr r [] [x, f] [] left hr hbetween⟩

end CommandShell
