/-
# Written forms of a line, and reading them back

A line can be written down in many ways: every word in any mixture of single quotes, double quotes
and backslashes, words with any blanks between them, redirections anywhere behind the name.
`WrittenLine` says which texts write a line down.  This file proves that each of them is read back
as the line it was written for, whatever characters the names, arguments and targets hold, and that
every line has such a text (`parse_written`).

* Words: `readFrom_writtenWord`.  A written word is read as one word, and as a quoted one, so that
  it is never taken for an operator.
* Segments: `Unbroken`.  No pipe in a written stage is a cut, and no quote is left open behind it.
* Operands: `readFrom_writtenOperands`.  The words behind the name give the arguments and the
  redirections, in whatever order they stand.
-/
import CommandShell.Proofs.Splitting
import CommandShell.Syntax.Line
import Mathlib.Data.List.Forall2

namespace CommandShell

open Word Segment

/-! ## 1. What is written -/

/-- One stretch of a written word. -/
inductive Chunk
  /-- Characters in single quotes; none of them is a single quote. -/
  | single (text : List Char) (free : '\'' ∉ text)
  /-- Characters in double quotes. -/
  | double (text : List Char)
  /-- One character behind a backslash. -/
  | escaped (c : Char)

namespace Chunk

/-- Characters as they are written in double quotes. -/
def escape : List Char → List Char
  | [] => []
  | c :: cs => if c = '\\' ∨ c = '"' then '\\' :: c :: escape cs else c :: escape cs

def source : Chunk → List Char
  | .single text _ => '\'' :: (text ++ ['\''])
  | .double text => '"' :: (escape text ++ ['"'])
  | .escaped c => ['\\', c]

/-- The characters that the chunk stands for. -/
def text : Chunk → List Char
  | .single text _ => text
  | .double text => text
  | .escaped c => [c]

end Chunk

/-- A word written as one chunk after the other, and at least one. -/
def WrittenWord (text : String) (source : List Char) : Prop :=
  ∃ chunks : List Chunk, chunks ≠ [] ∧ source = chunks.flatMap Chunk.source ∧
    text = String.ofList (chunks.flatMap Chunk.text)

/-- Blanks that may stand around words. -/
def IsPad (cs : List Char) : Prop := ∀ c ∈ cs, Text.isSeparator c = true

/-- Blanks that stand between words. -/
def IsGap (cs : List Char) : Prop := cs ≠ [] ∧ IsPad cs

/-- The operators of a stream and a mode, as they are written with a blank behind them. -/
def bareOperators : Stream → WriteMode → List String
  | .stdout, .overwrite => [">", "1>"]
  | .stdout, .append => [">>", "1>>"]
  | .stderr, .overwrite => ["2>"]
  | .stderr, .append => ["2>>"]

/-- What is written behind the name of a command. -/
inductive Operand
  | argument (text : String)
  | redirection (stream : Stream) (r : Redirection)

namespace Operand

/-- The argument that an operand is. -/
def argument? : Operand → Option String
  | .argument text => some text
  | .redirection _ _ => none

/-- The redirection of a stream that an operand is. -/
def redirection? (stream : Stream) : Operand → Option Redirection
  | .argument _ => none
  | .redirection s r => if s = stream then some r else none

end Operand

/-- Operands as they are written, each behind blanks. -/
inductive WrittenOperands : List Operand → List Char → Prop
  | nil {pad} : IsPad pad → WrittenOperands [] pad
  | argument {gap word rest text ops} : IsGap gap → WrittenWord text word →
      WrittenOperands ops rest → WrittenOperands (.argument text :: ops) (gap ++ (word ++ rest))
  | redirection {gap gap' word rest stream r ops op} : IsGap gap →
      op ∈ bareOperators stream r.mode → IsGap gap' → WrittenWord r.target word →
      WrittenOperands ops rest →
      WrittenOperands (.redirection stream r :: ops)
        (gap ++ (op.toList ++ (gap' ++ (word ++ rest))))

/-- The redirection of a stream of a stage. -/
def Stage.redirection? (s : Stage) : Stream → Option Redirection
  | .stdout => s.stdout
  | .stderr => s.stderr

/-- The operands of a stage, in an order in which they may be written: its arguments in their order,
and each of its redirections once. -/
structure Stage.HasOperands (s : Stage) (ops : List Operand) : Prop where
  args : ops.filterMap Operand.argument? = s.args
  redirections : ∀ stream,
    ops.filterMap (Operand.redirection? stream) = (s.redirection? stream).toList

/-- A stage as it is written: its name, then its operands. -/
def WrittenStage (s : Stage) (source : List Char) : Prop :=
  ∃ pad name rest ops, IsPad pad ∧ WrittenWord s.name name ∧ s.HasOperands ops ∧
    WrittenOperands ops rest ∧ source = pad ++ (name ++ rest)

/-- A line as it is written: a stage, or stages with pipes between them. -/
inductive WrittenLine : Line → String → Prop
  | single {s source} : WrittenStage s source → WrittenLine (.single s) (String.ofList source)
  | pipeline {stages sources} : List.Forall₂ WrittenStage stages sources →
      WrittenLine (.pipeline stages) ("|".intercalate (sources.map String.ofList))

/-- Whether a line is one that a text can stand for: a pipeline has two stages or more, and each of
them names a command. -/
def Line.IsProper : Line → Prop
  | .single _ => True
  | .pipeline stages => 2 ≤ stages.length ∧ ∀ s ∈ stages, s.name ≠ ""

/-! ## 2. Words are read back -/

theorem push_append_ofList (s : String) (c : Char) (cs : List Char) :
    s.push c ++ String.ofList cs = s ++ String.ofList (c :: cs) := by
  simp [← String.toList_inj]

/-- In single quotes, everything up to the next single quote. -/
theorem readFrom_single {text : List Char} (free : '\'' ∉ text) (w : Word) (rest : List Char) :
    readFrom .single w (text ++ '\'' :: rest) =
      readFrom .bare ⟨w.text ++ String.ofList text, w.quoted⟩ rest := by
  induction text generalizing w with
  | nil => simp [readFrom]
  | cons c cs ih =>
    obtain ⟨hc, hcs⟩ := List.ne_and_not_mem_of_not_mem_cons free
    rw [List.cons_append, readFrom, if_neg hc.symm, ih hcs]
    simp [push, push_append_ofList]

/-- In double quotes, escaped characters up to the closing quote. -/
theorem readFrom_double (text : List Char) (w : Word) (rest : List Char) :
    readFrom .double w (Chunk.escape text ++ '"' :: rest) =
      readFrom .bare ⟨w.text ++ String.ofList text, w.quoted⟩ rest := by
  induction text generalizing w with
  | nil => simp [readFrom, Chunk.escape]
  | cons c cs ih =>
    by_cases hc : c = '\\' ∨ c = '"'
    · rw [Chunk.escape, if_pos hc]
      rcases hc with rfl | rfl
      · simp [readFrom, ih, push, push_append_ofList]
      · simp [readFrom, ih, push, push_append_ofList]
    · obtain ⟨hb, hd⟩ := not_or.mp hc
      rw [Chunk.escape, if_neg hc, List.cons_append, readFrom, if_neg hd, ih]
      · simp [push, push_append_ofList]
      · exact fun _ h => absurd h hb
      · exact fun _ h => absurd h hb

/-- A chunk is read into the word that is begun, and marks it as quoted. -/
theorem readFrom_chunk {place : Place} (hp : place.isUnquoted = true) (w : Word) (k : Chunk)
    (rest : List Char) :
    readFrom place w (k.source ++ rest) =
      readFrom .bare ⟨w.text ++ String.ofList k.text, true⟩ rest := by
  cases k with
  | single text free =>
    rw [Chunk.source, List.cons_append, List.append_assoc, readFrom_openSingle hp]
    exact readFrom_single free w.quote rest
  | double text =>
    rw [Chunk.source, List.cons_append, List.append_assoc, readFrom_openDouble hp]
    exact readFrom_double text w.quote rest
  | escaped c =>
    rw [Chunk.source, List.cons_append, List.cons_append, List.nil_append, readFrom_escape hp]
    simp [push, quote, Chunk.text]

theorem readFrom_chunks (chunks : List Chunk) (w : Word) (hw : w.quoted = true)
    (rest : List Char) :
    readFrom .bare w (chunks.flatMap Chunk.source ++ rest) =
      readFrom .bare ⟨w.text ++ String.ofList (chunks.flatMap Chunk.text), true⟩ rest := by
  induction chunks generalizing w with
  | nil => cases w; simp_all
  | cons k ks ih =>
    rw [List.flatMap_cons, List.append_assoc, readFrom_chunk rfl, ih _ rfl]
    simp [String.append_assoc]

/-- **A written word is read back**, as a quoted word. -/
theorem readFrom_writtenWord {text : String} {source : List Char} (h : WrittenWord text source)
    {place : Place} (hp : place.isUnquoted = true) (rest : List Char) :
    readFrom place {} (source ++ rest) = readFrom .bare ⟨text, true⟩ rest := by
  obtain ⟨chunks, hne, rfl, rfl⟩ := h
  obtain ⟨k, ks, rfl⟩ := List.exists_cons_of_ne_nil hne
  rw [List.flatMap_cons, List.append_assoc, readFrom_chunk hp, readFrom_chunks ks _ rfl]
  simp

/-! ## 3. Blanks and operators are read back -/

/-- Between words, blanks are skipped. -/
theorem readFrom_gap_pad {pad : List Char} (h : IsPad pad) (w : Word) (rest : List Char) :
    readFrom .gap w (pad ++ rest) = readFrom .gap w rest := by
  induction pad with
  | nil => rfl
  | cons c cs ih =>
    have hc : Text.isSeparator c = true := h c List.mem_cons_self
    have hne : c ≠ '\\' := by rintro rfl; exact absurd hc (by decide)
    rw [List.cons_append, readFrom_gap_cons fun _ _ e => absurd e hne, if_pos hc]
    exact ih fun d hd => h d (List.mem_cons_of_mem _ hd)

/-- Behind a word, blanks end it. -/
theorem readFrom_bare_gap {gap : List Char} (h : IsGap gap) (w : Word) (rest : List Char) :
    readFrom .bare w (gap ++ rest) = w :: readFrom .gap {} rest := by
  obtain ⟨c, cs, rfl⟩ := List.exists_cons_of_ne_nil h.1
  have hc : Text.isSeparator c = true := h.2 c List.mem_cons_self
  have hne : c ≠ '\\' := by rintro rfl; exact absurd hc (by decide)
  rw [List.cons_append, readFrom_bare_cons fun _ _ e => absurd e hne, if_pos hc,
    readFrom_gap_pad fun d hd => h.2 d (List.mem_cons_of_mem _ hd)]

theorem readFrom_ordinaries {cs : List Char} (h : ∀ c ∈ cs, IsOrdinary c) (w : Word)
    (rest : List Char) :
    readFrom .bare w (cs ++ rest) = readFrom .bare ⟨w.text ++ String.ofList cs, w.quoted⟩ rest := by
  induction cs generalizing w with
  | nil => simp
  | cons c cs ih =>
    rw [List.cons_append, readFrom_ordinary rfl w (h c List.mem_cons_self),
      ih fun d hd => h d (List.mem_cons_of_mem _ hd)]
    simp [push, push_append_ofList]

/-- No operator holds a character that means something else. -/
theorem ordinary_of_mem_bareOperators {stream : Stream} {mode : WriteMode} {op : String}
    (h : op ∈ bareOperators stream mode) :
    op ≠ "" ∧ ∀ c ∈ op.toList, IsOrdinary c ∧ c ≠ '|' := by
  have hall : ∀ op ∈ bareOperators stream mode,
      op ≠ "" ∧ op.toList.all (fun c => decide (IsOrdinary c ∧ c ≠ '|')) = true := by
    cases stream <;> cases mode <;> decide
  obtain ⟨hne, hchars⟩ := hall op h
  exact ⟨hne, fun c hc => of_decide_eq_true (List.all_eq_true.mp hchars c hc)⟩

/-- A bare operator is read as one word, which is not quoted. -/
theorem readFrom_operator {stream : Stream} {mode : WriteMode} {op : String}
    (h : op ∈ bareOperators stream mode) {gap : List Char} (hg : IsGap gap) (rest : List Char) :
    readFrom .gap {} (op.toList ++ (gap ++ rest)) = ⟨op, false⟩ :: readFrom .gap {} rest := by
  obtain ⟨hne, hall⟩ := ordinary_of_mem_bareOperators h
  obtain ⟨c, cs, hop⟩ := List.exists_cons_of_ne_nil (mt String.toList_eq_nil_iff.mp hne)
  rw [hop] at hall
  rw [hop, List.cons_append, readFrom_ordinary rfl _ (hall c List.mem_cons_self).1,
    readFrom_ordinaries fun d hd => (hall d (List.mem_cons_of_mem _ hd)).1, readFrom_bare_gap hg]
  have hword : String.push "" c ++ String.ofList cs = op := by
    rw [push_append_ofList, ← hop, String.ofList_toList, String.empty_append]
  simp only [push, hword]

/-- A bare operator stands for its stream and its mode. -/
theorem ofWord?_operator {stream : Stream} {mode : WriteMode} {op : String}
    (h : op ∈ bareOperators stream mode) :
    Operator.ofWord? ⟨op, false⟩ = some ⟨stream, mode, ""⟩ := by
  revert op
  cases stream <;> cases mode <;> decide

/-! ## 4. Operands are read back -/

/-- The stage with one more operand in front of those it has. -/
def Operand.addTo (s : Stage) : Operand → Stage
  | .argument text => s.consArg text
  | .redirection stream r => s.consRedirection stream r

/-- **Written operands are read back**: behind a word they end it, and the words that they are read
as give the operands. -/
theorem readFrom_writtenOperands {ops : List Operand} {source : List Char}
    (h : WrittenOperands ops source) :
    ∃ ws, (∀ w, readFrom .bare w source = w :: ws) ∧
      Stage.ofOperands ws = ops.foldr (fun op s => op.addTo s) {} := by
  induction h with
  | @nil pad hpad =>
    refine ⟨[], fun w => ?_, rfl⟩
    by_cases hne : pad = []
    · rw [hne, readFrom]
    · simpa [readFrom] using readFrom_bare_gap ⟨hne, hpad⟩ w []
  | @argument gap word rest text ops hgap hword _ ih =>
    obtain ⟨ws, hread, hstage⟩ := ih
    refine ⟨⟨text, true⟩ :: ws, fun w => ?_, ?_⟩
    · rw [readFrom_bare_gap hgap, readFrom_writtenWord hword rfl, hread]
    · simp [Stage.ofOperands, Operator.ofWord?, Operand.addTo, hstage]
  | @redirection gap gap' word rest stream r ops op hgap hop hgap' hword _ ih =>
    obtain ⟨ws, hread, hstage⟩ := ih
    refine ⟨⟨op, false⟩ :: ⟨r.target, true⟩ :: ws, fun w => ?_, ?_⟩
    · rw [readFrom_bare_gap hgap, readFrom_operator hop hgap', readFrom_writtenWord hword rfl,
        hread]
    · simp [Stage.ofOperands, ofWord?_operator hop, Operand.addTo, hstage]

theorem args_foldr_addTo (ops : List Operand) :
    (ops.foldr (fun op s => op.addTo s) ({} : Stage)).args = ops.filterMap Operand.argument? := by
  induction ops with
  | nil => rfl
  | cons op ops ih =>
    cases op with
    | argument text => exact congrArg (text :: ·) ih
    | redirection stream r => cases stream <;> exact ih

/-- A redirection in front counts only where there is none behind it. -/
theorem Stage.redirection?_consRedirection (s : Stage) (stream : Stream) (r : Redirection) :
    (s.consRedirection stream r).redirection? stream = some ((s.redirection? stream).getD r) := by
  cases stream with
  | stdout => cases h : s.stdout <;> simp [Stage.consRedirection, Stage.redirection?, h]
  | stderr => cases h : s.stderr <;> simp [Stage.consRedirection, Stage.redirection?, h]

/-- Of several redirections of a stream the last counts. -/
theorem redirection?_foldr_addTo (ops : List Operand) (stream : Stream) :
    (ops.foldr (fun op s => op.addTo s) ({} : Stage)).redirection? stream =
      (ops.filterMap (Operand.redirection? stream)).getLast? := by
  induction ops with
  | nil => cases stream <;> rfl
  | cons op ops ih =>
    cases op with
    | argument text => cases stream <;> exact ih
    | redirection s r =>
      by_cases hs : s = stream
      · have hhead : Operand.redirection? stream (.redirection s r) = some r := if_pos hs
        rw [List.filterMap_cons_some hhead, List.getLast?_cons, ← ih]
        subst hs
        exact Stage.redirection?_consRedirection _ s r
      · have hhead : Operand.redirection? stream (.redirection s r) = none := if_neg hs
        rw [List.filterMap_cons_none hhead, ← ih]
        cases s <;> cases stream <;> first | rfl | exact absurd rfl hs

/-- The operands of a stage, and its name, make the stage. -/
theorem Stage.HasOperands.eq {s : Stage} {ops : List Operand} (h : s.HasOperands ops) :
    { ops.foldr (fun op s => op.addTo s) ({} : Stage) with name := s.name } = s := by
  have hargs := (args_foldr_addTo ops).trans h.args
  have hred : ∀ stream, (ops.foldr (fun op s => op.addTo s) ({} : Stage)).redirection? stream =
      s.redirection? stream := fun stream => by
    rw [redirection?_foldr_addTo, h.redirections]
    cases s.redirection? stream <;> rfl
  have hout := hred .stdout
  have herr := hred .stderr
  cases s
  simp only [Stage.redirection?] at hout herr
  simp [hargs, hout, herr]

/-! ## 5. No pipe in a written stage is a cut -/

/-- A text that the splitter passes without a cut, and leaves with no quote open. -/
def Unbroken (cs : List Char) : Prop :=
  ∀ seg rest, splitFrom .none seg (cs ++ rest) = splitFrom .none (seg ++ String.ofList cs) rest

theorem unbroken_nil : Unbroken [] := fun seg rest => by simp

theorem Unbroken.append {cs ds : List Char} (hc : Unbroken cs) (hd : Unbroken ds) :
    Unbroken (cs ++ ds) := fun seg rest => by
  rw [List.append_assoc, hc, hd, String.append_assoc, ← String.ofList_append]

theorem unbroken_flatMap {α : Type} {f : α → List Char} (l : List α)
    (h : ∀ a ∈ l, Unbroken (f a)) : Unbroken (l.flatMap f) := by
  induction l with
  | nil => exact unbroken_nil
  | cons a l ih =>
    exact (h a List.mem_cons_self).append (ih fun b hb => h b (List.mem_cons_of_mem _ hb))

/-- A character that is no quote, no backslash and no pipe. -/
theorem unbroken_char {c : Char} (hb : c ≠ '\\') (hs : c ≠ '\'') (hd : c ≠ '"') (hp : c ≠ '|') :
    Unbroken [c] := fun seg rest => by
  rw [List.singleton_append, splitFrom_none_cons fun _ _ e => absurd e hb, if_neg hp, if_neg hs,
    if_neg hd, ← push_append_ofList, String.ofList_nil, String.append_empty]

theorem unbroken_of_forall {cs : List Char} (h : ∀ c ∈ cs, Unbroken [c]) : Unbroken cs := by
  simpa using unbroken_flatMap cs h

theorem splitFrom_single {text : List Char} (free : '\'' ∉ text) (seg : String)
    (rest : List Char) :
    splitFrom .single seg (text ++ '\'' :: rest) =
      splitFrom .none (seg ++ String.ofList (text ++ ['\''])) rest := by
  induction text generalizing seg with
  | nil => simp [splitFrom, String.push_eq_append]
  | cons c cs ih =>
    obtain ⟨hc, hcs⟩ := List.ne_and_not_mem_of_not_mem_cons free
    rw [List.cons_append, splitFrom, if_neg hc.symm, ih hcs, push_append_ofList, List.cons_append]

theorem splitFrom_double (text : List Char) (seg : String) (rest : List Char) :
    splitFrom .double seg (Chunk.escape text ++ '"' :: rest) =
      splitFrom .none (seg ++ String.ofList (Chunk.escape text ++ ['"'])) rest := by
  induction text generalizing seg with
  | nil => simp [splitFrom, Chunk.escape, String.push_eq_append]
  | cons c cs ih =>
    by_cases hc : c = '\\' ∨ c = '"'
    · rw [Chunk.escape, if_pos hc]
      rcases hc with rfl | rfl
      · rw [List.cons_append, List.cons_append, splitFrom, ih, push_append_ofList,
          push_append_ofList]
        rfl
      · rw [List.cons_append, List.cons_append, splitFrom, ih, push_append_ofList,
          push_append_ofList]
        rfl
    · obtain ⟨hb, hd⟩ := not_or.mp hc
      rw [Chunk.escape, if_neg hc, List.cons_append, splitFrom, if_neg hd, ih,
        push_append_ofList, List.cons_append]
      · exact fun _ h => absurd h hb
      · exact fun _ h => absurd h hb

theorem unbroken_chunk (k : Chunk) : Unbroken k.source := fun seg rest => by
  cases k with
  | single text free =>
    rw [Chunk.source, List.cons_append, List.append_assoc,
      splitFrom_none_cons fun _ _ e => absurd e (by decide), if_neg (by decide), if_pos rfl]
    exact (splitFrom_single free _ rest).trans (by rw [push_append_ofList])
  | double text =>
    rw [Chunk.source, List.cons_append, List.append_assoc,
      splitFrom_none_cons fun _ _ e => absurd e (by decide), if_neg (by decide),
      if_neg (by decide), if_pos rfl]
    exact (splitFrom_double text _ rest).trans (by rw [push_append_ofList])
  | escaped c =>
    rw [Chunk.source, List.cons_append, List.singleton_append, splitFrom, ← push_append_ofList,
      ← push_append_ofList, String.ofList_nil, String.append_empty]

theorem unbroken_pad {pad : List Char} (h : IsPad pad) : Unbroken pad := by
  refine unbroken_of_forall fun c hc => ?_
  have hsep := h c hc
  refine unbroken_char ?_ ?_ ?_ ?_ <;> rintro rfl <;> exact absurd hsep (by decide)

theorem unbroken_operator {stream : Stream} {mode : WriteMode} {op : String}
    (h : op ∈ bareOperators stream mode) : Unbroken op.toList := by
  refine unbroken_of_forall fun c hc => ?_
  obtain ⟨⟨-, hb, hs, hd⟩, hp⟩ := (ordinary_of_mem_bareOperators h).2 c hc
  exact unbroken_char hb hs hd hp

theorem unbroken_writtenWord {text : String} {source : List Char} (h : WrittenWord text source) :
    Unbroken source := by
  obtain ⟨chunks, -, rfl, -⟩ := h
  exact unbroken_flatMap chunks fun k _ => unbroken_chunk k

theorem unbroken_writtenOperands {ops : List Operand} {source : List Char}
    (h : WrittenOperands ops source) : Unbroken source := by
  induction h with
  | nil hpad => exact unbroken_pad hpad
  | argument hgap hword _ ih =>
    exact (unbroken_pad hgap.2).append ((unbroken_writtenWord hword).append ih)
  | redirection hgap hop hgap' hword _ ih =>
    exact (unbroken_pad hgap.2).append ((unbroken_operator hop).append
      ((unbroken_pad hgap'.2).append ((unbroken_writtenWord hword).append ih)))

/-! ## 6. Stages and lines are read back -/

theorem unbroken_writtenStage {s : Stage} {source : List Char} (h : WrittenStage s source) :
    Unbroken source := by
  obtain ⟨pad, name, rest, ops, hpad, hname, -, hops, rfl⟩ := h
  exact (unbroken_pad hpad).append
    ((unbroken_writtenWord hname).append (unbroken_writtenOperands hops))

/-- **A written stage is read back.** -/
theorem parse_writtenStage {s : Stage} {source : List Char} (h : WrittenStage s source) :
    Stage.parse (String.ofList source) = s := by
  obtain ⟨pad, name, rest, ops, hpad, hname, hhas, hops, rfl⟩ := h
  obtain ⟨ws, hread, hstage⟩ := readFrom_writtenOperands hops
  rw [Stage.parse, readAll, String.toList_ofList, readFrom_gap_pad hpad,
    readFrom_writtenWord hname rfl, hread, Stage.ofWords, hstage]
  exact hhas.eq

/-- Unbroken texts with pipes between them are cut at these pipes. -/
theorem split_intercalate {sources : List (List Char)} (hne : sources ≠ [])
    (h : ∀ cs ∈ sources, Unbroken cs) :
    split ("|".intercalate (sources.map String.ofList)) = sources.map String.ofList := by
  induction sources with
  | nil => exact absurd rfl hne
  | cons cs rest ih =>
    have hcs := h cs List.mem_cons_self
    cases rest with
    | nil =>
      have hend := hcs "" []
      rw [List.append_nil] at hend
      rw [List.map_singleton, String.intercalate_singleton, split, String.toList_ofList, hend,
        splitFrom, String.empty_append]
    | cons ds rest =>
      have hrest := ih (List.cons_ne_nil _ _) fun es hes => h es (List.mem_cons_of_mem _ hes)
      rw [List.map_cons, List.map_cons, String.intercalate_cons_cons, split, String.append_assoc,
        String.toList_append, String.toList_ofList, hcs, String.empty_append,
        String.toList_append, show "|".toList = ['|'] from rfl, List.singleton_append,
        splitFrom_none_cons fun _ _ e => absurd e (by decide), if_pos rfl]
      exact congrArg (String.ofList cs :: ·) hrest

theorem map_parse_writtenStages {stages : List Stage} {sources : List (List Char)}
    (h : List.Forall₂ WrittenStage stages sources) :
    (sources.map String.ofList).map Stage.parse = stages := by
  induction h with
  | nil => rfl
  | cons hs _ ih => rw [List.map_cons, List.map_cons, parse_writtenStage hs, ih]

theorem unbroken_writtenStages {stages : List Stage} {sources : List (List Char)}
    (h : List.Forall₂ WrittenStage stages sources) : ∀ cs ∈ sources, Unbroken cs := by
  induction h with
  | nil => simp
  | cons hs _ ih => exact List.forall_mem_cons.mpr ⟨unbroken_writtenStage hs, ih⟩

/-- A text that writes a line down is read as this line. -/
theorem parse_writtenLine {line : Line} (hline : line.IsProper) {text : String}
    (h : WrittenLine line text) : Line.parse text = line := by
  cases h with
  | @single s source hs =>
    have hsplit := split_intercalate (List.cons_ne_nil source []) fun cs hcs => by
      rw [List.mem_singleton.mp hcs]
      exact unbroken_writtenStage hs
    rw [List.map_singleton, String.intercalate_singleton] at hsplit
    simp [Line.parse, hsplit, parse_writtenStage hs]
  | @pipeline stages sources hall =>
    obtain ⟨hlen, hnames⟩ := hline
    have hne : sources ≠ [] := by
      rintro rfl
      cases hall
      exact absurd hlen (by decide)
    have hsplit := split_intercalate hne (unbroken_writtenStages hall)
    have hfew : ¬ stages.length < 2 := by omega
    have hempty : stages.any Stage.isEmpty = false := by
      simpa [Stage.isEmpty] using hnames
    simp [Line.parse, hsplit, map_parse_writtenStages hall, hfew, hempty]

/-! ## 7. Every line can be written -/

theorem exists_writtenWord (text : String) : ∃ source, WrittenWord text source :=
  ⟨_, [.double text.toList], List.cons_ne_nil _ _, rfl, by simp [Chunk.text]⟩

theorem exists_writtenOperands (ops : List Operand) : ∃ source, WrittenOperands ops source := by
  have hgap : IsGap [' '] := ⟨List.cons_ne_nil _ _, by simp [IsPad, Text.isSeparator]⟩
  induction ops with
  | nil => exact ⟨[], .nil (by simp [IsPad])⟩
  | cons op ops ih =>
    obtain ⟨rest, hrest⟩ := ih
    cases op with
    | argument text =>
      obtain ⟨word, hword⟩ := exists_writtenWord text
      exact ⟨_, .argument hgap hword hrest⟩
    | redirection stream r =>
      obtain ⟨word, hword⟩ := exists_writtenWord r.target
      obtain ⟨op, hop⟩ : ∃ op, op ∈ bareOperators stream r.mode := by
        cases stream <;> cases r.mode <;> exact ⟨_, List.mem_cons_self⟩
      exact ⟨_, .redirection hgap hop hgap hword hrest⟩

/-- The arguments of a stage, then its redirections. -/
def Stage.operands (s : Stage) : List Operand :=
  s.args.map .argument ++ s.stdout.toList.map (.redirection .stdout) ++
    s.stderr.toList.map (.redirection .stderr)

theorem Stage.hasOperands_operands (s : Stage) : s.HasOperands s.operands where
  args := by
    simp [Stage.operands, Operand.argument?, List.filterMap_map, Function.comp_def]
  redirections stream := by
    cases stream with
    | stdout =>
      simp [Stage.operands, Operand.redirection?, Stage.redirection?, List.filterMap_map,
        Function.comp_def]
    | stderr =>
      simp [Stage.operands, Operand.redirection?, Stage.redirection?, List.filterMap_map,
        Function.comp_def]

theorem exists_writtenStage (s : Stage) : ∃ source, WrittenStage s source := by
  obtain ⟨name, hname⟩ := exists_writtenWord s.name
  obtain ⟨rest, hrest⟩ := exists_writtenOperands s.operands
  exact ⟨_, [], name, rest, _, by simp [IsPad], hname, s.hasOperands_operands, hrest, rfl⟩

theorem exists_writtenLine (line : Line) : ∃ text, WrittenLine line text := by
  choose source hsource using exists_writtenStage
  cases line with
  | single s => exact ⟨_, .single (hsource s)⟩
  | pipeline stages =>
    refine ⟨_, @WrittenLine.pipeline stages (stages.map source) ?_⟩
    rw [List.forall₂_map_right_iff, List.forall₂_same]
    exact fun s _ => hsource s

/-! ## 8. Both together -/

/-- **Every line can be written, and is read back from each of its written forms.**  Whatever
characters the names, arguments and targets of a line hold, there is a text that writes the line
down, and each text that does is read as this line. -/
theorem parse_written (line : Line) (hline : line.IsProper) :
    (∃ text, WrittenLine line text) ∧ ∀ text, WrittenLine line text → Line.parse text = line :=
  ⟨exists_writtenLine line, fun _ h => parse_writtenLine hline h⟩

/-- A pipeline whose words hold pipes, quotes and blanks, or nothing, is read back. -/
theorem parse_written_pipeline :
    let line := Line.pipeline
      [⟨"a|b", ["| "], some ⟨"\">", .append⟩, none⟩, ⟨"c", [], none, some ⟨"", .overwrite⟩⟩]
    let text := "'a|b' >> \"\\\">\" \\|\\ |\"\"\\c 2> ''"
    line.IsProper ∧ WrittenLine line text ∧ Line.parse text = line := by
  intro line text
  have hproper : line.IsProper := ⟨by decide, by decide⟩
  have hgap : IsGap [' '] := ⟨List.cons_ne_nil _ _, by simp [IsPad, Text.isSeparator]⟩
  have hpad : IsPad [] := by simp [IsPad]
  let first := "'a|b' >> \"\\\">\" \\|\\ ".toList
  have hfirst : WrittenStage ⟨"a|b", ["| "], some ⟨"\">", .append⟩, none⟩ first := by
    refine ⟨[], _, _, [.redirection .stdout ⟨"\">", .append⟩, .argument "| "], hpad,
      ⟨[.single ['a', '|', 'b'] (by decide)], by simp, rfl, rfl⟩,
      ⟨rfl, fun stream => by cases stream <;> rfl⟩,
      .redirection hgap (show ">>" ∈ _ by decide) hgap
        ⟨[.double ['"', '>']], by simp, rfl, rfl⟩
        (.argument hgap ⟨[.escaped '|', .escaped ' '], by simp, rfl, rfl⟩ (.nil hpad)), ?_⟩
    decide
  let second := "\"\"\\c 2> ''".toList
  have hsecond : WrittenStage ⟨"c", [], none, some ⟨"", .overwrite⟩⟩ second := by
    refine ⟨[], _, _, [.redirection .stderr ⟨"", .overwrite⟩], hpad,
      ⟨[.double [], .escaped 'c'], by simp, rfl, rfl⟩,
      ⟨rfl, fun stream => by cases stream <;> rfl⟩,
      .redirection hgap (show "2>" ∈ _ by decide) hgap ⟨[.single [] (by decide)], by simp, rfl, rfl⟩
        (.nil hpad), ?_⟩
    decide
  have hwritten : WrittenLine line text := by
    have h := WrittenLine.pipeline (.cons hfirst (.cons hsecond .nil))
    have htext : "|".intercalate ([first, second].map String.ofList) = text := by decide
    rwa [htext] at h
  exact ⟨hproper, hwritten, (parse_written line hproper).2 text hwritten⟩

end CommandShell
