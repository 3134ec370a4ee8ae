/-
# Reading a completed line

When a candidate is accepted, its replacement takes the place of the word in front of the cursor,
and the line up to there is read as any other.  The name that is read then should be the one that
was displayed, and it is, as long as the reader and the completer mean the same by a blank and the
name has no character with a meaning of its own (`parse_completed_iff`).

A name with a blank, a quote or a backslash is put into the line as it is, and read as something
else, since it loses characters to the reader and gains none (`exists_readFrom_eq_cons`); only a
backslash that comes last, with no space behind it, stands for itself.  And what the completer takes
for a blank in front of the word belongs to the name, unless it is a space or a tab.
-/
import CommandShell.Proofs.Completing
import CommandShell.Proofs.Reader
import CommandShell.Syntax.Stage

namespace CommandShell

namespace Word

/-! ## 1. The first word -/

/-- The first of some words is one that was begun, with some of the characters behind it, in their
order. -/
def Gets (w : Word) (cs : List Char) (ws : List Word) : Prop :=
  ∃ first rest kept, ws = first :: rest ∧ kept.Sublist cs ∧
    first.text.toList = w.text.toList ++ kept

namespace Gets

variable {w : Word} {c : Char} {cs : List Char} {ws : List Word}

theorem done (w : Word) (cs : List Char) (rest : List Word) : Gets w cs (w :: rest) :=
  ⟨w, rest, [], rfl, List.nil_sublist cs, by simp⟩

theorem take (h : Gets (w.push c) cs ws) : Gets w (c :: cs) ws := by
  obtain ⟨first, rest, kept, hws, hkept, hfirst⟩ := h
  exact ⟨first, rest, c :: kept, hws, hkept.cons_cons c, by simpa [push] using hfirst⟩

theorem drop (h : Gets w cs ws) (c : Char) : Gets w (c :: cs) ws := by
  obtain ⟨first, rest, kept, hws, hkept, hfirst⟩ := h
  exact ⟨first, rest, kept, hws, hkept.cons c, hfirst⟩

end Gets

/-- **A word that was begun gets some of the characters behind it.** -/
theorem gets_readFrom {place : Place} (hp : place ≠ .gap) (w : Word) (cs : List Char) :
    Gets w cs (readFrom place w cs) := by
  fun_induction readFrom place w cs
  -- Between two words none is begun.
  case case1 | case11 | case12 | case13 | case14 | case15 => exact absurd rfl hp
  -- The line ends, or a separator ends the word.
  case case2 w | case3 w | case4 w | case17 w _ _ _ _ _ => exact .done w _ _
  -- A quote is lost, outside quotes or at the end of them.
  case case5 ih | case9 ih => exact (ih nofun).drop _
  case case18 ih | case19 ih => exact (ih nofun).drop _
  -- A backslash is lost, and what it escapes is not.
  case case7 ih | case8 ih => exact (ih nofun).take.drop _
  case case16 ih => exact .drop (.take (ih nofun)) _
  case case6 ih | case10 ih | case20 ih => exact (ih nofun).take

/-! ## 2. Characters that stand for themselves -/

/-- A text without characters that separate, quote or escape. -/
def IsVerbatim (cs : List Char) : Prop := ∀ c ∈ cs, IsOrdinary c

instance (cs : List Char) : Decidable (IsVerbatim cs) :=
  inferInstanceAs (Decidable (∀ c ∈ cs, IsOrdinary c))

/-- A blank that separates nothing is an ordinary character. -/
theorem isOrdinary_of_isBlank {c : Char} (hblank : Text.isBlank c = true)
    (hsep : Text.isSeparator c = false) : IsOrdinary c := by
  refine ⟨hsep, ?_, ?_, ?_⟩ <;>
  · rintro rfl
    exact absurd hblank (by decide)

/-- Separators between two words make no difference. -/
theorem readFrom_separators {front : List Char} (h : ∀ c ∈ front, Text.isSeparator c = true)
    (w : Word) (cs : List Char) : readFrom .gap w (front ++ cs) = readFrom .gap w cs := by
  induction front with
  | nil => rfl
  | cons c front ih =>
    obtain ⟨hc, hfront⟩ := List.forall_mem_cons.mp h
    have hslash : ∀ e es, c = '\\' → front ++ cs = e :: es → False := by
      rintro e es rfl
      exact absurd hc (by decide)
    rw [List.cons_append, readFrom_gap_cons hslash, if_pos hc, ih hfront]

theorem readFrom_verbatim {front : List Char} (h : IsVerbatim front) (w : Word) (cs : List Char) :
    readFrom .bare w (front ++ cs) =
      readFrom .bare { w with text := w.text ++ String.ofList front } cs := by
  induction front generalizing w with
  | nil => simp
  | cons c front ih =>
    obtain ⟨hc, hfront⟩ := List.forall_mem_cons.mp h
    rw [List.cons_append, readFrom_ordinary rfl w hc, ih hfront]
    congr 2
    simp [push, ← String.toList_inj]

/-- What does not hold of all characters holds up to a first one. -/
theorem exists_first {p : Char → Prop} [DecidablePred p] {cs : List Char}
    (h : ¬ ∀ c ∈ cs, p c) :
    ∃ front c rest, cs = front ++ c :: rest ∧ (∀ d ∈ front, p d) ∧ ¬ p c := by
  induction cs with
  | nil => exact absurd nofun h
  | cons d cs ih =>
    by_cases hd : p d
    · obtain ⟨front, c, rest, rfl, hfront, hc⟩ :=
        ih fun hcs => h (List.forall_mem_cons.mpr ⟨hd, hcs⟩)
      exact ⟨d :: front, c, rest, rfl, List.forall_mem_cons.mpr ⟨hd, hfront⟩, hc⟩
    · exact ⟨[], d, cs, rfl, nofun, hd⟩

/-- The characters with a meaning of their own. -/
theorem not_isOrdinary_iff {c : Char} :
    ¬ IsOrdinary c ↔ Text.isSeparator c = true ∨ c = '\\' ∨ c = '\'' ∨ c = '"' := by
  simp only [IsOrdinary, not_and_or, Bool.not_eq_false, ne_eq, not_not]

end Word

/-! ## 3. Names put into a line -/

namespace Stage

open Word

variable {blanks name tail front rest : List Char} {c : Char}

/-- A name is read back if it stands for itself, or ends with a backslash and nothing comes behind
it. -/
def ReadsBack (name tail : List Char) : Prop :=
  IsVerbatim name ∨ tail = [] ∧ ∃ front, name = front ++ ['\\'] ∧ IsVerbatim front

/-- The name of a stage is its first word. -/
def Names (name : List Char) (ws : List Word) : Prop :=
  ∃ first rest, ws = first :: rest ∧ first.text.toList = name

/-- A name loses a character that is not kept in its place. -/
theorem not_names_of_gets {w : Word} {ws : List Word} (hc : c ∉ tail) (hw : w.text.toList = front)
    (h : Gets w (rest ++ tail) ws) : ¬ Names (front ++ c :: rest) ws := by
  rintro ⟨first, others, rfl, hname⟩
  obtain ⟨_, _, kept, heq, hkept, hfirst⟩ := h
  obtain ⟨rfl, -⟩ := List.cons.inj heq
  rw [hfirst, hw] at hname
  obtain rfl := List.append_cancel_left hname
  -- The name has one more of this character than what is behind it.
  have hcount := hkept.count_le c
  rw [List.count_cons_self, List.count_append, List.count_eq_zero.mpr hc] at hcount
  omega

/-- Behind the part of a name that stands for itself, the reader is in a word, unless it is at its
start. -/
theorem readFrom_name (hfront : IsVerbatim front) (cs : List Char) :
    readFrom .gap {} (front ++ cs) =
      readFrom (if front = [] then .gap else .bare) { text := String.ofList front } cs := by
  cases front with
  | nil => rfl
  | cons d front =>
    obtain ⟨hd, hfront⟩ := List.forall_mem_cons.mp hfront
    rw [List.cons_append, readFrom_ordinary rfl _ hd, readFrom_verbatim hfront]
    simp [push, String.ofList_cons]

/-- **A name that is read back is verbatim,** or ends with a backslash that ends the line. -/
theorem readsBack_of_names (hc : ∀ c cs, name = c :: cs → Text.isSeparator c = false)
    (htail : ∀ c ∈ tail, Text.isSeparator c = true)
    (h : Names name (readFrom .gap {} (name ++ tail))) : ReadsBack name tail := by
  by_contra hback
  obtain ⟨front, c, rest, rfl, hfront, hordinary⟩ := exists_first fun hall => hback (.inl hall)
  rw [List.append_assoc, List.cons_append, readFrom_name hfront] at h
  generalize hplace : (if front = [] then Place.gap else Place.bare) = place at h
  have hunquoted : place.isUnquoted = true := by
    subst hplace
    split <;> rfl
  obtain ⟨w, hw, hword⟩ : ∃ w : Word, w = { text := String.ofList front } ∧
      w.text.toList = front := ⟨_, rfl, by simp⟩
  rw [← hw] at h
  rcases not_isOrdinary_iff.mp hordinary with hsep | rfl | rfl | rfl
  · -- A separator ends the word in front of it.
    have hne : front ≠ [] := by
      rintro rfl
      rw [hc c rest rfl] at hsep
      cases hsep
    rw [if_neg hne] at hplace
    subst hplace
    rw [readFrom_bare_cons (fun e es hslash => by subst hslash; cases hsep), if_pos hsep] at h
    obtain ⟨first, others, heq, hname⟩ := h
    obtain ⟨rfl, -⟩ := List.cons.inj heq
    simp [hword] at hname
  · -- A backslash takes the character behind it, and is lost.
    have htail' : '\\' ∉ tail := fun hmem => absurd (htail _ hmem) (by decide)
    rcases hrest : rest ++ tail with _ | ⟨e, es⟩
    · obtain ⟨rfl, rfl⟩ := List.append_eq_nil_iff.mp hrest
      exact hback (.inr ⟨rfl, front, rfl, hfront⟩)
    · rw [hrest, readFrom_escape hunquoted] at h
      have hgets : Gets w (rest ++ tail) (readFrom .bare (w.push e).quote es) :=
        hrest ▸ Gets.take (gets_readFrom (by decide) (w.push e).quote es)
      exact not_names_of_gets htail' hword hgets h
  · -- A quote is lost.
    have htail' : '\'' ∉ tail := fun hmem => absurd (htail _ hmem) (by decide)
    rw [readFrom_openSingle hunquoted] at h
    exact not_names_of_gets htail' hword (gets_readFrom (by decide) w.quote _) h
  · have htail' : '"' ∉ tail := fun hmem => absurd (htail _ hmem) (by decide)
    rw [readFrom_openDouble hunquoted] at h
    exact not_names_of_gets htail' hword (gets_readFrom (by decide) w.quote _) h

/-- **Such a name is read as one word.** -/
theorem readFrom_of_readsBack (hne : name ≠ []) (htail : ∀ c ∈ tail, Text.isSeparator c = true)
    (h : ReadsBack name tail) :
    readFrom .gap {} (name ++ tail) = [{ text := String.ofList name }] := by
  rcases h with hname | ⟨rfl, front, rfl, hfront⟩
  · rw [readFrom_name hname, if_neg hne]
    cases tail with
    | nil => rfl
    | cons c cs =>
      obtain ⟨hc, hcs⟩ := List.forall_mem_cons.mp htail
      have hend := readFrom_separators hcs {} []
      rw [List.append_nil] at hend
      rw [readFrom_bare_cons (fun e es hslash => by subst hslash; cases hc), if_pos hc, hend,
        readFrom]
  · rw [List.append_nil, readFrom_name hfront]
    split <;> simp [readFrom, push, Text.isSeparator, ← String.toList_inj]

/-- A blank that separates nothing is read as the start of the name. -/
theorem isSeparator_of_names {cs : List Char} (hblanks : ∀ c ∈ blanks, Text.isBlank c = true)
    (hname : ∀ c cs, name = c :: cs → Text.isBlank c = false)
    (h : Names name (readFrom .gap {} (blanks ++ cs))) :
    ∀ c ∈ blanks, Text.isSeparator c = true := by
  by_contra hnot
  obtain ⟨front, c, rest, rfl, hfront, hc⟩ := exists_first hnot
  have hblank : Text.isBlank c = true := hblanks c (by simp)
  have hordinary := isOrdinary_of_isBlank hblank (by simpa using hc)
  rw [List.append_assoc, readFrom_separators hfront, List.cons_append,
    readFrom_ordinary rfl _ hordinary] at h
  obtain ⟨first, others, heq, hfirst⟩ := h
  have hgets : Gets (push {} c) (rest ++ cs) (first :: others) :=
    heq ▸ gets_readFrom (by decide : Place.bare ≠ .gap) _ _
  obtain ⟨_, _, kept, heq, -, hkept⟩ := hgets
  obtain ⟨rfl, -⟩ := List.cons.inj heq
  have hstart : name = c :: kept := by simpa [push] using hfirst.symm.trans hkept
  rw [hname c kept hstart] at hblank
  cases hblank

/-- The name of a stage is the first of its words. -/
theorem names_of_name_eq {ws : List Word} (hne : name ≠ [])
    (h : (ofWords ws).name = String.ofList name) : Names name ws := by
  cases ws with
  | nil => exact absurd (by simpa [ofWords] using h.symm) hne
  | cons first rest => exact ⟨first, rest, rfl, by simpa [ofWords] using congrArg String.toList h⟩

/-- **When the name of a line is the one that was put into it,** behind blanks and in front of
separators. -/
theorem parse_iff {text : String} (htext : text.toList = blanks ++ (name ++ tail))
    (hblanks : ∀ c ∈ blanks, Text.isBlank c = true) (hne : name ≠ [])
    (hname : ∀ c cs, name = c :: cs → Text.isBlank c = false)
    (htail : ∀ c ∈ tail, Text.isSeparator c = true) :
    ((parse text).name = String.ofList name ∧ (parse text).args = []) ↔
      (∀ c ∈ blanks, Text.isSeparator c = true) ∧ ReadsBack name tail := by
  rw [parse, readAll, htext]
  constructor
  · rintro ⟨hread, -⟩
    have hnames := names_of_name_eq hne hread
    have hseps := isSeparator_of_names hblanks hname hnames
    rw [readFrom_separators hseps] at hnames
    refine ⟨hseps, readsBack_of_names (fun c cs heq => ?_) htail hnames⟩
    by_contra hsep
    have hblank := Text.isBlank_of_isSeparator (by simpa using hsep)
    rw [hname c cs heq] at hblank
    cases hblank
  · rintro ⟨hseps, hback⟩
    rw [readFrom_separators hseps, readFrom_of_readsBack hne htail hback]
    exact ⟨rfl, rfl⟩

end Stage

/-! ## 4. Candidates that are accepted -/

namespace Completer

variable {c : Completer} {fs : FileSystem} {base : Location} {before after : String}
  {cand : Candidate}

/-- A line up to the cursor, when a candidate has been accepted. -/
def accepted (line : String) (shown : Completion) (cand : Candidate) : String :=
  String.ofList (takeBytes shown.start line.toList) ++ cand.replacement

/-- What is put behind a displayed name. -/
def tail (shown : Completion) : List Char := if shown.candidates.length = 1 then [' '] else []

/-- **When an accepted candidate names the command it displayed.**  The name of the completed line
is what was displayed, without arguments, exactly if all blanks in front of the word are spaces and
tabs, and the displayed name stands for itself, or ends with a backslash and nothing is put behind
it. -/
theorem parse_completed_iff
    (h : cand ∈ (c.complete fs base (before ++ after) before.utf8ByteSize).candidates) :
    let shown := c.complete fs base (before ++ after) before.utf8ByteSize
    let stage := Stage.parse (accepted (before ++ after) shown cand)
    (stage.name = cand.display ∧ stage.args = []) ↔
      (∀ ch ∈ (leading before).toList, Text.isSeparator ch = true) ∧
        Stage.ReadsBack cand.display.toList (tail shown) := by
  have hshown := completes c fs base before after
  have hword : Completable (Text.trimStart before) := by
    by_contra hnot
    rw [hshown.idle hnot] at h
    cases h
  obtain ⟨hbefore, hstart⟩ := hshown.start hword
  have hreplacement := hshown.replacements cand h
  obtain ⟨-, hprefix⟩ :=
    (hshown.displays hword cand.display).mp (List.mem_map_of_mem h)
  intro shown stage
  -- The line up to the word is kept, and the word makes way for the replacement.
  have htext : (accepted (before ++ after) shown cand).toList =
      (leading before).toList ++ (cand.display.toList ++ tail shown) := by
    have hkept : takeBytes shown.start (before ++ after).toList = (leading before).toList := by
      have hhead := head_eq (leading before) (Text.trimStart before ++ after)
      rw [← String.append_assoc, ← hbefore] at hhead
      rw [hstart, ← String.toList_inj.mpr hhead, String.toList_ofList]
    rw [accepted, String.toList_append, String.toList_ofList, hkept, hreplacement, tail]
    split <;> simp
  have hnonempty : (Text.trimStart before).toList ≠ [] := by simpa using hword.1
  obtain ⟨first, rest, hfirst⟩ := List.exists_cons_of_ne_nil hnonempty
  have hdisplay : cand.display.toList ≠ [] := by
    intro hnil
    rw [hnil, List.prefix_nil] at hprefix
    exact hnonempty hprefix
  have hiff := Stage.parse_iff htext (fun ch hch => isBlank_of_mem_leading hch) hdisplay
    (fun ch cs heq => ?_) (fun ch hch => ?_)
  · rwa [String.ofList_toList] at hiff
  · rw [heq, hfirst, List.cons_prefix_cons] at hprefix
    exact hword.2 ch (by rw [hfirst, hprefix.1]; exact List.mem_cons_self)
  · rw [tail] at hch
    split at hch
    · rw [List.mem_singleton.mp hch]
      rfl
    · cases hch

/-- A machine with a program that has a blank in its name. -/
def twoWords : FileSystem :=
  (FileSystem.empty.set ["a"] .directory).set ["a", "my tool"] (.file [] true)

/-- A built-in command is read as it was displayed, behind a tab. -/
theorem parse_completed_iff_pwd :
    let shown := (Completer.mk ["a"]).complete twoWords [] ("\tpw" ++ "") "\tpw".utf8ByteSize
    let stage := Stage.parse (accepted ("\tpw" ++ "") shown ⟨"pwd", "pwd "⟩)
    (⟨"pwd", "pwd "⟩ ∈ shown.candidates ∧
      ((stage.name = "pwd" ∧ stage.args = []) ↔
        (∀ ch ∈ (leading "\tpw").toList, Text.isSeparator ch = true) ∧
          Stage.ReadsBack "pwd".toList (tail shown))) ∧
      stage.name = "pwd" := by
  have h : (⟨"pwd", "pwd "⟩ : Candidate) ∈ ((Completer.mk ["a"]).complete twoWords []
      ("\tpw" ++ "") "\tpw".utf8ByteSize).candidates := by decide +kernel
  exact ⟨⟨h, parse_completed_iff h⟩, by decide +kernel⟩

/-- **The name with a blank is read as a name and an argument.** -/
theorem parse_completed_ne :
    let shown := (Completer.mk ["a"]).complete twoWords [] "my" 2
    let stage := Stage.parse (accepted "my" shown ⟨"my tool", "my tool "⟩)
    ⟨"my tool", "my tool "⟩ ∈ shown.candidates ∧ stage.name = "my" ∧ stage.args = ["tool"] := by
  decide +kernel

end Completer
end CommandShell
