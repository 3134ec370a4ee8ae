/-
# What a word is completed to

The candidates for a word are the built-in commands and the programs of the search list that begin
with it: each once, in the order of the bytes of their names, which is the order of the names
(`Text.encode_lt_encode`).  A candidate that stands alone is completed with a space behind it, and
any other as it is.  When there is no word to complete, there are no candidates.

A completer follows a search list, and keeps the one it has when the two differ in the spelling of
their directories alone.  Directories with the same components lead to the same place
(`locate_of_alike`), so what it lists is what the new list has (`executables_of_alike`), provided
that no spelling makes a path too long.  With such a spelling there is a difference
(`complete_follow_ne`): the list it keeps has programs which a new completer does not list.
-/
import CommandShell.Completion
import CommandShell.Proofs.Listing

namespace CommandShell

/-! ## 1. The order of texts -/

namespace Text

theorem encode_eq_flatMap (s : String) : encode s = s.toList.flatMap String.utf8EncodeChar := by
  rw [encode, ← String.utf8Encode_toList, List.utf8Encode, List.data_toByteArray]

/-- The bytes of a smaller character come first, whatever follows. -/
theorem utf8EncodeChar_append_lt {c d : Char} (h : c < d) (front back : Bytes) :
    String.utf8EncodeChar c ++ front < String.utf8EncodeChar d ++ back := by
  have hlt : c.val.toNat < d.val.toNat := h
  have hvalid : d.val.toNat < 0x110000 := by
    have hd : d.val.toNat.isValidChar := d.valid
    rcases hd with h | h <;> omega
  have hbyte : ∀ n < 256, (UInt8.ofNat n).toNat = n := fun n hn => UInt8.toNat_ofNat_of_lt' hn
  simp only [String.utf8EncodeChar]
  generalize c.val.toNat = m, d.val.toNat = n at *
  -- A longer code has a larger first byte; in codes of one length the first bytes that differ are
  -- digits of the two numbers.
  split_ifs <;> try omega
  all_goals
    simp (disch := omega) only [List.cons_append, List.nil_append, List.cons_lt_cons_iff,
      UInt8.lt_iff_toNat_lt, ← UInt8.toNat_inj, hbyte, show 4096 = 64 * 64 from rfl,
      show 262144 = 64 * 64 * 64 from rfl, ← Nat.div_div_eq_div_mul]
    omega

/-- **Texts are in the order of their bytes.** -/
theorem encode_lt_encode {s t : String} (h : s < t) : encode s < encode t := by
  have hchars : ∀ cs ds : List Char, cs < ds →
      cs.flatMap String.utf8EncodeChar < ds.flatMap String.utf8EncodeChar := by
    intro cs
    induction cs with
    | nil =>
      intro ds h
      cases ds with
      | nil => cases h
      | cons d ds =>
        obtain ⟨b, bs, hd⟩ :=
          List.exists_cons_of_ne_nil (by simp : String.utf8EncodeChar d ≠ [])
        simp [hd]
    | cons c cs ih =>
      intro ds h
      cases ds with
      | nil => cases h
      | cons d ds =>
        simp only [List.flatMap_cons]
        rcases List.cons_lt_cons_iff.mp h with hlt | ⟨rfl, hlt⟩
        · exact utf8EncodeChar_append_lt hlt _ _
        · exact List.append_left_lt (ih ds hlt)
  rw [encode_eq_flatMap, encode_eq_flatMap]
  exact hchars _ _ h

/-- The first field begins with what was begun. -/
theorem exists_fieldsFrom_eq_cons (sep : Char) (cs : List Char) (field : String) :
    ∃ first rest, fieldsFrom sep field cs = first :: rest ∧ field.toList <+: first.toList := by
  induction cs generalizing field with
  | nil => exact ⟨field, [], rfl, List.prefix_rfl⟩
  | cons c cs ih =>
    rw [fieldsFrom]
    split
    · exact ⟨field, _, rfl, List.prefix_rfl⟩
    · obtain ⟨first, rest, hfields, hfirst⟩ := ih (field.push c)
      refine ⟨first, rest, hfields, ?_⟩
      rw [String.toList_push] at hfirst
      exact (List.prefix_append _ _).trans hfirst

/-- The characters of a text, apart from the separator, are those of its fields. -/
theorem mem_fieldsFrom_iff {sep c : Char} (hc : c ≠ sep) (cs : List Char) (field : String) :
    (∃ part ∈ fieldsFrom sep field cs, c ∈ part.toList) ↔ c ∈ field.toList ∨ c ∈ cs := by
  induction cs generalizing field with
  | nil => simp [fieldsFrom]
  | cons d cs ih =>
    rw [fieldsFrom]
    split
    next hd => simp [ih, hd, hc]
    next => simp [ih, or_assoc]

end Text

/-! ## 2. Directories with the same components -/

namespace Path

variable {dir dir' : String}

theorem isAbsolute_iff_components :
    isAbsolute dir = true ↔ (components dir).head? = some "" := by
  rw [components]
  split_ifs with habs hdot
  · simp [habs]
  · simp [habs]
  · simp only [habs, Bool.false_eq_true, false_iff]
    intro hhead
    have := List.mem_filter.mp (List.mem_of_head? hhead)
    simp [counts] at this

theorem filter_components (dir : String) :
    (components dir).filter counts = (segments dir).filter counts := by
  have hempty : counts "" = false := rfl
  have hdot : counts "." = false := rfl
  rw [components]
  split_ifs <;> simp [hempty, hdot]

theorem eq_empty_of_components (h : components dir = []) : dir = "" := by
  by_contra hne
  obtain ⟨c, cs, hcs⟩ := List.exists_cons_of_ne_nil (by simpa using hne : dir.toList ≠ [])
  have habs : isAbsolute dir = false := by
    by_contra habs
    have hhead := isAbsolute_iff_components.mp (by simpa using habs)
    simp [h] at hhead
  have hc : c ≠ '/' := by simpa [isAbsolute, hcs] using habs
  -- The first segment is not empty, so it is a component, or it is a first `.`.
  obtain ⟨first, rest, hsegments, hfirst⟩ :=
    Text.exists_fieldsFrom_eq_cons '/' cs ("".push c)
  have hsegments : segments dir = first :: rest := by
    rw [segments, Text.fields, hcs, Text.fieldsFrom, if_neg hc, hsegments]
  have hempty : first ≠ "" := by
    rintro rfl
    simp at hfirst
  by_cases hdot : first = "."
  · simp [components, habs, hsegments, hdot] at h
  · simp [components, habs, hsegments, hdot, counts, hempty] at h

variable (h : components dir = components dir')
include h

theorem isAbsolute_eq_of_components : isAbsolute dir = isAbsolute dir' := by
  rw [Bool.eq_iff_iff, isAbsolute_iff_components, isAbsolute_iff_components, h]

theorem filter_segments_of_components :
    (segments dir).filter counts = (segments dir').filter counts := by
  rw [← filter_components, ← filter_components, h]

theorem ne_empty_of_components (hdir : dir ≠ "") : dir' ≠ "" := by
  rintro rfl
  exact hdir (eq_empty_of_components h)

/-- Paths with the same components differ in slashes and dots only. -/
theorem mem_of_components {c : Char} (hslash : c ≠ '/') (hdot : c ≠ '.') (hc : c ∈ dir.toList) :
    c ∈ dir'.toList := by
  obtain ⟨part, hpart, hmem⟩ := (Text.mem_fieldsFrom_iff hslash dir.toList "").mpr (.inr hc)
  have hcounts : counts part = true := by
    simp only [counts, Bool.and_eq_true, bne_iff_ne]
    constructor
    · rintro rfl
      cases hmem
    · rintro rfl
      simp [hdot] at hmem
  have hpart' : part ∈ (segments dir').filter counts := by
    rw [← filter_segments_of_components h]
    exact List.mem_filter.mpr ⟨hpart, hcounts⟩
  have hmem' := (Text.mem_fieldsFrom_iff hslash dir'.toList "").mp
    ⟨part, List.mem_of_mem_filter hpart', hmem⟩
  simpa using hmem'

end Path

namespace FileSystem

variable {fs : FileSystem} {base loc result : Location} {links left : Nat} {dir dir' name : String}
  {names names' front rest : List String}

/-- Names that do not count lead nowhere from a directory. -/
theorem Leads.of_fillers (hd : fs.node? loc = some .directory)
    (hfront : ∀ name ∈ front, Path.counts name = false) (h : fs.Leads left result links loc rest) :
    fs.Leads left result links loc (front ++ rest) := by
  induction front with
  | nil => exact h
  | cons name front ih =>
    obtain ⟨hname, hfront⟩ := List.forall_mem_cons.mp hfront
    refine .stay hd ?_ (ih hfront)
    simpa [Path.counts, or_iff_not_imp_left] using hname

/-- Behind names that do not count, the same one comes next. -/
theorem exists_of_filter_counts (hname : Path.counts name = true)
    (h : names'.filter Path.counts = (name :: rest).filter Path.counts) :
    ∃ front rest', names' = front ++ name :: rest' ∧ (∀ other ∈ front, Path.counts other = false) ∧
      rest'.filter Path.counts = rest.filter Path.counts := by
  rw [List.filter_cons_of_pos hname, List.filter_eq_cons_iff] at h
  obtain ⟨front, rest', hnames, hfront, -, hrest⟩ := h
  exact ⟨front, rest', hnames, fun other hother => by simpa using hfront other hother, hrest⟩

/-- **Only the names that count decide which directory is led to.** -/
theorem Leads.of_counts (h : fs.Leads left result links loc names)
    (hd : fs.node? result = some .directory)
    (heq : names'.filter Path.counts = names.filter Path.counts) :
    fs.Leads left result links loc names' := by
  induction h generalizing names' with
  | done =>
    have hnames : ∀ name ∈ names', Path.counts name = false := by simpa using heq
    simpa using Leads.of_fillers hd hnames .done
  | @stay _ _ name _ _ hname _ ih =>
    have hname : Path.counts name = false := by rcases hname with rfl | rfl <;> rfl
    exact ih (heq.trans (List.filter_cons_of_neg (by simp [hname])))
  | up hloc _ ih =>
    obtain ⟨front, rest, rfl, hfront, hrest⟩ := exists_of_filter_counts rfl heq
    exact .of_fillers hloc hfront (.up hloc (ih hrest))
  | down hloc hstay hup hlong hn hlink _ ih =>
    obtain ⟨front, rest, rfl, hfront, hrest⟩ :=
      exists_of_filter_counts (by simpa [Path.counts, not_or] using hstay) heq
    exact .of_fillers hloc hfront (.down hloc hstay hup hlong hn hlink (ih hrest))
  | link hloc hstay hup hlong hn _ ih =>
    obtain ⟨front, rest, rfl, hfront, hrest⟩ :=
      exists_of_filter_counts (by simpa [Path.counts, not_or] using hstay) heq
    refine .of_fillers hloc hfront (.link hloc hstay hup hlong hn (ih ?_))
    rw [List.filter_append, List.filter_append, hrest]

variable (h : Path.components dir = Path.components dir')
include h

theorem start_of_components : start base dir = start base dir' := by
  rw [start, start, Path.isAbsolute_eq_of_components h]

/-- A directory that is reached by one of two paths with the same components is reached by the
other, if that is not too long. -/
theorem locate_of_components (hlong : dir'.utf8ByteSize < pathLimit)
    (hd : fs.node? loc = some .directory) (hloc : fs.locate base dir = .ok loc) :
    fs.locate base dir' = .ok loc := by
  obtain ⟨hvalid, hwalk⟩ := locate_eq_ok_iff.mp hloc
  obtain ⟨left, hleads⟩ := walk_eq_ok_iff.mp hwalk
  obtain ⟨hnul, hdir, -⟩ := requireValid_iff.mp hvalid
  refine locate_eq_ok_iff.mpr ⟨requireValid_iff.mpr ⟨fun hmem => hnul ?_,
    Path.ne_empty_of_components h hdir, hlong⟩, walk_eq_ok_iff.mpr ⟨left, ?_⟩⟩
  · exact Path.mem_of_components h.symm (by decide) (by decide) hmem
  · rw [← start_of_components h]
    exact hleads.of_counts hd (Path.filter_segments_of_components h).symm

theorem namesAt_of_components (hlong : dir'.utf8ByteSize < pathLimit)
    (hname : name ∈ fs.namesAt base dir) : name ∈ fs.namesAt base dir' := by
  obtain ⟨loc, hloc, hd, hn⟩ := mem_namesAt_iff.mp hname
  exact mem_namesAt_iff.mpr ⟨loc, locate_of_components h hlong hd hloc, hd, hn⟩

theorem isExecutable_of_components (hdir : dir ≠ "")
    (hlong : (Path.join dir' name).utf8ByteSize < pathLimit)
    (hexec : fs.isExecutable base (Path.join dir name) = true) :
    fs.isExecutable base (Path.join dir' name) = true := by
  cases hrel : Path.isAbsolute name with
  | true =>
    rwa [Path.join_of_absolute hrel, ← Path.join_of_absolute hrel dir]
  | false =>
    have hdir' := Path.ne_empty_of_components h hdir
    obtain ⟨loc, n, hloc, hn, hexec⟩ := isExecutable_iff.mp hexec
    obtain ⟨hvalid, between, mid, left, hfront, hbelow⟩ := (locate_join_iff hdir hrel).mp hloc
    obtain ⟨first, rest, hsegments⟩ := List.exists_cons_of_ne_nil (Path.segments_ne_nil name)
    have hd : fs.node? mid = some .directory := (hsegments ▸ hbelow).directory
    obtain ⟨hnul, -, -⟩ := requireValid_iff.mp hvalid
    refine isExecutable_iff.mpr ⟨loc, n, (locate_join_iff hdir' hrel).mpr ⟨requireValid_iff.mpr
      ⟨fun hmem => hnul ?_, Path.join_ne_empty hdir' name, hlong⟩, between, mid, left, ?_, hbelow⟩,
      hn, hexec⟩
    · rw [Path.mem_join_iff (by decide) hrel] at hmem ⊢
      exact hmem.imp_left (Path.mem_of_components h.symm (by decide) (by decide))
    · rw [← start_of_components h]
      exact hfront.of_counts hd (Path.filter_segments_of_components h).symm

end FileSystem

/-- A directory of the search list, and every name in it, can be told by a path that is short
enough. -/
structure FileSystem.Fits (fs : FileSystem) (base : Location) (dir : String) : Prop where
  directory : dir.utf8ByteSize < pathLimit
  names : ∀ name ∈ fs.namesAt base dir, (Path.join dir name).utf8ByteSize < pathLimit

namespace Search

open FileSystem

variable {fs : FileSystem} {base : Location} {dirs dirs' : List String} {start name : String}

/-- A program of a list is one of any list with the same components. -/
theorem mem_executables_of_components (h : dirs.map Path.components = dirs'.map Path.components)
    (hfits : ∀ dir ∈ dirs', fs.Fits base dir) (hname : name ∈ executables dirs fs base start) :
    name ∈ executables dirs' fs base start := by
  obtain ⟨hstart, dir, hdir, hmem, hexec⟩ := mem_executables_iff.mp hname
  have hcomponents : Path.components dir ∈ dirs'.map Path.components :=
    h ▸ List.mem_map_of_mem hdir
  obtain ⟨dir', hdir', heq⟩ := List.mem_map.mp hcomponents
  obtain ⟨loc, hloc, -⟩ := mem_namesAt_iff.mp hmem
  have hne : dir ≠ "" := (requireValid_iff.mp (locate_eq_ok_iff.mp hloc).1).2.1
  have hmem' := namesAt_of_components heq.symm (hfits dir' hdir').directory hmem
  exact mem_executables_iff.mpr ⟨hstart, dir', hdir', hmem',
    isExecutable_of_components heq.symm hne ((hfits dir' hdir').names name hmem') hexec⟩

/-- **Lists with the same components have the same programs,** if their paths are short enough. -/
theorem executables_of_components (h : dirs.map Path.components = dirs'.map Path.components)
    (hfits : ∀ dir ∈ dirs ++ dirs', fs.Fits base dir) :
    executables dirs fs base start = executables dirs' fs base start := by
  obtain ⟨hdirs, hdirs'⟩ := List.forall_mem_append.mp hfits
  refine Std.ExtTreeSet.ext_mem fun name => ⟨?_, ?_⟩
  · exact mem_executables_of_components h hdirs'
  · exact mem_executables_of_components h.symm hdirs

/-- A name of a command: that of a built-in one, or of a program in a listed directory. -/
def IsCommand (dirs : List String) (fs : FileSystem) (base : Location) (name : String) : Prop :=
  (∃ b : BuiltinName, name = b.text) ∨
    ∃ dir ∈ dirs, name ∈ fs.namesAt base dir ∧ fs.isExecutable base (Path.join dir name) = true

end Search

namespace Completer

variable {c : Completer} {fs : FileSystem} {base : Location} {dirs : List String}
  {start name before after : String}

/-! ## 3. The names of commands -/

theorem mem_commandNames_iff : name ∈ c.commandNames fs base start ↔
    Search.IsCommand c.dirs fs base name ∧ start.toList <+: name.toList := by
  have hbuiltin : name ∈ BuiltinName.all.map BuiltinName.text ↔
      ∃ b : BuiltinName, name = b.text := by
    simp only [List.mem_map]
    exact ⟨fun ⟨b, _, h⟩ => ⟨b, h.symm⟩, fun ⟨b, h⟩ => ⟨b, by cases b <;> decide, h.symm⟩⟩
  rw [commandNames, Std.ExtTreeSet.mem_toList, Std.ExtTreeSet.mem_insertMany_list,
    Search.mem_executables_iff, List.contains_iff_mem, List.mem_filter, hbuiltin,
    Search.beginsWith_iff, Search.IsCommand, or_and_right, and_comm, or_comm]

/-- **They are in the order of their bytes, each once.** -/
theorem pairwise_commandNames (c : Completer) (fs : FileSystem) (base : Location) (start : String) :
    (c.commandNames fs base start).Pairwise fun a b => Text.encode a < Text.encode b := by
  refine List.Pairwise.imp ?_ Std.ExtTreeSet.ordered_toList
  intro a b h
  exact Text.encode_lt_encode (compareOfLessAndEq_eq_lt.mp h)

/-! ## 4. The text before the cursor -/

theorem takeBytes_append (front rest : List Char) :
    takeBytes (String.ofList front).utf8ByteSize (front ++ rest) = front := by
  induction front with
  | nil =>
    cases rest with
    | nil => rfl
    | cons c rest => simp [takeBytes, Nat.ne_of_gt c.utf8Size_pos]
  | cons c front ih =>
    have hsize : (String.ofList (c :: front)).utf8ByteSize =
        c.utf8Size + (String.ofList front).utf8ByteSize := by
      rw [String.ofList_cons, String.utf8ByteSize_append, String.utf8ByteSize_singleton]
    rw [hsize, List.cons_append, takeBytes, if_pos (by omega), Nat.add_sub_cancel_left, ih]

/-- The text before the cursor is taken whole. -/
theorem head_eq (before after : String) :
    String.ofList (takeBytes before.utf8ByteSize (before ++ after).toList) = before := by
  have htake := takeBytes_append before.toList after.toList
  rw [String.ofList_toList] at htake
  rw [String.toList_append, htake, String.ofList_toList]

/-- The blanks in front of the word. -/
def leading (before : String) : String := String.ofList (before.toList.takeWhile Text.isBlank)

theorem isBlank_of_mem_leading {ch : Char} (h : ch ∈ (leading before).toList) :
    Text.isBlank ch = true :=
  List.mem_takeWhile_imp (by simpa [leading] using h)

@[simp] theorem leading_append_trimStart (before : String) :
    leading before ++ Text.trimStart before = before := by
  simp [← String.toList_inj, leading, Text.trimStart]

/-- A word that can be completed: it is not empty, and holds no blank. -/
def Completable (word : String) : Prop :=
  word ≠ "" ∧ ∀ ch ∈ word.toList, Text.isBlank ch = false

/-- Whether there is nothing to complete is asked of the text before the cursor. -/
theorem not_completable_iff {word : String} :
    ¬ Completable word ↔ word = "" ∨ word.toList.any Text.isBlank = true := by
  simp [Completable, or_iff_not_imp_left]

theorem complete_of_not (h : ¬ Completable (Text.trimStart before)) :
    c.complete fs base (before ++ after) before.utf8ByteSize = ⟨before.utf8ByteSize, []⟩ := by
  simp only [complete, head_eq]
  exact if_pos (not_completable_iff.mp h)

/-- The candidates for a word, which start where it does: a single one has a space behind it. -/
theorem complete_of_completable {word : String} (hword : Text.trimStart before = word)
    (h : Completable word) :
    c.complete fs base (before ++ after) before.utf8ByteSize =
      ⟨(leading before).utf8ByteSize, (c.commandNames fs base word).map fun name =>
        ⟨name, if (c.commandNames fs base word).length = 1 then name ++ " " else name⟩⟩ := by
  have hstart : before.utf8ByteSize - word.utf8ByteSize = (leading before).utf8ByteSize := by
    have hsize := congrArg String.utf8ByteSize (leading_append_trimStart before)
    rw [String.utf8ByteSize_append, hword] at hsize
    omega
  simp only [complete, head_eq, hword, hstart]
  rw [if_neg fun hnot => not_completable_iff.mpr hnot h]
  generalize c.commandNames fs base word = names
  split
  next => rfl
  next _ hnot =>
    have hlength : names.length ≠ 1 := fun hone => by
      obtain ⟨name, rfl⟩ := List.length_eq_one_iff.mp hone
      exact hnot name rfl
    simp [hlength]

/-! ## 5. Completion -/

/-- What is shown for the text before the cursor, by the commands of a search list. -/
structure Completes (dirs : List String) (fs : FileSystem) (base : Location) (before : String)
    (shown : Completion) : Prop where
  /-- Without a word there is nothing, at the cursor. -/
  idle : ¬ Completable (Text.trimStart before) → shown = ⟨before.utf8ByteSize, []⟩
  /-- A word starts behind the blanks in front of it. -/
  start : Completable (Text.trimStart before) →
    before = leading before ++ Text.trimStart before ∧ shown.start = (leading before).utf8ByteSize
  /-- All commands that begin with the word are displayed, and nothing else. -/
  displays : Completable (Text.trimStart before) → ∀ name,
    name ∈ shown.candidates.map Candidate.display ↔
      Search.IsCommand dirs fs base name ∧ (Text.trimStart before).toList <+: name.toList
  /-- They are in the order of their bytes, each once. -/
  order : (shown.candidates.map Candidate.display).Pairwise fun a b =>
    Text.encode a < Text.encode b
  /-- A candidate that stands alone is completed with a space behind it, any other as it is. -/
  replacements : ∀ cand ∈ shown.candidates, cand.replacement =
    if shown.candidates.length = 1 then cand.display ++ " " else cand.display

/-- **A completer shows the commands of its list.** -/
theorem completes (c : Completer) (fs : FileSystem) (base : Location) (before after : String) :
    Completes c.dirs fs base before
      (c.complete fs base (before ++ after) before.utf8ByteSize) := by
  by_cases h : Completable (Text.trimStart before)
  · rw [complete_of_completable rfl h]
    refine ⟨absurd h, fun _ => ⟨(leading_append_trimStart before).symm, rfl⟩, fun _ name => ?_,
      ?_, ?_⟩
    · simpa [Function.comp_def] using mem_commandNames_iff
    · simpa [Function.comp_def] using pairwise_commandNames c fs base (Text.trimStart before)
    · simp only [List.mem_map, List.length_map]
      rintro cand ⟨name, -, rfl⟩
      simp
  · rw [complete_of_not h]
    exact ⟨fun _ => rfl, fun hword => absurd hword h, fun hword => absurd hword h, .nil, nofun⟩

/-- **What a completer shows for a list that it follows** is what a new one shows, whatever list it
followed before: the commands of that list that begin with the word before the cursor.  A list that
is kept because the other differs in spelling alone must not have paths that are too long, nor the
other one. -/
theorem complete_follow (c : Completer) (dirs : List String) (fs : FileSystem) (base : Location)
    (hfits : c.dirs ≠ dirs → c.dirs.map Path.components = dirs.map Path.components →
      ∀ dir ∈ c.dirs ++ dirs, fs.Fits base dir) (before after : String) :
    (c.follow dirs).complete fs base (before ++ after) before.utf8ByteSize =
        (Completer.mk dirs).complete fs base (before ++ after) before.utf8ByteSize ∧
      Completes dirs fs base before
        ((c.follow dirs).complete fs base (before ++ after) before.utf8ByteSize) := by
  have hnames : ∀ start, (c.follow dirs).commandNames fs base start =
      (Completer.mk dirs).commandNames fs base start := by
    intro start
    rw [follow]
    split_ifs with h
    · by_cases heq : c.dirs = dirs
      · rw [← heq]
      · rw [commandNames, commandNames, Search.executables_of_components h (hfits heq h)]
    · rfl
  have hsame : (c.follow dirs).complete fs base (before ++ after) before.utf8ByteSize =
      (Completer.mk dirs).complete fs base (before ++ after) before.utf8ByteSize := by
    simp only [complete, hnames]
  rw [hsame]
  exact ⟨rfl, completes ⟨dirs⟩ fs base before after⟩

/-- A machine with one program below its directory. -/
def oneTool : FileSystem :=
  (FileSystem.empty.set ["a"] .directory).set ["a", "tool"] (.file [] true)

/-- The list is kept when there is a slash at the end, and the program is completed. -/
theorem complete_follow_slash :
    (∀ dir ∈ ["a"] ++ ["a/"], oneTool.Fits [] dir) ∧
      ((Completer.mk ["a"]).follow ["a/"]).complete oneTool [] ("to" ++ "!") 2 =
        (Completer.mk ["a/"]).complete oneTool [] ("to" ++ "!") 2 ∧
      ((Completer.mk ["a"]).follow ["a/"]).complete oneTool [] ("to" ++ "!") 2 =
        ⟨0, [⟨"tool", "tool "⟩]⟩ := by
  have hfits : ∀ dir ∈ ["a"] ++ ["a/"], oneTool.Fits [] dir := by
    simp only [List.cons_append, List.nil_append, List.forall_mem_cons]
    exact ⟨⟨by decide, by decide⟩, ⟨by decide, by decide⟩, nofun⟩
  exact ⟨hfits, (complete_follow ⟨["a"]⟩ ["a/"] oneTool [] (fun _ _ => hfits) "to" "!").1,
    by decide +kernel⟩

/-- A number of segments that stay where they are. -/
def dots : Nat → List Char
  | 0 => []
  | n + 1 => '/' :: '.' :: dots n

/-- The directory of that program, behind so many of them. -/
def dotted (n : Nat) : String := "a" ++ String.ofList (dots n)

theorem components_dotted (n : Nat) : Path.components (dotted n) = ["a"] := by
  have hfields : ∀ (n : Nat) (field : String),
      Text.fieldsFrom '/' field (dots n) = field :: List.replicate n "." := by
    intro n
    induction n with
    | zero => exact fun field => rfl
    | succ n ih => exact fun field => by simp [dots, Text.fieldsFrom, ih, List.replicate_succ]
  have hsegments : Path.segments (dotted n) = "a" :: List.replicate n "." := by
    simpa [Path.segments, Text.fields, dotted, Text.fieldsFrom] using hfields n "a"
  have hrel : Path.isAbsolute (dotted n) = false := by simp [dotted, Path.isAbsolute]
  have hdot : Path.counts "." = false := rfl
  have ha : Path.counts "a" = true := rfl
  simp [Path.components, hsegments, hrel, hdot, ha]

theorem utf8ByteSize_dotted (n : Nat) : (dotted n).utf8ByteSize = 1 + 2 * n := by
  have hdots : (String.ofList (dots n)).utf8ByteSize = 2 * n := by
    induction n with
    | zero => rfl
    | succ n ih =>
      have hone : '/'.utf8Size = 1 ∧ '.'.utf8Size = 1 := ⟨rfl, rfl⟩
      rw [dots, String.ofList_cons, String.ofList_cons, String.utf8ByteSize_append,
        String.utf8ByteSize_append, String.utf8ByteSize_singleton, String.utf8ByteSize_singleton,
        ih, hone.1, hone.2]
      omega
  have ha : "a".utf8ByteSize = 1 := rfl
  rw [dotted, String.utf8ByteSize_append, hdots, ha]

/-- **With a path that is too long there is a difference:** the list that is kept has the program,
and a new completer does not show it. -/
theorem complete_follow_ne :
    ((Completer.mk ["a"]).follow [dotted 2048]).complete oneTool [] "to" 2 ≠
      (Completer.mk [dotted 2048]).complete oneTool [] "to" 2 := by
  have hkept : (Completer.mk ["a"]).follow [dotted 2048] = ⟨["a"]⟩ :=
    if_pos (by simp only [List.map_cons, List.map_nil, components_dotted]; decide)
  have hnew : "tool" ∉ ((Completer.mk [dotted 2048]).complete oneTool [] "to" 2).candidates.map
      Candidate.display := by
    have hshown := completes ⟨[dotted 2048]⟩ oneTool [] "to" ""
    have hword : Completable (Text.trimStart "to") := by
      by_contra hnot
      exact absurd (not_completable_iff.mp hnot) (by decide)
    rw [show "to" ++ "" = "to" from rfl, show "to".utf8ByteSize = 2 from rfl] at hshown
    rw [hshown.displays hword]
    rintro ⟨⟨b, hb⟩ | ⟨dir, hdir, hmem, -⟩, -⟩
    · cases b <;> exact absurd hb (by decide)
    · obtain rfl : dir = dotted 2048 := by simpa using hdir
      obtain ⟨loc, hloc, -⟩ := FileSystem.mem_namesAt_iff.mp hmem
      have hlong := (FileSystem.requireValid_iff.mp (FileSystem.locate_eq_ok_iff.mp hloc).1).2.2
      rw [utf8ByteSize_dotted] at hlong
      exact absurd hlong (by decide)
  intro heq
  rw [← heq, hkept] at hnew
  exact hnew (by decide +kernel)

end Completer
end CommandShell
