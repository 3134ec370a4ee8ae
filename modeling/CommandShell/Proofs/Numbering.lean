/-
# What `history` lists

`history` prints the entries of the session, each with its number in the whole session, and a count
asks for the last so many of them (`history_lists`).  A count is a numeral: a plus sign that may be
missing, and digits, as many as one likes.  Its value may go beyond what the shell reads as a
number; then it is not read as one, and all entries are listed.  That is what it asks for all the
same, as there are no more entries than that (`skipped_of_isCount`).

A count that asks for none, and a word that is no numeral, leave nothing out either
(`skipped_of_not_isCount`).
-/
import CommandShell.Proofs.Arguments
import CommandShell.Proofs.Output

namespace CommandShell

/-! ## 1. Counts -/

namespace Numeral

variable {limit n : Nat} {past : Problem} {cs : List Char} {word : String}

theorem le_ofDigitChars (cs : List Char) : ∀ value, value ≤ Nat.ofDigitChars 10 cs value := by
  induction cs with
  | nil => exact fun value => le_refl value
  | cons c cs ih =>
    intro value
    rw [Nat.ofDigitChars_cons]
    exact le_trans (by omega) (ih _)

/-- **Digits are read as their value**, if that is within the limit. -/
theorem readDigits_of_digits (h : ∀ c ∈ cs, c.isDigit = true) : ∀ {value}, value ≤ limit →
    readDigits limit past value cs =
      if Nat.ofDigitChars 10 cs value ≤ limit then .ok (Nat.ofDigitChars 10 cs value)
      else .error past := by
  induction cs with
  | nil =>
    intro value hvalue
    rw [readDigits, Nat.ofDigitChars_nil, if_pos hvalue]
  | cons c cs ih =>
    intro value hvalue
    obtain ⟨hc, hcs⟩ := List.forall_mem_cons.mp h
    rw [readDigits, if_pos hc, Nat.ofDigitChars_cons]
    -- A value that is past the limit stays past it, whatever digits follow.
    by_cases hnext : 10 * value + (c.toNat - '0'.toNat) ≤ limit
    · simp only [if_neg (Nat.not_lt.mpr hnext)]
      exact ih hcs hnext
    · have hlarge := le_ofDigitChars cs (10 * value + (c.toNat - '0'.toNat))
      simp only [if_pos (Nat.lt_of_not_le hnext)]
      rw [if_neg (fun h => hnext (hlarge.trans h))]

/-- What is read is made of digits, and is their value. -/
theorem digits_of_readDigits : ∀ {value}, readDigits limit past value cs = .ok n →
    (∀ c ∈ cs, c.isDigit = true) ∧ n = Nat.ofDigitChars 10 cs value := by
  induction cs with
  | nil =>
    intro value h
    exact ⟨nofun, (Except.ok.inj h).symm⟩
  | cons c cs ih =>
    intro value h
    rw [readDigits] at h
    split at h
    next hc =>
      simp only at h
      split at h
      next => cases h
      next =>
        obtain ⟨hcs, hn⟩ := ih h
        exact ⟨List.forall_mem_cons.mpr ⟨hc, hcs⟩, by rw [hn, Nat.ofDigitChars_cons]⟩
    next => cases h

/-- A word that is a count: a plus sign, which may be missing, and digits that have this value. -/
def IsCount (word : String) (n : Nat) : Prop :=
  ∃ digits, digits ≠ [] ∧ (∀ c ∈ digits, c.isDigit = true) ∧
    (word.toList = digits ∨ word.toList = '+' :: digits) ∧ n = Nat.ofDigitChars 10 digits 0

theorem readNat_of_isCount (limit : Nat) (h : IsCount word n) :
    readNat limit word = if n ≤ limit then .ok n else .error .tooLarge := by
  obtain ⟨digits, hne, hdigits, hword, rfl⟩ := h
  rw [← readDigits_of_digits hdigits (Nat.zero_le limit), readNat]
  obtain ⟨d, ds, rfl⟩ := List.exists_cons_of_ne_nil hne
  have hplus : d ≠ '+' := by
    rintro rfl
    exact absurd (hdigits _ List.mem_cons_self) (by decide)
  rcases hword with hword | hword
  · rw [hword]
    split
    next h => cases h
    next h => exact absurd (List.cons.inj h).1 hplus
    next h => exact absurd (List.cons.inj h).1 hplus
    next => rfl
  · rw [hword]
    rfl

/-- **What is read as a number is a count** with that value. -/
theorem isCount_of_readNat (h : readNat limit word = .ok n) : IsCount word n := by
  rw [readNat] at h
  split at h
  next => cases h
  next => cases h
  next digits hne hword =>
    obtain ⟨hdigits, hn⟩ := digits_of_readDigits h
    have hsome : digits ≠ [] := by
      rintro rfl
      exact hne rfl
    exact ⟨digits, hsome, hdigits, .inr hword, hn⟩
  next hnil _ _ =>
    obtain ⟨hdigits, hn⟩ := digits_of_readDigits h
    exact ⟨word.toList, hnil, hdigits, .inl rfl, hn⟩

theorem plain_of_isCount (h : IsCount word n) :
    Grammar.looksLikeOption word = false ∧ word ≠ "help" := by
  obtain ⟨digits, hne, hdigits, hword, -⟩ := h
  obtain ⟨d, ds, rfl⟩ := List.exists_cons_of_ne_nil hne
  have hd : d.isDigit = true := hdigits d List.mem_cons_self
  have hother {c : Char} (hc : c.isDigit = false) : d ≠ c := by
    rintro rfl
    rw [hd] at hc
    cases hc
  constructor
  · rcases hword with hword | hword
    · simp [Grammar.looksLikeOption, hword, hother (by decide : '-'.isDigit = false)]
    · simp [Grammar.looksLikeOption, hword]
  · rintro rfl
    rcases hword with hword | hword
    · exact hother (by decide : 'h'.isDigit = false) (List.cons.inj hword).1.symm
    · exact absurd (List.cons.inj hword).1 (by decide)

end Numeral

namespace Builtin

open Deed Numeral

variable {n total : Nat} {word : String} {count : Option String} {job : Job}

/-- **A count leaves out all entries but the last so many,** however large it is.  One that is too
large to be read leaves out none, and a session has no more entries than can be read. -/
theorem skipped_of_isCount (h : IsCount word n) (hn : 0 < n) (htotal : total ≤ countLimit) :
    skipped (some word) total = total - n := by
  rw [skipped, Option.map_some, readNat_of_isCount countLimit h]
  by_cases hlimit : n ≤ countLimit
  · simp only [if_pos hlimit, if_pos hn]
  · simp only [if_neg hlimit]
    omega

/-- **Without a count of one or more nothing is left out.** -/
theorem skipped_of_not_isCount (h : ∀ word n, count = some word → IsCount word n → n = 0) :
    skipped count total = 0 := by
  rw [skipped]
  split
  next n hread =>
    obtain ⟨word, hcount, hnat⟩ := Option.map_eq_some_iff.mp hread
    have hzero : n = 0 := h word n hcount (isCount_of_readNat hnat)
    rw [if_neg (by omega)]
  next => rfl

/-- A word without a dash is a count for `history`. -/
theorem lookup_history (hplain : Grammar.looksLikeOption word = false) (hne : word ≠ "help") :
    lookup "history" [word] = some (.history { count := some word }) := by
  have hread : historyGrammar.read [word] = .ok { operands := [word] } :=
    Grammar.read_single rfl hplain hne rfl
  have hname : ofName .history [word] = .history { count := some word } :=
    ofArgs_of_read hread rfl _
  exact congrArg some hname

/-! ## 2. Rows -/

/-- An entry as it is listed: its number, in five columns or as many as it needs, two spaces, the
entry, and the end of the line. -/
def IsRow (n : Nat) (entry row : String) : Prop :=
  ∃ pad : String, (∀ c ∈ pad.toList, c = ' ') ∧
    (pad ++ toString n).length = max 5 (toString n).length ∧
    row = pad ++ toString n ++ "  " ++ entry ++ "\n"

/-- The entries behind the first so many are listed, each in a row of its own, with its number in
the session. -/
def Lists (session : List String) (skip : Nat) (output : String) : Prop :=
  ∃ rows : List String, output = String.join rows ∧ rows.length = session.length - skip ∧
    ∀ i row, rows[i]? = some row →
      ∃ entry, session[skip + i]? = some entry ∧ IsRow (skip + i + 1) entry row

theorem isRow_entryNumber (n : Nat) (entry : String) :
    IsRow n entry (entryNumber n ++ "  " ++ entry ++ "\n") := by
  refine ⟨String.ofList (List.replicate (5 - (toString n).length) ' '), ?_, ?_, rfl⟩
  · intro c hc
    rw [String.toList_ofList] at hc
    exact List.eq_of_mem_replicate hc
  · rw [String.length_append, String.length_ofList, List.length_replicate]
    omega

/-- **The listing behind the first so many entries.** -/
theorem lists_listing (session : List String) (skip : Nat) :
    Lists session skip (listing ((numbered session).drop skip)) := by
  refine ⟨_, rfl, by simp [numbered], fun i row hrow => ?_⟩
  simp only [numbered, List.getElem?_map, List.getElem?_drop, List.getElem?_zipIdx,
    Option.map_map, Option.map_eq_some_iff] at hrow
  obtain ⟨entry, hentry, rfl⟩ := hrow
  exact ⟨entry, hentry, by simpa using isRow_entryNumber (skip + i + 1) entry⟩

example : listing ((numbered ["a", "b", "c"]).drop 1) = "    2  b\n    3  c\n" := by decide

/-! ## 3. Requests to list the entries -/

theorem run_history {request : HistoryRequest} (hwrite : request.write = none)
    (hread : request.read = none) (happend : request.append = none)
    (hout : job.stdout.refuses = false) :
    ∃ job', (run (.history request)).run.run job = (.ok 0, job') ∧
      Outputs job (Text.encode (listing ((numbered job.session.env.history.session).drop
        (skipped request.count job.session.env.history.session.length)))) job' := by
  obtain ⟨job', hprint, houtputs⟩ := outputs_printEntries
    ((numbered job.session.env.history.session).drop
      (skipped request.count job.session.env.history.session.length)) hout
  refine ⟨job', run_of_perform_ok ?_, houtputs⟩
  simp only [perform, performHistory, run_bind, Deed.run_env, Deed.run_world, hwrite, hread,
    happend, hprint]
  rfl

/-- **What `history` lists.**  Take a session of fewer than 2 ^ 63 entries, and an output that takes
bytes.

* A count is what `history` is asked for, and so is nothing.
* A request to list the entries succeeds, and puts out rows and nothing else.  If its count is `n`,
  and not zero, these are the last `n` entries, or all of them if there are not so many, in order
  and each with its number in the session.
* If it has no count, or one of zero, or a word that is no count, they are all entries. -/
theorem history_lists (hlength : job.session.env.history.session.length < 2 ^ 63)
    (hout : job.stdout.refuses = false) :
    (∀ word n, IsCount word n →
      lookup "history" [word] = some (.history { count := some word })) ∧
    lookup "history" [] = some (.history {}) ∧
    ∀ request : HistoryRequest,
      request.write = none → request.read = none → request.append = none →
      ∃ output job', (run (.history request)).run.run job = (.ok 0, job') ∧
        Outputs job (Text.encode output) job' ∧
        (∀ word n, request.count = some word → IsCount word n → 0 < n →
          Lists job.session.env.history.session
            (job.session.env.history.session.length -
              min n job.session.env.history.session.length) output) ∧
        ((∀ word n, request.count = some word → IsCount word n → n = 0) →
          Lists job.session.env.history.session 0 output) := by
  refine ⟨fun word n h => ?_, rfl, fun request hwrite hread happend => ?_⟩
  · obtain ⟨hplain, hne⟩ := plain_of_isCount h
    exact lookup_history hplain hne
  · obtain ⟨job', hrun, houtputs⟩ := run_history hwrite hread happend hout
    have hlists := lists_listing job.session.env.history.session
      (skipped request.count job.session.env.history.session.length)
    refine ⟨_, job', hrun, houtputs, fun word n hcount hword hn => ?_, fun hzero => ?_⟩
    · have htotal : job.session.env.history.session.length ≤ countLimit := by
        have hlimit : 2 ^ 63 ≤ countLimit := by decide
        omega
      have hskip : skipped request.count job.session.env.history.session.length =
          job.session.env.history.session.length -
            min n job.session.env.history.session.length := by
        rw [hcount, skipped_of_isCount hword hn htotal]
        omega
      rwa [hskip] at hlists ⊢
    · rwa [skipped_of_not_isCount hzero] at hlists ⊢

/-- A command with three entries in the history of its session, and a buffer for its output. -/
def threeJob : Job where
  session :=
    { env := { directory := "/", history := { session := ["a", "b", "c"] } }
      world := { files := .empty } }
  stdout := .buffer []
  stderr := .channel .terminalError

/-- The last two entries, and more entries than a number can count. -/
theorem history_lists_three :
    threeJob.session.env.history.session.length < 2 ^ 63 ∧ threeJob.stdout.refuses = false ∧
      IsCount "+0002" 2 ∧ IsCount "18446744073709551617" 18446744073709551617 ∧
      (∃ output job', (run (.history { count := some "+0002" })).run.run threeJob = (.ok 0, job') ∧
        Outputs threeJob (Text.encode output) job' ∧ Lists ["a", "b", "c"] 1 output) ∧
      ∃ output job',
        (run (.history { count := some "18446744073709551617" })).run.run threeJob = (.ok 0, job') ∧
        Outputs threeJob (Text.encode output) job' ∧ Lists ["a", "b", "c"] 0 output := by
  have hlength : threeJob.session.env.history.session.length < 2 ^ 63 := by decide
  have hout : threeJob.stdout.refuses = false := rfl
  have htwo : IsCount "+0002" 2 :=
    ⟨"0002".toList, by decide, List.all_eq_true.mp (by decide), .inr (by decide), by decide⟩
  have hmany : IsCount "18446744073709551617" 18446744073709551617 :=
    ⟨"18446744073709551617".toList, by decide, List.all_eq_true.mp (by decide), .inl rfl,
      by decide⟩
  obtain ⟨-, -, hlists⟩ := history_lists hlength hout
  obtain ⟨output, job', hrun, houtputs, hlast, -⟩ := hlists { count := some "+0002" } rfl rfl rfl
  obtain ⟨output', job'', hrun', houtputs', hall, -⟩ :=
    hlists { count := some "18446744073709551617" } rfl rfl rfl
  exact ⟨hlength, hout, htwo, hmany, ⟨output, job', hrun, houtputs, hlast _ 2 rfl htwo (by decide)⟩,
    output', job'', hrun', houtputs', hall _ _ rfl hmany (by decide)⟩

end Builtin
end CommandShell
