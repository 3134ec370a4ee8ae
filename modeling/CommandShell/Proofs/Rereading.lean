/-
# Sessions that are written and read again

A session is written to a file by its lines, each with a line feed behind it, and a file is read by
its lines that are not empty.  Reading gives the session back exactly when each entry is one that a
line can hold (`entries_unlines_eq_iff`): what is read is never empty and never holds a line feed,
and an entry that ends with a carriage return is read without it.

A file that was replaced by lines holds them (`holds_replaceLines`), unless the path leads to a
device, which takes what is written and need not keep it.  So writing and reading are inverse to
each other on such entries (`reread_eq_iff`), and on those that were read from a file.
-/
import CommandShell.Proofs.Reload

namespace CommandShell

namespace Text

/-! ## 1. What the lines of a text look like -/

theorem mem_of_mem_dropReturn {c : Char} {s : String} (h : c ∈ (dropReturn s).toList) :
    c ∈ s.toList := by
  rw [dropReturn] at h
  split at h
  · exact List.dropLast_subset _ (by simpa using h)
  · exact h

/-- A text is changed by dropping a carriage return at its end, if it has one there. -/
theorem dropReturn_eq_self_iff {s : String} :
    dropReturn s = s ↔ s.toList.getLast? ≠ some '\r' := by
  rw [dropReturn]
  split_ifs with h
  · have hne : s.toList ≠ [] := by
      rintro hnil
      simp [hnil] at h
    have hshorter : s.toList.dropLast.length < s.toList.length := by
      have := List.length_pos_iff.mpr hne
      simp only [List.length_dropLast]
      omega
    simp only [h, ne_eq, not_true_eq_false, iff_false, ← String.toList_inj, String.toList_ofList]
    exact fun heq => absurd (congrArg List.length heq) (Nat.ne_of_lt hshorter)
  · simp [h]

/-- The lines that are read hold no line feed, if the one begun so far holds none. -/
theorem unbroken_of_mem_linesFrom {line l : String} {cs : List Char}
    (hline : '\n' ∉ line.toList) (h : l ∈ linesFrom line cs) : '\n' ∉ l.toList := by
  induction cs generalizing line with
  | nil =>
    rw [linesFrom] at h
    split at h
    · cases h
    · rwa [List.mem_singleton.mp h]
  | cons c cs ih =>
    rw [linesFrom] at h
    split_ifs at h with hc
    · rcases List.mem_cons.mp h with rfl | h
      · exact fun hmem => hline (mem_of_mem_dropReturn hmem)
      · exact ih (by simp) h
    · exact ih (by simpa using ⟨hline, Ne.symm hc⟩) h

/-- Lines without line feeds inside are read one by one, each without the carriage return at its
end. -/
theorem lines_unlines_of_unbroken {ls : List String} (h : ∀ l ∈ ls, '\n' ∉ l.toList) :
    lines (unlines ls) = ls.map dropReturn := by
  induction ls with
  | nil => rfl
  | cons l ls ih =>
    have hrest : linesFrom "" (unlines ls).toList = ls.map dropReturn :=
      ih fun l hmem => h l (.tail _ hmem)
    have htext : (unlines (l :: ls)).toList = l.toList ++ '\n' :: (unlines ls).toList := by
      simp [unlines]
    rw [lines, htext, linesFrom_unbroken (h l List.mem_cons_self), hrest]
    simp

end Text

namespace History

open FileSystem Text

variable {fs fs' : FileSystem} {base : Location} {path : String}

/-! ## 2. Entries that come back -/

/-- What is read from a file is never empty and holds no line feed. -/
theorem of_mem_entries {text e : String} (h : e ∈ entries text) : e ≠ "" ∧ '\n' ∉ e.toList := by
  obtain ⟨hline, hne⟩ := List.mem_filter.mp h
  exact ⟨by simpa using hne, unbroken_of_mem_linesFrom (by simp) hline⟩

/-- **Lines that are written are read back exactly if each is an entry.** -/
theorem entries_unlines_eq_iff {ls : List String} :
    entries (unlines ls) = ls ↔ ∀ l ∈ ls, IsEntry l := by
  refine ⟨fun h => ?_, entries_unlines⟩
  have hread (l) (hl : l ∈ ls) : l ≠ "" ∧ '\n' ∉ l.toList := of_mem_entries (h ▸ hl)
  -- Nothing is left out, as the lists are equally long, so each line lost no carriage return.
  have hlines : (ls.map dropReturn).filter (· ≠ "") = ls := by
    rw [← lines_unlines_of_unbroken fun l hl => (hread l hl).2]
    exact h
  have hall : (ls.map dropReturn).filter (· ≠ "") = ls.map dropReturn :=
    List.filter_sublist.eq_of_length (by rw [hlines, List.length_map])
  have hsame : ls.map dropReturn = ls.map id := by rw [← hall, hlines, List.map_id]
  exact fun l hl =>
    { unbroken := (hread l hl).2
      noReturn := dropReturn_eq_self_iff.mp (List.map_inj_left.mp hsame l hl)
      nonempty := (hread l hl).1 }

/-! ## 3. Files that are replaced -/

/-- **A file that is replaced by lines holds them**, if it is no device. -/
theorem holds_replaceLines {lines : List String}
    (hdevice : ∀ d, fs.nodeAt? base path ≠ some (.device d))
    (h : replaceLines fs base path lines = .ok fs') :
    fs'.Holds base path (some (unlines lines)) := by
  rcases hc : fs.locateForCreation base path with fault | loc
  · simp [replaceLines, openForWriting, hc, bind, Except.bind] at h
  have hplain := isPlain_of_locateForCreation hc
  suffices ∃ executable, fs' = fs.set loc (.file (Text.encode (unlines lines)) executable) by
    obtain ⟨executable, rfl⟩ := this
    exact ⟨loc, executable, locate_of_created hc (fills_set hplain _ _), node?_set_self ..⟩
  simp only [replaceLines, openForWriting, hc, bind, Except.bind] at h
  cases hn : fs.node? loc with
  | none =>
    refine ⟨false, ?_⟩
    simpa [hn, FileSystem.extend, content, setContent, Except.mapError, set_set, eq_comm] using h
  | some n =>
    cases n with
    | directory => simp [hn, IsPlain] at hplain
    | link text => simp [hn, IsPlain] at hplain
    | device d =>
      have hthere : fs.locate base path = .ok loc :=
        locate_of_created hc ⟨fun _ _ => rfl, hplain, hplain, by simp [hn]⟩
      exact absurd (by simp [nodeAt?, hthere, hn]) (hdevice d)
    | file bytes executable =>
      refine ⟨executable, ?_⟩
      simpa [hn, FileSystem.extend, content, setContent, Except.mapError, set_set, eq_comm]
        using h
    | program utility =>
      refine ⟨true, ?_⟩
      simpa [hn, FileSystem.extend, content, setContent, Except.mapError, set_set, eq_comm]
        using h

/-- What an empty history reads from a file. -/
theorem readFrom_of_holds {text : String} (h : fs.Holds base path (some text)) :
    ({} : History).readFrom fs base path =
      .ok { session := entries text, recalled := entries text } := by
  simp [readFrom, readEntries, readText_of_holds h, Except.map, extend]

/-- What an empty history reads from a file that a session was written to. -/
theorem readFrom_of_writeTo {h : History} (hdevice : ∀ d, fs.nodeAt? base path ≠ some (.device d))
    (hwrite : h.writeTo fs base path = .ok fs') :
    ∃ again, ({} : History).readFrom fs' base path = .ok again ∧
      again.session = entries (unlines h.session) :=
  ⟨_, readFrom_of_holds (holds_replaceLines hdevice hwrite), rfl⟩

/-- **When writing and reading are inverse to each other.**  A session that was written to a file,
which is no device, can be read from it.  An empty history reads the same session exactly if each
entry is not empty, holds no line feed and does not end with a carriage return.  And what is read
from any file that holds a text is the same after it was written and read again, exactly if none of
it ends with a carriage return. -/
theorem reread_eq_iff (fs : FileSystem) (base : Location) (path : String) :
    (∀ (h : History) (fs' : FileSystem), (∀ d, fs.nodeAt? base path ≠ some (.device d)) →
      h.writeTo fs base path = .ok fs' →
      ∃ again, ({} : History).readFrom fs' base path = .ok again ∧
        (again.session = h.session ↔
          ∀ e ∈ h.session, e ≠ "" ∧ '\n' ∉ e.toList ∧ e.toList.getLast? ≠ some '\r')) ∧
    ∀ text, fs.Holds base path (some text) →
      ∃ first, ({} : History).readFrom fs base path = .ok first ∧
        ∀ (base' : Location) (path' : String) (fs' : FileSystem),
          (∀ d, fs.nodeAt? base' path' ≠ some (.device d)) →
          first.writeTo fs base' path' = .ok fs' →
          ∃ again, ({} : History).readFrom fs' base' path' = .ok again ∧
            (again.session = first.session ↔
              ∀ e ∈ first.session, e.toList.getLast? ≠ some '\r') := by
  refine ⟨fun h fs' hdevice hwrite => ?_, fun text htext => ?_⟩
  · obtain ⟨again, hagain, hsession⟩ := readFrom_of_writeTo hdevice hwrite
    refine ⟨again, hagain, ?_⟩
    rw [hsession, entries_unlines_eq_iff]
    exact forall₂_congr fun e _ =>
      ⟨fun he => ⟨he.nonempty, he.unbroken, he.noReturn⟩, fun ⟨h₁, h₂, h₃⟩ => ⟨⟨h₂, h₃⟩, h₁⟩⟩
  · refine ⟨_, readFrom_of_holds htext, fun base' path' fs' hdevice hwrite => ?_⟩
    obtain ⟨again, hagain, hsession⟩ := readFrom_of_writeTo hdevice hwrite
    refine ⟨again, hagain, ?_⟩
    rw [hsession, entries_unlines_eq_iff]
    refine forall₂_congr fun e he => ⟨fun hentry => hentry.noReturn, fun hreturn => ?_⟩
    obtain ⟨hne, hunbroken⟩ := of_mem_entries he
    exact ⟨⟨hunbroken, hreturn⟩, hne⟩

/-- Two entries are written over a file that ends within a line, and what that file held is written
to a new one. -/
theorem reread_eq_iff_kept :
    (∃ fs' again,
      ({ session := ["ls", "pwd "] } : History).writeTo (kept "a\n\nb") [] "/h" = .ok fs' ∧
      ({} : History).readFrom fs' [] "/h" = .ok again ∧ again.session = ["ls", "pwd "]) ∧
    ∃ first fs' again, ({} : History).readFrom (kept "a\n\nb") [] "/h" = .ok first ∧
      first.session = ["a", "b"] ∧ first.writeTo (kept "a\n\nb") [] "/new" = .ok fs' ∧
      ({} : History).readFrom fs' [] "/new" = .ok again ∧ again.session = ["a", "b"] := by
  obtain ⟨hwritten, hread⟩ := reread_eq_iff (kept "a\n\nb") [] "/h"
  have hdevice (path : String) (h : (kept "a\n\nb").nodeAt? [] path = none ∨
      (kept "a\n\nb").nodeAt? [] path = some (.file (Text.encode "a\n\nb") false)) :
      ∀ d, (kept "a\n\nb").nodeAt? [] path ≠ some (.device d) := by
    rcases h with h | h <;> simp [h]
  constructor
  · obtain ⟨again, hagain, hiff⟩ := hwritten { session := ["ls", "pwd "] } _
      (hdevice "/h" (.inr rfl)) rfl
    exact ⟨_, again, rfl, hagain, hiff.mpr (by decide)⟩
  · obtain ⟨first, hfirst, hall⟩ := hread "a\n\nb" ⟨["h"], false, rfl, rfl⟩
    obtain rfl : first = { session := ["a", "b"], recalled := ["a", "b"] } :=
      Except.ok.inj (hfirst.symm.trans rfl)
    obtain ⟨again, hagain, hiff⟩ := hall [] "/new" _ (hdevice "/new" (.inl rfl)) rfl
    exact ⟨_, _, again, hfirst, rfl, rfl, hagain, hiff.mpr (by decide)⟩

/-- **A device need not give back what it takes:** an entry is written to the null device, and
reading it succeeds and gives nothing. -/
theorem reread_ne_of_device :
    ∃ fs again, ({ session := ["a"] } : History).writeTo fs [] "/null" = .ok fs ∧
      ({} : History).readFrom fs [] "/null" = .ok again ∧
      (∀ e ∈ ["a"], IsEntry e) ∧ again.session ≠ ["a"] := by
  refine ⟨FileSystem.empty.set ["null"] (.device .null), {}, rfl, rfl, ?_, by simp⟩
  intro e he
  obtain rfl := List.mem_singleton.mp he
  exact ⟨⟨by decide, by decide⟩, by decide⟩

end History
end CommandShell
