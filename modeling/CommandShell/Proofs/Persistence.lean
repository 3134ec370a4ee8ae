/-
# What a history file is given

What stands in the history file after a run (`History.Run`), whatever the run was, as long as nobody
else writes to that file.

* **On exit.**  If `history -a` and `history -w` go to other files, the file is given the lines that
  came before the last flush that succeeded, each once and in order, however often a flush was
  repeated or failed (`saved_exactly_once`).  If `history -a` goes to the history file itself, there
  are two accounts of one file, and a line is written on each: no line is lost, but each is written
  only once exactly if no `history -a` found anything in the session (`written_once_iff`,
  `written_twice`).
* **Immediately.**  The file is given the lines that could be appended when they were recorded.  A
  line that could not is never written later, so the file has all lines exactly if none failed
  (`recorded_iff`, `passed_over`).
-/
import CommandShell.Proofs.HistoryRun
import CommandShell.Proofs.Reload
import Mathlib.Data.List.Flatten

namespace CommandShell.History

open FileSystem

variable {fs fs' fs₀ : FileSystem} {base base₀ loc : Location} {path : String}
  {h h' h₀ : History} {log : List Event} {e : Event} {ws ws' lines : List String}

theorem content_congr (hsame : fs'.node? loc = fs.node? loc) :
    fs'.content loc = fs.content loc := by
  simp only [content, hsame]

/-! ## 1. Lines that are saved -/

/-- Whether the event is a flush that succeeded. -/
def Event.saves (e : Event) : Bool :=
  match e.request with
  | .flush => e.done
  | _ => false

theorem Event.saves_failed (r : Request) (found lines : List String) :
    Event.saves ⟨r, found, lines, false⟩ = false := by
  cases r <;> rfl

/-- The lines that came before the last flush that succeeded. -/
def saved (log : List Event) : List String := entered (log.rdropWhile (!·.saves))

/-- The lines that came since then. -/
def unsaved (log : List Event) : List String := entered (log.rtakeWhile (!·.saves))

theorem saved_concat (log : List Event) (e : Event) :
    saved (log ++ [e]) = if e.saves then entered (log ++ [e]) else saved log := by
  rw [saved, List.rdropWhile_concat]
  cases e.saves <;> rfl

/-- A flush that succeeds saves all lines that came. -/
theorem saved_concat_flush (hsaves : e.saves = true) (hnone : e.lines = []) :
    saved (log ++ [e]) = entered log := by
  rw [saved_concat, if_pos hsaves, entered_concat, hnone, List.append_nil]

theorem saved_concat_other (hsaves : e.saves = false) :
    saved (log ++ [e]) = saved log := by
  rw [saved_concat, hsaves]
  rfl

/-- Every line that came is on one of the two sides. -/
theorem saved_append_unsaved (log : List Event) : saved log ++ unsaved log = entered log := by
  rw [saved, unsaved, entered, entered, ← List.flatMap_append, List.rdropWhile_append_rtakeWhile]
  rfl

/-- What the history of a run has not flushed are the unsaved lines. -/
theorem drop_flushed (hsession : h.session = h₀.session ++ entered log)
    (hflushed : h.flushed = h₀.session.length + (saved log).length) :
    h.session.drop h.flushed = unsaved log := by
  rw [hsession, hflushed, ← saved_append_unsaved, ← List.append_assoc, ← List.length_append,
    List.drop_left]

/-- A history that is loaded has flushed the session it starts with, which is empty in immediate
mode, and has appended nothing anywhere. -/
theorem kept_of_load {mode : PersistMode} (hload : load fs₀ base₀ path mode = .ok h₀) :
    h₀.file = some (path, mode) ∧ h₀.flushed = h₀.session.length ∧ (∀ p, h₀.mark p = 0) ∧
      (mode = .immediate → h₀.session = []) := by
  obtain ⟨lines, -, rfl⟩ := load_eq_ok hload
  refine ⟨rfl, rfl, fun p => by simp [mark], ?_⟩
  rintro rfl
  rfl

/-- The history file is refused only when it cannot be opened. -/
theorem appendLines_error {failure : Failure}
    (hlead : fs.LeadsTo base path loc) (hregular : IsFileOrNone (fs.node? loc))
    (h : appendLines fs base path lines = .error failure) :
    ∃ fault, fs.openForWriting base path .append = .error fault ∧
      failure = .history path .opening fault := by
  unfold appendLines at h
  split at h
  next fault hopen => exact ⟨fault, hopen, (Except.error.inj h).symm⟩
  next target opened hopen =>
    obtain ⟨place, hc, hcases⟩ := openForWriting_append hopen
    obtain rfl := hlead place hc
    rcases hcases with ⟨d, hd, -, -⟩ | ⟨n, -, rfl, -⟩ | ⟨-, rfl, -⟩
    · rw [hd] at hregular
      exact hregular.elim
    · cases h
    · cases h

/-! ## 2. What is written -/

/-- What has come to stand in the history file: lines behind what it held at the start. -/
structure Appended (loc : Location) (fs₀ fs : FileSystem) (lines : List String) : Prop where
  content : fs.content loc = fs₀.content loc ++ Text.encode (Text.unlines lines)
  regular : IsFileOrNone (fs.node? loc)

theorem Appended.start (hregular : IsFileOrNone (fs₀.node? loc)) : Appended loc fs₀ fs₀ [] where
  content := by simp [Text.unlines]
  regular := hregular

theorem Appended.congr (h : Appended loc fs₀ fs ws)
    (hsame : fs'.node? loc = fs.node? loc) : Appended loc fs₀ fs' ws where
  content := (content_congr hsame).trans h.content
  regular := hsame ▸ h.regular

/-- Lines that are appended stand behind those that were. -/
theorem Appended.more (h : Appended loc fs₀ fs ws)
    (hmore : fs'.content loc = fs.content loc ++ Text.encode (Text.unlines lines) ∧
      IsFileOrNone (fs'.node? loc)) : Appended loc fs₀ fs' (ws ++ lines) where
  content := by
    rw [hmore.1, h.content, List.append_assoc, ← Text.encode_append, ← Text.unlines_append]
  regular := hmore.2

/-- Which of two lists of lines was appended is seen in the file if one is a part of the other. -/
theorem Appended.content_eq_iff (h : Appended loc fs₀ fs ws)
    (hsub : lines.Sublist ws ∨ ws.Sublist lines) :
    fs.content loc = fs₀.content loc ++ Text.encode (Text.unlines lines) ↔ ws = lines := by
  rw [h.content, List.append_cancel_left_eq]
  constructor
  · intro heq
    rcases hsub with hsub | hsub
    · exact (Text.eq_of_encode_unlines hsub heq.symm).symm
    · exact Text.eq_of_encode_unlines hsub heq
  · intro heq
    rw [heq]

/-- What was written, together with the account that the flushes keep of it. -/
structure Account (loc : Location) (h₀ : History) (fs₀ : FileSystem) (log : List Event)
    (h : History) (fs : FileSystem) (ws : List String) : Prop extends Appended loc fs₀ fs ws where
  flushed : h.flushed = h₀.session.length + (saved log).length

/-- The account after a request that is no flush that succeeds, whatever else was written. -/
theorem Account.keep (hs : Account loc h₀ fs₀ log h fs ws)
    (hsaves : e.saves = false) (hflushed : h'.flushed = h.flushed)
    (hwritten : Appended loc fs₀ fs' ws') : Account loc h₀ fs₀ (log ++ [e]) h' fs' ws' where
  toAppended := hwritten
  flushed := by rw [hflushed, hs.flushed, saved_concat_other hsaves]

/-- A flush that succeeds writes the unsaved lines. -/
theorem Account.flush (hs : Account loc h₀ fs₀ log h fs ws)
    (hsaves : e.saves = true) (hnone : e.lines = [])
    (hsession : h.session = h₀.session ++ entered log) (hlead : fs.LeadsTo base path loc)
    (ha : appendPending fs base path (h.session.drop h.flushed) = .ok fs') :
    Account loc h₀ fs₀ (log ++ [e]) { h with flushed := h.session.length } fs'
      (ws ++ unsaved log) where
  toAppended := by
    rw [drop_flushed hsession hs.flushed] at ha
    exact hs.more (content_appendPending hlead hs.regular ha)
  flushed := by
    rw [saved_concat_flush hsaves hnone, ← List.length_append, ← hsession]

/-! ## 3. A file that only the flushes write to -/

/-- Which requests leave the history file to the flushes: those that write to files do so
elsewhere.  A flush may find that the file cannot be opened. -/
def Request.KeepsApart (path : String) (loc : Location) (fs : FileSystem) (base : Location) :
    Request → Prop
  | .add _ => True
  | .extend _ => True
  | .readFrom _ => True
  | .writeTo other => fs.locateForCreation base other ≠ .ok loc
  | .appendNewTo other => fs.locateForCreation base other ≠ .ok loc
  | .flush => fs.LeadsTo base path loc

/-- A request that leaves the file alone, and is no flush that succeeds. -/
theorem Account.keep_apart (hs : Account loc h₀ fs₀ log h fs (saved log))
    (hsaves : e.saves = false) (hflushed : h'.flushed = h.flushed)
    (hsame : fs'.node? loc = fs.node? loc) :
    Account loc h₀ fs₀ (log ++ [e]) h' fs' (saved (log ++ [e])) := by
  rw [saved_concat_other hsaves]
  exact hs.keep hsaves hflushed (hs.congr hsame)

/-- **A request keeps the account**, and what is written is what is saved. -/
theorem Account.served_apart {r : Request} {result : Except Failure FileSystem}
    (hs : Account loc h₀ fs₀ log h fs (saved log)) (hfile : h.file = some (path, .onExit))
    (hsession : h.session = h₀.session ++ entered log)
    (hallowed : r.KeepsApart path loc fs base) (hr : Served h fs base r h' result) :
    Account loc h₀ fs₀ (log ++ [⟨r, h.session, r.lines fs base, result.isOk⟩]) h'
      (filesAfter fs result) (saved (log ++ [⟨r, h.session, r.lines fs base, result.isOk⟩])) := by
  cases hr with
  | added | extended | reread => exact hs.keep_apart rfl rfl rfl
  | saved hf | unsaved hf => simp [hfile] at hf
  | unkept hf => exact absurd hfile (hf path)
  | wrote hw => exact hs.keep_apart rfl rfl (replaceLines_elsewhere hallowed hw)
  | appended ha => exact hs.keep_apart rfl rfl (appendPending_elsewhere hallowed ha)
  | refused => exact hs.keep_apart (Event.saves_failed ..) rfl rfl
  | @flushed path' files hf ha =>
    obtain rfl : path' = path := by simpa [hfile] using hf.symm
    rw [saved_concat_flush rfl rfl, ← saved_append_unsaved]
    exact hs.flush rfl rfl hsession hallowed ha

theorem Account.of_run_apart (hload : load fs₀ base₀ path .onExit = .ok h₀)
    (hregular : IsFileOrNone (fs₀.node? loc))
    (hrun : Run loc (Request.KeepsApart path loc) h₀ fs₀ log h fs) :
    Account loc h₀ fs₀ log h fs (saved log) := by
  obtain ⟨hfile, hflushed, -⟩ := kept_of_load hload
  induction hrun with
  | start => exact ⟨.start hregular, hflushed⟩
  | elsewhere _ hsame ih => exact ⟨ih.congr hsame, ih.flushed⟩
  | served hrun hallowed hserve ih =>
    exact ih.served_apart (hrun.file_eq.trans hfile) hrun.session_eq hallowed
      (served_of_serve hserve)

/-- **What is saved on exit is saved exactly once.**  Take any run from a loaded history in which
only flushes write to the history file.  At its end the file holds what it held at its start, and
behind that the lines that came into the session before the last flush that succeeded, in order.
And a flush fails only when the file cannot be opened. -/
theorem saved_exactly_once (hload : load fs₀ base₀ path .onExit = .ok h₀)
    (hregular : IsFileOrNone (fs₀.node? loc))
    (hrun : Run loc (Request.KeepsApart path loc) h₀ fs₀ log h fs) :
    h.session = h₀.session ++ entered log ∧
      fs.content loc = fs₀.content loc ++ Text.encode (Text.unlines (saved log)) ∧
      ∀ base failure, fs.LeadsTo base path loc → (h.flush fs base).2 = .error failure →
        ∃ fault, fs.openForWriting base path .append = .error fault ∧
          failure = .history path .opening fault := by
  have hs := Account.of_run_apart hload hregular hrun
  have hfile : h.file = some (path, .onExit) := hrun.file_eq.trans (kept_of_load hload).1
  refine ⟨hrun.session_eq, hs.content, ?_⟩
  intro base failure hlead hflush
  have happend : appendPending fs base path (h.session.drop h.flushed) = .error failure := by
    simp only [flush, hfile] at hflush
    split at hflush
    next => cases hflush
    next f ha => rw [ha, Except.error.inj hflush]
  unfold appendPending at happend
  split at happend
  · cases happend
  · exact appendLines_error hlead hs.regular happend

/-- A machine with a history file in a directory, and a link in its root. -/
def linked (text target : String) : FileSystem :=
  ((FileSystem.empty.set ["d"] .directory).set ["d", "h"] (.file (Text.encode text) false)).set
    ["l"] (.link target)

/-- The history that is loaded from a file with some entries. -/
def loadedFrom (path : String) (entries : List String) : History :=
  { file := some (path, .onExit), session := entries, recalled := entries,
    flushed := entries.length }

/-- A flush that fails while the link leads nowhere, and is repeated. -/
theorem saved_exactly_once_retried :
    ∃ h₀ log h fs, load (linked "a\n" "/d") [] "/l/h" .onExit = .ok h₀ ∧
      IsFileOrNone ((linked "a\n" "/d").node? ["d", "h"]) ∧
      Run ["d", "h"] (Request.KeepsApart "/l/h" ["d", "h"]) h₀ (linked "a\n" "/d") log h fs ∧
      log.map Event.done = [true, false, true] ∧ saved log = ["b"] ∧
      fs.content ["d", "h"] = Text.encode "a\nb\n" := by
  have hload : load (linked "a\n" "/d") [] "/l/h" .onExit = .ok (loadedFrom "/l/h" ["a"]) := by rfl
  have hregular : IsFileOrNone ((linked "a\n" "/d").node? ["d", "h"]) := trivial
  have hstart : Run ["d", "h"] (Request.KeepsApart "/l/h" ["d", "h"]) (loadedFrom "/l/h" ["a"])
      (linked "a\n" "/d") [] (loadedFrom "/l/h" ["a"]) (linked "a\n" "/d") := .start
  have hadded := hstart.next [] (.add "b") trivial
  have hgone := hadded.elsewhere (show (linked "a\n" "/gone").node? ["d", "h"] = _ from rfl)
  have hfailed := hgone.next [] .flush (fun target h => by cases h)
  have hback := hfailed.elsewhere (show (linked "a\n" "/d").node? ["d", "h"] = _ from rfl)
  have hrun := hback.next [] .flush (fun target h => (Except.ok.inj h).symm)
  obtain ⟨-, hcontent, -⟩ := saved_exactly_once hload hregular hrun
  refine ⟨_, _, _, _, hload, hregular, hrun, rfl, rfl, ?_⟩
  rw [hcontent]
  rfl

/-! ## 4. A file that is written on two accounts -/

/-- Which requests write to the history file if they write to any. -/
def Request.SharesFile (path : String) (loc : Location) (fs : FileSystem) (base : Location) :
    Request → Prop
  | .add _ => True
  | .extend _ => True
  | .readFrom _ => True
  | .writeTo _ => False
  | .appendNewTo other => fs.LeadsTo base other loc
  | .flush => fs.LeadsTo base path loc

/-- Whether the event is a `history -a` that succeeded, and found something in the session. -/
def Event.copies (e : Event) : Bool :=
  match e.request with
  | .appendNewTo _ => e.done && !e.found.isEmpty
  | _ => false

theorem Event.copies_failed (r : Request) (found lines : List String) :
    Event.copies ⟨r, found, lines, false⟩ = false := by
  cases r <;> rfl

theorem copies_concat (log : List Event) (e : Event) :
    (∀ e' ∈ log ++ [e], e'.copies = false) ↔
      (∀ e' ∈ log, e'.copies = false) ∧ e.copies = false := by
  rw [List.forall_mem_append, List.forall_mem_singleton]

/-- What both accounts come to.  The lines that are saved are all among those that are written, and
are all of these as long as nothing was copied; until then no other account has been opened. -/
structure Accounts (loc : Location) (h₀ : History) (fs₀ : FileSystem) (log : List Event)
    (h : History) (fs : FileSystem) (ws : List String) : Prop
    extends Account loc h₀ fs₀ log h fs ws where
  kept : (saved log).Sublist ws
  exact_iff : ws = saved log ↔ ∀ e ∈ log, e.copies = false
  unmarked : (∀ e ∈ log, e.copies = false) → ∀ p, h.mark p = 0

theorem Accounts.keep (hs : Accounts loc h₀ fs₀ log h fs ws) (hsaves : e.saves = false)
    (hcopies : e.copies = false) (hflushed : h'.flushed = h.flushed)
    (hmarks : (∀ p, h.mark p = 0) → ∀ p, h'.mark p = 0) :
    Accounts loc h₀ fs₀ (log ++ [e]) h' fs ws where
  toAccount := hs.toAccount.keep hsaves hflushed hs.toAppended
  kept := by
    rw [saved_concat_other hsaves]
    exact hs.kept
  exact_iff := by
    rw [saved_concat_other hsaves, copies_concat, hs.exact_iff]
    exact (and_iff_left hcopies).symm
  unmarked := by
    intro hnone
    exact hmarks (hs.unmarked ((copies_concat log e).mp hnone).1)

theorem Accounts.flush (hs : Accounts loc h₀ fs₀ log h fs ws) (hsaves : e.saves = true)
    (hcopies : e.copies = false) (hnone : e.lines = [])
    (hsession : h.session = h₀.session ++ entered log) (hlead : fs.LeadsTo base path loc)
    (ha : appendPending fs base path (h.session.drop h.flushed) = .ok fs') :
    Accounts loc h₀ fs₀ (log ++ [e]) { h with flushed := h.session.length } fs'
      (ws ++ unsaved log) where
  toAccount := hs.toAccount.flush hsaves hnone hsession hlead ha
  kept := by
    rw [saved_concat_flush hsaves hnone, ← saved_append_unsaved]
    exact hs.kept.append (List.Sublist.refl _)
  exact_iff := by
    rw [saved_concat_flush hsaves hnone, ← saved_append_unsaved, List.append_cancel_right_eq,
      copies_concat, hs.exact_iff]
    exact (and_iff_left hcopies).symm
  unmarked hall := hs.unmarked ((copies_concat log e).mp hall).1

/-- What is counted for a path when files with some components have been appended to. -/
theorem mark_insert (h : History) (key : List String) (n : Nat) (p : String) :
    { h with marks := h.marks.insert key n }.mark p =
      if key = Path.components p then n else h.mark p := by
  simp [mark, Std.ExtTreeMap.getD_insert]

/-- An account that is opened at zero is as good as none. -/
theorem mark_insert_zero (hmarks : ∀ p, h.mark p = 0) (key : List String) (p : String) :
    { h with marks := h.marks.insert key 0 }.mark p = 0 := by
  rw [mark_insert]
  split
  · rfl
  · exact hmarks p

/-- A `history -a` that finds nothing in the session. -/
theorem Accounts.append_nothing (hs : Accounts loc h₀ fs₀ log h fs ws) (hempty : h.session = []) :
    Accounts loc h₀ fs₀ (log ++ [⟨.appendNewTo path, h.session, lines, true⟩])
      { h with marks := h.marks.insert (Path.components path) h.session.length } fs ws := by
  refine hs.keep rfl ?_ rfl ?_
  · simp [Event.copies, hempty]
  · intro hmarks
    rw [hempty]
    exact mark_insert_zero hmarks (Path.components path)

/-- A `history -a` that succeeds with something in the session.  As long as nothing was copied, it
writes the whole session, which is not saved by this. -/
theorem Accounts.append (hs : Accounts loc h₀ fs₀ log h fs ws) (hsome : h.session ≠ [])
    (hlead : fs.LeadsTo base path loc)
    (ha : appendPending fs base path (h.session.drop (h.mark path)) = .ok fs') :
    Accounts loc h₀ fs₀ (log ++ [⟨.appendNewTo path, h.session, lines, true⟩])
      { h with marks := h.marks.insert (Path.components path) h.session.length } fs'
      (ws ++ h.session.drop (h.mark path)) := by
  have hcopied : ¬ ∀ e ∈ log ++ [⟨.appendNewTo path, h.session, lines, true⟩],
      e.copies = false := by
    rw [copies_concat]
    intro hnone
    simp [Event.copies, hsome] at hnone
  constructor
  · exact hs.toAccount.keep rfl rfl (hs.more (content_appendPending hlead hs.regular ha))
  · rw [saved_concat_other rfl]
    exact hs.kept.trans (List.sublist_append_left _ _)
  · rw [saved_concat_other rfl]
    refine iff_of_false (fun heq => ?_) hcopied
    have hsub : ws.Sublist (saved log) := heq ▸ List.sublist_append_left ws _
    have hws : ws = saved log := hsub.antisymm hs.kept
    have hmark := hs.unmarked (hs.exact_iff.mp hws) path
    rw [hws, hmark, List.drop_zero] at heq
    exact hsome (List.append_right_eq_self.mp heq)
  · intro hnone
    exact absurd hnone hcopied

/-- **A request keeps both accounts.** -/
theorem Accounts.served {r : Request} {result : Except Failure FileSystem}
    (hs : Accounts loc h₀ fs₀ log h fs ws) (hfile : h.file = some (path, .onExit))
    (hsession : h.session = h₀.session ++ entered log)
    (hallowed : r.SharesFile path loc fs base) (hr : Served h fs base r h' result) :
    ∃ ws', Accounts loc h₀ fs₀ (log ++ [⟨r, h.session, r.lines fs base, result.isOk⟩]) h'
      (filesAfter fs result) ws' := by
  cases hr with
  | added | extended | reread => exact ⟨ws, hs.keep rfl rfl rfl id⟩
  | saved hf | unsaved hf => simp [hfile] at hf
  | unkept hf => exact absurd hfile (hf path)
  | wrote => exact hallowed.elim
  | @appended other files ha =>
    by_cases hempty : h.session = []
    · obtain rfl : fs = files := by simpa [hempty, appendPending] using ha
      exact ⟨ws, hs.append_nothing hempty⟩
    · exact ⟨_, hs.append hempty hallowed ha⟩
  | refused => exact ⟨ws, hs.keep (Event.saves_failed ..) (Event.copies_failed ..) rfl id⟩
  | @flushed path' files hf ha =>
    obtain rfl : path' = path := by simpa [hfile] using hf.symm
    exact ⟨_, hs.flush rfl rfl rfl hsession hallowed ha⟩

theorem Accounts.of_run (hload : load fs₀ base₀ path .onExit = .ok h₀)
    (hregular : IsFileOrNone (fs₀.node? loc))
    (hrun : Run loc (Request.SharesFile path loc) h₀ fs₀ log h fs) :
    ∃ ws, Accounts loc h₀ fs₀ log h fs ws := by
  obtain ⟨hfile, hflushed, hmarks, -⟩ := kept_of_load hload
  induction hrun with
  | start =>
    have hexact : [] = saved [] ↔ ∀ e ∈ ([] : List Event), e.copies = false :=
      iff_of_true rfl (List.forall_mem_nil _)
    exact ⟨[], ⟨.start hregular, hflushed⟩, List.Sublist.refl _, hexact, fun _ => hmarks⟩
  | elsewhere _ hsame ih =>
    obtain ⟨ws, hs⟩ := ih
    exact ⟨ws, ⟨⟨hs.congr hsame, hs.flushed⟩, hs.kept, hs.exact_iff, hs.unmarked⟩⟩
  | served hrun hallowed hserve ih =>
    obtain ⟨ws, hs⟩ := ih
    exact hs.served (hrun.file_eq.trans hfile) hrun.session_eq hallowed (served_of_serve hserve)

/-- What both accounts come to at the end, right after a flush that succeeds. -/
theorem Accounts.of_flush (hs : Accounts loc h₀ fs₀ (log ++ [e]) h fs ws)
    (hsaves : e.saves = true) (hcopies : e.copies = false) (hnone : e.lines = []) :
    (entered log).Sublist ws ∧
      (fs.content loc = fs₀.content loc ++ Text.encode (Text.unlines (entered log)) ↔
        ∀ e' ∈ log, e'.copies = false) := by
  have hsaved : saved (log ++ [e]) = entered log := saved_concat_flush hsaves hnone
  have hkept : (entered log).Sublist ws := hsaved ▸ hs.kept
  refine ⟨hkept, ?_⟩
  calc fs.content loc = fs₀.content loc ++ Text.encode (Text.unlines (entered log))
      ↔ ws = entered log := hs.toAppended.content_eq_iff (.inl hkept)
    _ ↔ ws = saved (log ++ [e]) := by rw [hsaved]
    _ ↔ ∀ e' ∈ log ++ [e], e'.copies = false := hs.exact_iff
    _ ↔ ∀ e' ∈ log, e'.copies = false := by
      rw [copies_concat]
      exact and_iff_left hcopies

/-- **When each line is written only once.**  Take any run from a loaded history in which
`history -a` and the flushes write to the history file, and a flush that succeeds at its end.  The
file then holds what it held at the start, and behind that all lines that came into the session, in
order, but with others among them: it holds exactly these lines if and only if no `history -a` has
found anything in the session. -/
theorem written_once_iff (hload : load fs₀ base₀ path .onExit = .ok h₀)
    (hregular : IsFileOrNone (fs₀.node? loc))
    (hrun : Run loc (Request.SharesFile path loc) h₀ fs₀ log h fs)
    (hlead : fs.LeadsTo base path loc) (hflush : h.flush fs base = (h', .ok fs')) :
    (∃ ws, fs'.content loc = fs₀.content loc ++ Text.encode (Text.unlines ws) ∧
        (entered log).Sublist ws) ∧
      (fs'.content loc = fs₀.content loc ++ Text.encode (Text.unlines (entered log)) ↔
        ∀ e ∈ log, e.copies = false) := by
  obtain ⟨ws, hs⟩ :=
    Accounts.of_run hload hregular (hrun.served (r := .flush) hlead hflush)
  obtain ⟨hkept, hiff⟩ := hs.of_flush rfl rfl rfl
  exact ⟨⟨ws, hs.content, hkept⟩, hiff⟩

/-- A `history -a` before the first line, with a history file that does not exist yet. -/
theorem written_once_iff_early :
    ∃ log h h' fs fs', load FileSystem.empty [] "/h" .onExit = .ok (loadedFrom "/h" []) ∧
      IsFileOrNone (FileSystem.empty.node? ["h"]) ∧
      Run ["h"] (Request.SharesFile "/h" ["h"]) (loadedFrom "/h" []) FileSystem.empty log h fs ∧
      fs.LeadsTo [] "/h" ["h"] ∧ h.flush fs [] = (h', .ok fs') ∧
      (∀ e ∈ log, e.copies = false) ∧ entered log = ["b"] ∧
      fs'.content ["h"] = Text.encode "b\n" := by
  have hload : load FileSystem.empty [] "/h" .onExit = .ok (loadedFrom "/h" []) := by rfl
  have hregular : IsFileOrNone (FileSystem.empty.node? ["h"]) := trivial
  have hlead : FileSystem.empty.LeadsTo [] "/h" ["h"] := fun target h => (Except.ok.inj h).symm
  have hstart : Run ["h"] (Request.SharesFile "/h" ["h"]) (loadedFrom "/h" []) FileSystem.empty
      [] (loadedFrom "/h" []) FileSystem.empty := .start
  have happended := hstart.next [] (.appendNewTo "/h") hlead
  have hrun := happended.next [] (.add "b") trivial
  obtain ⟨-, hiff⟩ := written_once_iff hload hregular hrun hlead rfl
  have hexact := hiff.mpr (by decide)
  exact ⟨_, _, _, _, _, hload, hregular, hrun, hlead, rfl, by decide, rfl, hexact⟩

/-- **Lines are written twice:** `history -a` writes the line that came and the one that was loaded,
and the flush writes the former once more. -/
theorem written_twice :
    ∃ log h h' fs fs', load (kept "a\n") [] "/h" .onExit = .ok (loadedFrom "/h" ["a"]) ∧
      Run ["h"] (Request.SharesFile "/h" ["h"]) (loadedFrom "/h" ["a"]) (kept "a\n") log h fs ∧
      h.flush fs [] = (h', .ok fs') ∧ entered log = ["b"] ∧
      fs'.content ["h"] = Text.encode "a\na\nb\nb\n" := by
  have hload : load (kept "a\n") [] "/h" .onExit = .ok (loadedFrom "/h" ["a"]) := by rfl
  have hlead : (kept "a\n").LeadsTo [] "/h" ["h"] := fun target h => (Except.ok.inj h).symm
  have hstart : Run ["h"] (Request.SharesFile "/h" ["h"]) (loadedFrom "/h" ["a"]) (kept "a\n")
      [] (loadedFrom "/h" ["a"]) (kept "a\n") := .start
  have hadded := hstart.next [] (.add "b") trivial
  have hrun := hadded.next [] (.appendNewTo "/h") hlead
  exact ⟨_, _, _, _, _, hload, hrun, rfl, rfl, by rfl⟩

/-! ## 5. A file that takes every line at once -/

/-- Which requests only record lines.  A line may find that the history file cannot be opened. -/
def Request.OnlyRecords (path : String) (loc : Location) (fs : FileSystem) (base : Location) :
    Request → Prop
  | .add _ => fs.LeadsTo base path loc
  | .extend _ => False
  | .readFrom _ => False
  | .writeTo _ => False
  | .appendNewTo _ => False
  | .flush => True

/-- The lines of the requests that succeeded. -/
def recorded (log : List Event) : List String := entered (log.filter Event.done)

/-- They are some of the lines that came. -/
theorem recorded_sublist (log : List Event) : (recorded log).Sublist (entered log) :=
  List.filter_sublist.flatMap Event.lines

theorem recorded_concat_done (log : List Event) (hdone : e.done = true) :
    recorded (log ++ [e]) = recorded log ++ e.lines := by
  simp [recorded, List.filter_append, hdone]

theorem recorded_concat_failed (log : List Event) (hfailed : e.done = false) :
    recorded (log ++ [e]) = recorded log := by
  simp [recorded, List.filter_append, hfailed]

/-- What stands in the history file when every line is to be written at once. -/
structure Recorded (loc : Location) (fs₀ : FileSystem) (log : List Event) (fs : FileSystem) : Prop
    extends Appended loc fs₀ fs (recorded log) where
  exact_iff : recorded log = entered log ↔ ∀ e ∈ log, e.done = true

theorem Recorded.done (hs : Recorded loc fs₀ log fs) (hdone : e.done = true)
    (hwritten : Appended loc fs₀ fs' (recorded log ++ e.lines)) :
    Recorded loc fs₀ (log ++ [e]) fs' where
  toAppended := by
    rw [recorded_concat_done log hdone]
    exact hwritten
  exact_iff := by
    rw [recorded_concat_done log hdone, entered_concat, List.append_cancel_right_eq,
      List.forall_mem_append, List.forall_mem_singleton, hs.exact_iff]
    exact (and_iff_left hdone).symm

/-- A request that fails, and brought a line: this line is missing from now on. -/
theorem Recorded.failed (hs : Recorded loc fs₀ log fs) (hfailed : e.done = false)
    (hsome : e.lines ≠ []) : Recorded loc fs₀ (log ++ [e]) fs where
  toAppended := by
    rw [recorded_concat_failed log hfailed]
    exact hs.toAppended
  exact_iff := by
    have hle := (recorded_sublist log).length_le
    have hpos := List.length_pos_iff.mpr hsome
    have hless : (recorded log).length < (entered (log ++ [e])).length := by
      rw [entered_concat, List.length_append]
      omega
    rw [recorded_concat_failed log hfailed]
    refine iff_of_false (fun heq => ?_) (fun hall => ?_)
    · exact Nat.lt_irrefl _ (heq ▸ hless)
    · exact absurd (hall e (by simp)) (by simp [hfailed])

/-- **A request writes its line now or never.** -/
theorem Recorded.served {r : Request} {result : Except Failure FileSystem}
    (hs : Recorded loc fs₀ log fs) (hfile : h.file = some (path, .immediate))
    (hallowed : r.OnlyRecords path loc fs base) (hserve : r.serve h fs base = (h', result)) :
    Recorded loc fs₀ (log ++ [⟨r, h.session, r.lines fs base, result.isOk⟩])
      (filesAfter fs result) := by
  cases r with
  | add line =>
    cases served_of_serve hserve with
    | added hf => exact absurd hfile (hf path)
    | @saved _ path' files hf ha =>
      obtain rfl : path' = path := by simpa [hfile] using hf.symm
      exact hs.done rfl (hs.more (content_appendLines hallowed hs.regular ha))
    | unsaved => exact hs.failed rfl (List.cons_ne_nil line [])
    | refused hnone => exact absurd hnone (List.cons_ne_nil line [])
  | flush =>
    obtain ⟨rfl, rfl⟩ : h = h' ∧ .ok fs = result := by
      simpa [Request.serve, flush, hfile] using hserve
    have hnothing : Appended loc fs₀ fs (recorded log ++ []) := by simpa using hs.toAppended
    exact hs.done rfl hnothing
  | extend | readFrom | writeTo | appendNewTo => exact hallowed.elim

/-- **When the history file has every line.**  Take any run from a loaded history that takes lines
at once.  The file then holds what it held at the start, and behind that, in order, the lines that
could be appended when they came.  It holds all lines of the session exactly if none failed: a line
that could not be appended is not made up for.  And a line fails only when the file cannot be
opened. -/
theorem recorded_iff (hload : load fs₀ base₀ path .immediate = .ok h₀)
    (hregular : IsFileOrNone (fs₀.node? loc))
    (hrun : Run loc (Request.OnlyRecords path loc) h₀ fs₀ log h fs) :
    h.session = entered log ∧
      fs.content loc = fs₀.content loc ++ Text.encode (Text.unlines (recorded log)) ∧
      (fs.content loc = fs₀.content loc ++ Text.encode (Text.unlines (entered log)) ↔
        ∀ e ∈ log, e.done = true) ∧
      ∀ base line failure, fs.LeadsTo base path loc → (h.add fs base line).2 = .error failure →
        ∃ fault, fs.openForWriting base path .append = .error fault ∧
          failure = .history path .opening fault := by
  obtain ⟨hfile, -, -, hempty⟩ := kept_of_load hload
  have hs : Recorded loc fs₀ log fs := by
    induction hrun with
    | start => exact ⟨.start hregular, by simp [recorded]⟩
    | elsewhere _ hsame ih => exact ⟨ih.congr hsame, ih.exact_iff⟩
    | served hrun hallowed hserve ih =>
      exact ih.served (hrun.file_eq.trans hfile) hallowed hserve
  refine ⟨?_, hs.content, ?_, ?_⟩
  · rw [hrun.session_eq, hempty rfl, List.nil_append]
  · rw [hs.content_eq_iff (.inr (recorded_sublist log)), hs.exact_iff]
  · intro base line failure hlead hadd
    have hserved := served_add h fs base line
    rw [hadd] at hserved
    generalize (h.add fs base line).1 = h' at hserved
    cases hserved with
    | @unsaved _ path' _ hf ha =>
      obtain rfl : path' = path := by simpa [hrun.file_eq, hfile] using hf.symm
      exact appendLines_error hlead hs.regular ha
    | refused hnone => exact absurd hnone (List.cons_ne_nil line [])

/-- The history that is loaded from a file that is to have every line at once. -/
def listening (path : String) (entries : List String) : History :=
  { file := some (path, .immediate), recalled := entries }

/-- Two lines behind one that was there. -/
theorem recorded_iff_twice :
    ∃ log h fs, load (kept "a\n") [] "/h" .immediate = .ok (listening "/h" ["a"]) ∧
      IsFileOrNone ((kept "a\n").node? ["h"]) ∧
      Run ["h"] (Request.OnlyRecords "/h" ["h"]) (listening "/h" ["a"]) (kept "a\n") log h fs ∧
      (∀ e ∈ log, e.done = true) ∧ entered log = ["b", "c"] ∧
      fs.content ["h"] = Text.encode "a\nb\nc\n" := by
  have hload : load (kept "a\n") [] "/h" .immediate = .ok (listening "/h" ["a"]) := by rfl
  have hregular : IsFileOrNone ((kept "a\n").node? ["h"]) := trivial
  have hstart : Run ["h"] (Request.OnlyRecords "/h" ["h"]) (listening "/h" ["a"]) (kept "a\n")
      [] (listening "/h" ["a"]) (kept "a\n") := .start
  have hfirst := hstart.next [] (.add "b") (fun target h => (Except.ok.inj h).symm)
  have hflush := hfirst.next [] .flush trivial
  have hrun := hflush.next [] (.add "c") (fun target h => (Except.ok.inj h).symm)
  obtain ⟨-, -, hiff, -⟩ := recorded_iff hload hregular hrun
  exact ⟨_, _, _, hload, hregular, hrun, by decide, rfl, hiff.mpr (by decide)⟩

/-- **A line is passed over:** its directory comes too late for it, and the next line is written
alone. -/
theorem passed_over :
    ∃ log h fs, load FileSystem.empty [] "/d/h" .immediate = .ok (listening "/d/h" []) ∧
      Run ["d", "h"] (Request.OnlyRecords "/d/h" ["d", "h"]) (listening "/d/h" [])
        FileSystem.empty log h fs ∧
      log.map Event.done = [false, true, true] ∧ h.session = ["a", "b"] ∧
      fs.content ["d", "h"] = Text.encode "b\n" := by
  have hload : load FileSystem.empty [] "/d/h" .immediate = .ok (listening "/d/h" []) := by rfl
  have hstart : Run ["d", "h"] (Request.OnlyRecords "/d/h" ["d", "h"]) (listening "/d/h" [])
      FileSystem.empty [] (listening "/d/h" []) FileSystem.empty := .start
  have hfailed := hstart.next [] (.add "a") (fun target h => by cases h)
  have hmade := hfailed.elsewhere
    (show (FileSystem.empty.set ["d"] .directory).node? ["d", "h"] = _ from rfl)
  have hsaved := hmade.next [] (.add "b") (fun target h => (Except.ok.inj h).symm)
  have hrun := hsaved.next [] .flush trivial
  exact ⟨_, _, _, hload, hrun, rfl, rfl, by rfl⟩

end CommandShell.History
