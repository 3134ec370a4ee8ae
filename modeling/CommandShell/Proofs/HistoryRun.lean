/-
# Runs of a history

A history is used by one request after the other (`Request`), while others work on the same machine:
between two requests all files may change but the history file itself, and so a path may lead to
that file at one time and nowhere at another.  `Run` is any such run, with a log that says of every
request which session it found, which lines it brought, and whether it succeeded (`Event`).

What a request does to the session is the same for all histories (`Served.session_eq`).  What it
does to the history file follows from where its path leads: appended lines stand behind what the
file held (`content_appendLines`), and a file that is opened elsewhere leaves it alone
(`appendLines_elsewhere`, `replaceLines_elsewhere`).
-/
import CommandShell.Proofs.HistoryFile
import Mathlib.Data.List.DropRight

namespace CommandShell

namespace FileSystem

variable {fs fs' : FileSystem} {base loc : Location} {path : String}

/-! ## 1. Where files are opened -/

/-- Whether a path is opened for writing at a location, as far as it can be opened at all. -/
def LeadsTo (fs : FileSystem) (base : Location) (path : String) (loc : Location) : Prop :=
  ∀ target, fs.locateForCreation base path = .ok target → target = loc

/-- Nothing yet, or a regular file. -/
def IsFileOrNone : Option Node → Prop
  | none => True
  | some (.file _ _) => True
  | _ => False

/-- A path that is opened leads to a location, and no other location changes. -/
theorem openForWriting_frame {mode : WriteMode} {target : Target}
    (h : fs.openForWriting base path mode = .ok (target, fs')) :
    ∃ place, fs.locateForCreation base path = .ok place ∧
      (target = .file place ∨ ∃ d, target = .device d) ∧
      ∀ other, place ≠ other → fs'.node? other = fs.node? other := by
  have hset : ∀ (place : Location) (bytes : Bytes) (other : Location), place ≠ other →
      (fs.setContent place bytes).node? other = fs.node? other := by
    intro place bytes other hne
    unfold setContent
    split
    · exact node?_set_of_ne fs _ hne
    · exact node?_set_of_ne fs _ hne
    · exact node?_set_of_ne fs _ hne
    · rfl
  unfold openForWriting at h
  rcases hc : fs.locateForCreation base path with fault | place
  · simp [hc, bind, Except.bind] at h
  · refine ⟨place, rfl, ?_⟩
    simp only [hc, bind, Except.bind] at h
    split at h
    next d _ =>
      obtain ⟨rfl, rfl⟩ := Prod.mk.inj (Except.ok.inj h)
      exact ⟨.inr ⟨d, rfl⟩, fun _ _ => rfl⟩
    next =>
      obtain ⟨rfl, rfl⟩ := Prod.mk.inj (Except.ok.inj h)
      exact ⟨.inl rfl, fun _ _ => rfl⟩
    next =>
      obtain ⟨rfl, rfl⟩ := Prod.mk.inj (Except.ok.inj h)
      exact ⟨.inl rfl, hset place []⟩
    next =>
      obtain ⟨rfl, rfl⟩ := Prod.mk.inj (Except.ok.inj h)
      exact ⟨.inl rfl, hset place []⟩

theorem extend_frame {target : Target} {bytes : Bytes} (h : fs.extend target bytes = .ok fs')
    {other : Location} (hne : target ≠ .file other) : fs'.node? other = fs.node? other := by
  unfold extend at h
  split at h
  next place =>
    obtain rfl := Except.ok.inj h
    have hplace : place ≠ other := fun heq => hne (congrArg Target.file heq)
    unfold setContent
    split
    · exact node?_set_of_ne fs _ hplace
    · exact node?_set_of_ne fs _ hplace
    · exact node?_set_of_ne fs _ hplace
    · rfl
  next =>
    split at h
    · obtain rfl := Except.ok.inj h
      rfl
    · cases h
  next =>
    obtain rfl := Except.ok.inj h
    rfl

end FileSystem

namespace History

open FileSystem

variable {fs fs' : FileSystem} {base loc : Location} {path : String}

/-! ## 2. What is appended -/

theorem mapError_eq_ok_iff {ε ε' α : Type} {f : ε → ε'} {x : Except ε α} {a : α} :
    x.mapError f = .ok a ↔ x = .ok a := by
  cases x <;> simp [Except.mapError]

/-- What appending does: the file is opened, and the lines are put into it. -/
theorem appendLines_eq_ok_iff {lines : List String} :
    appendLines fs base path lines = .ok fs' ↔ ∃ target opened,
      fs.openForWriting base path .append = .ok (target, opened) ∧
        opened.extend target (Text.encode (Text.unlines lines)) = .ok fs' := by
  unfold appendLines
  rcases fs.openForWriting base path .append with fault | ⟨target, opened⟩
  · simp
  · simp [mapError_eq_ok_iff]

/-- Replacing a file does the same with an empty file. -/
theorem replaceLines_eq_ok_iff {lines : List String} :
    replaceLines fs base path lines = .ok fs' ↔ ∃ target opened,
      fs.openForWriting base path .overwrite = .ok (target, opened) ∧
        opened.extend target (Text.encode (Text.unlines lines)) = .ok fs' := by
  unfold replaceLines
  rcases fs.openForWriting base path .overwrite with fault | ⟨target, opened⟩
  · simp
  · simp [mapError_eq_ok_iff]

/-- **Appended lines stand behind what the history file held.** -/
theorem content_appendLines {lines : List String} (hlead : fs.LeadsTo base path loc)
    (hregular : IsFileOrNone (fs.node? loc)) (h : appendLines fs base path lines = .ok fs') :
    fs'.content loc = fs.content loc ++ Text.encode (Text.unlines lines) ∧
      IsFileOrNone (fs'.node? loc) := by
  obtain ⟨target, opened, hopen, -⟩ := appendLines_eq_ok_iff.mp h
  obtain ⟨place, hc, hcases⟩ := openForWriting_append hopen
  obtain rfl := hlead place hc
  cases hn : fs.node? place with
  | none =>
    obtain ⟨rfl, rfl⟩ : target = .file place ∧ opened = fs.set place (.file [] false) := by
      simpa [hn] using hcases
    rw [appendLines_of_open hopen (node?_set_self ..), set_set] at h
    obtain rfl := Except.ok.inj h
    simp [content, hn, IsFileOrNone]
  | some n =>
    rw [hn] at hregular
    cases n with
    | file old executable =>
      obtain ⟨rfl, hsame⟩ : target = .file place ∧ opened = fs := by simpa [hn] using hcases
      rw [appendLines_of_open hopen (hsame ▸ hn), hsame] at h
      obtain rfl := Except.ok.inj h
      simp [content, hn, IsFileOrNone]
    | directory | link | device | program => exact hregular.elim

theorem written_elsewhere {mode : WriteMode} {target : Target} {opened : FileSystem}
    {bytes : Bytes} (helse : fs.locateForCreation base path ≠ .ok loc)
    (hopen : fs.openForWriting base path mode = .ok (target, opened))
    (hextend : opened.extend target bytes = .ok fs') : fs'.node? loc = fs.node? loc := by
  obtain ⟨place, hc, htarget, hframe⟩ := openForWriting_frame hopen
  have hne : place ≠ loc := fun heq => helse (heq ▸ hc)
  have hfile : target ≠ .file loc := by
    rcases htarget with rfl | ⟨d, rfl⟩
    · exact fun heq => hne (Target.file.inj heq)
    · exact fun heq => by cases heq
  rw [extend_frame hextend hfile, hframe loc hne]

theorem appendLines_elsewhere {lines : List String}
    (helse : fs.locateForCreation base path ≠ .ok loc)
    (h : appendLines fs base path lines = .ok fs') : fs'.node? loc = fs.node? loc := by
  obtain ⟨target, opened, hopen, hextend⟩ := appendLines_eq_ok_iff.mp h
  exact written_elsewhere helse hopen hextend

theorem replaceLines_elsewhere {lines : List String}
    (helse : fs.locateForCreation base path ≠ .ok loc)
    (h : replaceLines fs base path lines = .ok fs') : fs'.node? loc = fs.node? loc := by
  obtain ⟨target, opened, hopen, hextend⟩ := replaceLines_eq_ok_iff.mp h
  exact written_elsewhere helse hopen hextend

/-- The same of lines that are appended if there are any: behind what the history file held, -/
theorem content_appendPending {lines : List String} (hlead : fs.LeadsTo base path loc)
    (hregular : IsFileOrNone (fs.node? loc)) (h : appendPending fs base path lines = .ok fs') :
    fs'.content loc = fs.content loc ++ Text.encode (Text.unlines lines) ∧
      IsFileOrNone (fs'.node? loc) := by
  unfold appendPending at h
  split at h
  next hnone =>
    obtain rfl := Except.ok.inj h
    simp [hnone, Text.unlines, hregular]
  next => exact content_appendLines hlead hregular h

/-- or not in it. -/
theorem appendPending_elsewhere {lines : List String}
    (helse : fs.locateForCreation base path ≠ .ok loc)
    (h : appendPending fs base path lines = .ok fs') : fs'.node? loc = fs.node? loc := by
  unfold appendPending at h
  split at h
  next =>
    obtain rfl := Except.ok.inj h
    rfl
  next => exact appendLines_elsewhere helse h

/-! ## 3. Requests -/

/-- What can be asked of a history. -/
inductive Request
  | add (line : String)
  | extend (lines : List String)
  | readFrom (path : String)
  | writeTo (path : String)
  | appendNewTo (path : String)
  | flush

namespace Request

/-- Carries out a request: the history after it, and the files or why it failed. -/
def serve (h : History) (fs : FileSystem) (base : Location) :
    Request → History × Except Failure FileSystem
  | .add line => h.add fs base line
  | .extend lines => (h.extend lines, .ok fs)
  | .readFrom path =>
    match h.readFrom fs base path with
    | .ok h => (h, .ok fs)
    | .error failure => (h, .error failure)
  | .writeTo path => (h, h.writeTo fs base path)
  | .appendNewTo path => h.appendNewTo fs base path
  | .flush => h.flush fs base

/-- The lines that a request brings into the session, whether or not it succeeds. -/
def lines (fs : FileSystem) (base : Location) : Request → List String
  | .add line => [line]
  | .extend lines => lines
  | .readFrom path => ((readEntries fs base path).toOption).getD []
  | .writeTo _ => []
  | .appendNewTo _ => []
  | .flush => []

end Request

/-- **What a request does to a history**, and to the files. -/
inductive Served (h : History) (fs : FileSystem) (base : Location) :
    Request → History → Except Failure FileSystem → Prop
  /-- A line is recorded in the session only, as it is saved later or never. -/
  | added {line : String} (hf : ∀ path, h.file ≠ some (path, .immediate)) :
      Served h fs base (.add line) (h.extend [line]) (.ok fs)
  /-- A line is recorded, and appended to the history file at once. -/
  | saved {line path : String} {fs' : FileSystem} (hf : h.file = some (path, .immediate))
      (ha : appendLines fs base path [line] = .ok fs') :
      Served h fs base (.add line)
        { h.extend [line] with flushed := (h.extend [line]).session.length } (.ok fs')
  /-- A line is recorded, but cannot be appended to the history file. -/
  | unsaved {line path : String} {failure : Failure} (hf : h.file = some (path, .immediate))
      (ha : appendLines fs base path [line] = .error failure) :
      Served h fs base (.add line) (h.extend [line]) (.error failure)
  | extended {lines : List String} : Served h fs base (.extend lines) (h.extend lines) (.ok fs)
  | reread {path : String} {lines : List String} (hr : readEntries fs base path = .ok lines) :
      Served h fs base (.readFrom path) (h.extend lines) (.ok fs)
  | wrote {path : String} {fs' : FileSystem} (hw : replaceLines fs base path h.session = .ok fs') :
      Served h fs base (.writeTo path) h (.ok fs')
  | appended {path : String} {fs' : FileSystem}
      (ha : appendPending fs base path (h.session.drop (h.mark path)) = .ok fs') :
      Served h fs base (.appendNewTo path)
        { h with marks := h.marks.insert (Path.components path) h.session.length } (.ok fs')
  /-- What the history file does not have is appended to it. -/
  | flushed {path : String} {fs' : FileSystem} (hf : h.file = some (path, .onExit))
      (ha : appendPending fs base path (h.session.drop h.flushed) = .ok fs') :
      Served h fs base .flush { h with flushed := h.session.length } (.ok fs')
  /-- There is nothing to be saved when the shell exits. -/
  | unkept (hf : ∀ path, h.file ≠ some (path, .onExit)) : Served h fs base .flush h (.ok fs)
  /-- The request fails, and leaves everything as it is. -/
  | refused {r : Request} {failure : Failure} (hnone : r.lines fs base = []) :
      Served h fs base r h (.error failure)

theorem served_add (h : History) (fs : FileSystem) (base : Location) (line : String) :
    Served h fs base (.add line) (h.add fs base line).1 (h.add fs base line).2 := by
  simp only [add]
  split
  next path hf =>
    split
    next fs' ha => exact .saved hf ha
    next failure ha => exact .unsaved hf ha
  next hf => exact .added fun path hpath => hf path hpath

theorem served_flush (h : History) (fs : FileSystem) (base : Location) :
    Served h fs base .flush (h.flush fs base).1 (h.flush fs base).2 := by
  unfold flush
  split
  next path hf =>
    split
    next fs' ha => exact .flushed hf ha
    next failure ha => exact .refused rfl
  next hf => exact .unkept fun path hpath => hf path hpath

theorem served_appendNewTo (h : History) (fs : FileSystem) (base : Location) (path : String) :
    Served h fs base (.appendNewTo path) (h.appendNewTo fs base path).1
      (h.appendNewTo fs base path).2 := by
  unfold appendNewTo
  split
  next fs' ha => exact .appended ha
  next failure ha => exact .refused rfl

/-- **Every request does one of these.** -/
theorem served_serve (h : History) (fs : FileSystem) (base : Location) (r : Request) :
    Served h fs base r (r.serve h fs base).1 (r.serve h fs base).2 := by
  cases r with
  | add line => exact served_add h fs base line
  | extend lines => exact .extended
  | readFrom path =>
    rcases hread : readEntries fs base path with failure | lines
    · have hserve : (Request.readFrom path).serve h fs base = (h, .error failure) := by
        simp [Request.serve, readFrom, hread, Except.map]
      rw [hserve]
      exact .refused (by simp [Request.lines, hread, Except.toOption])
    · have hserve : (Request.readFrom path).serve h fs base = (h.extend lines, .ok fs) := by
        simp [Request.serve, readFrom, hread, Except.map]
      rw [hserve]
      exact .reread hread
  | writeTo path =>
    rcases hw : replaceLines fs base path h.session with failure | fs'
    · have hserve : (Request.writeTo path).serve h fs base = (h, .error failure) := by
        simp [Request.serve, writeTo, hw]
      rw [hserve]
      exact .refused rfl
    · have hserve : (Request.writeTo path).serve h fs base = (h, .ok fs') := by
        simp [Request.serve, writeTo, hw]
      rw [hserve]
      exact .wrote hw
  | appendNewTo path => exact served_appendNewTo h fs base path
  | flush => exact served_flush h fs base

section Served

variable {h h' : History} {r : Request} {result : Except Failure FileSystem}

theorem served_of_serve (hserve : r.serve h fs base = (h', result)) :
    Served h fs base r h' result := by
  have hserved := served_serve h fs base r
  rwa [hserve] at hserved

/-- **The session only grows**, by the lines of the request. -/
theorem Served.session_eq (hs : Served h fs base r h' result) :
    h'.session = h.session ++ r.lines fs base := by
  cases hs with
  | reread hr => simp [extend, Request.lines, hr, Except.toOption]
  | refused hnone => simp [hnone]
  | _ => simp [extend, Request.lines]

theorem Served.file_eq (hs : Served h fs base r h' result) : h'.file = h.file := by
  cases hs <;> rfl

end Served

/-- A failed request leaves the files as they are. -/
def filesAfter (fs : FileSystem) (result : Except Failure FileSystem) : FileSystem :=
  result.toOption.getD fs

/-! ## 4. Runs -/

/-- A request that was made. -/
structure Event where
  request : Request
  /-- The session that it found. -/
  found : List String
  /-- The lines that it brought into the session. -/
  lines : List String
  /-- Whether it succeeded. -/
  done : Bool

/-- A run from a history and the files at its start, with the requests that were made.  The run
makes only requests that are allowed where they are made, and nobody else touches what is at
`loc`. -/
inductive Run (loc : Location) (Allowed : FileSystem → Location → Request → Prop)
    (h₀ : History) (fs₀ : FileSystem) : List Event → History → FileSystem → Prop
  | start : Run loc Allowed h₀ fs₀ [] h₀ fs₀
  /-- Other files change. -/
  | elsewhere {log : List Event} {h : History} {fs fs' : FileSystem}
      (hrun : Run loc Allowed h₀ fs₀ log h fs) (hsame : fs'.node? loc = fs.node? loc) :
      Run loc Allowed h₀ fs₀ log h fs'
  /-- A request is made. -/
  | served {log : List Event} {h h' : History} {fs : FileSystem} {base : Location} {r : Request}
      {result : Except Failure FileSystem} (hrun : Run loc Allowed h₀ fs₀ log h fs)
      (hallowed : Allowed fs base r) (hserve : r.serve h fs base = (h', result)) :
      Run loc Allowed h₀ fs₀ (log ++ [⟨r, h.session, r.lines fs base, result.isOk⟩]) h'
        (filesAfter fs result)

/-- The lines that came into the session. -/
def entered (log : List Event) : List String := log.flatMap Event.lines

@[simp] theorem entered_nil : entered [] = [] := rfl

@[simp] theorem entered_concat (log : List Event) (e : Event) :
    entered (log ++ [e]) = entered log ++ e.lines := by
  simp [entered]

section Run

variable {Allowed : FileSystem → Location → Request → Prop} {h₀ h : History} {fs₀ : FileSystem}
  {log : List Event}

/-- Any request that is allowed can be made next. -/
theorem Run.next (hrun : Run loc Allowed h₀ fs₀ log h fs) (base : Location) (r : Request)
    (hallowed : Allowed fs base r) :
    Run loc Allowed h₀ fs₀
      (log ++ [⟨r, h.session, r.lines fs base, (r.serve h fs base).2.isOk⟩])
      (r.serve h fs base).1 (filesAfter fs (r.serve h fs base).2) :=
  hrun.served hallowed rfl

/-- **The session after a run** is that of its start with the lines that came. -/
theorem Run.session_eq (hrun : Run loc Allowed h₀ fs₀ log h fs) :
    h.session = h₀.session ++ entered log := by
  induction hrun with
  | start => simp
  | elsewhere _ _ ih => exact ih
  | @served log h h' fs base r result _ _ hserve ih =>
    rw [(served_of_serve hserve).session_eq, ih, entered_concat, List.append_assoc]

theorem Run.file_eq (hrun : Run loc Allowed h₀ fs₀ log h fs) : h.file = h₀.file := by
  induction hrun with
  | start => rfl
  | elsewhere _ _ ih => exact ih
  | @served log h h' fs base r result _ _ hserve ih =>
    rw [(served_of_serve hserve).file_eq, ih]

end Run

end History
end CommandShell
