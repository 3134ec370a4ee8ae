/-
# What `history -a` gives to files

The entries of the session can be appended to any number of files, piece by piece.  How much a file
has been given is counted by the components of the path (`History.mark`), and the session grows in
the meantime, whether or not the files can be opened.

Take any run in which different paths lead to different files, and in which nothing else writes to
these files.  `given_exactly_once` says that each file holds what it held at the start, and behind
that the entries that the session had at the last `history -a` for that file that succeeded
(`given`), each once and in order.  What happened to other files meanwhile does not matter, and a
`history -a` that fails is made up for by the next one that does not.
-/
import CommandShell.Proofs.Persistence
import Mathlib.Data.Set.Function

namespace CommandShell.History

open FileSystem

variable {fs fs' fs₀ : FileSystem} {base loc : Location} {path other : String}
  {h h' h₀ : History} {log : List Event} {e : Event} {denoted : List String → Location}
  {own : Set (List String)}

/-! ## 1. How much a file has been given -/

/-- Whether the event is a `history -a` for this path that succeeded. -/
def Event.gives (path : String) (e : Event) : Bool :=
  match e.request with
  | .appendNewTo other => e.done && Path.components other == Path.components path
  | _ => false

theorem Event.gives_failed (r : Request) (found lines : List String) :
    Event.gives path ⟨r, found, lines, false⟩ = false := by
  cases r <;> rfl

/-- How long the session was at the last `history -a` for this path that succeeded. -/
def given (path : String) (log : List Event) : Nat :=
  ((log.filter (·.gives path)).getLast?.map (·.found.length)).getD 0

/-- A `history -a` that succeeds gives the whole session. -/
theorem given_concat_gives (hgives : e.gives path = true) :
    given path (log ++ [e]) = e.found.length := by
  simp [given, List.filter_append, hgives]

theorem given_concat_other (hgives : e.gives path = false) :
    given path (log ++ [e]) = given path log := by
  simp [given, List.filter_append, hgives]

/-! ## 2. What has come to stand in a file -/

/-- Which requests write to files only apart from one another.  What `denoted` says for the
components of a path is the file that `history -a` appends to, if it can be opened, and all other
writing goes elsewhere.  Where the history itself is kept is such another place. -/
def Request.WritesApart (file : Option (String × PersistMode)) (denoted : List String → Location)
    (own : Set (List String)) (fs : FileSystem) (base : Location) : Request → Prop
  | .add _ => ∀ p mode, file = some (p, mode) → ∀ c ∈ own,
      fs.locateForCreation base p ≠ .ok (denoted c)
  | .extend _ => True
  | .readFrom _ => True
  | .writeTo p => ∀ c ∈ own, fs.locateForCreation base p ≠ .ok (denoted c)
  | .appendNewTo p => Path.components p ∈ own ∧ fs.LeadsTo base p (denoted (Path.components p))
  | .flush => ∀ p mode, file = some (p, mode) → ∀ c ∈ own,
      fs.locateForCreation base p ≠ .ok (denoted c)

/-- What a file has been given, and that it is counted right. -/
structure Given (path : String) (loc : Location) (fs₀ : FileSystem) (log : List Event)
    (h : History) (fs : FileSystem) : Prop
    extends Appended loc fs₀ fs (h.session.take (given path log)) where
  counted : h.mark path = given path log
  le_length : given path log ≤ h.session.length

/-- An event that gives this file nothing, although the session may grow. -/
theorem Given.keep (hs : Given path loc fs₀ log h fs) (hgives : e.gives path = false)
    (hmark : h'.mark path = h.mark path) {lines : List String}
    (hsession : h'.session = h.session ++ lines) (hsame : fs'.node? loc = fs.node? loc) :
    Given path loc fs₀ (log ++ [e]) h' fs' where
  toAppended := by
    rw [given_concat_other hgives, hsession, List.take_append_of_le_length hs.le_length]
    exact hs.congr hsame
  counted := by rw [hmark, hs.counted, given_concat_other hgives]
  le_length := by
    rw [given_concat_other hgives, hsession, List.length_append]
    exact Nat.le_add_right_of_le hs.le_length

/-- An event that gives it the rest of the session. -/
theorem Given.give (hs : Given path loc fs₀ log h fs) (hgives : e.gives path = true)
    (hfound : e.found = h.session) (hmark : h'.mark path = h.session.length)
    (hsession : h'.session = h.session) (hlead : fs.LeadsTo base other loc)
    (ha : appendPending fs base other (h.session.drop (h.mark path)) = .ok fs') :
    Given path loc fs₀ (log ++ [e]) h' fs' where
  toAppended := by
    have hmore := hs.more (content_appendPending hlead hs.regular ha)
    rw [hs.counted, List.take_append_drop] at hmore
    rw [given_concat_gives hgives, hfound, hsession, List.take_length]
    exact hmore
  counted := by rw [hmark, given_concat_gives hgives, hfound]
  le_length := by rw [given_concat_gives hgives, hfound, hsession]

/-- **A request keeps the count**, whichever file it writes to. -/
theorem Given.served {r : Request} {result : Except Failure FileSystem}
    (hs : Given path (denoted (Path.components path)) fs₀ log h fs) (hinj : Set.InjOn denoted own)
    (hpath : Path.components path ∈ own) (hallowed : r.WritesApart h.file denoted own fs base)
    (hr : Served h fs base r h' result) :
    Given path (denoted (Path.components path)) fs₀
      (log ++ [⟨r, h.session, r.lines fs base, result.isOk⟩]) h' (filesAfter fs result) := by
  cases hr with
  | added | unsaved | extended | reread => exact hs.keep rfl rfl rfl rfl
  | unkept => exact hs.keep rfl rfl (List.append_nil _).symm rfl
  | refused => exact hs.keep (Event.gives_failed ..) rfl (List.append_nil _).symm rfl
  | saved hf ha =>
    exact hs.keep rfl rfl rfl (appendLines_elsewhere (hallowed _ _ hf _ hpath) ha)
  | wrote hw =>
    exact hs.keep rfl rfl (List.append_nil _).symm
      (replaceLines_elsewhere (hallowed _ hpath) hw)
  | flushed hf ha =>
    exact hs.keep rfl rfl (List.append_nil _).symm
      (appendPending_elsewhere (hallowed _ _ hf _ hpath) ha)
  | @appended other files ha =>
    obtain ⟨hother, hlead⟩ := hallowed
    by_cases hsame : Path.components other = Path.components path
    · have hmark : h.mark other = h.mark path := by rw [mark, mark, hsame]
      rw [hsame] at hlead
      rw [hmark] at ha
      have hgives : Event.gives path ⟨.appendNewTo other, h.session, [], true⟩ = true := by
        simp [Event.gives, hsame]
      exact hs.give hgives rfl (by rw [mark_insert, if_pos hsame]) rfl hlead ha
    · -- The other path leads elsewhere, so this file is neither written to nor counted for.
      have hne : fs.locateForCreation base other ≠ .ok (denoted (Path.components path)) := by
        intro hloc
        have hdenoted : denoted (Path.components path) = denoted (Path.components other) :=
          hlead _ hloc
        exact hsame (hinj hpath hother hdenoted).symm
      exact hs.keep (by simp [Event.gives, hsame]) (by rw [mark_insert, if_neg hsame])
        (List.append_nil _).symm (appendPending_elsewhere hne ha)

theorem Given.of_run (hinj : Set.InjOn denoted own) (hpath : Path.components path ∈ own)
    (hnew : ∀ p, h₀.mark p = 0)
    (hregular : IsFileOrNone (fs₀.node? (denoted (Path.components path))))
    (hrun : Run (denoted (Path.components path)) (Request.WritesApart h₀.file denoted own) h₀ fs₀
      log h fs) :
    Given path (denoted (Path.components path)) fs₀ log h fs := by
  induction hrun with
  | start => exact ⟨.start hregular, hnew path, Nat.zero_le _⟩
  | elsewhere _ hsame ih => exact ⟨ih.congr hsame, ih.counted, ih.le_length⟩
  | served hrun hallowed hserve ih =>
    rw [← hrun.file_eq] at hallowed
    exact ih.served hinj hpath hallowed (served_of_serve hserve)

/-! ## 3. Exactly once -/

theorem appendNewTo_error {failure : Failure}
    (h : (h₀.appendNewTo fs base path).2 = .error failure) :
    h₀.appendNewTo fs base path = (h₀, .error failure) ∧
      appendPending fs base path (h₀.session.drop (h₀.mark path)) = .error failure := by
  unfold appendNewTo at h ⊢
  split at h
  next => cases h
  next failure' ha =>
    obtain rfl := Except.error.inj h
    exact ⟨rfl, ha⟩

/-- **What is appended piece by piece is appended exactly once.**  Take any run, from a history that
has appended nothing, in which different paths lead to different files and all else is written
elsewhere.  At its end the file of each path holds what it held at the start, and behind that the
first entries of the session, in order: as many as there were at the last `history -a` for this path
that succeeded.  The next one will start behind these, whatever was appended to other files.

A `history -a` that fails changes nothing, and it fails only when the file cannot be opened. -/
theorem given_exactly_once (hinj : Set.InjOn denoted own) (hpath : Path.components path ∈ own)
    (hnew : ∀ p, h₀.mark p = 0)
    (hregular : IsFileOrNone (fs₀.node? (denoted (Path.components path))))
    (hrun : Run (denoted (Path.components path)) (Request.WritesApart h₀.file denoted own) h₀ fs₀
      log h fs) :
    h.session = h₀.session ++ entered log ∧
      given path log ≤ h.session.length ∧
      fs.content (denoted (Path.components path)) =
        fs₀.content (denoted (Path.components path)) ++
          Text.encode (Text.unlines (h.session.take (given path log))) ∧
      (∀ base, fs.LeadsTo base path (denoted (Path.components path)) →
        (∀ fs', (h.appendNewTo fs base path).2 = .ok fs' →
          fs'.content (denoted (Path.components path)) =
            fs.content (denoted (Path.components path)) ++
              Text.encode (Text.unlines (h.session.drop (given path log)))) ∧
        ∀ failure, (h.appendNewTo fs base path).2 = .error failure →
          ∃ fault, fs.openForWriting base path .append = .error fault ∧
            failure = .history path .opening fault) ∧
      ∀ base other failure, (h.appendNewTo fs base other).2 = .error failure →
        (h.appendNewTo fs base other).1 = h := by
  have hs := Given.of_run hinj hpath hnew hregular hrun
  refine ⟨hrun.session_eq, hs.le_length, hs.content, ?_, ?_⟩
  · intro base hlead
    constructor
    · intro fs' hok
      have hserved := served_appendNewTo h fs base path
      rw [hok] at hserved
      generalize (h.appendNewTo fs base path).1 = h' at hserved
      cases hserved with
      | appended ha =>
        rw [hs.counted] at ha
        exact (content_appendPending hlead hs.regular ha).1
    · intro failure herror
      obtain ⟨-, happend⟩ := appendNewTo_error herror
      unfold appendPending at happend
      split at happend
      · cases happend
      · exact appendLines_error hlead hs.regular happend
  · intro base other failure herror
    rw [(appendNewTo_error herror).1]

/-- Where two paths lead: `/k` to a file in the root, any other to the file below a directory. -/
def twoFiles (components : List String) : Location :=
  if components = ["", "k"] then ["k"] else ["d", "h"]

/-- A `history -a` that fails while a link leads nowhere, and is repeated.  Meanwhile the session
grows, and is appended to another file. -/
theorem given_exactly_once_retried :
    ∃ log h fs, Set.InjOn twoFiles {["", "l", "h"], ["", "k"]} ∧
      Path.components "/l/h" ∈ ({["", "l", "h"], ["", "k"]} : Set (List String)) ∧
      (∀ p, ({} : History).mark p = 0) ∧
      IsFileOrNone ((linked "x\n" "/d").node? ["d", "h"]) ∧
      Run ["d", "h"] (Request.WritesApart none twoFiles {["", "l", "h"], ["", "k"]}) {}
        (linked "x\n" "/d") log h fs ∧
      log.map Event.done = [true, true, true, true, true, false, true] ∧
      h.session = ["a", "b", "c"] ∧ fs.content ["d", "h"] = Text.encode "x\na\nb\nc\n" ∧
      fs.content ["k"] = Text.encode "a\nb\n" := by
  have hinj : Set.InjOn twoFiles {["", "l", "h"], ["", "k"]} := by
    rintro c (rfl | rfl) c' (rfl | rfl) heq
    · rfl
    · exact absurd heq (by decide)
    · exact absurd heq (by decide)
    · rfl
  have hpath : Path.components "/l/h" ∈ ({["", "l", "h"], ["", "k"]} : Set (List String)) :=
    .inl (by rfl)
  have hother : Path.components "/k" ∈ ({["", "l", "h"], ["", "k"]} : Set (List String)) :=
    .inr (by rfl)
  have hnew : ∀ p, ({} : History).mark p = 0 := fun p => by simp [mark]
  have hregular : IsFileOrNone ((linked "x\n" "/d").node? ["d", "h"]) := trivial
  have hstart : Run ["d", "h"] (Request.WritesApart none twoFiles {["", "l", "h"], ["", "k"]}) {}
      (linked "x\n" "/d") [] {} (linked "x\n" "/d") := .start
  have hadded := hstart.next [] (.add "a") (fun p mode h => by cases h)
  have hfirst := hadded.next [] (.appendNewTo "/l/h")
    ⟨hpath, fun target h => (Except.ok.inj h).symm⟩
  have hgrown := hfirst.next [] (.extend ["b"]) trivial
  have hgiven := hgrown.next [] (.appendNewTo "/k")
    ⟨hother, fun target h => (Except.ok.inj h).symm⟩
  have hgone := hgiven.elsewhere
    (node?_set_of_ne _ (.link "/gone") (show ["l"] ≠ ["d", "h"] by decide))
  have hgrown' := hgone.next [] (.extend ["c"]) trivial
  have hfailed := hgrown'.next [] (.appendNewTo "/l/h") ⟨hpath, fun target h => by cases h⟩
  have hback := hfailed.elsewhere
    (node?_set_of_ne _ (.link "/d") (show ["l"] ≠ ["d", "h"] by decide))
  have hrun := hback.next [] (.appendNewTo "/l/h")
    ⟨hpath, fun target h => (Except.ok.inj h).symm⟩
  obtain ⟨-, -, hcontent, -⟩ := given_exactly_once hinj hpath hnew hregular hrun
  refine ⟨_, _, _, hinj, hpath, hnew, hregular, hrun, rfl, rfl, ?_, by rfl⟩
  rw [show (["d", "h"] : Location) = twoFiles (Path.components "/l/h") by rfl, hcontent]
  rfl

end CommandShell.History
