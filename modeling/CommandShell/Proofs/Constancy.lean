/-
# What lasts in a session

Whatever lines a shell is given, and whatever becomes of them, there is little that it does to its
own state.  Its variables, its search list and the place of its history stay as they are; the lines
of its history, and what it remembers of programs, become more and are never altered; a request to
exit stays.  One change at a time this is `Session.Change.lasts`, and so it holds of everything that
a shell does (`Session.Reaches.lasts`).

The current directory does change, but only where a `cd` has entered one: after any commands it is
the directory that the last of them has entered, and if none has, the one from before
(`directoryAfter`).  `Session.takes_lasting` puts all this together for any texts that are given to
the shell.
-/
import CommandShell.Proofs.Foretelling
import CommandShell.Proofs.Home
import CommandShell.Proofs.Recording

namespace CommandShell

/-! ## 1. Histories -/

/-- The history is kept in the same place, and the same lines have come to both of its lists. -/
structure History.Lasts (h h' : History) : Prop where
  file : h'.file = h.file
  grown : ∃ lines, h'.session = h.session ++ lines ∧ h'.recalled = h.recalled ++ lines

namespace History

variable {h h' h'' : History} {fs : FileSystem} {base : Location} {path : String}

theorem Lasts.refl (h : History) : h.Lasts h := ⟨rfl, [], by simp, by simp⟩

theorem Lasts.trans (hl : h.Lasts h') (hl' : h'.Lasts h'') : h.Lasts h'' := by
  obtain ⟨lines, hsession, hrecalled⟩ := hl.grown
  obtain ⟨lines', hsession', hrecalled'⟩ := hl'.grown
  refine ⟨hl'.file.trans hl.file, lines ++ lines', ?_, ?_⟩
  · rw [hsession', hsession, List.append_assoc]
  · rw [hrecalled', hrecalled, List.append_assoc]

theorem lasts_extend (h : History) (lines : List String) : h.Lasts (h.extend lines) :=
  ⟨rfl, lines, rfl, rfl⟩

/-- A line that is added is in both lists, whether or not the file takes it. -/
theorem lasts_add (h : History) (fs : FileSystem) (base : Location) (line : String) :
    h.Lasts (h.add fs base line).1 := by
  have hextended := h.lasts_extend [line]
  simp only [add]
  split
  · split
    · exact ⟨hextended.file, hextended.grown⟩
    · exact hextended
  · exact hextended

theorem lasts_readFrom (hread : h.readFrom fs base path = .ok h') : h.Lasts h' := by
  rcases hentries : readEntries fs base path with f | lines
  · rw [readFrom, hentries] at hread
    cases hread
  · rw [readFrom, hentries] at hread
    obtain rfl := Except.ok.inj hread
    exact h.lasts_extend lines

/-- Appending entries to a file marks them, and nothing else. -/
theorem lasts_appendNewTo {written : Except Failure FileSystem}
    (happend : h.appendNewTo fs base path = (h', written)) : h.Lasts h' := by
  simp only [appendNewTo] at happend
  split at happend <;>
  · obtain ⟨rfl, -⟩ := Prod.mk.inj happend
    exact ⟨rfl, (Lasts.refl h).grown⟩

end History

/-! ## 2. Sessions -/

/-- What a shell never changes is the same, and what it only adds to has grown. -/
structure Session.Lasts (s s' : Session) : Prop where
  vars : s'.env.vars = s.env.vars
  inherited : s'.env.inherited = s.env.inherited
  search : s.env.search.Grows s'.env.search
  history : s.env.history.Lasts s'.env.history
  exit : s.env.shouldExit = true → s'.env.shouldExit = true

namespace Session

variable {s s' s'' : Session}

theorem Lasts.of_env (h : s'.env = s.env) : s.Lasts s' := by
  obtain ⟨env, world⟩ := s'
  obtain rfl : env = s.env := h
  exact ⟨rfl, rfl, .refl _, .refl _, id⟩

theorem Lasts.trans (h : s.Lasts s') (h' : s'.Lasts s'') : s.Lasts s'' where
  vars := h'.vars.trans h.vars
  inherited := h'.inherited.trans h.inherited
  search := h.search.trans h'.search
  history := h.history.trans h'.history
  exit := h'.exit ∘ h.exit

/-- **Every change leaves these things alone,** or adds to them. -/
theorem Change.lasts (h : Change s s') : s.Lasts s' := by
  have hsearch := h.search
  cases h with
  | recorded line => exact ⟨rfl, rfl, hsearch, History.lasts_add _ _ _ _, id⟩
  | resolved name => exact ⟨rfl, rfl, hsearch, .refl _, id⟩
  | machine world => exact .of_env rfl
  | @commanded job job' bytes hs hc =>
    subst hs
    cases hc with
    | @printed stream => cases stream <;> exact .of_env rfl
    | entered | resolved => exact ⟨rfl, rfl, hsearch, .refl _, id⟩
    | rewrote => exact .of_env rfl
    | reread hread => exact ⟨rfl, rfl, hsearch, History.lasts_readFrom hread, id⟩
    | appended happend => exact ⟨rfl, rfl, hsearch, History.lasts_appendNewTo happend, id⟩
    | exiting status => exact ⟨rfl, rfl, hsearch, .refl _, fun _ => rfl⟩

/-- **Whatever a shell does.** -/
theorem Reaches.lasts (h : s.Reaches s') : s.Lasts s' := by
  induction h with
  | refl => exact .of_env rfl
  | tail _ hc ih => exact ih.trans hc.lasts

end Session

/-! ## 3. Directories -/

namespace Builtin

open Deed

variable {b : Builtin} {job : Job} {loc : Location}

/-- The directory that a built-in command enters. -/
def entered? (s : Session) : Builtin → Option Location
  | .cd target => (asked? s.env target).bind fun text => (destination s text).toOption
  | _ => none

/-- **A directory is entered by a `cd` that succeeds**, and does nothing else. -/
theorem run_of_entered? (h : b.entered? job.session = some loc) :
    ∃ target, b = .cd target ∧
      b.run.run.run job = (.ok 0, { job with session := enter job.session loc }) := by
  cases b with
  | cd target =>
    obtain ⟨text, hasked, hd⟩ := Option.bind_eq_some_iff.mp h
    refine ⟨target, rfl, ?_⟩
    rcases hloc : destination job.session text with f | found
    · rw [hloc] at hd
      cases hd
    · rw [hloc] at hd
      obtain rfl := Option.some.inj hd
      rw [run_cd_of_asked hasked, hloc]
  | _ => cases h

/-- Any other command leaves the shell in its directory, and so does a `cd` that enters none. -/
theorem stays_of_entered?_eq_none (h : b.entered? job.session = none) :
    Stays job (b.run.run.run job).2 := by
  by_cases hcd : ∃ target, b = .cd target
  · obtain ⟨target, rfl⟩ := hcd
    rcases hasked : asked? job.session.env target with _ | text
    · have hperform : (perform (.cd target)).run.run job = _ := run_performCd target job
      simp only [hasked] at hperform
      rw [run_of_perform_ok hperform]
      exact .refl job
    · rcases hd : destination job.session text with f | loc
      · rw [run_cd_of_asked hasked, hd]
        exact stays_print_bind .stderr _ (fun _ => .refl _) job
      · simp [entered?, hasked, hd, Except.toOption] at h
  · exact stays_run (fun target hb => hcd ⟨target, hb⟩) job

end Builtin

/-- The directory that a command enters. -/
def Attempt.entered? (a : Attempt) : Option Location :=
  a.job?.bind fun (b, job) => b.entered? job.session

/-- The current directory after some commands: the one that was entered last. -/
def directoryAfter (directory : String) (reached : List Attempt) : String :=
  ((reached.filterMap Attempt.entered?).getLast?.map Location.path).getD directory

theorem directoryAfter_append (directory : String) (reached more : List Attempt) :
    directoryAfter directory (reached ++ more) =
      directoryAfter (directoryAfter directory reached) more := by
  simp only [directoryAfter, List.filterMap_append, List.getLast?_append]
  rcases (more.filterMap Attempt.entered?).getLast? with _ | loc <;> rfl

namespace Attempt

variable {a : Attempt} {loc : Location}

/-- A command that enters a directory is a `cd` that succeeds. -/
theorem exists_cd_of_entered? (h : a.entered? = some loc) :
    ∃ target job, a.job? = some (.cd target, job) ∧
      (Builtin.run (.cd target)).run.run job =
        (.ok 0, { job with session := Builtin.enter job.session loc }) := by
  obtain ⟨⟨b, job⟩, hj, hentered⟩ := Option.bind_eq_some_iff.mp h
  obtain ⟨target, rfl, hrun⟩ := Builtin.run_of_entered? hentered
  exact ⟨target, job, hj, hrun⟩

/-- **The current directory after a command.** -/
theorem directory_after (a : Attempt) :
    a.after.env.directory = directoryAfter a.before.env.directory [a] := by
  have hafter : directoryAfter a.before.env.directory [a] =
      (a.entered?.map Location.path).getD a.before.env.directory := by
    rcases h : a.entered? with _ | loc <;> simp [directoryAfter, h]
  rw [hafter]
  rcases hj : a.job? with _ | ⟨b, job⟩
  · rw [entered?, hj]
    rcases env_after_of_job?_eq_none hj with henv | henv <;> rw [henv] <;> rfl
  · have hentered : a.entered? = b.entered? job.session := by rw [entered?, hj]; rfl
    rw [hentered, after_of_job? hj]
    rcases hb : b.entered? job.session with _ | loc
    · rw [(Builtin.stays_of_entered?_eq_none hb).shell, a.env_job hj]
      rfl
    · obtain ⟨target, -, hrun⟩ := Builtin.run_of_entered? hb
      rw [hrun]
      rfl

theorem reaches (a : Attempt) : a.before.Reaches a.after := by
  cases a with
  | alone stage s => exact (stage.beginsAlone s).reaches
  | inPipeline stage isLast upstream s => exact (stage.begins isLast upstream s).reaches

end Attempt

/-! ## 4. Texts -/

/-- What lasts has lasted while some commands were begun, and the shell is where they have led. -/
structure Session.Carries (s s' : Session) (reached : List Attempt) : Prop where
  lasts : s.Lasts s'
  directory : s'.env.directory = directoryAfter s.env.directory reached

namespace Session.Carries

variable {s s' s'' : Session} {reached more : List Attempt}

theorem of_env (h : s'.env = s.env) : s.Carries s' [] := ⟨.of_env h, by rw [h]; rfl⟩

theorem trans (h : s.Carries s' reached) (h' : s'.Carries s'' more) :
    s.Carries s'' (reached ++ more) where
  lasts := h.lasts.trans h'.lasts
  directory := by rw [h'.directory, h.directory, directoryAfter_append]

/-- Nothing but the machine changes after that. -/
theorem idle (h : s.Carries s' reached) (henv : s''.env = s'.env) : s.Carries s'' reached := by
  simpa using h.trans (of_env henv)

end Session.Carries

/-- **What a command carries on** when it is begun. -/
theorem Attempt.carries (a : Attempt) : a.before.Carries a.after [a] :=
  ⟨a.reaches.lasts, a.directory_after⟩

/-- **What a run of a pipeline carries on.** -/
theorem Pipeline.Run.carries {first st : State} {log : List Entry} (h : Run first log st) :
    first.session.Carries st.session (log.map Entry.attempt) := by
  induction h with
  | start => exact .of_env rfl
  | @began log st stage _ hp ih =>
    have hstage : st.session.Carries (Entry.mk st stage).after [(Entry.mk st stage).attempt] :=
      (Entry.mk st stage).attempt.carries
    rw [← session_begin hp] at hstage
    simpa using ih.trans hstage
  | passed _ he hs ih => exact ih.idle (passes_of_after? he hs).since.env

namespace Session

variable {patience : Nat} {line : Line} {text : String} {s s' s₁ : Session}
  {result : Except Failure Unit} {reached : List Attempt} {given : List Given}

theorem Attempts.carries (h : s.Attempts patience line reached result s') :
    s.Carries s' reached := by
  cases h with
  | nothing => exact .of_env rfl
  | @single stage _ _ hrun =>
    have hbegun : s.Carries (Attempt.alone stage s).after [.alone stage s] :=
      (Attempt.alone stage s).carries
    exact hbegun.idle (Attempts.env_runSingle hrun)
  | pipeline hrun => exact hrun.carries.idle rfl

theorem Accepts.carries (h : s.Accepts patience text reached result s') :
    s.Carries s' reached := by
  cases h with
  | blank => exact .of_env rfl
  | recorded _ hrun =>
    have hrecorded : s.Carries (s.record (Text.dropReturn text)) [] :=
      ⟨(Change.recorded _).lasts, rfl⟩
    exact hrecorded.trans hrun.carries

theorem Takes.carries (h : s.Takes patience given s₁) :
    s.Carries s₁ (given.flatMap Given.reached) := by
  induction h with
  | start => exact .of_env rfl
  | accepted _ ha ih => simpa using ih.trans ha.carries
  | passed _ world ih => exact ih.idle rfl

/-- **What lasts in a session.**  Take any texts that are given to the shell, with any outcomes, up
to some session; the next text that is run makes one more.

* The variables, the directories in which programs are looked for, and the file of the history with
  its mode are those from the start, and a request to exit is still there.
* The lines of the history, and those that the line editor offers again, are what they were, with
  the same lines behind them: the texts, and what their commands have read.
* What was remembered of programs is remembered as it was.
* The current directory is the one that was entered last, or the one from the start, and what has
  entered a directory is a `cd` that has succeeded. -/
theorem takes_lasting (h : s.Takes patience given s₁) :
    (∀ text result s₂, s₁.executeLine patience text = some (result, s₂) →
      ∃ reached, s.Takes patience (given ++ [⟨text, reached⟩]) s₂) ∧
    s₁.env.vars = s.env.vars ∧ s₁.env.inherited = s.env.inherited ∧
    s₁.env.search.dirs = s.env.search.dirs ∧
    s₁.env.history.file = s.env.history.file ∧
    (s.env.shouldExit = true → s₁.env.shouldExit = true) ∧
    s₁.env.history.session = s.env.history.session ++ given.flatMap Given.entries ∧
    s₁.env.history.recalled = s.env.history.recalled ++ given.flatMap Given.entries ∧
    (∀ (key : String) (found : Option String),
      s.env.search.memo[key]? = some found → s₁.env.search.memo[key]? = some found) ∧
    s₁.env.directory = directoryAfter s.env.directory (given.flatMap Given.reached) ∧
    ∀ a ∈ given.flatMap Given.reached, ∀ loc, a.entered? = some loc →
      ∃ target job, a.job? = some (.cd target, job) ∧
        (Builtin.run (.cd target)).run.run job =
          (.ok 0, { job with session := Builtin.enter job.session loc }) := by
  obtain ⟨hlasts, hdirectory⟩ := h.carries
  have hsession := h.gains.session
  obtain ⟨lines, hlines, hrecalled⟩ := hlasts.history.grown
  obtain rfl : lines = given.flatMap Given.entries :=
    List.append_cancel_left (hlines.symm.trans hsession)
  refine ⟨?_, hlasts.vars, hlasts.inherited, hlasts.search.dirs, hlasts.history.file, hlasts.exit,
    hsession, hrecalled, hlasts.search.memo, hdirectory, ?_⟩
  · intro text result s₂ hrun
    obtain ⟨reached, ha⟩ := exists_accepts hrun
    exact ⟨reached, h.accepted ha⟩
  · intro a _ loc hloc
    exact a.exists_cd_of_entered? hloc

/-- A shell in the root of a machine with a directory, which has been asked to exit. -/
def askedToExit : Session where
  env := { directory := "/", exitRequest := some 3 }
  world := { files := FileSystem.empty.set ["d"] .directory }

/-- A directory is entered in a pipeline, and then there is none to enter. -/
theorem takes_lasting_entered :
    ∃ reached reached' s₁,
      askedToExit.Takes 0 [⟨"cd d | cd nowhere", reached⟩, ⟨"cd e", reached'⟩] s₁ ∧
      s₁.env.directory = "/d" ∧ directoryAfter "/" (reached ++ reached') = "/d" ∧
      s₁.env.shouldExit = true ∧
      s₁.env.history.recalled = [⟨"cd d | cd nowhere", reached⟩, ⟨"cd e", reached'⟩].flatMap
        Given.entries := by
  have hruns : ((askedToExit.executeLine 0 "cd d | cd nowhere").bind fun r =>
      (r.2.executeLine 0 "cd e").map (·.2.env.directory)) = some "/d" := by decide +kernel
  obtain ⟨⟨_, s₁⟩, hpipeline, hrest⟩ := Option.bind_eq_some_iff.mp hruns
  obtain ⟨⟨_, s₂⟩, hsingle, hplace⟩ := Option.map_eq_some_iff.mp hrest
  have hstart : askedToExit.Takes 0 [] askedToExit := .start
  obtain ⟨hnext, -⟩ := takes_lasting hstart
  obtain ⟨reached, htaken⟩ := hnext _ _ _ hpipeline
  obtain ⟨hnext', -⟩ := takes_lasting htaken
  obtain ⟨reached', htaken'⟩ := hnext' _ _ _ hsingle
  obtain ⟨-, -, -, -, -, hexit, -, hrecalled, -, hdirectory, -⟩ := takes_lasting htaken'
  have hempty : askedToExit.env.history.recalled = [] := rfl
  have hroot : askedToExit.env.directory = "/" := rfl
  rw [hempty, List.nil_append] at hrecalled
  rw [hroot, hplace] at hdirectory
  refine ⟨reached, reached', s₂, htaken', hplace, ?_, hexit rfl, hrecalled⟩
  simpa using hdirectory.symm

end Session
end CommandShell
