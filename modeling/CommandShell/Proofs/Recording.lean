/-
# What a session records

A text that is given to the shell is accepted (`Session.Accepts`): if it asks for nothing, nothing
happens at all, and otherwise it is recorded first and its commands are begun after that.  Between
two texts anything may happen to the machine (`Session.Takes`).

So the history of the session is what it was, followed by each text that asks for something and the
entries that its commands have read (`Takes.gains`).  A command of a line begins when that line
stands in the history already; in particular `history` lists the line in which it stands last
(`perform_history_of_concat`).  `Session.recorded_once` is all this of any texts with any outcomes.
-/
import CommandShell.Proofs.Contribution
import CommandShell.Proofs.LoopHistory
import CommandShell.Proofs.Output

namespace CommandShell

/-! ## 1. Accepting a text -/

section Accepting

variable {patience : Nat} {s s' : Session} {text : String} {result : Except Failure Unit}
  {reached : List Attempt}

/-- What comes of a text that is given to the shell, with the commands that are begun. -/
inductive Session.Accepts (patience : Nat) (s : Session) (text : String) :
    List Attempt → Except Failure Unit → Session → Prop
  /-- It asks for nothing. -/
  | blank (hblank : (Line.parse (Text.dropReturn text)).isBlank = true) :
      Accepts patience s text [] (.ok ()) s
  /-- It is recorded and then run. -/
  | recorded {reached : List Attempt} {result : Except Failure Unit} {s' : Session}
      (hblank : (Line.parse (Text.dropReturn text)).isBlank = false)
      (hrun : (s.record (Text.dropReturn text)).Attempts patience
        (Line.parse (Text.dropReturn text)) reached result s') :
      Accepts patience s text reached result s'

theorem Session.executeLine_of_blank
    (h : (Line.parse (Text.dropReturn text)).isBlank = true) :
    s.executeLine patience text = some (.ok (), s) := by
  simp only [executeLine, h, if_true]

/-- **Every text that is given to the shell is accepted.** -/
theorem Session.exists_accepts (h : s.executeLine patience text = some (result, s')) :
    ∃ reached, s.Accepts patience text reached result s' := by
  cases hblank : (Line.parse (Text.dropReturn text)).isBlank with
  | true =>
    rw [executeLine_of_blank hblank] at h
    obtain ⟨rfl, rfl⟩ := Prod.mk.inj (Option.some.inj h)
    exact ⟨[], .blank hblank⟩
  | false =>
    simp only [executeLine, hblank, Bool.false_eq_true, if_false] at h
    obtain ⟨reached, hreached⟩ := exists_attempts h
    exact ⟨reached, .recorded hblank hreached⟩

/-- A line is in the history whether or not its file takes it. -/
theorem Session.gains_record (s : Session) (line : String) :
    s.Gains (s.record line) [line] [] := by
  refine ⟨?_, rfl⟩
  simp only [record, History.add]
  split
  · split <;> rfl
  · rfl

namespace Session.Accepts

/-- **What a text adds to the session**: itself, if it asks for something, and then what its
commands add. -/
theorem gains (h : s.Accepts patience text reached result s') :
    s.Gains s' (Repl.entryOf text ++ entriesOf reached) (exitsOf reached) := by
  cases h with
  | blank hblank =>
    rw [Repl.entryOf, if_pos hblank]
    exact .refl s
  | recorded hblank hrun =>
    rw [Repl.entryOf, if_neg (by simp [hblank])]
    exact (s.gains_record _).trans hrun.gains

/-- **A command begins when its line is recorded already.** -/
theorem gains_before {older newer : List Attempt} {a : Attempt}
    (h : s.Accepts patience text reached result s') (hreached : reached = older ++ a :: newer) :
    s.Gains a.before (Text.dropReturn text :: entriesOf older) (exitsOf older) := by
  cases h with
  | blank => simp at hreached
  | recorded _ hrun => exact (s.gains_record _).trans (hrun.gains_before hreached)

end Session.Accepts

end Accepting

/-! ## 2. The last entry of a listing -/

namespace Builtin

open Deed

theorem numbered_concat (session : List String) (line : String) :
    numbered (session ++ [line]) = numbered session ++ [(session.length + 1, line)] := by
  simp [numbered, List.zipIdx_append]

/-- A count never asks to skip the last entry. -/
theorem skipped_le (count : Option String) (n : Nat) : skipped count (n + 1) ≤ n := by
  rw [skipped]
  split
  · split <;> omega
  · omega

/-- **`history` lists the last entry last**, whatever count it is given. -/
theorem perform_history_of_concat {request : HistoryRequest} {job : Job} {session : List String}
    {line : String} (hwrite : request.write = none) (hread : request.read = none)
    (happend : request.append = none)
    (hsession : job.session.env.history.session = session ++ [line]) :
    ∃ shown, (perform (.history request)).run.run job =
      (do printEntries (shown ++ [(session.length + 1, line)]); pure 0 : Deed Int).run.run job := by
  refine ⟨(numbered session).drop (skipped request.count (session.length + 1)), ?_⟩
  have hlength : skipped request.count (session.length + 1) ≤ (numbered session).length := by
    simpa [numbered] using skipped_le request.count session.length
  simp only [perform, performHistory, run_bind, Deed.run_env, Deed.run_world, hwrite, hread,
    happend, hsession, numbered_concat, List.length_append, List.length_singleton]
  rw [List.drop_append_of_le_length hlength]

/-- Its output ends with that line. -/
theorem run_history_of_concat {request : HistoryRequest} {job : Job} {session : List String}
    {line : String} (hwrite : request.write = none) (hread : request.read = none)
    (happend : request.append = none)
    (hsession : job.session.env.history.session = session ++ [line])
    (htakes : job.stdout.refuses = false) :
    ∃ shown job', (run (.history request)).run.run job = (.ok 0, job') ∧
      Writes job (Text.encode (listing shown ++
        (entryNumber (session.length + 1) ++ "  " ++ line ++ "\n"))) job' := by
  obtain ⟨shown, hperform⟩ := perform_history_of_concat hwrite hread happend hsession
  obtain ⟨job', hprint, houtputs⟩ :=
    outputs_printEntries (shown ++ [(session.length + 1, line)]) htakes
  have hok : (perform (.history request)).run.run job = (.ok 0, job') := by
    rw [hperform, run_bind, hprint]
    rfl
  refine ⟨shown, job', run_of_perform_ok hok, ?_⟩
  simpa [listing, String.join_append, String.join_cons] using houtputs.writes

end Builtin

/-! ## 3. Texts in order -/

/-- A text that was given to the shell, with the commands that it began. -/
structure Given where
  text : String
  reached : List Attempt

/-- What the history has of a text: the text itself, if it asks for something, followed by the
entries of the files that its commands have read. -/
def Given.entries (g : Given) : List String := Repl.entryOf g.text ++ entriesOf g.reached

/-- The requests to exit that its commands have made. -/
def Given.exits (g : Given) : List Int := exitsOf g.reached

/-- Some texts are given to the shell, one after the other, with any outcomes; between them anything
may happen to the machine. -/
inductive Session.Takes (patience : Nat) (s : Session) : List Given → Session → Prop
  | start : Takes patience s [] s
  | accepted {given : List Given} {text : String} {reached : List Attempt}
      {result : Except Failure Unit} {s₁ s₂ : Session} (h : Takes patience s given s₁)
      (ha : s₁.Accepts patience text reached result s₂) :
      Takes patience s (given ++ [⟨text, reached⟩]) s₂
  | passed {given : List Given} {s₁ : Session} (h : Takes patience s given s₁) (world : World) :
      Takes patience s given { s₁ with world }

/-- **What texts add to the session**, in order. -/
theorem Session.Takes.gains {patience : Nat} {s s' : Session} {given : List Given}
    (h : s.Takes patience given s') :
    s.Gains s' (given.flatMap Given.entries) (given.flatMap Given.exits) := by
  induction h with
  | start => exact .refl s
  | accepted _ ha ih => simpa [Given.entries, Given.exits] using ih.trans ha.gains
  | passed _ world ih => exact ih.idle (.of_env rfl)

/-- **Every accepted line is recorded exactly once**, before it is run and whatever becomes of it.
Take any texts that are given to the shell, with any outcomes, up to some session, and one more
text.

* The history of the session is what it was at first, followed by each text that asks for something,
  without a carriage return at its end, and behind it the entries that its commands have read.
* If the next text asks for nothing, nothing changes.
* Otherwise it stands in the history when its commands are begun, behind it only what those before
  them have read.  In particular a `history` that is only to list the entries, and before which
  nothing was read, lists its own line last. -/
theorem Session.recorded_once {patience : Nat} {s s₁ : Session} {given : List Given}
    (h : s.Takes patience given s₁) :
    s₁.env.history.session = s.env.history.session ++ given.flatMap Given.entries ∧
    ∀ text,
      ((Line.parse (Text.dropReturn text)).isBlank = true →
        s₁.executeLine patience text = some (.ok (), s₁)) ∧
      (∀ result s₂, s₁.executeLine patience text = some (result, s₂) →
        ∃ reached, s₁.Accepts patience text reached result s₂) ∧
      ∀ reached result s₂, s₁.Accepts patience text reached result s₂ →
        s.Takes patience (given ++ [⟨text, reached⟩]) s₂ ∧
        ∀ older a newer, reached = older ++ a :: newer →
          a.before.env.history.session =
            s₁.env.history.session ++ Text.dropReturn text :: entriesOf older ∧
          ∀ request job, a.job? = some (.history request, job) → request.write = none →
            request.read = none → request.append = none → entriesOf older = [] →
            (∃ shown, (Builtin.perform (.history request)).run.run job =
              (do Builtin.printEntries
                    (shown ++ [(s₁.env.history.session.length + 1, Text.dropReturn text)])
                  pure 0 : Deed Int).run.run job) ∧
            (job.stdout.refuses = false →
              ∃ shown job', (Builtin.run (.history request)).run.run job = (.ok 0, job') ∧
                Builtin.Writes job (Text.encode (Builtin.listing shown ++
                  (Builtin.entryNumber (s₁.env.history.session.length + 1) ++ "  " ++
                    Text.dropReturn text ++ "\n"))) job') := by
  refine ⟨h.gains.session, fun text => ⟨executeLine_of_blank, fun _ _ => exists_accepts, ?_⟩⟩
  intro reached result s₂ ha
  refine ⟨h.accepted ha, ?_⟩
  intro older a newer hreached
  have hbefore := (ha.gains_before hreached).session
  refine ⟨hbefore, ?_⟩
  intro request job hj hwrite hread happend hnone
  have hsession : job.session.env.history.session =
      s₁.env.history.session ++ [Text.dropReturn text] := by
    rw [a.env_job hj, hbefore, hnone]
  exact ⟨Builtin.perform_history_of_concat hwrite hread happend hsession,
    Builtin.run_history_of_concat hwrite hread happend hsession⟩

/-- After a command that does not exist, `history` on a line with a carriage return lists itself
last, and the session holds both. -/
theorem recorded_once_history :
    ∃ reached s₁ s₂ job, Repl.alone.Takes 0 [⟨"nope", reached⟩] s₁ ∧
      s₁.env.history.session = ["nope"] ∧
      Repl.alone.Takes 0 [⟨"nope", reached⟩,
        ⟨"history\r", [.alone { name := "history" } (s₁.record "history")]⟩] s₂ ∧
      (Attempt.alone { name := "history" } (s₁.record "history")).job? =
        some (.history {}, job) ∧
      ∃ shown job', (Builtin.run (.history {})).run.run job = (.ok 0, job') ∧
        Builtin.Writes job (Text.encode (Builtin.listing shown ++
          (Builtin.entryNumber 2 ++ "  " ++ "history" ++ "\n"))) job' := by
  obtain ⟨s₁, hnope, hsession, s₂, hhistory, job, hjob, htakes⟩ :
      ∃ s₁, Repl.alone.executeLine 0 "nope" = some (.ok (), s₁) ∧
        s₁.env.history.session = ["nope"] ∧
        ∃ s₂, (s₁.record "history").runSingle 0 { name := "history" } = some (.ok (), s₂) ∧
          ∃ job, (Attempt.alone { name := "history" } (s₁.record "history")).job? =
            some (.history {}, job) ∧ job.stdout.refuses = false :=
    ⟨_, rfl, rfl, _, rfl, _, rfl, rfl⟩
  obtain ⟨reached, hreached⟩ := Session.exists_accepts hnope
  have htaken := Session.Takes.start.accepted hreached
  have haccepts : s₁.Accepts 0 "history\r" [.alone { name := "history" } (s₁.record "history")]
      (.ok ()) s₂ := .recorded (by decide +kernel) (.single hhistory)
  obtain ⟨-, hall⟩ := Session.recorded_once htaken
  obtain ⟨htaken', hbegun⟩ := (hall "history\r").2.2 _ _ _ haccepts
  obtain ⟨-, hlast⟩ := hbegun [] _ [] rfl
  obtain ⟨shown, job', hrun, hwrites⟩ := (hlast {} job hjob rfl rfl rfl rfl).2 htakes
  rw [hsession] at hwrites
  exact ⟨reached, s₁, s₂, job, htaken, hsession, htaken', hjob, shown, job', hrun, hwrites⟩

end CommandShell
