/-
# Which lines the read-eval loop saves

While the loop runs, the history of the session only grows: every line that is run stands in it,
whatever becomes of the line (`grows_of_executeLine`).  So at the end of the loop all lines that
were run are among those that a flush appends to the history file (`executed_sublist`).

The loop is followed by a flush unless a line could not be read.  Hence the lines that were run are
saved exactly if that did not happen, or there were none (`saved_iff`); `lost` is an input whose
line is not.
-/
import CommandShell.CommandLine.Program
import CommandShell.Proofs.Execution
import CommandShell.Proofs.HistoryFile
import CommandShell.Proofs.PipelineRun

namespace CommandShell

open Relation

/-! ## 1. What a line does to the session -/

namespace Pipeline

/-- A step of a pipeline does to the session what beginning a stage does, or changes the machine. -/
theorem Step.reaches_session {st st' : State} (h : Step st st') :
    st.session.Reaches st'.session := by
  cases h with
  | @begun stage beginning session hp h =>
    have hbegins := (stage.begins st.waiting.isEmpty st.upstream st.session).reaches
    rw [State.attempt] at h
    rw [h] at hbegins
    cases beginning <;> exact hbegins
  | @failed stage failure session hp h =>
    have hbegins := (stage.begins st.waiting.isEmpty st.upstream st.session).reaches
    rw [State.attempt] at h
    rwa [h] at hbegins
  | registered | settled => exact .refl
  | _ => exact .single (.machine _)

theorem Reaches.reaches_session {st st' : State} (h : Reaches st st') :
    st.session.Reaches st'.session := by
  induction h with
  | refl => exact .refl
  | tail _ hs ih => exact ih.trans hs.reaches_session

end Pipeline

namespace Session

/-- **What running a line does.** -/
theorem reaches_execute {patience : Nat} {line : Line} {s s' : Session}
    {result : Except Failure Unit} (h : s.execute patience line = some (result, s')) :
    s.Reaches s' := by
  cases executes_of_execute h with
  | nothing => exact .refl
  | failed hbegins | done hbegins => exact hbegins.reaches
  | waited hbegins => exact hbegins.reaches.tail (.machine _)
  | pipeline hrun =>
    obtain ⟨st, hst, heq⟩ := Option.map_eq_some_iff.mp hrun
    obtain ⟨-, rfl⟩ := Prod.mk.inj heq
    exact (Pipeline.reaches_runPipeline hst).reaches_session.tail (.machine _)

end Session

/-! ## 2. The history of the session grows -/

/-- A history that is written to a file when the shell exits. -/
structure History.IsKept (h : History) (path : String) : Prop where
  file : h.file = some (path, .onExit)
  flushed_le : h.flushed ≤ h.session.length

/-- Such a history is what is loaded for that. -/
theorem History.isKept_of_load {fs : FileSystem} {base : Location} {path : String} {h : History}
    (hload : load fs base path .onExit = .ok h) : h.IsKept path := by
  obtain ⟨lines, -, rfl⟩ := load_eq_ok hload
  exact ⟨rfl, Nat.le_refl _⟩

/-- Lines came to a history, and nothing else did that a flush sees. -/
structure History.Grows (h h' : History) : Prop where
  file : h'.file = h.file
  flushed : h'.flushed = h.flushed
  session : h.session <+: h'.session

namespace History.Grows

variable {h h' h'' : History}

theorem refl (h : History) : Grows h h := ⟨rfl, rfl, List.prefix_rfl⟩

theorem trans (hg : Grows h h') (hg' : Grows h' h'') : Grows h h'' :=
  ⟨hg'.file.trans hg.file, hg'.flushed.trans hg.flushed, hg.session.trans hg'.session⟩

theorem isKept {path : String} (hg : Grows h h') (hk : h.IsKept path) : h'.IsKept path :=
  ⟨hg.file.trans hk.file, by
    rw [hg.flushed]
    exact Nat.le_trans hk.flushed_le hg.session.length_le⟩

theorem extend (h : History) (lines : List String) : Grows h (h.extend lines) :=
  ⟨rfl, rfl, List.prefix_append _ _⟩

end History.Grows

variable {path : String}

theorem Builtin.Change.grows {job job' : Job} {bytes : Bytes} (hc : Change job bytes job') :
    job.session.env.history.Grows job'.session.env.history := by
  cases hc with
  | @printed stream => cases stream <;> exact .refl _
  | reread h =>
    simp only [History.readFrom, Except.map] at h
    split at h
    · cases h
    · obtain rfl := Except.ok.inj h
      exact .extend _ _
  | appended h =>
    simp only [History.appendNewTo] at h
    split at h
    · obtain ⟨rfl, -⟩ := Prod.mk.inj h
      exact ⟨rfl, rfl, List.prefix_rfl⟩
    · obtain ⟨rfl, -⟩ := Prod.mk.inj h
      exact .refl _
  | _ => exact .refl _

namespace Session

variable {s s' : Session}

/-- A line that is accepted stands at the end of the session. -/
theorem record_of_isKept (hk : s.env.history.IsKept path) (line : String) :
    (s.record line).env.history = s.env.history.extend [line] := by
  simp [record, History.add, History.extend, hk.file]

theorem Change.grows (hc : Change s s') (hk : s.env.history.IsKept path) :
    s.env.history.Grows s'.env.history := by
  cases hc with
  | recorded line =>
    rw [record_of_isKept hk]
    exact .extend _ _
  | resolved name => exact .refl _
  | commanded hs h =>
    subst hs
    exact h.grows
  | machine w => exact .refl _

theorem Reaches.grows (h : s.Reaches s') (hk : s.env.history.IsKept path) :
    s.env.history.Grows s'.env.history := by
  induction h with
  | refl => exact .refl _
  | tail _ hc ih => exact ih.trans (hc.grows (ih.isKept hk))

/-- **A line that is run stands in the history**, whatever becomes of it. -/
theorem grows_of_executeLine {patience : Nat} {line : String} {result : Except Failure Unit}
    (hk : s.env.history.IsKept path) (h : s.executeLine patience line = some (result, s')) :
    s.env.history.Grows s'.env.history ∧
      ((Line.parse (Text.dropReturn line)).isBlank = false →
        s.env.history.session ++ [Text.dropReturn line] <+: s'.env.history.session) := by
  simp only [executeLine] at h
  split at h
  next hblank =>
    obtain ⟨-, rfl⟩ := Prod.mk.inj (Option.some.inj h)
    exact ⟨.refl _, fun hne => by simp [hblank] at hne⟩
  next =>
    have hrecord := record_of_isKept hk (Text.dropReturn line)
    have hgrows := History.Grows.extend s.env.history [Text.dropReturn line]
    rw [← hrecord] at hgrows
    have hrest := (reaches_execute h).grows (hgrows.isKept hk)
    refine ⟨hgrows.trans hrest, fun _ => ?_⟩
    have hsession := hrest.session
    rwa [hrecord] at hsession

end Session

/-! ## 3. The loop -/

namespace Repl

variable {patience : Nat} {prompting : Bool} {s s' : Session}

/-- The entry that a line makes in the history: none if it asks for nothing. -/
def entryOf (line : String) : List String :=
  if (Line.parse (Text.dropReturn line)).isBlank then [] else [Text.dropReturn line]

/-- The lines that the loop runs, as they are recorded. -/
def executed (patience : Nat) (prompting : Bool) :
    List (Except Failure String) → Session → List String
  | [], _ => []
  | .error _ :: _, _ => []
  | .ok line :: rest, s =>
    entryOf line ++ (runLine patience line (ask prompting s)).elim [] fun s =>
      if s.env.shouldExit then [] else executed patience prompting rest s

/-- The loop at a line, written out.  Unfolding `loop` in any other way would have Lean run the
line. -/
theorem loop_line (line : String) (rest : List (Except Failure String)) :
    loop patience prompting (.ok line :: rest) s =
      match runLine patience line (ask prompting s) with
      | none => none
      | some s =>
        if s.env.shouldExit then some (.ok (), s) else loop patience prompting rest s := by
  with_unfolding_all rfl

theorem loop_error (f : Failure) (rest : List (Except Failure String)) :
    loop patience prompting (.error f :: rest) s = some (.error f, ask prompting s) := rfl

theorem loop_nil : loop patience prompting [] s = some (.ok (), ask prompting s) := rfl

@[simp] theorem env_ask (prompting : Bool) (s : Session) : (ask prompting s).env = s.env := by
  rw [ask]
  split <;> rfl

theorem grows_of_runLine {line : String} (hk : s.env.history.IsKept path)
    (h : runLine patience line s = some s') :
    s.env.history.Grows s'.env.history ∧
      s.env.history.session ++ entryOf line <+: s'.env.history.session := by
  obtain ⟨⟨result, after⟩, hr, heq⟩ := Option.map_eq_some_iff.mp h
  obtain ⟨hgrows, hentry⟩ := Session.grows_of_executeLine hk hr
  -- A report of a failure goes to the terminal only.
  have henv : s'.env = after.env := by
    cases result <;> simp only at heq <;> subst heq <;> rfl
  rw [henv, entryOf]
  refine ⟨hgrows, ?_⟩
  split
  next => simpa using hgrows.session
  next hblank => exact hentry (by simpa using hblank)

/-- **The lines that the loop runs come into the session**, in order. -/
theorem executed_sublist {lines : List (Except Failure String)} {ended : Except Failure Unit}
    (hk : s.env.history.IsKept path)
    (h : loop patience prompting lines s = some (ended, s')) :
    s.env.history.Grows s'.env.history ∧
      ∃ more, s'.env.history.session = s.env.history.session ++ more ∧
        (executed patience prompting lines s).Sublist more := by
  induction lines generalizing s with
  | nil =>
    rw [loop_nil] at h
    obtain ⟨-, rfl⟩ := Prod.mk.inj (Option.some.inj h)
    rw [env_ask, executed]
    exact ⟨.refl _, [], by simp, .slnil⟩
  | cons input rest ih =>
    cases input with
    | error f =>
      rw [loop_error] at h
      obtain ⟨-, rfl⟩ := Prod.mk.inj (Option.some.inj h)
      rw [env_ask, executed]
      exact ⟨.refl _, [], by simp, .slnil⟩
    | ok line =>
      rw [loop_line] at h
      rw [executed]
      cases hrun : runLine patience line (ask prompting s) with
      | none =>
        rw [hrun] at h
        cases h
      | some after =>
        simp only [hrun] at h
        rw [Option.elim_some]
        have hk' : (ask prompting s).env.history.IsKept path := by rwa [env_ask]
        obtain ⟨hgrows, added, hadded⟩ := grows_of_runLine hk' hrun
        rw [env_ask] at hgrows hadded
        by_cases hexit : after.env.shouldExit = true
        · rw [if_pos hexit] at h ⊢
          obtain ⟨-, rfl⟩ := Prod.mk.inj (Option.some.inj h)
          rw [List.append_nil]
          exact ⟨hgrows, entryOf line ++ added, by simpa using hadded.symm,
            List.sublist_append_left _ _⟩
        · rw [if_neg hexit] at h ⊢
          obtain ⟨hrest, more, hmore, hsub⟩ := ih (hgrows.isKept hk) h
          refine ⟨hgrows.trans hrest, entryOf line ++ added ++ more, ?_, ?_⟩
          · rw [hmore, ← hadded]
            simp
          · rw [List.append_assoc]
            exact (List.Sublist.refl _).append (hsub.trans (List.sublist_append_right _ _))

/-! ## 4. What is saved -/

/-- Lines were appended to a file: behind what it held stand lines among which they are, in
order. -/
def Appended (old : Bytes) (lines : List String) (new : Bytes) : Prop :=
  ∃ more, lines.Sublist more ∧ new = old ++ Text.encode (Text.unlines more)

/-- Opening a file to append to it does not change what it holds. -/
theorem content_of_openForWriting {fs opened : FileSystem} {base loc : Location}
    (hopen : fs.openForWriting base path .append = .ok (.file loc, opened)) :
    opened.content loc = fs.content loc := by
  obtain ⟨_, _, hcases⟩ := FileSystem.openForWriting_append hopen
  rcases hcases with ⟨d, -, hd, -⟩ | ⟨n, -, hloc, rfl⟩ | ⟨hnone, hloc, rfl⟩
  · cases hd
  · rfl
  · obtain rfl := Target.file.inj hloc
    simp [FileSystem.content, hnone]

/-- A flush puts behind what the file holds all that it has not been given. -/
theorem flush_of_open {h : History} {fs opened : FileSystem} {base loc : Location} {old : Bytes}
    {executable : Bool} (hk : h.IsKept path)
    (hopen : fs.openForWriting base path .append = .ok (.file loc, opened))
    (hn : opened.node? loc = some (.file old executable)) :
    ∃ h' fs', h.flush fs base = (h', .ok fs') ∧
      fs'.content loc = old ++ Text.encode (Text.unlines (h.session.drop h.flushed)) := by
  by_cases hpending : h.session.drop h.flushed = []
  · have hflush : h.flush fs base = ({ h with flushed := h.session.length }, .ok fs) := by
      simp [History.flush, hk.file, History.appendPending, hpending]
    refine ⟨_, _, hflush, ?_⟩
    rw [← content_of_openForWriting hopen, hpending]
    simp [FileSystem.content, hn, Text.unlines]
  · have hflush : h.flush fs base = ({ h with flushed := h.session.length },
        .ok (opened.set loc (.file (old ++ Text.encode
          (Text.unlines (h.session.drop h.flushed))) executable))) := by
      simp [History.flush, hk.file, History.appendPending, hpending,
        History.appendLines_of_open hopen hn]
    refine ⟨_, _, hflush, ?_⟩
    simp [FileSystem.content]

theorem eq_nil_of_encode_unlines {lines : List String}
    (h : Text.encode (Text.unlines lines) = []) : lines = [] :=
  (Text.eq_of_encode_unlines (List.nil_sublist lines) h.symm).symm

/-- **Which lines the loop saves.**  Take any run of the loop, on any lines of input, with a history
that is kept in a file until the shell exits, and suppose that this file can be appended to when the
loop has ended.  Then the run gives a result, and the lines that were run are in the file exactly if
no line of input could not be read, or none was run. -/
theorem saved_iff {lines : List (Except Failure String)} {ended : Except Failure Unit}
    {loc : Location} {opened : FileSystem} {old : Bytes} {executable : Bool}
    (hk : s.env.history.IsKept path)
    (hloop : loop patience prompting lines s = some (ended, s'))
    (hopen : s'.world.files.openForWriting s'.world.directory path .append =
      .ok (.file loc, opened))
    (hn : opened.node? loc = some (.file old executable)) :
    ∃ result after, run patience prompting lines s = some (result, after) ∧
      result = ended.map (fun _ => status s') ∧
      (Appended old (executed patience prompting lines s) (after.world.files.content loc) ↔
        ended = .ok () ∨ executed patience prompting lines s = []) := by
  obtain ⟨hgrows, more, hmore, hsub⟩ := executed_sublist hk hloop
  cases ended with
  | ok =>
    obtain ⟨history, files, hflush, hcontent⟩ := flush_of_open (hgrows.isKept hk) hopen hn
    have hrun : run patience prompting lines s = some (.ok (status s'),
        { env := { s'.env with history }, world := { s'.world with files } }) := by
      simp only [run, hloop, Option.map_some, flushHistory, hflush, status]
    refine ⟨_, _, hrun, rfl, ?_⟩
    · refine iff_of_true ⟨_, ?_, hcontent⟩ (.inl rfl)
      rw [hmore, hgrows.flushed, List.drop_append_of_le_length hk.flushed_le]
      exact hsub.trans (List.sublist_append_right _ _)
  | error f =>
    have hrun : run patience prompting lines s = some (.error f, s') := by
      simp only [run, hloop, Option.map_some]
    have hold : s'.world.files.content loc = old := by
      rw [← content_of_openForWriting hopen]
      simp [FileSystem.content, hn]
    refine ⟨_, _, hrun, rfl, ?_⟩
    -- Nothing is written, so nothing can have been run.
    simp only [reduceCtorEq, false_or, hold]
    constructor
    · rintro ⟨more, hmore, hnew⟩
      obtain rfl := eq_nil_of_encode_unlines (List.self_eq_append_right.mp hnew)
      exact List.sublist_nil.mp hmore
    · intro hnone
      exact ⟨[], by rw [hnone], by simp [Text.unlines]⟩

/-- A shell with a history file that does not exist yet. -/
def alone : Session :=
  { env := { directory := "/", history := { file := some ("/h", .onExit) } }
    world := { files := FileSystem.empty } }

theorem isKept_alone : alone.env.history.IsKept "/h" := ⟨rfl, Nat.le_refl _⟩

/-- A line of its own that is read to the end is saved. -/
theorem saved_iff_echo :
    ∃ s' opened, alone.env.history.IsKept "/h" ∧
      loop 0 false [.ok "echo hi"] alone = some (.ok (), s') ∧
      s'.world.files.openForWriting s'.world.directory "/h" .append =
        .ok (.file ["h"], opened) ∧
      opened.node? ["h"] = some (.file [] false) ∧
      ∃ after, run 0 false [.ok "echo hi"] alone = some (.ok 0, after) ∧
        Appended [] ["echo hi"] (after.world.files.content ["h"]) := by
  have hloop : ∃ s', loop 0 false [.ok "echo hi"] alone = some (.ok (), s') ∧ status s' = 0 ∧
      ∃ opened, s'.world.files.openForWriting s'.world.directory "/h" .append =
        .ok (.file ["h"], opened) ∧ opened.node? ["h"] = some (.file [] false) :=
    ⟨_, rfl, rfl, _, rfl, rfl⟩
  obtain ⟨s', hloop, hstatus, opened, hopen, hn⟩ := hloop
  obtain ⟨result, after, hrun, hresult, hsaved⟩ := saved_iff isKept_alone hloop hopen hn
  have hexecuted : executed 0 false [.ok "echo hi"] alone = ["echo hi"] := by decide +kernel
  rw [Except.map, hstatus] at hresult
  rw [hexecuted] at hsaved
  exact ⟨s', opened, isKept_alone, hloop, hopen, hn, after, hresult ▸ hrun, hsaved.mpr (.inl rfl)⟩

/-- **A line that was run is lost** when the next line of input is no text: the file could be
appended to, and holds nothing. -/
theorem lost :
    let lines := inputLines (Text.encode "echo hi\n" ++ [255, 10])
    executed 0 false lines alone = ["echo hi"] ∧
      ∃ s' opened after, loop 0 false lines alone = some (.error (.input .notText), s') ∧
        s'.world.files.openForWriting s'.world.directory "/h" .append =
          .ok (.file ["h"], opened) ∧
        opened.node? ["h"] = some (.file [] false) ∧
        run 0 false lines alone = some (.error (.input .notText), after) ∧
        ¬ Appended [] ["echo hi"] (after.world.files.content ["h"]) := by
  refine ⟨by decide +kernel, _, _, _, rfl, rfl, rfl, rfl, ?_⟩
  rintro ⟨more, hmore, hnew⟩
  obtain rfl := eq_nil_of_encode_unlines hnew.symm
  cases hmore

end Repl
end CommandShell
