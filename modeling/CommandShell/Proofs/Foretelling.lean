/-
# What `type` foretells

For each of its names `type` prints a record: that it is a shell builtin, which file it is, or that
it was not found (`Record`), and which of these is read off the line (`Record.eq_of_text_eq`).  It
finds that out as the engine does, and remembers what it has found.

What is remembered stays remembered whatever the shell does (`Search.Grows`), and it is found again
from the same directory, even if the files have changed.  So a command with that name turns out to
be what `type` has said of it, alone on a line and at any place of a pipeline: this is
`type_foretells`.
-/
import CommandShell.Proofs.Course
import CommandShell.Proofs.LoopHistory
import CommandShell.Proofs.Memo
import CommandShell.Proofs.Printing
import CommandShell.Proofs.RunLog

namespace CommandShell

/-! ## 1. What stays remembered -/

namespace Search

variable {t t' t'' : Search}

/-- The list is the same, and what was remembered still is. -/
structure Grows (t t' : Search) : Prop where
  dirs : t'.dirs = t.dirs
  memo : ∀ (k : String) (found : Option String),
    t.memo[k]? = some found → t'.memo[k]? = some found

theorem Grows.refl (t : Search) : Grows t t := ⟨rfl, fun _ _ h => h⟩

theorem Grows.trans (h : Grows t t') (h' : Grows t' t'') : Grows t t'' :=
  ⟨h'.dirs.trans h.dirs, fun k found hk => h'.memo k found (h.memo k found hk)⟩

theorem grows_ask (t : Search) (q : Query) : t.Grows (t.afterUse (.ask q)) where
  dirs := dirs_afterUse_ask t q
  memo := by
    intro k found hk
    rw [memo_afterUse_ask]
    split_ifs with hkey
    · rw [answer_eq, hkey, hk, Option.getD_some]
    · exact hk

end Search

namespace Session

variable {s s' : Session}

def query (s : Session) (name : String) : Search.Query :=
  { fs := s.world.files, base := s.world.directory, name, cwd := s.env.directory }

theorem grows_resolve (s : Session) (name : String) :
    s.env.search.Grows (s.resolve name).2.env.search :=
  Search.grows_ask s.env.search (s.query name)

theorem Change.search (h : Change s s') : s.env.search.Grows s'.env.search := by
  cases h with
  | recorded line => exact .refl _
  | resolved name => exact s.grows_resolve name
  | machine world => exact .refl _
  | @commanded job job' bytes hs hc =>
    subst hs
    cases hc with
    | @printed stream => cases stream <;> exact .refl _
    | resolved name => exact job.session.grows_resolve name
    | entered | rewrote | reread | appended | exiting => exact .refl _

/-- **Whatever a shell does, it keeps its search list** and what it remembers. -/
theorem Reaches.search (h : s.Reaches s') : s.env.search.Grows s'.env.search := by
  induction h with
  | refl => exact .refl _
  | tail _ hc ih => exact ih.trans hc.search

end Session

/-! ## 2. Records -/

/-- What is said of a name. -/
inductive Record
  | builtin
  | program (path : String)
  | missing
deriving DecidableEq

/-- The line in which it is said. -/
def Record.text (name : String) : Record → String
  | .builtin => name ++ " is a shell builtin\n"
  | .program path => name ++ " is " ++ path ++ "\n"
  | .missing => name ++ ": not found\n"

namespace Record

variable {name path path' : String}

theorem text_program_inj (h : text name (.program path) = text name (.program path')) :
    path = path' := by
  simpa [text, String.append_assoc] using h

theorem exists_line (r : Record) (name : String) : ∃ line, r.text name = line ++ "\n" := by
  cases r with
  | builtin => exact ⟨name ++ " is a shell builtin", by rw [String.append_assoc]; rfl⟩
  | program path => exact ⟨name ++ " is " ++ path, rfl⟩
  | missing => exact ⟨name ++ ": not found", by rw [String.append_assoc]; rfl⟩

/-- One file name makes a program look like a built-in command. -/
theorem text_builtin (name : String) :
    text name .builtin = text name (.program "a shell builtin") := by
  have hline : " is a shell builtin\n" = " is " ++ ("a shell builtin" ++ "\n") := by decide
  rw [text, text, hline, String.append_assoc, String.append_assoc]

theorem text_missing_ne : text name .missing ≠ text name (.program path) := by
  intro h
  have hlist := congrArg String.toList h
  simp [text] at hlist

/-- **A record is read off its line**, but for that file name. -/
theorem eq_of_text_eq {r r' : Record} (h : r.text name = r'.text name)
    (hr : r ≠ .program "a shell builtin") (hr' : r' ≠ .program "a shell builtin") : r = r' := by
  cases r with
  | builtin =>
    rw [text_builtin] at h
    cases r' with
    | builtin => rfl
    | program path => exact absurd (congrArg program (text_program_inj h).symm) hr'
    | missing => exact absurd h.symm text_missing_ne
  | program path =>
    cases r' with
    | builtin =>
      rw [text_builtin] at h
      exact absurd (congrArg program (text_program_inj h)) hr
    | program path' => rw [text_program_inj h]
    | missing => exact absurd h.symm text_missing_ne
  | missing =>
    cases r' with
    | builtin =>
      rw [text_builtin] at h
      exact absurd h text_missing_ne
    | program path => exact absurd h text_missing_ne
    | missing => rfl

end Record

/-- What is to be said of a command. -/
def Course.record : Course → Record
  | .builtin _ => .builtin
  | .program path => .program path
  | .missing => .missing

namespace Session

/-- What a session knows about a name: it is that of a built-in command, or is remembered as a
program or as missing. -/
def Knows (s : Session) (name : String) : Record → Prop
  | .builtin => ∃ b, BuiltinName.ofText? name = some b
  | .program path => BuiltinName.ofText? name = none ∧
      s.env.search.memo[(s.query name).key]? = some (some path)
  | .missing => BuiltinName.ofText? name = none ∧
      s.env.search.memo[(s.query name).key]? = some none

variable {s s' : Session} {name : String} {record : Record} {stage : Stage}

/-- What a session knows it knows later, in the same directory. -/
theorem Knows.later (h : s.Knows name record) (hgrows : s.env.search.Grows s'.env.search)
    (hdirectory : s'.env.directory = s.env.directory) : s'.Knows name record := by
  have hkey : (s'.query name).key = (s.query name).key := by
    simp only [query, Search.Query.key, hdirectory]
  cases record with
  | builtin => exact h
  | program path | missing => exact ⟨h.1, by rw [hkey]; exact hgrows.memo _ _ h.2⟩

theorem resolve_of_remembered {found : Option String}
    (h : s.env.search.memo[(s.query name).key]? = some found) : (s.resolve name).1 = found := by
  have hanswer : (s.resolve name).1 = s.env.search.answer (s.query name) := rfl
  rw [hanswer, Search.answer_eq, h, Option.getD_some]

theorem lookup_eq_none (hname : stage.name = name) (h : BuiltinName.ofText? name = none) :
    Builtin.lookup stage.name stage.args = none := by
  rw [Builtin.lookup, hname, h, Option.map_none]

/-- **A command turns out to be what is known about its name**, whatever its arguments. -/
theorem Knows.call (h : s.Knows name record) (hname : stage.name = name) :
    (s.call stage).1.record = record := by
  cases record with
  | builtin =>
    obtain ⟨b, hb⟩ := h
    have hlookup : Builtin.lookup stage.name stage.args = some (Builtin.ofName b stage.args) := by
      rw [Builtin.lookup, hname, hb, Option.map_some]
    rw [call_of_builtin hlookup]
    rfl
  | program path =>
    have hresolve : (s.resolve stage.name).1 = some path := by
      rw [hname]
      exact resolve_of_remembered h.2
    rw [call_of_program (lookup_eq_none hname h.1) hresolve]
    rfl
  | missing =>
    have hresolve : (s.resolve stage.name).1 = none := by
      rw [hname]
      exact resolve_of_remembered h.2
    rw [call_of_missing (lookup_eq_none hname h.1) hresolve]
    rfl

theorem memo_resolve (s : Session) (name : String) :
    (s.resolve name).2.env.search.memo[((s.resolve name).2.query name).key]? =
      some (s.resolve name).1 := by
  have hafter : (s.resolve name).2.env.search = s.env.search.afterUse (.ask (s.query name)) := rfl
  have hkey : ((s.resolve name).2.query name).key = (s.query name).key := rfl
  rw [hafter, hkey, Search.memo_afterUse_ask, if_pos rfl]
  rfl

end Session

/-! ## 3. What is printed -/

namespace Builtin

variable {s : Session} {name : String} {job : Job}

/-- **What is said of a name is known from then on.** -/
theorem describe_eq (job : Job) (name : String) :
    ∃ record s', describe job.session name = (record.text name, decide (record ≠ .missing), s') ∧
      Writes job [] { job with session := s' } ∧ s'.Knows name record ∧
      job.session.env.search.Grows s'.env.search ∧
      s'.env.directory = job.session.env.directory := by
  have hgrows := job.session.grows_resolve name
  have hmemo := job.session.memo_resolve name
  have hwrites : Writes job [] { job with session := (job.session.resolve name).2 } :=
    Writes.refl.tail (.resolved name)
  cases hb : BuiltinName.ofText? name with
  | some b =>
    refine ⟨.builtin, job.session, ?_, .refl, ⟨b, hb⟩, .refl _, rfl⟩
    simp only [describe, hb]
    rfl
  | none =>
    cases hfound : (job.session.resolve name).1 with
    | some path =>
      refine ⟨.program path, (job.session.resolve name).2, ?_, hwrites, ⟨hb, ?_⟩, hgrows, rfl⟩
      · have hresolve : job.session.resolve name = (some path, (job.session.resolve name).2) :=
          Prod.ext hfound rfl
        simp only [describe, hb]
        rw [hresolve]
        rfl
      · rw [hmemo, hfound]
    | none =>
      refine ⟨.missing, (job.session.resolve name).2, ?_, hwrites, ⟨hb, ?_⟩, hgrows, rfl⟩
      · have hresolve : job.session.resolve name = (none, (job.session.resolve name).2) :=
          Prod.ext hfound rfl
        simp only [describe, hb]
        rw [hresolve]
        rfl
      · rw [hmemo, hfound]

/-- What `type` has done for some names: records of them were printed, and are known. -/
structure Told (job : Job) (names : List String) (records : List Record) (job' : Job) : Prop where
  writes : Writes job ((List.zipWith Record.text names records).flatMap Text.encode) job'
  known : List.Forall₂ job'.session.Knows names records
  grows : job.session.env.search.Grows job'.session.env.search
  directory : job'.session.env.directory = job.session.env.directory

theorem Told.cons {names : List String} {records : List Record} {record : Record} {s' : Session}
    {sink : Sink} {world : World} {job' : Job}
    (hwrites : Writes job [] { job with session := s' }) (hknows : s'.Knows name record)
    (hgrows : job.session.env.search.Grows s'.env.search)
    (hdirectory : s'.env.directory = job.session.env.directory)
    (hprint : job.stdout.write s'.world (Text.encode (record.text name)) = .ok (sink, world))
    (hrest : Told (Job.wrote { job with session := s' } .stdout sink world) names records job') :
    Told job (name :: names) (record :: records) job' where
  writes := by
    have hprinted : Writes job (Text.encode (record.text name))
        (Job.wrote { job with session := s' } .stdout sink world) :=
      hwrites.tail (@Change.printed { job with session := s' } .stdout _ _ _ hprint)
    exact hprinted.trans hrest.writes
  known := .cons (hknows.later hrest.grows hrest.directory) hrest.known
  grows := hgrows.trans hrest.grows
  directory := hrest.directory.trans hdirectory

/-- **`type` tells something of every name**, in order, on an output that takes it. -/
theorem told_performType (names : List String) : ∀ (status : Int) (job : Job),
    job.stdout.refuses = false → ∃ records job',
      (performType names status).run.run job =
        (.ok (if .missing ∈ records then 1 else status), job') ∧ Told job names records job' := by
  induction names with
  | nil => exact fun status job _ => ⟨[], job, rfl, .refl, .nil, .refl _, rfl⟩
  | cons name names ih =>
    intro status job hout
    obtain ⟨record, s', hdescribe, hwrites, hknows, hgrows, hdirectory⟩ := describe_eq job name
    obtain ⟨world, hprint⟩ :=
      Sink.write_of_takes s'.world (Text.encode (record.text name)) hout
    obtain ⟨records, job', hrest, htold⟩ := ih (if record ≠ .missing then status else 1)
      (Job.wrote { job with session := s' } .stdout
        (job.stdout.plus (Text.encode (record.text name))) world)
      (by rw [← hout]; exact Sink.refuses_plus _ _)
    refine ⟨record :: records, job', ?_, htold.cons hwrites hknows hgrows hdirectory hprint⟩
    have hrun : (Deed.print .stdout (record.text name)).run.run { job with session := s' } =
        (.ok ⟨⟩, Job.wrote { job with session := s' } .stdout
          (job.stdout.plus (Text.encode (record.text name))) world) := by
      rw [Deed.run_print]
      simp only [Job.sink, hprint]
    simp only [performType, run_bind, run_get, hdescribe, Deed.run_setSession, hrun,
      decide_eq_true_eq, hrest]
    by_cases hmissing : record = .missing
    · simp [hmissing]
    · simp [hmissing, Ne.symm hmissing]

/-- On an output that takes nothing it fails at the first name, before anything is printed. -/
theorem performType_of_refuses {names : List String} (hnames : names ≠ []) (status : Int)
    (hout : job.stdout.refuses = true) :
    ∃ f job', (performType names status).run.run job = (.error f, job') ∧ Writes job [] job' := by
  cases names with
  | nil => exact absurd rfl hnames
  | cons name names =>
    obtain ⟨record, s', hdescribe, hwrites, -⟩ := describe_eq job name
    obtain ⟨line, hline⟩ := record.exists_line name
    obtain ⟨e, hprint⟩ :=
      @Deed.print_of_refuses .stdout { job with session := s' } line hout
    refine ⟨.stream (.os e), _, ?_, hwrites⟩
    simp only [performType, run_bind, run_get, hdescribe, Deed.run_setSession, hline, hprint]

/-- A report of a failure is no output. -/
theorem writes_print_stderr (text : String) (job : Job) :
    Writes job [] ((Deed.print .stderr text).run.run job).2 := by
  rw [Deed.run_print]
  split
  next sink world hw => exact Writes.refl.tail (.printed hw)
  next => exact .refl

/-- Given some names, it tells of them. -/
theorem perform_type {names : List String} (hnames : names ≠ []) :
    (type names).perform = performType names 0 := by
  rw [perform, if_neg hnames]

/-- Nothing has been printed then in the end either. -/
theorem writes_type_of_refuses {names : List String} (hnames : names ≠ [])
    (hout : job.stdout.refuses = true) :
    Writes job [] ((type names).run.run.run job).2 := by
  obtain ⟨f, after, hperform, hwrites⟩ := performType_of_refuses hnames 0 hout
  have hfails : (type names).perform.run.run job = (.error f, after) := by
    rw [perform_type hnames, hperform]
  have hreport := writes_print_stderr (f.message ++ "\n") after
  rw [run_of_perform_error rfl hfails, run_bind]
  rcases hprint : (Deed.print .stderr (f.message ++ "\n")).run.run after with ⟨g | done, job'⟩
  all_goals
    rw [hprint] at hreport
    exact hwrites.trans hreport

end Builtin

/-! ## 4. What comes true -/

/-- In a session a command turns out to be what was said of it: it runs in the shell exactly if its
name was said to be built in, exactly the file that was named is started, or attempted to be, and a
command is reported as missing, and starts nothing, exactly if it was said not to be found. -/
structure Foretold (record : Record) (stage : Stage) (s : Session) : Prop where
  inside : record = .builtin ↔ ∃ b, (s.call stage).1 = .builtin b
  spawned : ∀ path, record = .program path ↔ (s.call stage).1 = .program path
  missing : record = .missing ↔ (s.call stage).1 = .missing
  /-- The command is what is carried out, alone -/
  alone : ∀ patience, s.execute patience (.single stage) = s.runSingle patience stage ∧
    (Action.beginSingle stage).run.run s =
      ((s.call stage).1.alone stage).run.run (s.call stage).2
  /-- and as a stage. -/
  inPipeline : ∀ isLast upstream, (Action.beginStage stage isLast upstream).run.run s =
    ((s.call stage).1.inPipeline stage isLast upstream).run.run (s.call stage).2
  /-- What is no program starts no process. -/
  processes : (∀ path, record ≠ .program path) →
    ((Action.beginSingle stage).run.run s).2.world.processes = s.world.processes ∧
      ∀ isLast upstream, ((Action.beginStage stage isLast upstream).run.run s).2.world.processes =
        s.world.processes

theorem Foretold.of_knows {s : Session} {name : String} {record : Record} {stage : Stage}
    (h : s.Knows name record) (hname : stage.name = name) (hsome : name ≠ "") :
    Foretold record stage s := by
  have hcall : (s.call stage).1.record = record := h.call hname
  have hnonempty : stage.isEmpty = false := by simpa [Stage.isEmpty, hname] using hsome
  refine ⟨?_, ?_, ?_, ?_, fun isLast upstream => run_beginStage stage isLast upstream s, ?_⟩
  · rw [← hcall]
    cases (s.call stage).1 <;> simp [Course.record]
  · intro path
    rw [← hcall]
    cases (s.call stage).1 <;> simp [Course.record]
  · rw [← hcall]
    cases (s.call stage).1 <;> simp [Course.record]
  · intro patience
    refine ⟨?_, run_beginSingle stage s⟩
    simp only [Session.execute, hnonempty, Bool.false_eq_true, if_false]
  · intro hrecord
    have hprogram : ∀ path, (s.call stage).1 ≠ .program path := by
      intro path hpath
      rw [hpath] at hcall
      exact hrecord path hcall.symm
    exact ⟨processes_beginSingle hprogram, processes_beginStage hprogram⟩

/-- **What `type` says comes true.**  Given some names, `type` prints one record of each name, in
order, and succeeds if none is missing; only on an output that takes nothing it prints nothing.
Take any of the names of which a record was printed.  Its line says which record that is, unless a
file has the one name with which it is taken for a built-in command.

Take any command with that name, too.  Whatever the shell has done since then, and whatever has
become of the files, the command turns out to be what was said of it when it is begun in the same
directory: alone, and at every place of a pipeline that is reached in that directory. -/
theorem type_foretells {names : List String} {job : Job} (hnames : names ≠ []) :
    ∃ records result job', (Builtin.type names).run.run.run job = (result, job') ∧
      (if job.stdout.refuses then records = []
        else records.length = names.length ∧ result = .ok (if .missing ∈ records then 1 else 0)) ∧
      Builtin.Writes job ((List.zipWith Record.text names records).flatMap Text.encode) job' ∧
      ∀ name record, (name, record) ∈ names.zip records → name ≠ "" →
        (∀ said : Record, said.text name = record.text name → said ≠ .program "a shell builtin" →
          record ≠ .program "a shell builtin" → said = record) ∧
        ∀ stage : Stage, stage.name = name →
          (∀ s, job'.session.Reaches s → s.env.directory = job'.session.env.directory →
            Foretold record stage s) ∧
          ∀ s stages log st, job'.session.Reaches s → Pipeline.Run (.start s stages) log st →
            ∀ e ∈ log, e.stage = stage →
              e.before.session.env.directory = job'.session.env.directory →
              Foretold record stage e.before.session := by
  cases hout : job.stdout.refuses with
  | true =>
    refine ⟨[], _, ((Builtin.type names).run.run.run job).2, rfl, rfl, ?_, by simp⟩
    rw [List.zipWith_nil_right, List.flatMap_nil]
    exact Builtin.writes_type_of_refuses hnames hout
  | false =>
    obtain ⟨records, job', hrun, htold⟩ := Builtin.told_performType names 0 job hout
    have hperform : (Builtin.type names).perform.run.run job =
        (.ok (if .missing ∈ records then 1 else 0), job') := by
      rw [Builtin.perform_type hnames, hrun]
    refine ⟨records, _, job', Builtin.run_of_perform_ok hperform,
      ⟨htold.known.length_eq.symm, rfl⟩, htold.writes, ?_⟩
    intro name record hmem hsome
    refine ⟨fun said hline => Record.eq_of_text_eq hline, ?_⟩
    intro stage hname
    have hknows : job'.session.Knows name record := List.forall₂_zip htold.known hmem
    have hlater : ∀ s, job'.session.Reaches s →
        s.env.directory = job'.session.env.directory → Foretold record stage s := by
      intro s hreaches hdirectory
      exact .of_knows (hknows.later hreaches.search hdirectory) hname hsome
    refine ⟨hlater, ?_⟩
    intro s stages log st hreaches hrun e he hstage hdirectory
    obtain ⟨older, newer, hlog⟩ := List.append_of_mem he
    obtain ⟨hbefore, -⟩ := hrun.at hlog
    exact hlater _ (hreaches.trans hbefore.reaches.reaches_session) hdirectory

/-- A shell that finds programs in `/a/bin`, at work on the terminal. -/
def toolJob : Job :=
  { session := { env := { directory := "/", search := .ofDirs ["/a/bin"] }
                 world := { files := Search.twoTools } }
    stdout := .channel .terminalOutput
    stderr := .channel .terminalError }

/-- All files are removed behind a `type`.  The program is still what the command turns out to
be. -/
theorem type_foretells_gone :
    ["tool"] ≠ [] ∧ toolJob.stdout.refuses = false ∧
      ∃ record job', (Builtin.type ["tool"]).run.run.run toolJob = (.ok 0, job') ∧
        Builtin.Writes toolJob (Text.encode (record.text "tool")) job' ∧
        Foretold record { name := "tool" }
          { job'.session with world := { job'.session.world with files := .empty } } ∧
        record = .program "/a/bin/tool" := by
  have hnames : ["tool"] ≠ [] := by simp
  have hout : toolJob.stdout.refuses = false := rfl
  obtain ⟨records, result, job', hrun, hprinted, hwrites, hall⟩ :=
    @type_foretells ["tool"] toolJob hnames
  rw [hout, if_neg Bool.false_ne_true] at hprinted
  obtain ⟨hlength, hresult⟩ := hprinted
  obtain ⟨record, rfl⟩ := List.length_eq_one_iff.mp hlength
  obtain ⟨-, hcommand⟩ := hall "tool" record (by simp) (by decide)
  have hforetold : Foretold record { name := "tool" }
      { job'.session with world := { job'.session.world with files := .empty } } :=
    (hcommand { name := "tool" } rfl).1 _ (.single (.machine _)) rfl
  have hjob : job' = ((Builtin.type ["tool"]).run.run.run toolJob).2 := by rw [hrun]
  have hprogram : record = .program "/a/bin/tool" := by
    rw [hforetold.spawned, hjob]
    rfl
  refine ⟨hnames, hout, record, job', ?_, by simpa using hwrites, hforetold, hprogram⟩
  rw [hrun, hresult, hprogram]
  rfl

end CommandShell
