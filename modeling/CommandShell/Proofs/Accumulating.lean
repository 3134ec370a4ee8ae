/-
# Output that accumulates in a file

Some built-in commands do no more than say something (`Builtin.speaks`): `echo`, `pwd`, `type`, a
help text, and why arguments were refused.  Each has one stream to say it on (`Builtin.voice`), and
what it says depends on the directory of the shell and on the programs that are found
(`Builtin.saying`).

The outputs of lines with such commands are redirected to one file.  A line leaves what there was or
replaces it, and adds what its command says; so a whole run of them leaves the outputs since the
last one that replaces (`runLines_accumulate`).  None of that changes where paths lead or which
programs are found (`Session.SpeaksAs`), so what is said can be told before the run begins.
-/
import CommandShell.Proofs.Delivering
import CommandShell.Proofs.InOrder
import CommandShell.Proofs.Recall

namespace CommandShell

open Delivery

/-! ## 1. Sessions in which the same is said -/

namespace Session

variable {s s' s'' : Session}

/-- What a command says of the directory and of programs is the same in two sessions, and the
history is kept in the same file, if it is kept in one. -/
structure SpeaksAs (s s' : Session) : Prop where
  directory : s'.env.directory = s.env.directory
  resolve : ∀ name, (s'.resolve name).1 = (s.resolve name).1
  history : s'.env.history.file = s.env.history.file
  keeps : s.world.Keeps s'.world

/-- A look-up finds what is remembered, or what is there. -/
theorem resolve_eq_getD (s : Session) (name : String) : (s.resolve name).1 =
    (s.env.search.memo[(s.query name).key]?).getD (s.lookup name) :=
  Search.answer_eq s.env.search (s.query name)

namespace SpeaksAs

theorem trans (h : s.SpeaksAs s') (h' : s'.SpeaksAs s'') : s.SpeaksAs s'' where
  directory := h'.directory.trans h.directory
  resolve name := (h'.resolve name).trans (h.resolve name)
  history := h'.history.trans h.history
  keeps := h.keeps.trans h'.keeps

/-- Nothing is looked up, and the machine stays in place. -/
theorem of_keeps (hsearch : s'.env.search = s.env.search)
    (hdirectory : s'.env.directory = s.env.directory)
    (hhistory : s'.env.history.file = s.env.history.file) (hkeeps : s.world.Keeps s'.world) :
    s.SpeaksAs s' where
  directory := hdirectory
  resolve name := by
    have hkey : (s'.query name).key = (s.query name).key := by
      simp only [query, Search.Query.key, hdirectory]
    rw [resolve_eq_getD, resolve_eq_getD, hsearch, hkey,
      lookup_of_keeps (congrArg Search.dirs hsearch) hdirectory hkeeps]
  history := hhistory
  keeps := hkeeps

theorem refl (s : Session) : s.SpeaksAs s := .of_keeps rfl rfl rfl (.refl s.world)

/-- What was looked up is found again, and so is every other name. -/
theorem resolved (s : Session) (name : String) : s.SpeaksAs (s.resolve name).2 where
  directory := rfl
  resolve other := by
    have hafter : (s.resolve name).2.env.search = s.env.search.afterUse (.ask (s.query name)) := rfl
    have hquery : (s.resolve name).2.query other = s.query other := rfl
    have hlookup : (s.resolve name).2.lookup other = s.lookup other :=
      lookup_of_keeps (s.grows_resolve name).dirs rfl (.refl s.world)
    rw [resolve_eq_getD, resolve_eq_getD, hafter, hquery, hlookup, Search.memo_afterUse_ask]
    split
    next hkey =>
      have hanswer : s.env.search.answer (s.query name) = (s.resolve name).1 := rfl
      rw [Option.getD_some, hanswer, resolve_eq_getD, hkey, lookup_eq_of_key_eq hkey]
    next => rfl
  history := rfl
  keeps := .refl s.world

end SpeaksAs
end Session

/-! ## 2. Commands that speak -/

namespace Builtin

variable {s s' : Session} {b : Builtin} {job : Job} {c : Channel} {o : Outlet} {stream : Stream}

/-- Whether a command does no more than say something. -/
def speaks : Builtin → Bool
  | .echo _ => true
  | .pwd => true
  | .type _ => true
  | .help _ => true
  | .refuse _ => true
  | _ => false

/-- The stream on which a command says what it has to say. -/
def voice : Builtin → Stream
  | .type [] => .stderr
  | .refuse _ => .stderr
  | _ => .stdout

/-- What such a command says. -/
def saying (s : Session) : Builtin → Bytes
  | .echo words => Text.encode (" ".intercalate words ++ "\n")
  | .pwd => Text.encode (s.env.directory ++ "\n")
  | .type [] => Text.encode "type: missing argument\n"
  | .type names => names.flatMap fun name => Text.encode (describe s name).1
  | .help text => Text.encode (Text.trimEnd text ++ "\n")
  | .refuse message => Text.encode (Text.trimEnd message ++ "\n")
  | _ => []

/-- A name is described alike, and then everything still is. -/
theorem describe_of_speaksAs (h : s.SpeaksAs s') (name : String) :
    (describe s' name).1 = (describe s name).1 := by
  have hresolve := h.resolve name
  simp only [describe]
  split
  · rfl
  · rcases hr : s.resolve name with ⟨found | found, after⟩ <;>
      rcases hr' : s'.resolve name with ⟨found' | found', after'⟩ <;>
      simp_all

theorem speaksAs_describe (s : Session) (name : String) :
    s.SpeaksAs (describe s name).2.2 := by
  have hresolved := Session.SpeaksAs.resolved s name
  simp only [describe]
  split
  · exact .refl s
  · rcases hr : s.resolve name with ⟨found | found, after⟩ <;> simpa only [hr] using hresolved

theorem saying_of_speaksAs (h : s.SpeaksAs s') (b : Builtin) : b.saying s' = b.saying s := by
  cases b with
  | pwd => simp only [saying, h.directory]
  | type names =>
    cases names with
    | nil => rfl
    | cons name names => simp only [saying, describe_of_speaksAs h]
  | _ => rfl

/-- What a deed says is delivered, and it does nothing else. -/
structure Tells (m : Deed Int) (job : Job) (o : Outlet) (bytes : Bytes) (status : Int)
    (job' : Job) : Prop where
  run : m.run.run job = (.ok status, job')
  speaksAs : job.session.SpeaksAs job'.session
  gets : job.session.world.Gets job'.session.world [⟨o, .append, bytes⟩]

theorem exists_print_of_connects (hsink : job.sink stream = .channel c)
    (hconnects : job.session.world.Connects c o) (text : String) :
    ∃ job', (Deed.print stream text).run.run job = (.ok ⟨⟩, job') ∧
      job.session.SpeaksAs job'.session ∧
      job.session.world.Gets job'.session.world [⟨o, .append, Text.encode text⟩] ∧
      job'.sink stream = .channel c ∧ job'.session.world.Connects c o := by
  obtain ⟨w, hw, hgets, hconnects'⟩ := hconnects.write (Text.encode text)
  have hwrite : Sink.write job.session.world (job.sink stream) (Text.encode text) =
      .ok (.channel c, w) := by
    simp only [hsink, Sink.write, hw]
  refine ⟨job.wrote stream (.channel c) w, by rw [Deed.run_print, hwrite], ?_, ?_, ?_, ?_⟩
  · rw [Job.session_wrote]
    exact .of_keeps rfl rfl rfl hgets.keeps
  · rwa [Job.session_wrote]
  · rw [Job.sink_wrote, if_pos rfl]
  · rwa [Job.session_wrote]

theorem exists_tells_notice (hsink : job.sink stream = .channel c)
    (hconnects : job.session.world.Connects c o) (text : String) (status : Int) :
    ∃ job', Tells (do Deed.print stream text; pure status) job o (Text.encode text) status
      job' := by
  obtain ⟨job', hprint, hspeaks, hgets, -⟩ := exists_print_of_connects hsink hconnects text
  exact ⟨job', by rw [run_bind, hprint]; rfl, hspeaks, hgets⟩

/-- Names are described one after the other, each as it would be at first. -/
theorem exists_tells_performType (names : List String) : ∀ (status : Int) {job : Job},
    job.sink .stdout = .channel c → job.session.world.Connects c o → ∃ code job',
      Tells (performType names status) job o
        (names.flatMap fun name => Text.encode (describe job.session name).1) code job' := by
  induction names with
  | nil =>
    exact fun status job _ hconnects => ⟨status, job, rfl, .refl _, hconnects.nothing⟩
  | cons name names ih =>
    intro status job hsink hconnects
    have hworld := Twins.world_describe job.session name
    obtain ⟨job₂, hprint, hspeaks, hgets, hsink₂, hconnects₂⟩ :=
      @exists_print_of_connects { job with session := (describe job.session name).2.2 } c o .stdout
        hsink (by rwa [hworld]) (describe job.session name).1
    have hsame := (speaksAs_describe job.session name).trans hspeaks
    obtain ⟨code, job', hrest⟩ :=
      ih (if (describe job.session name).2.1 then status else 1) hsink₂ hconnects₂
    refine ⟨code, job', ?_, hsame.trans hrest.speaksAs, ?_⟩
    · simp only [performType, run_bind, run_get, Deed.run_setSession, hprint, hrest.run]
    · have hlater := hrest.gets
      simp only [describe_of_speaksAs hsame] at hlater
      rw [hworld] at hgets
      exact (hgets.trans hlater).joined

/-- **What a command that only speaks has to say comes to the outlet of its stream.** -/
theorem exists_tells_run (hb : b.speaks = true) (hsink : job.sink b.voice = .channel c)
    (hconnects : job.session.world.Connects c o) :
    ∃ status job', Tells b.run job o (b.saying job.session) status job' := by
  have hperform : ∃ status job', Tells b.perform job o (b.saying job.session) status job' := by
    cases b with
    | echo words => exact ⟨0, exists_tells_notice hsink hconnects _ 0⟩
    | pwd =>
      obtain ⟨job', hnotice⟩ :=
        exists_tells_notice hsink hconnects (job.session.env.directory ++ "\n") 0
      refine ⟨0, job', ?_, hnotice.speaksAs, hnotice.gets⟩
      rw [← hnotice.run]
      simp only [perform, run_bind, Deed.run_env, voice]
    | type names =>
      cases names with
      | nil => exact ⟨1, exists_tells_notice hsink hconnects _ 1⟩
      | cons name names =>
        rw [perform_type (List.cons_ne_nil name names)]
        exact exists_tells_performType (name :: names) 0 hsink hconnects
    | help text => exact ⟨0, exists_tells_notice hsink hconnects _ 0⟩
    | refuse message => exact ⟨1, exists_tells_notice hsink hconnects _ 1⟩
    | cd | exit | history => cases hb
  obtain ⟨status, job', htells⟩ := hperform
  exact ⟨status, job', run_of_perform_ok htells.run, htells.speaksAs, htells.gets⟩

end Builtin

/-! ## 3. Lines -/

/-- A line that holds one command, which only speaks. -/
structure Announcement where
  text : String
  stage : Stage
  command : Builtin
  parses : Line.parse (Text.dropReturn text) = .single stage
  lookup : Builtin.lookup stage.name stage.args = some command
  speaks : command.speaks = true

namespace Announcement

variable {a : Announcement} {s s' : Session} {f : Location} {errors : Outlet} {old : Bytes}

/-- What is said on a stream. -/
def said (a : Announcement) (s : Session) (stream : Stream) : Bytes :=
  if a.command.voice = stream then a.command.saying s else []

/-- The output goes to a file, and errors can be written and go elsewhere. -/
structure GoesTo (a : Announcement) (s : Session) (f : Location) : Prop where
  stdout : s.outlet? a.stage .stdout = some (.file f)
  stderr : ∃ errors, s.outlet? a.stage .stderr = some errors ∧ errors ≠ .file f

/-- What is delivered on a stream that leads to an outlet. -/
def delivery (a : Announcement) (s : Session) (stream : Stream) (o : Outlet) : Delivery :=
  ⟨o, o.mode (a.stage.redirection? stream), a.said s stream⟩

/-- What the line delivers, on all its streams that lead somewhere. -/
def deliveries (a : Announcement) (s : Session) : List Delivery :=
  [Stream.stdout, .stderr].filterMap fun stream =>
    (s.outlet? a.stage stream).map (a.delivery s stream)

theorem deliveries_eq {output errors : Outlet} (hout : s.outlet? a.stage .stdout = some output)
    (herr : s.outlet? a.stage .stderr = some errors) :
    a.deliveries s = [a.delivery s .stdout output, a.delivery s .stderr errors] := by
  simp [deliveries, hout, herr]

/-- In sessions in which the same is said, streams lead to the same outlets. -/
theorem outlet?_of_speaksAs (h : s.SpeaksAs s') (a : Announcement) (stream : Stream) :
    s'.outlet? a.stage stream = s.outlet? a.stage stream := by
  rw [Session.outlet?, h.directory, World.outlet?_of_keeps h.keeps]
  rfl

theorem deliveries_of_speaksAs (h : s.SpeaksAs s') (a : Announcement) :
    a.deliveries s' = a.deliveries s := by
  have hdelivery : a.delivery s' = a.delivery s := by
    funext stream o
    simp only [delivery, said, Builtin.saying_of_speaksAs h]
  simp only [deliveries, outlet?_of_speaksAs h, hdelivery]

/-- Opening both outlets and speaking at one of them delivers this. -/
theorem gets_deliveries {output errors : Outlet} {w : World}
    (hout : s.outlet? a.stage .stdout = some output)
    (herr : s.outlet? a.stage .stderr = some errors) (hne : output ≠ errors)
    (h : s.world.Gets w [output.opening (a.stage.redirection? .stdout),
      errors.opening (a.stage.redirection? .stderr),
      ⟨if a.command.voice = .stdout then output else errors, .append, a.command.saying s⟩]) :
    s.world.Gets w (a.deliveries s) := by
  rw [deliveries_eq hout herr]
  refine h.of_arrived (fun o old => ?_) fun loc => ?_
  · simp only [delivery, said, Outlet.opening, arrived_cons, arrived_nil]
    cases a.command.voice
    · by_cases ho : output = o
      · subst ho
        simp [Ne.symm hne, WriteMode.left]
      · simp [ho]
    · by_cases he : errors = o
      · subst he
        simp [hne, WriteMode.left]
      · simp [he]
  · cases a.command.voice with
    | stdout =>
      simp only [delivery, Outlet.opening, List.mem_cons, List.not_mem_nil, or_false,
        exists_eq_or_imp, exists_eq_left, if_true]
      tauto
    | stderr => simp [delivery, Outlet.opening]

/-- The command of the line says what it has to say, and nothing else happens. -/
theorem exists_runSingle (patience : Nat) {output errors : Outlet}
    (hout : s.outlet? a.stage .stdout = some output)
    (herr : s.outlet? a.stage .stderr = some errors) (hne : output ≠ errors) :
    ∃ s', s.runSingle patience a.stage = some (.ok (), s') ∧ s.SpeaksAs s' ∧
      s.world.Gets s'.world (a.deliveries s) := by
  obtain ⟨stdout, stderr, w, hopen, hopened, hstdout, hstderr⟩ :=
    Session.exists_openBoth hout herr hne
  have hspeaks : s.SpeaksAs ⟨s.env, w⟩ := .of_keeps rfl rfl rfl hopened.keeps
  have hconnects : w.Connects (if a.command.voice = .stdout then stdout else stderr)
      (if a.command.voice = .stdout then output else errors) := by
    split
    · exact hstdout
    · exact hstderr
  have hsink : Job.sink ⟨⟨s.env, w⟩, .channel stdout, .channel stderr⟩ a.command.voice =
      .channel (if a.command.voice = .stdout then stdout else stderr) := by
    cases a.command.voice <;> rfl
  obtain ⟨status, job', htells⟩ := Builtin.exists_tells_run a.speaks hsink hconnects
  refine ⟨job'.session, ?_, hspeaks.trans htells.speaksAs, gets_deliveries hout herr hne ?_⟩
  · rw [Session.runSingle, run_beginSingle_of_builtin a.lookup, hopen]
    simp only [htells.run]
  · rw [← Builtin.saying_of_speaksAs hspeaks]
    exact hopened.trans htells.gets

/-- **Such a line is run**, and recorded before that. -/
theorem exists_executeLine (patience : Nat) (hmemory : s.env.history.file = none)
    {output errors : Outlet} (hout : s.outlet? a.stage .stdout = some output)
    (herr : s.outlet? a.stage .stderr = some errors) (hne : output ≠ errors) :
    ∃ s', s.executeLine patience a.text = some (.ok (), s') ∧ s.SpeaksAs s' ∧
      s.world.Gets s'.world (a.deliveries s) := by
  have hrecord : s.record (Text.dropReturn a.text) = ⟨{ s.env with
      history := s.env.history.extend [Text.dropReturn a.text] }, s.world⟩ := by
    simp only [Session.record, History.add, History.extend, hmemory]
  have hrecorded : s.SpeaksAs (s.record (Text.dropReturn a.text)) := by
    rw [hrecord]
    exact .of_keeps rfl rfl rfl (.refl s.world)
  obtain ⟨s', hrun, hspeaks, hgets⟩ := exists_runSingle (a := a) patience
    ((outlet?_of_speaksAs hrecorded a .stdout).trans hout)
    ((outlet?_of_speaksAs hrecorded a .stderr).trans herr) hne
  refine ⟨s', ?_, hrecorded.trans hspeaks, ?_⟩
  · have hempty : a.stage.isEmpty = false := isEmpty_of_lookup a.lookup
    simp only [Session.executeLine, a.parses, Line.isBlank, Session.execute, hempty,
      Bool.false_eq_true, if_false, hrun]
  · rwa [deliveries_of_speaksAs hrecorded, hrecord] at hgets

end Announcement

/-! ## 4. Runs -/

/-- Runs lines of input one after the other, up to one that fails. -/
def Session.runLines (patience : Nat) : List String → Session → Ending
  | [], s => some (.ok (), s)
  | line :: rest, s =>
    match s.executeLine patience line with
    | some (.ok _, s) => runLines patience rest s
    | ending => ending

/-- A line that does not fail, and those behind it.  Unfolding `runLines` in any other way would
have Lean run the line. -/
theorem Session.runLines_cons {patience : Nat} {line : String} {rest : List String}
    {s s' : Session} (h : s.executeLine patience line = some (.ok (), s')) :
    s.runLines patience (line :: rest) = s'.runLines patience rest := by
  have hunfold : s.runLines patience (line :: rest) = match s.executeLine patience line with
      | some (.ok _, s) => s.runLines patience rest
      | ending => ending := by
    with_unfolding_all rfl
  rw [hunfold, h]

namespace Announcement

variable {s s' : Session} {f : Location} {lines : List Announcement}

/-- It goes there in every session in which the same is said. -/
theorem GoesTo.of_speaksAs {a : Announcement} (h : a.GoesTo s f) (hs : s.SpeaksAs s') :
    a.GoesTo s' f := by
  obtain ⟨errors, herr, hne⟩ := h.stderr
  exact ⟨(outlet?_of_speaksAs hs a .stdout).trans h.stdout, errors,
    (outlet?_of_speaksAs hs a .stderr).trans herr, hne⟩

/-- **Lines with such commands are run**, and deliver what each of them would at first. -/
theorem exists_runLines (patience : Nat) : ∀ {s : Session}, s.env.history.file = none →
    (∀ a ∈ lines, a.GoesTo s f) → ∃ s',
      s.runLines patience (lines.map Announcement.text) = some (.ok (), s') ∧ s.SpeaksAs s' ∧
        s.world.Gets s'.world (lines.flatMap (·.deliveries s)) := by
  induction lines with
  | nil => exact fun _ _ => ⟨_, rfl, .refl _, .silent rfl rfl rfl⟩
  | cons a lines ih =>
    intro s hmemory hgoes
    obtain ⟨ha, hlines⟩ := List.forall_mem_cons.mp hgoes
    obtain ⟨errors, herr, hne⟩ := ha.stderr
    obtain ⟨s₁, hline, hspeaks, hgets⟩ :=
      exists_executeLine patience hmemory ha.stdout herr (Ne.symm hne)
    obtain ⟨s', hrest, hspeaks', hgets'⟩ := ih (hspeaks.history.trans hmemory)
      fun b hb => (hlines b hb).of_speaksAs hspeaks
    refine ⟨s', ?_, hspeaks.trans hspeaks', ?_⟩
    · rw [List.map_cons, Session.runLines_cons hline, hrest]
    · have hsame : lines.flatMap (·.deliveries s₁) = lines.flatMap (·.deliveries s) := by
        simp only [deliveries_of_speaksAs hspeaks]
      rw [hsame] at hgets'
      exact hgets.trans hgets'

/-! ## 5. What accumulates -/

/-- What happens to the old content of the target of a stream. -/
def mode (a : Announcement) (stream : Stream) : WriteMode :=
  ((a.stage.redirection? stream).map Redirection.mode).getD .append

theorem mode_file (a : Announcement) (stream : Stream) (loc : Location) :
    (Outlet.file loc).mode (a.stage.redirection? stream) = a.mode stream := by
  unfold Outlet.mode mode
  cases a.stage.redirection? stream <;> rfl

/-- Whether what the command says on its error stream comes to an outlet. -/
def errsTo (a : Announcement) (s : Session) (o : Outlet) : Bool :=
  s.outlet? a.stage .stderr = some o

/-- What a file holds after lines that put what is said on a stream there. -/
def accumulated (s : Session) (stream : Stream) (old : Bytes) (lines : List Announcement) : Bytes :=
  lines.foldl (fun old a => (a.mode stream).left old ++ a.said s stream) old

/-- When nothing is replaced, it is what it held and all that is said. -/
theorem accumulated_of_append {stream : Stream} (old : Bytes)
    (h : ∀ a ∈ lines, a.mode stream = .append) :
    accumulated s stream old lines = old ++ lines.flatMap (·.said s stream) := by
  have hleft : accumulated s stream old lines =
      lines.foldl (fun old a => old ++ a.said s stream) old :=
    List.foldl_ext _ _ old fun old a ha => by rw [h a ha, WriteMode.left]
  rw [hleft, List.foldl_append_eq_append, List.flatMap_def]

/-- Otherwise it is what is said from the last line on that replaces it. -/
theorem accumulated_of_overwrite {stream : Stream} {older newer : List Announcement}
    {a : Announcement} (old : Bytes) (ha : a.mode stream = .overwrite)
    (hnewer : ∀ b ∈ newer, b.mode stream = .append) :
    accumulated s stream old (older ++ a :: newer) = (a :: newer).flatMap (·.said s stream) := by
  have hsplit : accumulated s stream old (older ++ a :: newer) =
      accumulated s stream ((a.mode stream).left (accumulated s stream old older) ++
        a.said s stream) newer := by
    simp only [accumulated, List.foldl_append, List.foldl_cons]
  rw [hsplit, accumulated_of_append _ hnewer, ha, List.flatMap_cons]
  rfl

/-- What a line delivers to the file of its output. -/
theorem arrived_output {a : Announcement} (h : a.GoesTo s f) (old : Bytes) :
    arrived (.file f) old (a.deliveries s) = (a.mode .stdout).left old ++ a.said s .stdout := by
  obtain ⟨errors, herr, hne⟩ := h.stderr
  simp only [deliveries_eq h.stdout herr, delivery, arrived_cons, arrived_nil, if_pos, if_neg hne,
    mode_file]

theorem arrived_errors {a : Announcement} (h : a.GoesTo s f) {o : Outlet} (ho : o ≠ .file f)
    (old : Bytes) : arrived o old (a.deliveries s) =
      if a.errsTo s o then (o.mode (a.stage.redirection? .stderr)).left old ++ a.said s .stderr
      else old := by
  obtain ⟨errors, herr, hne⟩ := h.stderr
  simp only [deliveries_eq h.stdout herr, delivery, arrived_cons, arrived_nil, if_neg (Ne.symm ho),
    errsTo, herr, Option.some.injEq, decide_eq_true_eq]
  split
  next heq => rw [heq]
  next => rfl

section Runs

variable (h : ∀ a ∈ lines, a.GoesTo s f)
include h

/-- **The outputs accumulate in their file.** -/
theorem arrived_outputs (old : Bytes) : arrived (.file f) old (lines.flatMap (·.deliveries s)) =
    accumulated s .stdout old lines := by
  rw [arrived, List.foldl_flatMap]
  exact List.foldl_ext _ _ old fun old a ha => arrived_output (h a ha) old

/-- **So do errors in every other file**, as far as they are sent there. -/
theorem arrived_errors_file {loc : Location} (hne : loc ≠ f) (old : Bytes) :
    arrived (.file loc) old (lines.flatMap (·.deliveries s)) =
      accumulated s .stderr old (lines.filter (·.errsTo s (.file loc))) := by
  rw [arrived, List.foldl_flatMap, accumulated, List.foldl_filter]
  refine List.foldl_ext _ _ old fun old a ha => ?_
  have hfile : Outlet.file loc ≠ .file f := fun heq => hne (Outlet.file.inj heq)
  rw [← mode_file a .stderr loc]
  exact arrived_errors (h a ha) hfile old

/-- **The terminal gets errors only.** -/
theorem arrived_errors_terminal (stream : Stream) (old : Bytes) :
    arrived (.terminal stream) old (lines.flatMap (·.deliveries s)) =
      old ++ (lines.filter (·.errsTo s (.terminal stream))).flatMap (·.said s .stderr) := by
  rw [arrived, List.foldl_flatMap, List.flatMap_def, ← List.foldl_append_eq_append,
    List.foldl_filter]
  exact List.foldl_ext _ _ old fun old a ha =>
    arrived_errors (o := .terminal stream) (h a ha) nofun old

end Runs

end Announcement

namespace Session

/-- **Redirected output accumulates in its file**, and nothing else is touched.  Take any lines with
single commands that only speak, which are recorded in memory only.  The output of each is
redirected to one file, some of them replacing its content and some extending it, and what they have
to say of errors can be written and goes elsewhere.  Then all lines are run.

* If none of them replaces the content, the file ends up with what it held and all outputs.
* Otherwise it ends up with the outputs from the last line on that replaces it.
* The terminal gets none of the outputs, and what is said of errors only if it is sent there.
* Every other file gets what is said of errors by the commands that send it there, and one to which
  no command does is neither created nor changed. -/
theorem runLines_accumulate (patience : Nat) {s : Session} {f : Location}
    {lines : List Announcement} (hmemory : s.env.history.file = none)
    (hgoes : ∀ a ∈ lines, a.GoesTo s f) :
    ∃ s', s.runLines patience (lines.map Announcement.text) = some (.ok (), s') ∧
      ((∀ a ∈ lines, a.mode .stdout = .append) →
        s'.world.files.content f =
          s.world.files.content f ++ lines.flatMap (·.said s .stdout)) ∧
      (∀ older a newer, lines = older ++ a :: newer → a.mode .stdout = .overwrite →
        (∀ b ∈ newer, b.mode .stdout = .append) →
        s'.world.files.content f = (a :: newer).flatMap (·.said s .stdout)) ∧
      (lines ≠ [] → (s'.world.files.node? f).isSome = true) ∧
      s'.world.terminal = { s.world.terminal with
        output := s.world.terminal.output ++
          (lines.filter (·.errsTo s (.terminal .stdout))).flatMap (·.said s .stderr)
        errors := s.world.terminal.errors ++
          (lines.filter (·.errsTo s (.terminal .stderr))).flatMap (·.said s .stderr) } ∧
      ∀ loc, loc ≠ f →
        s'.world.files.content loc = Announcement.accumulated s .stderr
          (s.world.files.content loc) (lines.filter (·.errsTo s (.file loc))) ∧
        ((∀ a ∈ lines, a.errsTo s (.file loc) = false) →
          s'.world.files.node? loc = s.world.files.node? loc) := by
  obtain ⟨s', hrun, -, hgets⟩ := Announcement.exists_runLines patience hmemory hgoes
  have hcontent := (hgets.content f).trans (Announcement.arrived_outputs hgoes _)
  refine ⟨s', hrun, fun happend => ?_, ?_, fun hne => ?_, ?_, fun loc hloc => ⟨?_, fun hnot => ?_⟩⟩
  · rw [hcontent, Announcement.accumulated_of_append _ happend]
  · rintro older a newer rfl ha hnewer
    rw [hcontent, Announcement.accumulated_of_overwrite _ ha hnewer]
  · obtain ⟨a, rest, rfl⟩ := List.exists_cons_of_ne_nil hne
    have ha := hgoes a List.mem_cons_self
    obtain ⟨errors, herr, -⟩ := ha.stderr
    refine hgets.present (a.delivery s .stdout (.file f)) ?_ f rfl
    rw [List.flatMap_cons, Announcement.deliveries_eq ha.stdout herr]
    exact List.mem_append_left _ List.mem_cons_self
  · rw [hgets.terminal, Announcement.arrived_errors_terminal hgoes,
      Announcement.arrived_errors_terminal hgoes]
  · rw [hgets.content, Announcement.arrived_errors_file hgoes hloc]
  · refine hgets.untouched loc fun d hd heq => ?_
    obtain ⟨a, ha, hd⟩ := List.mem_flatMap.mp hd
    obtain ⟨errors, herr, hne⟩ := (hgoes a ha).stderr
    rw [Announcement.deliveries_eq (hgoes a ha).stdout herr] at hd
    simp only [List.mem_cons, List.not_mem_nil, or_false] at hd
    rcases hd with rfl | rfl
    · exact hloc (Outlet.file.inj heq).symm
    · have herrs := hnot a ha
      obtain rfl : errors = .file loc := heq
      simp [Announcement.errsTo, herr] at herrs

/-- A line that replaces a file, with another target before it that does not count. -/
def echoLine : Announcement where
  text := "echo a > g > f"
  stage := { name := "echo", args := ["a"], stdout := some ⟨"f", .overwrite⟩ }
  command := .echo ["a"]
  parses := by decide +kernel
  lookup := by decide +kernel
  speaks := rfl

/-- One that extends it by another name, and is silent on its error stream. -/
def typeLine : Announcement where
  text := "type nope pwd 2> e >> /f"
  stage :=
    { name := "type", args := ["nope", "pwd"], stdout := some ⟨"/f", .append⟩,
      stderr := some ⟨"e", .overwrite⟩ }
  command := .type ["nope", "pwd"]
  parses := by decide +kernel
  lookup := by decide +kernel
  speaks := rfl

/-- One that has nothing to put there, and an error to report. -/
def silentLine : Announcement where
  text := "type 2>> e >> ./f"
  stage := { name := "type", stdout := some ⟨"./f", .append⟩, stderr := some ⟨"e", .append⟩ }
  command := .type []
  parses := by decide +kernel
  lookup := by decide +kernel
  speaks := rfl

/-- Three lines in the root directory: the file has the outputs of the first two, the other file the
error of the third, and a third file that is only mentioned is not made. -/
theorem runLines_accumulate_twice :
    ∃ s', fullSession.runLines 0 ["echo a > g > f", "type nope pwd 2> e >> /f",
        "type 2>> e >> ./f"] = some (.ok (), s') ∧
      s'.world.files.content ["f"] =
        Text.encode "a\nnope: not found\npwd is a shell builtin\n" ∧
      s'.world.files.content ["e"] = Text.encode "type: missing argument\n" ∧
      s'.world.files.node? ["g"] = none ∧ s'.world.terminal = fullSession.world.terminal := by
  have hgoes : ∀ a ∈ [echoLine, typeLine, silentLine], a.GoesTo fullSession ["f"] := by
    have htype : typeLine.GoesTo fullSession ["f"] :=
      ⟨by decide +kernel, .file ["e"], by decide +kernel, by decide⟩
    have hsilent : silentLine.GoesTo fullSession ["f"] :=
      ⟨by decide +kernel, .file ["e"], by decide +kernel, by decide⟩
    have hecho : echoLine.GoesTo fullSession ["f"] :=
      ⟨by decide +kernel, .terminal .stderr, by decide +kernel, by decide⟩
    simp [hecho, htype, hsilent]
  obtain ⟨s', hrun, -, hlast, -, hterminal, hothers⟩ := runLines_accumulate 0 rfl hgoes
  refine ⟨s', hrun, ?_, ?_, ?_, ?_⟩
  · exact (hlast [] echoLine [typeLine, silentLine] rfl rfl (by decide)).trans (by decide +kernel)
  · exact (hothers ["e"] (by decide)).1.trans (by decide +kernel)
  · exact ((hothers ["g"] (by decide)).2 (by decide +kernel)).trans (by decide +kernel)
  · exact hterminal.trans (by decide +kernel)

end Session
end CommandShell
