/-
# Operands that reach a command

What is typed as an operand is what the command gets: the target of `cd`, the names of `type`.
There is one exception.  Where an option could stand, the word `help` asks for the help text, so a
directory with this name cannot be entered by it, and `type` tells nothing of a command with this
name if it is asked for it first (`operands_reach_iff`).  What happens then is no failure: the help
text is printed, with status 0 (`help_unreachable`).
-/
import CommandShell.Proofs.Foretelling
import CommandShell.Proofs.Home
import CommandShell.Proofs.Output

namespace CommandShell

namespace Builtin

open Deed Grammar

variable {d : String} {names : List String} {job : Job}

/-! ## 1. The commands that operands make -/

theorem ofName_cd_help : ofName .cd ["help"] = .help cdGrammar.help := rfl

/-- The names of `type` are taken as they are, unless the first of them is `help`. -/
theorem ofName_type (hplain : ∀ name ∈ names, looksLikeOption name = false) (hnames : names ≠ [])
    (hne : names.head? ≠ some "help") : ofName .type names = .type names := by
  obtain ⟨name, rest, rfl⟩ := List.exists_cons_of_ne_nil hnames
  have hname : looksLikeOption name = false := hplain name List.mem_cons_self
  have hhelp : name ≠ "help" := fun h => hne (congrArg some h)
  have hread : typeGrammar.read (name :: rest) =
      .ok { operands := name :: rest, optionsOver := true } := by
    rw [Grammar.read, readFrom_many rfl hname hhelp, List.map_id_fun, id, List.nil_append]
  exact ofArgs_of_read hread rfl _

theorem ofName_type_help (hplain : ∀ name ∈ names, looksLikeOption name = false)
    (hhelp : names.head? = some "help") : ofName .type names = .help typeGrammar.help := by
  obtain ⟨rest, rfl⟩ := List.head?_eq_some_iff.mp hhelp
  obtain ⟨-, hrest⟩ := List.forall_mem_cons.mp hplain
  obtain ⟨r, hread, hwanted⟩ : ∃ r, typeGrammar.readFrom { helpWanted := true } rest = .ok r ∧
      r.helpWanted = true := exists_readFrom_helpWanted rfl rfl rfl hrest
  have hall : typeGrammar.read ("help" :: rest) = .ok r := by
    rw [Grammar.read, readFrom_help rfl, hread]
  exact ofArgs_of_helpWanted hall hwanted _

/-! ## 2. What they do -/

/-- The help text is all that comes of a command: it is printed, with status 0. -/
def OnlyHelps (b : Builtin) (text : String) (job : Job) : Prop :=
  ∃ job', b.run.run.run job = (.ok 0, job') ∧
    Outputs job (Text.encode (Text.trimEnd text ++ "\n")) job'

theorem onlyHelps_help (text : String) (hout : job.stdout.refuses = false) :
    OnlyHelps (.help text) text job := by
  obtain ⟨job', hprint, houtputs⟩ := outputs_print (Text.trimEnd text ++ "\n") hout
  refine ⟨job', run_of_perform_ok ?_, houtputs⟩
  rw [perform, run_bind, hprint]
  rfl

/-- `cd` enters the directory that its operand denotes. -/
theorem run_cd_of_destination {loc : Location} (hne : d ≠ "")
    (hd : destination job.session d = .ok loc) :
    (run (.cd (some d))).run.run job =
      (.ok 0, { job with session := enter job.session loc }) := by
  rw [run_cd_of_asked (asked?_of_ne hne), hd]

theorem run_type (hnames : names ≠ []) (hout : job.stdout.refuses = false) :
    ∃ records job', (run (.type names)).run.run job =
      (.ok (if .missing ∈ records then 1 else 0), job') ∧ Told job names records job' := by
  obtain ⟨records, job', hrun, htold⟩ := told_performType names 0 job hout
  have hperform : (Builtin.type names).perform.run.run job =
      (.ok (if .missing ∈ records then 1 else 0), job') := by
    rw [perform_type hnames, hrun]
  exact ⟨records, job', run_of_perform_ok hperform, htold⟩

/-- **When operands reach the command.**  Take an argument of `cd` without a dash in front, and some
arguments of `type` without dashes.  `cd` gets its argument as the target, exactly if it is not the
word `help`, and then enters the directory that it denotes, whenever there is one (an empty argument
denotes none).  `type` gets its arguments as names, all of them and in order, exactly if the first
is not the word `help`, and then tells something of every one of them.  Otherwise the help text of
the command is printed, with status 0, and nothing else is done. -/
theorem operands_reach_iff (hd : looksLikeOption d = false)
    (hplain : ∀ name ∈ names, looksLikeOption name = false) (hnames : names ≠ []) :
    (lookup "cd" [d] = some (.cd (some d)) ↔ d ≠ "help") ∧
    (lookup "type" names = some (.type names) ↔ names.head? ≠ some "help") ∧
    ∀ job : Job,
      (d ≠ "help" → d ≠ "" → ∀ loc, destination job.session d = .ok loc →
        ∃ b, lookup "cd" [d] = some b ∧
          b.run.run.run job = (.ok 0, { job with session := enter job.session loc })) ∧
      (job.stdout.refuses = false →
        (names.head? ≠ some "help" → ∃ b records job', lookup "type" names = some b ∧
          b.run.run.run job = (.ok (if .missing ∈ records then 1 else 0), job') ∧
          Told job names records job') ∧
        (d = "help" → ∃ b, lookup "cd" [d] = some b ∧ b.OnlyHelps cdGrammar.help job) ∧
        (names.head? = some "help" →
          ∃ b, lookup "type" names = some b ∧ b.OnlyHelps typeGrammar.help job)) := by
  have hcd (args : List String) : lookup "cd" args = some (ofName .cd args) := rfl
  have htype (args : List String) : lookup "type" args = some (ofName .type args) := rfl
  have hread (hne : d ≠ "help") : ofName .cd [d] = .cd (some d) :=
    ofName_cd (Bool.eq_false_iff.mpr (mt (asksForHelp_iff hd).mp hne)) hd
  rw [hcd, htype]
  refine ⟨⟨?_, fun hne => congrArg some (hread hne)⟩,
    ⟨?_, fun hne => congrArg some (ofName_type hplain hnames hne)⟩, fun job =>
    ⟨fun hne hsome loc hloc => ⟨_, rfl, ?_⟩, fun hout => ⟨fun hne => ?_, ?_, fun hhelp => ?_⟩⟩⟩
  · rintro h rfl
    rw [ofName_cd_help] at h
    cases h
  · intro h hhelp
    rw [ofName_type_help hplain hhelp] at h
    cases h
  · rw [hread hne]
    exact run_cd_of_destination hsome hloc
  · obtain ⟨records, job', hrun, htold⟩ := run_type hnames hout
    refine ⟨_, records, job', rfl, ?_, htold⟩
    rw [ofName_type hplain hnames hne]
    exact hrun
  · rintro rfl
    exact ⟨_, rfl, onlyHelps_help _ hout⟩
  · refine ⟨_, rfl, ?_⟩
    rw [ofName_type_help hplain hhelp]
    exact onlyHelps_help _ hout

/-- A directory is entered, and `help` is a name behind another one. -/
theorem operands_reach_iff_second :
    looksLikeOption "a" = false ∧ (∀ name ∈ ["tool", "help"], looksLikeOption name = false) ∧
      ["tool", "help"] ≠ [] ∧ destination toolJob.session "a" = .ok ["a"] ∧
      (∃ b, lookup "cd" ["a"] = some b ∧
        b.run.run.run toolJob = (.ok 0, { toolJob with session := enter toolJob.session ["a"] })) ∧
      lookup "type" ["tool", "help"] = some (.type ["tool", "help"]) := by
  have hd : looksLikeOption "a" = false := by decide
  have hplain : ∀ name ∈ ["tool", "help"], looksLikeOption name = false := by decide
  have hloc : destination toolJob.session "a" = .ok ["a"] := by decide +kernel
  obtain ⟨-, htype, hruns⟩ := operands_reach_iff hd hplain (List.cons_ne_nil _ _)
  exact ⟨hd, hplain, List.cons_ne_nil _ _, hloc,
    (hruns toolJob).1 (by decide) (by decide) ["a"] hloc, htype.mpr (by decide)⟩

/-- A command in the root of a machine with a directory that is called `help`. -/
def helpJob : Job where
  session :=
    { env := { directory := "/" }, world := { files := FileSystem.empty.set ["help"] .directory } }
  stdout := .channel .terminalOutput
  stderr := .channel .terminalError

/-- **A directory that cannot be entered by its name, and a name that cannot be asked for.**  `cd`
and `type` with the operand `help` are other commands, and `cd help` stays where it is, although
there is such a directory, and succeeds. -/
theorem help_unreachable :
    looksLikeOption "help" = false ∧ destination helpJob.session "help" = .ok ["help"] ∧
      lookup "cd" ["help"] ≠ some (.cd (some "help")) ∧
      lookup "type" ["help"] ≠ some (.type ["help"]) ∧
      ∃ b job', lookup "cd" ["help"] = some b ∧ b.run.run.run helpJob = (.ok 0, job') ∧
        job'.session.env.directory = "/" ∧ Location.path ["help"] = "/help" := by
  have hcd : lookup "cd" ["help"] = some (.help cdGrammar.help) := rfl
  have htype : lookup "type" ["help"] = some (.help typeGrammar.help) := rfl
  obtain ⟨job', hrun, houtputs⟩ : OnlyHelps (.help cdGrammar.help) cdGrammar.help helpJob :=
    onlyHelps_help _ rfl
  have hplace : job'.session.env.directory = "/" := by
    rw [houtputs.env]
    rfl
  refine ⟨by decide, by decide +kernel, ?_, ?_, _, job', hcd, hrun, hplace, by decide⟩
  · rw [hcd]
    exact fun h => nomatch h
  · rw [htype]
    exact fun h => nomatch h

end Builtin
end CommandShell
