/-
# The status that a line asks for

A line may ask the shell to exit with a status, and the program has two ways to come to a line: as
its argument, and in its input (`Program.ComesTo`).  This file says with which status the program
ends then.

In the loop it is the one that was asked for, whatever becomes of the line: a failure is reported,
and then the loop sees the request (`Repl.run_of_exit`).  The line of an argument has its failure
looked at first, and the request is forgotten over it (`Program.runCommand_of_flushed`).

So the two agree exactly on the lines that do not fail, and on a request for the status 1
(`Program.exit_answered_iff`).  `Program.exit_forgotten` is a line on which they do not.
-/
import CommandShell.CommandLine.Program
import CommandShell.Proofs.LoopRun

namespace CommandShell

namespace Repl

variable {patience : Nat} {prompting : Bool} {s s₁ s' : Session}

/-! ## 1. In the loop -/

/-- A request to exit is never taken back. -/
theorem shouldExit_of_inOrder {lines : List String} (hs : s.env.shouldExit = true)
    (hrun : inOrder patience prompting lines s = some s') : s'.env.shouldExit = true := by
  obtain ⟨given, -, htakes⟩ := exists_takes lines .start hrun
  have hasked := htakes.gains.exitRequest
  rw [Environment.shouldExit, hasked, Option.isSome_or, Bool.or_eq_true]
  exact .inr hs

/-- The loop comes behind the lines after which nothing has asked it to exit. -/
theorem loop_of_inOrder {older : List String} {rest : List (Except Failure String)} :
    ∀ {s : Session}, inOrder patience prompting older s = some s₁ → s₁.env.shouldExit = false →
      loop patience prompting (older.map .ok ++ rest) s = loop patience prompting rest s₁ := by
  induction older with
  | nil =>
    intro s hrun _
    rw [inOrder_nil] at hrun
    rw [Option.some.inj hrun]
    rfl
  | cons line older ih =>
    intro s hrun hgoing
    rw [inOrder_cons] at hrun
    obtain ⟨after, hline, hrest⟩ := Option.bind_eq_some_iff.mp hrun
    have hafter : after.env.shouldExit = false := by
      by_contra hexit
      have hexits := shouldExit_of_inOrder (Bool.eq_true_of_not_eq_false hexit) hrest
      rw [hgoing] at hexits
      cases hexits
    rw [List.map_cons, List.cons_append, loop_line, hline]
    simp only [hafter, Bool.false_eq_true, if_false]
    exact ih hrest hgoing

/-- A failure is reported without a change to the environment and to the files. -/
theorem flushHistory_report (f : Failure) (s : Session) :
    (flushHistory (report f s)).1 = (flushHistory s).1 := by
  simp only [flushHistory, report, say, World.say]
  split <;> rfl

/-- **In the loop a request to exit is answered**, also when its line fails. -/
theorem run_of_exit {older : List String} {line : String} {rest : List (Except Failure String)}
    {outcome : Except Failure Unit} {n : Int} (hrun : inOrder patience prompting older s = some s₁)
    (hgoing : s₁.env.shouldExit = false)
    (hline : (ask prompting s₁).executeLine patience line = some (outcome, s'))
    (hexit : s'.env.exitRequest = some n) (hflush : (flushHistory s').1 = .ok ()) :
    ∃ after,
      run patience prompting (older.map .ok ++ .ok line :: rest) s = some (.ok n, after) := by
  obtain ⟨after, hran, henv, hflushed⟩ : ∃ after,
      runLine patience line (ask prompting s₁) = some after ∧ after.env = s'.env ∧
        (flushHistory after).1 = .ok () := by
    rw [runLine, hline, Option.map_some]
    cases outcome with
    | ok => exact ⟨s', rfl, rfl, hflush⟩
    | error f => exact ⟨report f s', rfl, rfl, (flushHistory_report f s').trans hflush⟩
  have hasked : after.env.exitRequest = some n := henv ▸ hexit
  have hexits : after.env.shouldExit = true := by simp [Environment.shouldExit, hasked]
  have hloop : loop patience prompting (older.map .ok ++ .ok line :: rest) s =
      some (.ok (), after) := by
    rw [loop_of_inOrder hrun hgoing, loop_line, hran]
    simp only [hexits, if_true]
  have hstatus : status after = n := by rw [status, hasked, Option.getD_some]
  refine ⟨(flushHistory after).2, ?_⟩
  rw [run, hloop, Option.map_some]
  exact congrArg some ((conclude_of_flushed hflushed).trans (by rw [hstatus]))

end Repl

namespace Program

variable {patience : Nat} {request : Request} {inherited : Inherited} {w : World} {line : String}
  {s s' : Session} {outcome : Except Failure Unit} {n : Int}

/-! ## 2. As an argument -/

/-- The status for the line of an argument: 1 if it fails, or else the one that was asked for. -/
def statusOf (asked : Int) : Except Failure Unit → Int
  | .ok _ => asked
  | .error _ => 1

/-- **The line of an argument decides the status by its failure first.** -/
theorem runCommand_of_flushed (hline : s.executeLine patience line = some (outcome, s'))
    (hflush : (Repl.flushHistory s').1 = .ok ()) :
    ∃ after, runCommand patience line s =
      some (.ok (statusOf (Repl.status s') outcome), after) := by
  have hstatus := Repl.status_flushHistory s'
  rw [runCommand, hline, Option.map_some]
  rcases hflushed : Repl.flushHistory s' with ⟨f | _, after⟩
  · rw [hflushed] at hflush
    cases hflush
  · rw [hflushed] at hstatus
    have hsame : Repl.status after = Repl.status s' := hstatus
    cases outcome with
    | error f => exact ⟨Repl.report f after, by simp only [hflushed, statusOf]⟩
    | ok => exact ⟨after, by simp only [hflushed, hsame, statusOf]⟩

/-! ## 3. The program -/

/-- Whether the program asks for lines with a prompt. -/
def isPrompting (request : Request) (inherited : Inherited) (w : World) : Bool :=
  Repl.isPlainTerminal ((start request inherited w).env.value? "TERM")

/-- A line that the program comes to, and the session in which it is run. -/
inductive ComesTo (patience : Nat) (request : Request) (inherited : Inherited) (w : World) :
    String → Session → Prop
  /-- As its argument. -/
  | argument {line : String} (hcommand : request.command = some line) :
      ComesTo patience request inherited w line (start request inherited w)
  /-- In its input, behind lines that have come to an end and have not asked it to exit. -/
  | input {older : List String} {line : String} {rest : List (Except Failure String)} {s : Session}
      (hcommand : request.command = none)
      (hlines : Repl.inputLines w.terminal.input = older.map .ok ++ .ok line :: rest)
      (hrun : Repl.inOrder patience (isPrompting request inherited w) older
        (takeInput (start request inherited w)).2 = some s)
      (hgoing : s.env.shouldExit = false) :
      ComesTo patience request inherited w line
        (Repl.ask (isPrompting request inherited w) s)

/-- The status that the program gives when a line has asked for one. -/
def statusAfter (request : Request) (asked : Int) (outcome : Except Failure Unit) : Int :=
  if request.command = none then asked else statusOf asked outcome

/-- What the program is asked for ends with that status. -/
theorem runRequest_of_exit (hcomes : ComesTo patience request inherited w line s)
    (hline : s.executeLine patience line = some (outcome, s'))
    (hexit : s'.env.exitRequest = some n) (hflush : (Repl.flushHistory s').1 = .ok ()) :
    ∃ after, runRequest patience request inherited w =
      some (.ok (statusAfter request n outcome), after) := by
  cases hcomes with
  | argument hcommand =>
    obtain ⟨after, hrun⟩ := runCommand_of_flushed hline hflush
    have hstatus : Repl.status s' = n := by rw [Repl.status, hexit, Option.getD_some]
    rw [hstatus] at hrun
    exact ⟨after, by simp [runRequest, hcommand, hrun, statusAfter]⟩
  | input hcommand hlines hrun hgoing =>
    obtain ⟨after, hended⟩ := Repl.run_of_exit hrun hgoing hline hexit hflush
    rw [← hlines] at hended
    refine ⟨after, ?_⟩
    simp only [runRequest, hcommand, runLoop, statusAfter, if_true]
    exact hended

/-- **Which requests to exit are answered.**  Take any run of the program that comes to a line, and
suppose that the line comes to its end, that it leaves a request to exit, and that the history can
be flushed behind it.  Then the program ends.  In the loop, and after a line that has not failed, it
ends with the status that was asked for; as an argument, a line that fails gives the status 1.  So
the request is answered exactly if the line was in the input, or has not failed, or has asked for
that status. -/
theorem exit_answered_iff {args : List String} (hargs : readArgs args = .run request)
    (hlog : checkLogFilter inherited request = .ok ())
    (hcomes : ComesTo patience request inherited w line s)
    (hline : s.executeLine patience line = some (outcome, s'))
    (hexit : s'.env.exitRequest = some n) (hflush : (Repl.flushHistory s').1 = .ok ()) :
    ∃ status w', run patience args inherited w = some (status, w') ∧
      (request.command = none → status = exitStatus n) ∧
      (outcome = .ok () → status = exitStatus n) ∧
      (request.command ≠ none → outcome ≠ .ok () → status = 1) ∧
      (status = exitStatus n ↔ request.command = none ∨ outcome = .ok () ∨ exitStatus n = 1) := by
  obtain ⟨after, hrun⟩ := runRequest_of_exit hcomes hline hexit hflush
  refine ⟨exitStatus (statusAfter request n outcome), after.world, ?_, ?_⟩
  · simp only [run, hargs, hlog, hrun, Option.map_some]
  · have hone : exitStatus 1 = 1 := by decide
    by_cases hcommand : request.command = none
    · simp [statusAfter, hcommand]
    · cases outcome with
      | ok => simp [statusAfter, statusOf]
      | error f => simp [statusAfter, statusOf, hcommand, hone, eq_comm]

/-- A line that asks to exit and fails: its last stage cannot be begun. -/
def failingExit : String := "exit 3 | echo hi > /nodir/x"

/-- A machine with nothing on it, and an input. -/
def bareWorld (input : String) : World :=
  { files := FileSystem.empty, terminal := { input := Text.encode input } }

theorem flushed_of_toBool (h : (Repl.flushHistory s).1.toBool = true) :
    (Repl.flushHistory s).1 = .ok () := by
  rcases hr : (Repl.flushHistory s).1 with f | _
  · rw [hr] at h
    cases h
  · rfl

/-- In the input, behind a line that goes well, the request is answered. -/
theorem exit_answered_iff_failing :
    let w := bareWorld ("echo a\n" ++ failingExit ++ "\n")
    let unset : Inherited := { entries := [] }
    readArgs [] = .run {} ∧ checkLogFilter unset {} = .ok () ∧
      ∃ s outcome s', ComesTo 0 {} unset w failingExit s ∧
        s.executeLine 0 failingExit = some (outcome, s') ∧ outcome ≠ .ok () ∧
        s'.env.exitRequest = some 3 ∧ (Repl.flushHistory s').1 = .ok () ∧
        ∃ w', run 0 [] unset w = some (3, w') := by
  intro w unset
  have hargs : readArgs [] = .run {} := by decide +kernel
  have hlog : checkLogFilter unset {} = .ok () := by rfl
  have hlines : Repl.inputLines w.terminal.input = ["echo a"].map .ok ++ [.ok failingExit] := by
    rfl
  have hboth : (Repl.inOrder 0 (isPrompting {} unset w) ["echo a"]
      (takeInput (start {} unset w)).2).map (fun s => (s.env.shouldExit,
        ((Repl.ask (isPrompting {} unset w) s).executeLine 0 failingExit).map fun r =>
          (r.1.toBool, r.2.env.exitRequest, (Repl.flushHistory r.2).1.toBool))) =
      some (false, some (false, some 3, true)) := by
    decide +kernel
  obtain ⟨s, hrun, hends⟩ := Option.map_eq_some_iff.mp hboth
  obtain ⟨hgoing, hlast⟩ := Prod.mk.inj hends
  obtain ⟨⟨outcome, s'⟩, hline, hlast⟩ := Option.map_eq_some_iff.mp hlast
  obtain ⟨hfails, hlast⟩ := Prod.mk.inj hlast
  obtain ⟨hexit, hflush⟩ := Prod.mk.inj hlast
  have hflush := flushed_of_toBool hflush
  have hcomes : ComesTo 0 {} unset w failingExit (Repl.ask (isPrompting {} unset w) s) :=
    .input rfl hlines hrun hgoing
  obtain ⟨status, w', hended, hloop, -⟩ := exit_answered_iff hargs hlog hcomes hline hexit hflush
  obtain rfl : status = 3 := hloop rfl
  refine ⟨hargs, hlog, _, outcome, s', hcomes, hline, ?_, hexit, hflush, w', hended⟩
  rintro rfl
  cases hfails

/-- **As an argument it is forgotten:** the line leaves the request, and its history is flushed, but
the program ends with 1; on an input of that line it ends with 3. -/
theorem exit_forgotten :
    let unset : Inherited := { entries := [] }
    ∃ outcome s', (start { command := some failingExit } unset (bareWorld "")).executeLine 0
        failingExit = some (outcome, s') ∧
      s'.env.exitRequest = some 3 ∧ (Repl.flushHistory s').1 = .ok () ∧
      (run 0 ["-c", failingExit] unset (bareWorld "")).map (·.1) = some 1 ∧
      (run 0 [] unset (bareWorld (failingExit ++ "\n"))).map (·.1) = some 3 := by
  intro unset
  have hends : ((start { command := some failingExit } unset (bareWorld "")).executeLine 0
      failingExit).map (fun r => (r.2.env.exitRequest, (Repl.flushHistory r.2).1.toBool)) =
      some (some 3, true) := by
    decide +kernel
  obtain ⟨⟨outcome, s'⟩, hline, hends⟩ := Option.map_eq_some_iff.mp hends
  obtain ⟨hexit, hflush⟩ := Prod.mk.inj hends
  exact ⟨outcome, s', hline, hexit, flushed_of_toBool hflush, by decide +kernel, by decide +kernel⟩

end Program
end CommandShell
