/-
# The read-eval loop as a run of its lines

`Repl.inOrder` runs lines one after the other, whatever becomes of each.  The loop does nothing
else: it runs the lines of its input in order up to the first after which the shell has been asked
to exit, or all of them, and then the history is flushed once and the status is given
(`run_eq_inOrder`).

Every line that is run is a text that is given to the shell (`exists_takes`).  So the history has
the entries of exactly these lines, and the status is the last one that their commands asked for.
-/
import CommandShell.Proofs.Recording

namespace CommandShell.Repl

variable {patience : Nat} {prompting : Bool} {s s' : Session}

/-! ## 1. Lines in order -/

/-- Asks for lines and runs them in order, whatever becomes of each; none if one of them does not
come to an end. -/
def inOrder (patience : Nat) (prompting : Bool) : List String → Session → Option Session
  | [], s => some s
  | line :: rest, s =>
    (runLine patience line (ask prompting s)).bind (inOrder patience prompting rest)

theorem inOrder_nil : inOrder patience prompting [] s = some s := rfl

/-- The first line of several, written out.  Unfolding `inOrder` in any other way would have Lean
run the line. -/
theorem inOrder_cons (line : String) (rest : List String) :
    inOrder patience prompting (line :: rest) s =
      (runLine patience line (ask prompting s)).bind (inOrder patience prompting rest) := by
  with_unfolding_all rfl

theorem exists_takes_runLine {given : List Given} {line : String} {s₀ : Session}
    (h : s₀.Takes patience given s) (hrun : runLine patience line (ask prompting s) = some s') :
    ∃ reached, s₀.Takes patience (given ++ [⟨line, reached⟩]) s' := by
  obtain ⟨⟨result, after⟩, hline, heq⟩ := Option.map_eq_some_iff.mp hrun
  obtain ⟨reached, haccepts⟩ := Session.exists_accepts hline
  have hasked : s₀.Takes patience given (ask prompting s) := by
    have hworld := h.passed (ask prompting s).world
    rwa [← env_ask prompting s] at hworld
  refine ⟨reached, ?_⟩
  have htaken := hasked.accepted haccepts
  -- A report of a failure goes to the terminal only.
  cases result with
  | ok => simpa only [← heq] using htaken
  | error f =>
    rw [← heq]
    exact htaken.passed _

/-- **Lines that are run in order are given to the shell**, each once. -/
theorem exists_takes (lines : List String) : ∀ {s s₀ : Session} {given : List Given},
    s₀.Takes patience given s → inOrder patience prompting lines s = some s' →
      ∃ more, more.map Given.text = lines ∧ s₀.Takes patience (given ++ more) s' := by
  induction lines with
  | nil =>
    intro s s₀ given h hrun
    rw [inOrder_nil] at hrun
    obtain rfl := Option.some.inj hrun
    exact ⟨[], rfl, by rwa [List.append_nil]⟩
  | cons line rest ih =>
    intro s s₀ given h hrun
    rw [inOrder_cons] at hrun
    obtain ⟨after, hline, hrest⟩ := Option.bind_eq_some_iff.mp hrun
    obtain ⟨reached, htakes⟩ := exists_takes_runLine h hline
    obtain ⟨more, rfl, htaken⟩ := ih htakes hrest
    exact ⟨⟨line, reached⟩ :: more, rfl, by simpa using htaken⟩

/-! ## 2. The loop -/

/-- What is done after the last line: if nothing has asked the shell to exit, it has asked for one
more line in vain. -/
def leave (prompting : Bool) (s : Session) : Session :=
  if s.env.shouldExit then s else ask prompting s

/-- How a shell ends: its history is flushed, and the status is given if that succeeds. -/
def conclude (s : Session) : Except Failure Int × Session :=
  match flushHistory s with
  | (.error f, s) => (.error f, s)
  | (.ok _, s) => (.ok (status s), s)

/-- Which lines of the input the loop has run: an initial part of them. -/
structure Served (patience : Nat) (prompting : Bool) (s : Session) (lines ran rest : List String) :
    Prop where
  split : lines = ran ++ rest
  /-- Before each of them all earlier lines have come to an end, and none has asked to exit. -/
  going : ∀ older line newer, ran = older ++ line :: newer →
    ∃ s', inOrder patience prompting older s = some s' ∧ s'.env.shouldExit = false
  /-- If it is not the whole input, the last one has. -/
  asked : ∀ s', rest ≠ [] → inOrder patience prompting ran s = some s' → s'.env.shouldExit = true

theorem Served.cons {line : String} {lines ran rest : List String}
    (hs : s.env.shouldExit = false) (hline : runLine patience line (ask prompting s) = some s')
    (h : Served patience prompting s' lines ran rest) :
    Served patience prompting s (line :: lines) (line :: ran) rest where
  split := by rw [h.split, List.cons_append]
  going := by
    intro older line' newer hran
    cases older with
    | nil => exact ⟨s, inOrder_nil, hs⟩
    | cons first older =>
      obtain ⟨rfl, hrest⟩ := List.cons.inj hran
      rw [inOrder_cons, hline, Option.bind_some]
      exact h.going older line' newer hrest
  asked := by
    intro s'' hrest hrun
    rw [inOrder_cons, hline, Option.bind_some] at hrun
    exact h.asked s'' hrest hrun

/-- A line after which no more is run. -/
theorem Served.last {line : String} (rest : List String) (hs : s.env.shouldExit = false)
    (hline : ∀ s', runLine patience line (ask prompting s) = some s' → s'.env.shouldExit = true) :
    Served patience prompting s (line :: rest) [line] rest where
  split := rfl
  going := by
    intro older line' newer hran
    have hlength := congrArg List.length hran
    simp only [List.length_append, List.length_cons, List.length_nil] at hlength
    obtain rfl : older = [] := List.length_eq_zero_iff.mp (by omega)
    exact ⟨s, inOrder_nil, hs⟩
  asked := by
    intro s' _ hrun
    rw [inOrder_cons] at hrun
    obtain ⟨after, hafter, hnil⟩ := Option.bind_eq_some_iff.mp hrun
    rw [inOrder_nil] at hnil
    obtain rfl := Option.some.inj hnil
    exact hline after hafter

/-- **The loop runs lines in order.** -/
theorem loop_eq_inOrder (lines : List String) : ∀ {s : Session}, s.env.shouldExit = false →
    ∃ ran rest, Served patience prompting s lines ran rest ∧
      loop patience prompting (lines.map .ok) s =
        (inOrder patience prompting ran s).map fun s' => (.ok (), leave prompting s') := by
  induction lines with
  | nil =>
    intro s hs
    refine ⟨[], [], ⟨rfl, by simp, by simp⟩, ?_⟩
    rw [List.map_nil, loop_nil, inOrder_nil, Option.map_some, leave, hs]
    rfl
  | cons line rest ih =>
    intro s hs
    rw [List.map_cons, loop_line]
    cases hline : runLine patience line (ask prompting s) with
    | none =>
      refine ⟨[line], rest, .last rest hs (by simp [hline]), ?_⟩
      rw [inOrder_cons, hline]
      rfl
    | some after =>
      cases hexit : after.env.shouldExit with
      | true =>
        refine ⟨[line], rest, .last rest hs (by simp [hline, hexit]), ?_⟩
        rw [inOrder_cons, hline, Option.bind_some, inOrder_nil, Option.map_some, leave, hexit]
        simp only [if_true, hexit]
      | false =>
        obtain ⟨ran, rest', hserved, hloop⟩ := ih hexit
        refine ⟨line :: ran, rest', hserved.cons hs hline, ?_⟩
        rw [inOrder_cons, hline, Option.bind_some]
        simp only [hexit, Bool.false_eq_true, if_false]
        exact hloop

/-- Flushing the history answers no request to exit. -/
theorem status_flushHistory (s : Session) : status (flushHistory s).2 = status s := by
  rw [flushHistory]
  split <;> rfl

/-- A shell whose history can be flushed gives the status that was asked for. -/
theorem conclude_of_flushed (h : (flushHistory s).1 = .ok ()) :
    conclude s = (.ok (status s), (flushHistory s).2) := by
  rw [conclude, ← status_flushHistory]
  rcases hr : flushHistory s with ⟨f | _, after⟩
  · rw [hr] at h
    cases h
  · rfl

/-- **The read-eval loop runs its lines in order up to the exit.**  Take any shell that has not been
asked to exit, and any lines of input that are texts.  The lines that are run are an initial part of
the input: all lines before the first one after which the shell has been asked to exit, and that
one, or all of them.  The run of the shell is these lines run in order, whatever becomes of each,
after which the history is flushed once.

If all of them come to an end, the history has got the entries of each one and no others, and if it
can be flushed the status is that of the last request to exit, or 0. -/
theorem run_eq_inOrder (hexit : s.env.exitRequest = none) (lines : List String) :
    ∃ ran rest, Served patience prompting s lines ran rest ∧
      run patience prompting (lines.map .ok) s =
        (inOrder patience prompting ran s).map (fun s' => conclude (leave prompting s')) ∧
      ∀ s', inOrder patience prompting ran s = some s' → ∃ given,
        given.map Given.text = ran ∧ s.Takes patience given s' ∧
        (leave prompting s').env.history.session =
          s.env.history.session ++ given.flatMap Given.entries ∧
        (leave prompting s').env.exitRequest = (given.flatMap Given.exits).getLast? ∧
        ((flushHistory (leave prompting s')).1 = .ok () →
          run patience prompting (lines.map .ok) s =
            some (.ok ((given.flatMap Given.exits).getLast?.getD 0),
              (flushHistory (leave prompting s')).2)) := by
  have hgoing : s.env.shouldExit = false := by simp [Environment.shouldExit, hexit]
  obtain ⟨ran, rest, hserved, hloop⟩ := @loop_eq_inOrder patience prompting lines s hgoing
  have hrun : run patience prompting (lines.map .ok) s =
      (inOrder patience prompting ran s).map (fun s' => conclude (leave prompting s')) := by
    rw [run, hloop, Option.map_map]
    rfl
  refine ⟨ran, rest, hserved, hrun, ?_⟩
  intro s' hs'
  obtain ⟨given, hgiven, htakes⟩ := exists_takes ran .start hs'
  have henv : (leave prompting s').env = s'.env := by
    rw [leave]
    split
    · rfl
    · exact env_ask prompting s'
  have hasked : (leave prompting s').env.exitRequest = (given.flatMap Given.exits).getLast? := by
    rw [henv, htakes.gains.exitRequest, hexit, Option.or_none]
    rfl
  refine ⟨given, hgiven, htakes, by rw [henv, htakes.gains.session]; rfl, hasked, ?_⟩
  intro hflush
  rw [hrun, hs', Option.map_some, conclude_of_flushed hflush, status, hasked]

/-- A command that does not exist, a pipeline in which two commands ask to exit, and one more
line. -/
def exitingLines : List String := ["nope", "exit 3 | exit 4", "echo hi"]

/-- Only the first two of these lines are run. -/
theorem ran_of_exitingLines {ran rest : List String}
    (h : Served 0 false alone exitingLines ran rest) : ran = ["nope", "exit 3 | exit 4"] := by
  have hfirst : (inOrder 0 false ["nope"] alone).map (·.env.shouldExit) = some false := by
    decide +kernel
  have hboth : (inOrder 0 false ["nope", "exit 3 | exit 4"] alone).map (·.env.shouldExit) =
      some true := by
    decide +kernel
  have hsplit := h.split
  rw [exitingLines] at hsplit
  rcases ran with _ | ⟨first, _ | ⟨second, _ | ⟨third, more⟩⟩⟩
  · have hasked := h.asked alone (by rintro rfl; cases hsplit) inOrder_nil
    cases hasked
  · obtain ⟨rfl, hrest⟩ := List.cons.inj hsplit
    obtain ⟨s₁, hs₁, hgoing⟩ := Option.map_eq_some_iff.mp hfirst
    have hasked := h.asked s₁ (by rintro rfl; cases hrest) hs₁
    rw [hgoing] at hasked
    cases hasked
  · obtain ⟨rfl, hrest⟩ := List.cons.inj hsplit
    obtain ⟨rfl, -⟩ := List.cons.inj hrest
    rfl
  · obtain ⟨rfl, hrest⟩ := List.cons.inj hsplit
    obtain ⟨rfl, hrest⟩ := List.cons.inj hrest
    obtain ⟨s₂, hs₂, hgoing⟩ := h.going ["nope", "exit 3 | exit 4"] third more rfl
    rw [hs₂, Option.map_some, hgoing] at hboth
    cases hboth

/-- Their run: the status is the last one that was asked for. -/
theorem run_eq_inOrder_exiting :
    alone.env.exitRequest = none ∧
      ∃ given s', given.map Given.text = ["nope", "exit 3 | exit 4"] ∧ alone.Takes 0 given s' ∧
        s'.env.history.session = given.flatMap Given.entries ∧
        run 0 false (exitingLines.map .ok) alone = some (.ok 4, (flushHistory s').2) := by
  obtain ⟨ran, rest, hserved, -, hall⟩ := @run_eq_inOrder 0 false alone rfl exitingLines
  obtain rfl := ran_of_exitingLines hserved
  have hboth : (inOrder 0 false ["nope", "exit 3 | exit 4"] alone).map (fun s =>
      (s.env.exitRequest, (flushHistory s).1.toBool)) = some (some 4, true) := by
    decide +kernel
  obtain ⟨s', hs', hends⟩ := Option.map_eq_some_iff.mp hboth
  obtain ⟨hasked, hflushes⟩ := Prod.mk.inj hends
  obtain ⟨given, hgiven, htakes, hsession, hexits, hrun⟩ := hall s' hs'
  have hleave : leave false s' = s' := by
    rw [leave]
    split <;> rfl
  rw [hleave] at hsession hexits hrun
  have hflush : (flushHistory s').1 = .ok () := by
    rcases hr : (flushHistory s').1 with f | _
    · rw [hr] at hflushes
      cases hflushes
    · rfl
  have hended := hrun hflush
  rw [← hexits, hasked, Option.getD_some] at hended
  exact ⟨rfl, given, s', hgiven, htakes, hsession, hended⟩

end CommandShell.Repl
