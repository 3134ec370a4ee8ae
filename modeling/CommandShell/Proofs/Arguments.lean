/-
# Arguments without dashes

The arguments of a command are read by its grammar, from the left.  One that has no dash in front is
an operand, except that the word `help` asks for the help text as long as an option could stand in
its place (`Grammar.readFrom_help`, `Grammar.readFrom_operand`).  A command that takes many operands
has no options behind the first of them, so that everything behind it is an operand as well,
whatever it looks like (`Grammar.readFrom_many`).
-/
import CommandShell.Builtin.Command

namespace CommandShell

namespace Grammar

variable {α : Type} {g : Grammar α} {r : Reading α} {arg name about : String} {rest : List String}

/-! ## 1. One argument after the other -/

/-- Of the two words that ask for help one has no dash. -/
theorem asksForHelp_iff (hplain : looksLikeOption arg = false) :
    asksForHelp arg = true ↔ arg = "help" := by
  rw [asksForHelp, Bool.or_eq_true, beq_iff_eq, beq_iff_eq]
  refine or_iff_right ?_
  rintro rfl
  cases hplain

/-- Where an option could stand, `help` asks for the help text. -/
theorem readFrom_help (hoptions : r.optionsOver = false) :
    g.readFrom r ("help" :: rest) = g.readFrom { r with helpWanted := true } rest := by
  have hhelp : asksForHelp "help" = true := by decide
  rw [readFrom.eq_def]
  simp only [hoptions, hhelp, Bool.false_eq_true, if_false, if_true]

theorem readFrom_operand (hplain : looksLikeOption arg = false) (hne : arg ≠ "help") :
    g.readFrom r (arg :: rest) = (g.readOperand r arg).bind fun r => g.readFrom r rest := by
  have hhelp : asksForHelp arg = false :=
    Bool.eq_false_iff.mpr (mt (asksForHelp_iff hplain).mp hne)
  have hdashes : arg ≠ "--" := by
    rintro rfl
    cases hplain
  rw [readFrom.eq_def]
  simp only [hplain, hhelp, hdashes, Bool.false_eq_true, if_false, ite_self]
  rcases g.readOperand r arg with c | r' <;> rfl

/-- Behind the options every argument is an operand. -/
theorem readFrom_over (hoptions : r.optionsOver = true) :
    g.readFrom r (arg :: rest) = (g.readOperand r arg).bind fun r => g.readFrom r rest := by
  rw [readFrom.eq_def]
  simp only [hoptions, if_true]
  rcases g.readOperand r arg with c | r' <;> rfl

theorem read_single {read : String → Except String α} {a : α}
    (hoperands : g.operands = .atMostOne name about read) (hplain : looksLikeOption arg = false)
    (hne : arg ≠ "help") (hread : read arg = .ok a) : g.read [arg] = .ok { operands := [a] } := by
  have hoperand : g.readOperand {} arg = .ok { operands := [a] } := by
    simp [readOperand, hoperands, hread]
  rw [Grammar.read, readFrom_operand hplain hne, hoperand]
  rfl

section Many

variable {read : String → α} (hoperands : g.operands = .many name read)
include hoperands

theorem readOperand_many (r : Reading α) (arg : String) :
    g.readOperand r arg =
      .ok { r with operands := r.operands ++ [read arg], optionsOver := true } := by
  simp only [readOperand, hoperands]

/-- A command that takes many operands takes all that is left once its options are over. -/
theorem readFrom_many_over (args : List String) : ∀ {r : Reading α}, r.optionsOver = true →
    g.readFrom r args = .ok { r with operands := r.operands ++ args.map read } := by
  induction args with
  | nil =>
    intro r _
    rw [readFrom, List.map_nil, List.append_nil]
  | cons arg rest ih =>
    intro r hr
    rw [readFrom_over hr, readOperand_many hoperands, Except.bind, ih rfl, List.map_cons,
      List.append_assoc, List.singleton_append, hr]

/-- **Behind an operand everything is one.** -/
theorem readFrom_many (hplain : looksLikeOption arg = false) (hne : arg ≠ "help") :
    g.readFrom r (arg :: rest) =
      .ok { r with operands := r.operands ++ (arg :: rest).map read, optionsOver := true } := by
  rw [readFrom_operand hplain hne, readOperand_many hoperands, Except.bind,
    readFrom_many_over hoperands rest rfl, List.map_cons, List.append_assoc,
    List.singleton_append]

/-- Arguments without dashes are read, and help that was asked for stays asked for. -/
theorem exists_readFrom_helpWanted {args : List String} :
    ∀ {r : Reading α}, r.optionsOver = false → r.helpWanted = true →
      (∀ arg ∈ args, looksLikeOption arg = false) →
      ∃ r', g.readFrom r args = .ok r' ∧ r'.helpWanted = true := by
  induction args with
  | nil => exact fun {r} _ hhelp _ => ⟨r, by rw [readFrom], hhelp⟩
  | cons arg rest ih =>
    intro r hoptions hhelp hplain
    obtain ⟨harg, hrest⟩ := List.forall_mem_cons.mp hplain
    by_cases hne : arg = "help"
    · subst hne
      rw [readFrom_help hoptions]
      exact ih hoptions rfl hrest
    · exact ⟨_, readFrom_many hoperands harg hne, hhelp⟩

end Many

end Grammar

/-! ## 2. Commands -/

/-- The command that arguments make which are read, and do not ask for help. -/
theorem Builtin.ofArgs_of_read {α : Type} {g : Grammar α} {args : List String} {r : Reading α}
    (hread : g.read args = .ok r) (hhelp : r.helpWanted = false) (build : Reading α → Builtin) :
    ofArgs g args build = build r := by
  simp only [ofArgs, hread, hhelp, Bool.false_eq_true, if_false]

theorem Builtin.ofArgs_of_helpWanted {α : Type} {g : Grammar α} {args : List String}
    {r : Reading α} (hread : g.read args = .ok r) (hhelp : r.helpWanted = true)
    (build : Reading α → Builtin) : ofArgs g args build = .help g.help := by
  simp only [ofArgs, hread, hhelp, if_true]

end CommandShell
