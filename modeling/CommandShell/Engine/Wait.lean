/-
# Waiting for the machine

The shell waits by letting the machine run until what it waits for has happened.  That need never
be, so every wait is given a number of rounds (`patience`); a wait that ends without an answer gives
nothing, and one that gives an answer gives the same with more patience (`runUntil_mono`).
-/
import CommandShell.Machine.Schedule

namespace CommandShell.World

/-- Lets the machine run until something is the case. -/
def runUntil (happened : World → Bool) : Nat → World → Option World
  | 0, w => if happened w then some w else none
  | patience + 1, w =>
    if happened w then some w else w.advance.bind (runUntil happened patience)

def waitFor (patience process : Nat) (w : World) : Option World :=
  runUntil (·.hasEnded process) patience w

/-- More patience keeps an answer. -/
theorem runUntil_mono {happened : World → Bool} {n m : Nat} {w w' : World} (h : n ≤ m)
    (hw : runUntil happened n w = some w') : runUntil happened m w = some w' := by
  induction n generalizing m w with
  | zero =>
    obtain ⟨done, rfl⟩ : happened w = true ∧ w = w' := by simpa [runUntil] using hw
    cases m <;> simp [runUntil, done]
  | succ n ih =>
    obtain ⟨m, rfl⟩ : ∃ k, m = k + 1 := ⟨m - 1, by omega⟩
    rw [runUntil] at hw ⊢
    split
    · simp_all
    · rw [if_neg ‹_›] at hw
      obtain ⟨v, hv, hw⟩ := Option.bind_eq_some_iff.1 hw
      rw [hv, Option.bind_some]
      exact ih (by omega) hw

end CommandShell.World
