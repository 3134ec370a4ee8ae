/-
# What processes are doing

A process runs an installed program, which gets on with its work in rounds (`Activity.round`).  What
a program does depends on its arguments (`Utility.start`); one that is called wrongly only says so.
-/
import CommandShell.Machine.Script.Evaluation
import CommandShell.Machine.Script.Start
import CommandShell.Machine.Utility.Cat
import CommandShell.Machine.Utility.Count
import CommandShell.Machine.Utility.Edit
import CommandShell.Machine.Utility.Ends
import CommandShell.Machine.Utility.Flood
import CommandShell.Machine.Utility.Pause
import CommandShell.Machine.Utility.Printf
import CommandShell.Machine.Utility.Sort
import CommandShell.Machine.Utility.Translate

namespace CommandShell

/-- What a process is doing. -/
inductive Activity
  | cat (tool : Tool) (work : Cat)
  | count (tool : Tool) (work : Count)
  | edit (tool : Tool) (work : Edit)
  | ends (tool : Tool) (work : Ends)
  | flood (tool : Tool) (work : Flood)
  | pause (work : Pause)
  | printf (tool : Tool) (work : Printf)
  | sort (tool : Tool) (work : Sorter)
  | translate (tool : Tool) (work : Translate)
  | script (task : Script.Task)
  /-- It takes its leave. -/
  | leave (farewell : Farewell)

namespace Utility

def name : Utility → String
  | .sh => "sh"
  | .cat => "cat"
  | .tr => "tr"
  | .sort => "sort"
  | .head => "head"
  | .tail => "tail"
  | .wc => "wc"
  | .sed => "sed"
  | .printf => "printf"
  | .yes => "yes"
  | .succeed => "true"
  | .fail => "false"
  | .sleep => "sleep"

def all : List Utility :=
  [.sh, .cat, .tr, .sort, .head, .tail, .wc, .sed, .printf, .yes, .succeed, .fail, .sleep]

/-- What a process does that runs an installed program, with its name as it was called and its
arguments. -/
def start (u : Utility) (argv environment : List ByteText) : Activity :=
  let name := argv.head?.getD ""
  let args := argv.drop 1
  let t : Tool := ⟨u, name⟩
  let begun {σ : Type} (f : σ → Activity) (work : Except Farewell σ) : Activity :=
    match work with
    | .ok work => f work
    | .error farewell => .leave farewell
  match u with
  | .sh => begun .script (Script.Task.start name args environment)
  | .cat => begun (.cat t) (Cat.start t args)
  | .tr => begun (.translate t) (Translate.start t args)
  | .sort => begun (.sort t) (Sorter.start t args)
  | .head | .tail => begun (.ends t) (Ends.start t args)
  | .wc => begun (.count t) (Count.start t args)
  | .sed => begun (.edit t) (Edit.start t args)
  | .printf => begun (.printf t) (Printf.start t args)
  | .yes => begun (.flood t) (Flood.start t args)
  | .succeed => .leave {}
  | .fail => .leave { status := 1 }
  | .sleep => begun .pause (Pause.start t args)

end Utility

namespace Activity

open Routine

/-- The next round of an activity. -/
def round : Activity → Routine Activity
  | .cat t work => return .cat t (← work.round t)
  | .count t work => return .count t (← work.round t)
  | .edit t work => return .edit t (← work.round t)
  | .ends t work => return .ends t (← work.round t)
  | .flood t work => return .flood t (← work.round t)
  | .pause work => return .pause (← work.round)
  | .printf t work => return .printf t (← work.round t)
  | .sort t work => return .sort t (← work.round t)
  | .translate t work => return .translate t (← work.round t)
  | .script task => do
    task.perform
    pure (.script task)
  | .leave farewell => do
    let _ ← put 1 farewell.output
    complain farewell.complaint
    Routine.exit farewell.status (.leave farewell)

end Activity
end CommandShell
