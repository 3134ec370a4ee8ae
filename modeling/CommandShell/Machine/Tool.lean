/-
# What installed programs have in common

An installed program names itself in its messages by the name under which it was called (`Tool`).
It collects its output and writes it in blocks (`Output`), so that a message can come before output
that was made earlier; most programs write what they have collected before they complain.  What a
program reports when its output cannot be written depends on the program and on whether it was at
its end.  Inputs are read one after the other (`Inputs`), where a dash is the standard input.
-/
import CommandShell.Machine.Call

namespace CommandShell

/-- An installed program as it was called. -/
structure Tool where
  utility : Utility
  name : ByteText
deriving Repr, DecidableEq

/-- What a program leaves that ends at once. -/
structure Farewell where
  output : Bytes := []
  complaint : ByteText := ""
  status : Nat := 0
deriving Repr, DecidableEq

namespace Tool

/-! ## 1. Refusals -/

/-- The status of a program that cannot do its work. -/
def trouble (t : Tool) : Nat :=
  match t.utility with
  | .sort => 2
  | .sed => 4
  | _ => 1

def message (t : Tool) (text : ByteText) : ByteText := t.name ++ ": " ++ text ++ "\n"

/-- The end of a program that refuses to work. -/
def refuse (t : Tool) (text : ByteText) : Farewell :=
  { complaint := t.message text, status := if t.utility = .sort then 2 else 1 }

/-- The end of a program that was called wrongly. -/
def misuse (t : Tool) (text : ByteText) : Farewell :=
  t.refuse (text ++ "\nTry '" ++ t.name ++ " --help' for more information.")

end Tool

/-! ## 2. Output -/

structure Output where
  /-- What was not written yet. -/
  held : Bytes := []
  /-- Whether something could not be written. -/
  failed : Bool := false
deriving Repr, DecidableEq

namespace Tool

open Routine

/-- How many bytes are written at once. -/
def blockSize : Nat := 4096

/-- What is said about output that cannot be written while there is more to come; `count` is the
number of bytes that were to be put behind the output. -/
def writingProblem (t : Tool) (count : Nat) (e : OsError) : ByteText :=
  match t.utility with
  | .head | .tail => t.message ("error writing 'standard output': " ++ e.text)
  | .sort =>
    t.message ("write failed: 'standard output': " ++ e.text) ++ t.message "write error"
  | .sed =>
    t.message ("couldn't write " ++ toString count ++ (if count = 1 then " item" else " items")
      ++ " to stdout: " ++ e.text)
  | _ => t.message ("write error: " ++ e.text)

/-- What is said about output that cannot be written at the end. -/
def closingProblem (t : Tool) (e : OsError) : ByteText :=
  match t.utility with
  | .sort =>
    t.message ("fflush failed: 'standard output': " ++ e.text) ++ t.message "write error"
  | .sed =>
    t.message ((if e = .badDescriptor then "couldn't close stdout: " else "couldn't flush stdout: ")
      ++ e.text)
  | _ => t.message ("write error: " ++ e.text)

/-- Puts bytes behind the output; whole blocks are written. -/
def write (t : Tool) (o : Output) (bytes : Bytes) : Routine Output := do
  let all := o.held ++ bytes
  if all.length ≤ blockSize then pure { o with held := all }
  else
    let n := all.length / blockSize * blockSize
    match ← put 1 (all.take n) with
    | none => pure { o with held := all.drop n }
    | some e =>
      match t.utility with
      | .wc | .printf => pure { o with held := all.drop n, failed := true }
      | _ =>
        complain (t.writingProblem bytes.length e)
        Routine.exit t.trouble o

def writeAll (t : Tool) (o : Output) : List Bytes → Routine Output
  | [] => pure o
  | bytes :: rest => do t.writeAll (← t.write o bytes) rest

/-- Writes what was collected. -/
def flush (o : Output) : Routine Output := do
  match ← put 1 o.held with
  | none => pure { o with held := [] }
  | some _ => pure { held := [], failed := true }

def warn (t : Tool) (o : Output) (text : ByteText) : Routine Output := do
  let o ← if t.utility = .sed then pure o else flush o
  complain (t.message text)
  pure o

/-- Ends the program after all its output. -/
def finish (t : Tool) (o : Output) (status : Nat) : Routine Unit := do
  let written ← put 1 o.held
  let closed := (← inspect 1).isNone
  let problem : Option OsError := if written.isSome then written
    else if closed then some .badDescriptor else none
  match problem with
  | some e =>
    if o.failed || o.held ≠ [] || e ≠ .badDescriptor || t.utility = .sed then
      complain (t.closingProblem e)
      Routine.exit t.trouble ()
  | none =>
    if o.failed then
      complain (t.message "write error")
      Routine.exit t.trouble ()
  Routine.exit status ()

end Tool

/-! ## 3. Inputs -/

structure Inputs where
  /-- The operands that are still to be read; none stands for the standard input that nobody asked
  for. -/
  waiting : List (Option ByteText)
  /-- The descriptor and the name of the input that is being read. -/
  current : Option (Nat × Option ByteText) := none
  /-- Whether a dash stands for the standard input. -/
  dashes : Bool := true
deriving Repr, DecidableEq

/-- What comes next from the inputs. -/
inductive Arrival
  /-- An input is there, under a descriptor. -/
  | opened (name : Option ByteText) (fd : Nat)
  /-- An operand cannot be opened. -/
  | missing (name : ByteText) (error : OsError)
  | piece (bytes : Bytes)
  /-- An input cannot be read any further. -/
  | broken (name : Option ByteText) (error : OsError)
  | ended (name : Option ByteText)
  /-- There is no further input. -/
  | over
deriving Repr, DecidableEq

namespace Inputs

open Routine

/-- The inputs for some operands; without any it is the standard input. -/
def ofOperands (operands : List ByteText) : Inputs :=
  { waiting := if operands = [] then [none] else operands.map some }

/-- The descriptor under which operands are opened. -/
def operandFd : Nat := 3

/-- Whether a name stands for the standard input. -/
def isStandard : Option ByteText → Bool
  | none => true
  | some name => name == "-"

/-- Waits for what comes next, at most so many bytes. -/
def next (limit : Nat) (inputs : Inputs) : Routine (Arrival × Inputs) := do
  match inputs.current, inputs.waiting with
  | none, [] => pure (.over, inputs)
  | none, name :: waiting =>
    if name.isNone || inputs.dashes && isStandard name then
      pure (.opened name 0, { inputs with waiting, current := some (0, name) })
    else
      let path := name.getD ""
      match ← openFile operandFd path .read with
      | some e => pure (.missing path e, { inputs with waiting })
      | none =>
        pure (.opened name operandFd,
          { inputs with waiting, current := some (operandFd, name) })
  | some (fd, name), _ =>
    match ← read fd limit with
    | .error e => pure (.broken name e, { inputs with current := none })
    | .ok [] =>
      if fd ≠ 0 then let _ ← ask (.close fd)
      pure (.ended name, { inputs with current := none })
    | .ok bytes => pure (.piece bytes, inputs)

/-- The inputs without the one that is being read. -/
def leave (inputs : Inputs) : Inputs := { inputs with current := none }

end Inputs
end CommandShell
