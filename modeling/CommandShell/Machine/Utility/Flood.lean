/-
# `yes`

`yes` writes its arguments as a line, again and again, for as long as it can.
-/
import CommandShell.Machine.Switches
import CommandShell.Machine.Tool

namespace CommandShell

/-- `yes` at work: what it writes at once. -/
structure Flood where
  block : Bytes
deriving Repr, DecidableEq

namespace Flood

/-- How much is written at once, at least. -/
def blockSize : Nat := 8192

/-- `yes` with its arguments. -/
def start (t : Tool) (args : List ByteText) : Except Farewell Flood :=
  match (({} : Switches).read args).operands with
  | .error problem => .error (t.misuse problem)
  | .ok operands =>
    let words := if operands = [] then ["y"] else operands
    let line := ByteText.toBytes (" ".intercalate words ++ "\n")
    .ok ⟨(List.replicate (max 1 (blockSize / line.length)) line).flatten⟩

open Routine

def round (t : Tool) (f : Flood) : Routine Flood := do
  match ← put 1 f.block with
  | none => pure f
  | some e =>
    complain (t.message ("standard output: " ++ e.text))
    Routine.exit 1 f

end Flood
end CommandShell
