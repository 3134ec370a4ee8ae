/-
# Signals

The commands of the script language that deal with signals: `kill` and `trap`.
-/
import CommandShell.Machine.Script.Builtin.Jobs
import CommandShell.Machine.Script.Builtin.Variables

namespace CommandShell.Script.Signals

open Runner

/-! ## 1. Names -/

/-- The names of the signals by their numbers; the first one stands for the end of a script. -/
def names : List String :=
  ["EXIT", "HUP", "INT", "QUIT", "ILL", "TRAP", "ABRT", "BUS", "FPE", "KILL", "USR1", "SEGV",
    "USR2", "PIPE", "ALRM", "TERM", "STKFLT", "CHLD", "CONT", "STOP", "TSTP", "TTIN", "TTOU", "URG",
    "XCPU", "XFSZ", "VTALRM", "PROF", "WINCH", "IO", "PWR", "SYS", "32", "33", "RTMIN"]
    ++ (List.range 15).map (fun n => "RTMIN+" ++ toString (n + 1))
    ++ (List.range 14).map (fun n => "RTMAX-" ++ toString (14 - n)) ++ ["RTMAX"]

/-- The signal that a text names. -/
def signal? (text : ByteText) : Option Nat :=
  match number? text with
  | some n => if n < names.length then some n else none
  | none =>
    let i := names.findIdx fun name => name.toList = text.toList.map Char.toUpper
    if i < names.length then some i else none

def name (n : Nat) : String := (names[n]?).getD ""

/-! ## 2. `kill` -/

/-- How `kill` is used. -/
def usage : ByteText :=
  "Usage: kill [-s sigspec | -signum | -sigspec] [pid | job]... or\nkill -l [exitstatus]"

/-- The process that an argument names.  No process is the first of a group, so the name of a group,
such as that of a job, names none. -/
def target? (arg : ByteText) : Runner (Option Nat) := do
  match arg.toList with
  | '%' :: _ =>
    let _ ← JobControl.named arg
    pure none
  | '-' :: digits =>
    let _ ← number (String.ofList digits)
    pure none
  | _ => some <$> number arg

/-- Sends a signal to processes; gives the status. -/
def send (signal : Nat) : List ByteText → Runner Nat
  | [] => pure 0
  | arg :: rest => do
    let reply : Reply ← match ← target? arg with
      | some process => ask (.signal process signal)
      | none => pure (.failed .noProcess)
    let status ← match reply with
      | .failed e =>
        complain (e.text ++ "\n")
        pure 1
      | _ => pure 0
    return max status (← send signal rest)

/-- Lists the names of signals. -/
def list : List ByteText → Runner Nat
  | [] => do
    emit "0\n"
    for n in names.drop 1 do emit (n ++ "\n")
    pure 0
  | arg :: _ => do
    let n ← number arg
    let n := if 128 < n then n - 128 else n
    if 0 < n && n < names.length then
      emit (name n ++ "\n")
      pure 0
    else fail ("invalid signal number or exit status: " ++ arg)

/-- The number of the signal that asks a process to end. -/
def terminate : Nat := 15

def kill (args : List ByteText) : Runner Nat := do
  match args with
  | [] => fail usage
  | first :: rest =>
    let named := if first.toList.head? = some '-' then
        signal? (String.ofList (first.toList.drop 1))
      else none
    match named with
    | some n => if rest.isEmpty then fail usage else send n rest
    | none =>
      let (found, operands) ← Letters.read "l" "s" args
      if found.any (·.1 == 'l') then list operands
      else
        let signal ← match found.lookup 's' with
          | some text =>
            match signal? text with
            | some n => pure n
            | none => fail ("invalid signal number or name: " ++ text)
          | none => pure terminate
        if operands.isEmpty then fail usage else send signal operands

/-! ## 3. `trap` -/

/-- Sets what is done on signals; gives the status. -/
def setTraps (action : Option ByteText) : List ByteText → Runner Nat
  | [] => pure 0
  | arg :: rest => do
    match signal? arg with
    | none =>
      say (Routine.complain ("trap: " ++ arg ++ ": bad trap\n"))
      pure 1
    | some n =>
      modify fun s =>
        let others := s.traps.filter (·.1 ≠ n)
        { s with traps := match action with
          | some text => (n, text) :: others
          | none => others }
      if n ≠ 0 && !(← get).deaf.contains n then
        let reaction : Reaction := match action with
          | none => .ends
          | some "" => .nothing
          | some _ => .waits
        let _ ← ask (.onSignal n reaction)
      setTraps action rest

def trap (args : List ByteText) : Runner Nat := do
  match ← Letters.operands args with
  | [] =>
    let traps := (← get).traps
    for n in List.range names.length do
      if let some action := traps.lookup n then
        emit ("trap -- " ++ Variables.quoted action ++ " " ++ name n ++ "\n")
    pure 0
  | [only] => setTraps none [only]
  | action :: rest =>
    if (number? action).isSome && (signal? action).isSome then setTraps none (action :: rest)
    else setTraps (if action = "-" then none else some action) rest

end CommandShell.Script.Signals
