/-
# Jobs of a script

The commands of the script language that deal with its jobs: `jobs`, `wait`, `fg` and `bg`.  A job
is named by a percent sign and its number, or by what it is among the others: `%%` and `%+` for the
last one, `%-` for the one before.  A script has no jobs that can be moved between the foreground
and the background.
-/
import CommandShell.Machine.Script.Builtin.Letters

namespace CommandShell.Script.JobControl

open Runner

/-! ## 1. Naming jobs -/

/-- The job that a text names. -/
def named (text : ByteText) : Runner Job := do
  let jobs := (← get).jobs
  let orFail (problem : ByteText) : Option Job → Runner Job
    | some j => pure j
    | none => fail problem
  let missing : ByteText := "No such job: " ++ text
  match text.toList with
  | ['%'] | ['%', '%'] | ['%', '+'] => orFail "No current job" jobs.head?
  | ['%', '-'] => orFail "No previous job" (jobs.drop 1).head?
  | '%' :: digits => orFail missing ((number? (String.ofList digits)).bind jobs.ofNumber?)
  | _ => fail missing

/-! ## 2. Showing jobs -/

/-- How a job is shown. -/
inductive Style
  | plain
  /-- With the processes. -/
  | detailed
  /-- Only the first process. -/
  | process
deriving Repr, DecidableEq

/-- The column at which the command of a job would be shown. -/
def commandColumn : Nat := 33

/-- What is known of a job. -/
def condition (j : Job) : String :=
  if !j.isDone then "Running"
  else if signalled ≤ j.ending then
    let number := j.ending - signalled
    (signalTexts.lookup number).getD ("Unknown signal " ++ toString number)
  else if j.ending = 0 then "Done"
  else "Done(" ++ toString j.ending ++ ")"

/-- Fills a line with blanks up to the column of the command; one blank there is always. -/
def toColumn (line : String) : String :=
  line ++ String.ofList (List.replicate (max 1 (commandColumn - line.length)) ' ')

/-- The sign of a job among the others. -/
def sign (jobs : Jobs) (j : Job) : String :=
  if (jobs.head?.map Job.number) = some j.number then "+"
  else if ((jobs.drop 1).head?.map Job.number) = some j.number then "-"
  else " "

/-- The text that shows a job. -/
def shown (style : Style) (jobs : Jobs) (j : Job) : String :=
  let front := "[" ++ toString j.number ++ "] " ++ sign jobs j ++ " "
  let others := j.processes.drop 1
  match style with
  | .process => toString (j.processes.headD 0) ++ "\n"
  | .plain =>
    toColumn (front ++ condition j) ++ String.join (others.map fun _ => " | ") ++ "\n"
  | .detailed =>
    let indent := String.ofList (List.replicate front.length ' ')
    let further (process : Nat) : String :=
      " |\n" ++ toColumn (indent ++ toString process ++ " ")
    toColumn (front ++ toString (j.processes.headD 0) ++ " " ++ condition j)
      ++ String.join (others.map further) ++ "\n"

/-- Shows a job, which is forgotten when it is told that it has ended. -/
def tell (style : Style) (j : Job) : Runner Unit := do
  emit (shown style (← get).jobs j)
  if style != .process && j.isDone then
    modify fun s => { s with jobs := s.jobs.without j.number }

def jobs (args : List ByteText) : Runner Nat := do
  let (found, names) ← Letters.read "lp" "" args
  let style := match found.getLast? with
    | some ('l', _) => .detailed
    | some _ => .process
    | none => .plain
  if names.isEmpty then
    reap
    for j in (← get).jobs do tell style j
  else
    for name in names do tell style (← named name)
  pure 0

/-! ## 3. Waiting -/

/-- The status when a wait was ended by signals. -/
def interruptedStatus (signals : List Nat) : Nat := 128 + signals.getLast?.getD 0

/-- Waits for processes of jobs, as long as no signal comes that is caught; gives the signals that
came.  `told` tells whether it is told how the processes were ended. -/
def awaitProcesses (told : Bool) : List Nat → Runner (List Nat)
  | [] => pure []
  | process :: rest => do
    match ← ask (.await process true) with
    | .number ending =>
      if told then tellEnding ending
      modify fun s => { s with jobs := s.jobs.map (·.learn process ending) }
      awaitProcesses told rest
    | .numbers signals => pure signals
    | _ => awaitProcesses told rest

/-- Notes that the script has waited for some jobs. -/
def noteAwaited (p : Job → Bool) : Runner Unit :=
  modify fun s => { s with
    jobs := s.jobs.map fun j => if p j then { j with awaited := true } else j }

/-- Waits for all jobs. -/
def awaitAll : Runner Nat := do
  match ← awaitProcesses false ((← get).jobs.flatMap Job.running) with
  | [] =>
    noteAwaited fun _ => true
    pure 0
  | signals => pure (interruptedStatus signals)

/-- Waits for some jobs; gives the status of the last one that there is. -/
def awaitNamed (status : Nat) : List ByteText → Runner Nat
  | [] => pure status
  | name :: rest => do
    let found? ← if name.toList.head? = some '%' then some <$> named name
      else do
        let process ← number name
        pure ((← get).jobs.ofProcess? process)
    match found? with
    | none => awaitNamed status rest
    | some j =>
      match ← awaitProcesses true j.running with
      | [] =>
        reap
        noteAwaited (·.number = j.number)
        awaitNamed (((← get).jobs.ofNumber? j.number).elim 0 fun j => statusOf j.ending) rest
      | signals => pure (interruptedStatus signals)

/-- The status of a wait for nothing that there is. -/
def unknownStatus : Nat := 127

def wait (args : List ByteText) : Runner Nat := do
  match ← Letters.operands args with
  | [] => awaitAll
  | names => awaitNamed unknownStatus names

/-! ## 4. Moving jobs -/

/-- The commands `fg` and `bg`, which no script can use. -/
def move (args : List ByteText) : Runner Nat := do
  let name? := (← Letters.operands args).head?
  let _ ← named (name?.getD "%")
  fail ("job " ++ name?.getD "(null)" ++ " not created under job control")

end CommandShell.Script.JobControl
