/-
# Jobs

A script that starts processes together has a job (`Job`) for them: the stages of a pipeline are one
job.  It keeps the jobs that it did not wait for at once, by numbers, and learns how their processes
ended when it waits for any process.  A job that has ended and has been waited for is spent: it is
still there, until its number is given to another job.
-/

namespace CommandShell.Script

/-- A job: processes that were started together. -/
structure Job where
  number : Nat
  /-- The processes, that of the last stage at the end. -/
  processes : List Nat
  /-- How those of the processes ended of which this is known. -/
  endings : List (Nat × Nat) := []
  /-- Whether the script has waited for the job. -/
  awaited : Bool := false
deriving Repr, DecidableEq

namespace Job

/-- The processes that may still run. -/
def running (j : Job) : List Nat := j.processes.filter fun p => (j.endings.lookup p).isNone

/-- Whether all processes are known to have ended. -/
def isDone (j : Job) : Bool := j.running.isEmpty

/-- Whether the number of the job may be given to another one. -/
def isSpent (j : Job) : Bool := j.isDone && j.awaited

/-- How the last stage ended. -/
def ending (j : Job) : Nat :=
  match j.processes.getLast? with
  | some process => (j.endings.lookup process).getD 0
  | none => 0

/-- The job when one more ending is known. -/
def learn (process ending : Nat) (j : Job) : Job :=
  if j.running.contains process then { j with endings := (process, ending) :: j.endings } else j

end Job

/-- The jobs of a script, the last one first. -/
abbrev Jobs := List Job

namespace Jobs

/-- The number of the next job: the least that no other job needs. -/
def nextNumber (jobs : Jobs) : Nat :=
  let isNeeded (n : Nat) : Bool := jobs.any fun j => j.number == n && !j.isSpent
  (((List.range (jobs.length + 1)).map (· + 1)).find? (!isNeeded ·)).getD (jobs.length + 1)

/-- The jobs without one that the next job replaces. -/
def makeRoom (jobs : Jobs) : Jobs := jobs.filter (·.number != jobs.nextNumber)

/-- The jobs with one more, of processes that were just started. -/
def add (jobs : Jobs) (processes : List Nat) : Jobs :=
  { number := jobs.nextNumber, processes } :: jobs.makeRoom

/-- The job whose last stage a process is. -/
def ofProcess? (jobs : Jobs) (process : Nat) : Option Job :=
  jobs.find? fun j => j.processes.getLast? = some process

/-- The job of a number. -/
def ofNumber? (jobs : Jobs) (number : Nat) : Option Job := jobs.find? (·.number = number)

def without (jobs : Jobs) (number : Nat) : Jobs := jobs.filter (·.number != number)

end Jobs
end CommandShell.Script
