/-
# The state of a running script

What a script knows between two commands (`State`), and what a process of the script language is to
do when it starts (`Task`): a part of a script is carried out in a process of its own with a copy of
the state.
-/
import Std.Data.ExtTreeMap
import CommandShell.Machine.Script.Job
import CommandShell.Machine.Script.Tree

namespace CommandShell.Script

structure Variable where
  /-- A variable can be marked without having a value. -/
  value : Option ByteText := none
  /-- Whether programs see it. -/
  exported : Bool := false
  /-- Whether it keeps its value for ever. -/
  fixed : Bool := false
deriving Repr, DecidableEq

/-- The variables of a script by their names. -/
abbrev Variables := Std.ExtTreeMap String Variable

/-- The characters that separate fields by default. -/
def defaultSeparators : ByteText := " \t\n"

/-- Where a program was found on the list of directories. -/
structure Found where
  /-- The number of the directory. -/
  place : Nat
  /-- Whether the script has changed its directory since. -/
  stale : Bool := false
deriving Repr, DecidableEq

/-- A running script. -/
structure State where
  /-- The name under which the script runs. -/
  name : ByteText
  parameters : List ByteText := []
  vars : Variables := ∅
  functions : Std.ExtTreeMap String Tree := ∅
  /-- The words that stand for texts, in the order in which they were set. -/
  aliases : List (ByteText × ByteText) := []
  /-- The programs that were looked for and found. -/
  programs : List (ByteText × Found) := []
  documents : Documents := []
  /-- The number of the next here-document. -/
  nextDocument : Nat := 0
  /-- The exit status of the last command. -/
  status : Nat := 0
  /-- The status of the last script whose output the current command took. -/
  outputStatus : Nat := 0
  /-- The letters of the options that are set. -/
  options : List Char := []
  /-- The line that messages name. -/
  line : Nat := 0
  /-- The line up to which the script has been read. -/
  reached : Nat := 1
  /-- The command of the language that is being carried out. -/
  command : Option ByteText := none
  /-- The current directory as the script reached it. -/
  directory : ByteText := "/"
  /-- The number of the process that runs the script, as its parts see it, too. -/
  process : Nat := 0
  /-- The jobs that were not waited for at once. -/
  jobs : Jobs := []
  /-- The process that was started last in the background. -/
  background : Option Nat := none
  /-- The number of loops around the current command. -/
  loops : Nat := 0
  /-- For each function and command that has variables of its own, what these were before. -/
  locals : List (List (ByteText × Option Variable)) := []
  /-- What is done on a signal, by its number, where 0 is the end of the script. -/
  traps : List (Nat × ByteText) := []
  /-- The signals that do nothing, whatever the script says. -/
  deaf : List Nat := []
  /-- Where the next option stands in its argument, for `getopts`. -/
  optionPlace : Nat := 0
  /-- The first descriptor that nothing is kept under. -/
  freeFd : Nat := 10
  /-- The exit status before what is done on a signal. -/
  statusBefore : Option Nat := none
  /-- What the current command of the language has to write. -/
  written : ByteText := ""
  /-- The rights that new files are refused. -/
  mask : Nat := 0o022

/-- What a process of the script language is to do. -/
inductive Task
  /-- Run the script that is given as an argument. -/
  | given (source : ByteText) (state : State)
  /-- Run the script in a file. -/
  | file (path : ByteText) (state : State)
  /-- Run the script on the standard input. -/
  | input (state : State)
  /-- Carry out a part of a script, with redirections whose words are expanded; `tested` tells
  whether what follows depends on its outcome. -/
  | part (tree : Option Tree) (redirects : List Redirect) (tested : Bool) (state : State)
  /-- Become a program, with the environment that it is to see. -/
  | program (argv : List ByteText) (environment : List ByteText) (state : State)

namespace State

/-- The variable of a name, if there is one. -/
def held? (s : State) (name : ByteText) : Option Variable := s.vars[name]?

def value? (s : State) (name : ByteText) : Option ByteText := (s.held? name).bind (·.value)

def has (s : State) (option : Char) : Bool := s.options.contains option

/-- Lets a name stand for a variable, or for none.  What was found on the list of directories is
forgotten when the list changes. -/
def hold (s : State) (name : ByteText) (v : Option Variable) : State :=
  { s with
    vars := match v with
      | some v => s.vars.insert name v
      | none => s.vars.erase name
    programs := if name = "PATH" then [] else s.programs }

/-- Gives a variable a value, whether it is fixed or not. -/
def put (s : State) (name value : ByteText) : State :=
  let old := (s.held? name).getD {}
  s.hold name (some { old with value := some value, exported := old.exported || s.has 'a' })

/-- Marks a variable as one that programs see. -/
def expose (s : State) (name : ByteText) : State :=
  { s with vars :=
      s.vars.insert name { (s.held? name).getD {} with exported := true } }

/-- Notes whether a program was found, and in which directory. -/
def notice (s : State) (name : ByteText) (place : Option Nat) : State :=
  { s with programs := match place with
      | none => s.programs.filter (·.1 ≠ name)
      | some place =>
        if (s.programs.lookup name).isSome then
          s.programs.map fun entry => if entry.1 = name then (name, ⟨place, false⟩) else entry
        else s.programs ++ [(name, ⟨place, false⟩)] }

/-- What programs see of the variables. -/
def environment (s : State) : List ByteText :=
  s.vars.toList.filterMap fun (name, v) =>
    if v.exported then v.value.map fun value => name ++ "=" ++ value else none

/-- The characters that separate fields. -/
def separators (s : State) : ByteText := (s.value? "IFS").getD defaultSeparators

end State
end CommandShell.Script
