/-
# The built-in commands

A built-in command is known by its name and its arguments (`Builtin.lookup`).  Arguments that its
grammar does not accept, and a request for help, are commands of their own: they only print what has
to be said about them.  `echo` has no grammar and takes every argument as it is.
-/
import CommandShell.Builtin.Name
import CommandShell.Options
import CommandShell.Text.Numeral

namespace CommandShell

structure HistoryRequest where
  write : Option String := none
  read : Option String := none
  append : Option String := none
  count : Option String := none
deriving Repr, DecidableEq

/-- A built-in command with its arguments. -/
inductive Builtin
  | cd (target : Option String)
  | echo (words : List String)
  | exit (status : Int)
  | history (request : HistoryRequest)
  | pwd
  | type (names : List String)
  /-- Prints a help text. -/
  | help (text : String)
  /-- Prints why arguments were refused. -/
  | refuse (message : String)
deriving Repr, DecidableEq

namespace Builtin

/-! ## 1. Grammars -/

def cdGrammar : Grammar String where
  command := "cd"
  about := "Change the current working directory. If no target is provided, changes to the "
    ++ "directory specified by the HOME environment variable."
  operands := .atMostOne "target"
    ("directory to switch to; absolute, relative to the current directory, "
      ++ "or starting with \x60~\x60.") .ok

def exitGrammar : Grammar Int where
  command := "exit"
  about := "Exit the shell."
  operands := .atMostOne "code" "exit status of the shell, 0 when omitted." fun s =>
    (Numeral.readInt Numeral.statusLimit s).mapError Numeral.Problem.message

def historyGrammar : Grammar String where
  command := "history"
  about := "Display or manipulate the command history."
  options := [
    { long := "write", short := some 'w',
      about := "write the session history to this file, replacing its content." },
    { long := "read", short := some 'r',
      about := "append the lines of this file to the session history." },
    { long := "append", short := some 'a',
      about := "append the entries added since the previous \x60-a\x60 to this file." }]
  operands := .atMostOne "count" "show only the last N entries." .ok

def pwdGrammar : Grammar String where
  command := "pwd"
  about := "Print the current working directory to standard output."
  operands := .none

def typeGrammar : Grammar String where
  command := "type"
  about := "Display how each name would be interpreted if used as a command."
  operands := .many "names" id

/-! ## 2. Looking a command up -/

/-- The command that arguments make by a grammar. -/
def ofArgs {α : Type} (g : Grammar α) (args : List String) (build : Reading α → Builtin) :
    Builtin :=
  match g.read args with
  | .error c => .refuse c.message
  | .ok r => if r.helpWanted then .help g.help else build r

/-- The built-in command with a name and arguments. -/
def ofName (name : BuiltinName) (args : List String) : Builtin :=
  match name with
  | .cd => ofArgs cdGrammar args fun r => .cd r.operands.head?
  | .echo => .echo args
  | .exit => ofArgs exitGrammar args fun r => .exit (r.operands.head?.getD 0)
  | .history => ofArgs historyGrammar args fun r =>
      .history { write := r.values.lookup "write", read := r.values.lookup "read",
                 append := r.values.lookup "append", count := r.operands.head? }
  | .pwd => ofArgs pwdGrammar args fun _ => .pwd
  | .type => ofArgs typeGrammar args fun r => .type r.operands

/-- The built-in command that a name and arguments call, if the name is that of one. -/
def lookup (name : String) (args : List String) : Option Builtin :=
  (BuiltinName.ofText? name).map fun b => ofName b args

end Builtin
end CommandShell
