/-
# Failures of a command

What a shell reports when a command cannot do its work.  A failure is described from the outside
in: first what the shell tried, then, if a file is to blame, what was wrong with it
(`Failure.causes`).  On one line the parts are separated by a colon (`Failure.message`).
-/
import CommandShell.FileSystem.Fault
import CommandShell.Text.Lines

namespace CommandShell

/-- What was tried with a history file. -/
inductive FileAction
  | opening
  | reading
  | writing
  | appending
deriving Repr, DecidableEq

/-- The name of the action after "cannot". -/
def FileAction.verb : FileAction → String
  | .opening => "open"
  | .reading => "read"
  | .writing => "write"
  | .appending => "append"

/-- Why a command failed. -/
inductive Failure
  /-- The target of a redirection cannot be opened. -/
  | redirection (target : String) (fault : Fault)
  /-- A history file cannot be used. -/
  | history (path : String) (action : FileAction) (fault : Fault)
  /-- There is no such directory to change to. -/
  | noDirectory (dir : String)
  /-- A stream does not take what is written to it. -/
  | stream (fault : Fault)
  /-- The next line of input cannot be read. -/
  | input (fault : Fault)
deriving Repr, DecidableEq

namespace Failure

/-- The parts of the description, outermost first. -/
def causes : Failure → List String
  | .redirection target fault => [target ++ ": cannot open redirect target", fault.message]
  | .history path action fault =>
    ["history: " ++ path ++ ": cannot " ++ action.verb, fault.message]
  | .noDirectory dir => ["cd: " ++ dir ++ ": " ++ OsError.notFound.text]
  | .stream fault => [fault.message]
  | .input fault => [fault.message, fault.message]

/-- The failure on one line. -/
def message (f : Failure) : String := ": ".intercalate f.causes

end Failure

/-- A text whose later lines begin after a margin. -/
def indented (margin : String) (text : String) : String :=
  ("\n" ++ margin).intercalate (Text.fields '\n' text)

/-- The report of a program that ends because of an error, whose causes are given outermost first.
Several causes of the error are numbered. -/
def errorReport : List String → String
  | [] => ""
  | [error] => "Error: " ++ error ++ "\n"
  | [error, cause] =>
    "Error: " ++ error ++ "\n\nCaused by:\n    " ++ indented "    " cause ++ "\n"
  | error :: causes =>
    "Error: " ++ error ++ "\n\nCaused by:\n"
      ++ String.join (causes.mapIdx fun i cause =>
          "    " ++ toString i ++ ": " ++ indented "       " cause ++ "\n")

end CommandShell
