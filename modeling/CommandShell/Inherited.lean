/-
# Variables that a program is started with

A program is started with a list of entries, each of which is a name, an equals sign and a value
(`Inherited`).  There are two ways of looking at an entry.  As a variable it ends its name at the
first equals sign behind its first character (`Inherited.vars`).  Who asks for a name gets what
follows that name and an equals sign in the first entry that begins with them, so that a name with
an equals sign of its own finds a part of a value (`Inherited.value?`).
-/
import Std.Data.ExtTreeMap

namespace CommandShell

/-- The entries that a program is started with. -/
structure Inherited where
  entries : List String
deriving Repr, DecidableEq

namespace Inherited

def ofVars (vars : List (String × String)) : Inherited :=
  { entries := vars.map fun (name, value) => name ++ "=" ++ value }

/-- The variable of an entry, if it is one. -/
def ofEntry? (entry : String) : Option (String × String) :=
  match entry.toList with
  | [] => none
  | c :: cs =>
    match cs.dropWhile (· ≠ '=') with
    | [] => none
    | _ :: value => some (String.ofList (c :: cs.takeWhile (· ≠ '=')), String.ofList value)

/-- The variables of the entries; of those with the same name the last one counts. -/
def vars (i : Inherited) : Std.ExtTreeMap String String :=
  Std.ExtTreeMap.ofList (i.entries.filterMap ofEntry?) compare

/-- What follows a name and an equals sign in an entry that begins with them. -/
def after? (name entry : String) : Option String :=
  let front := name.toList ++ ['=']
  if front.isPrefixOf entry.toList then some (String.ofList (entry.toList.drop front.length))
  else none

/-- The value that is found under a name; the empty name finds nothing. -/
def value? (i : Inherited) (name : String) : Option String :=
  if name = "" then none else i.entries.findSome? (after? name)

end Inherited
end CommandShell
