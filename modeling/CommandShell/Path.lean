/-
# Path texts

A path is the text of a file name: names separated by slashes.  Paths are joined and compared as
texts, before any file is looked at.  `join` puts a path behind a directory, unless it is absolute
and so needs none; nothing is normalised.  Two paths are alike (`components`) when they name the
same components in the same way: repeated slashes, a slash at the end and inner `.` components do
not count, while `..` does.
-/
import CommandShell.Text.Lines

namespace CommandShell.Path

/-- The parts of a path between its slashes. -/
def segments (path : String) : List String := Text.fields '/' path

/-- Whether the path starts at the root. -/
def isAbsolute (path : String) : Bool := path.toList.head? == some '/'

/-- Whether the path has a slash anywhere, and so is not searched for. -/
def hasSlash (path : String) : Bool := path.toList.contains '/'

/-- The path `path`, taken from the directory `dir`. -/
def join (dir path : String) : String :=
  if isAbsolute path then path
  else if dir = "" || dir.toList.getLast? == some '/' then dir ++ path
  else dir ++ "/" ++ path

/-- Whether a segment is a component by itself, wherever it stands. -/
def counts (segment : String) : Bool := segment != "" && segment != "."

/-- What a path is compared by: the components that count, behind an empty name when the path is
absolute.  A `.` counts only where a relative path starts with it. -/
def components (path : String) : List String :=
  let names := (segments path).filter counts
  if isAbsolute path then "" :: names
  else if (segments path).head? = some "." then "." :: names
  else names

end CommandShell.Path
