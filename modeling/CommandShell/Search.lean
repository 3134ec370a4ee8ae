/-
# Finding programs

A command that is not built in names a program.  A name with a slash is a path, taken from the
current directory; any other name is looked up in the directories of the search list, in order.
What has been found, or not found, is remembered (`memo`) until the list changes.

`Search.lookup` is the look-up without memory and `Search.resolve` the one with it.
`Search.executables` lists the programs of the search list for completion.
-/
import Std.Data.ExtTreeSet
import CommandShell.FileSystem.Access
import CommandShell.Text.Blank

namespace CommandShell

/-- A search list with what has been looked up on it. -/
structure Search where
  dirs : List String := []
  memo : Std.ExtTreeMap String (Option String) := ∅

namespace Search

/-! ## 1. The list -/

/-- The directories of a search path: its fields at colons, trimmed, without blank ones. -/
def split (value : String) : List String :=
  ((Text.fields ':' value).map Text.trim).filter (· ≠ "")

/-- A search list that has not been used. -/
def ofDirs (dirs : List String) : Search := { dirs }

def ofPath (value : String) : Search := ofDirs (split value)

/-- Puts another list in place, which forgets what was looked up. -/
def replaceDirs (_ : Search) (dirs : List String) : Search := ofDirs dirs

/-- Puts the list of a search path in place. -/
def setPath (s : Search) (value : String) : Search := s.replaceDirs (split value)

/-- Puts a directory in front of the list, unless its name is blank. -/
def prepend (s : Search) (dir : String) : Search :=
  if Text.trim dir = "" then s else s.replaceDirs (Text.trim dir :: s.dirs)

/-! ## 2. Looking up -/

/-- Looks a name up, with `cwd` as the current directory. -/
def lookup (dirs : List String) (fs : FileSystem) (base : Location) (name cwd : String) :
    Option String :=
  if name = "" then none
  else if Path.hasSlash name then
    let path := Path.join cwd name
    if fs.isExecutable base path then some path else none
  else (dirs.map fun dir => Path.join (Path.join cwd dir) name).find? (fs.isExecutable base)

/-- What a look-up is remembered by. -/
def key (name cwd : String) : String :=
  if Path.hasSlash name then Path.join cwd name else name

/-- Looks a name up, or remembers it. -/
def resolve (s : Search) (fs : FileSystem) (base : Location) (name cwd : String) :
    Option String × Search :=
  match s.memo[key name cwd]? with
  | some found => (found, s)
  | none =>
    let found := lookup s.dirs fs base name cwd
    (found, { s with memo := s.memo.insert (key name cwd) found })

/-! ## 3. Listing -/

def beginsWith (start text : String) : Bool := start.toList.isPrefixOf text.toList

/-- The programs in one directory whose names begin with `start`. -/
def executablesIn (fs : FileSystem) (base : Location) (start dir : String) : List String :=
  (fs.namesAt base dir).filter fun name =>
    beginsWith start name && fs.isExecutable base (Path.join dir name)

/-- The names of the programs in the listed directories that begin with `start`. -/
def executables (dirs : List String) (fs : FileSystem) (base : Location) (start : String) :
    Std.ExtTreeSet String :=
  Std.ExtTreeSet.ofList (dirs.flatMap (executablesIn fs base start)) compare

end Search
end CommandShell
