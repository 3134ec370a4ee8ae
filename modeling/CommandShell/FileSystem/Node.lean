/-
# The files of a machine

A file system maps locations to nodes.  A location is the list of names that lead to it from the
root, without links on the way, so it names at most one node, and two names of one file through a
link are one location.  File systems that answer every look-up alike are equal.
-/
import Std.Data.ExtTreeMap
import CommandShell.Text.Bytes

namespace CommandShell

/-- The names from the root to a node. -/
abbrev Location := List String

/-- The absolute path of a location. -/
def Location.path : Location → String
  | [] => "/"
  | names => String.join (names.map ("/" ++ ·))

/-- The special files a command may read or write. -/
inductive Device
  /-- Takes everything, holds nothing. -/
  | null
  /-- Has no room for anything. -/
  | full
  /-- Holds zeros without end. -/
  | zero
  /-- Stands for a descriptor of the process that opens it. -/
  | own (fd : Nat)
deriving Repr, DecidableEq

/-- The programs that are installed on the machine. -/
inductive Utility
  | sh | cat | tr | sort | head | tail | wc | sed | printf | yes | succeed | fail | sleep
deriving Repr, DecidableEq

/-- What a location holds. -/
inductive Node
  | directory
  | file (content : Bytes) (executable : Bool)
  | link (target : String)
  | device (device : Device)
  /-- An installed program. -/
  | program (utility : Utility)
deriving Repr, DecidableEq

/-- Whether a node is a regular file that may be run. -/
def Node.isExecutable : Node → Bool
  | .file _ executable => executable
  | .program _ => true
  | _ => false

/-- The nodes of a machine by their locations. -/
structure FileSystem where
  nodes : Std.ExtTreeMap Location Node

namespace FileSystem

/-- The file system that holds nothing but its root. -/
def empty : FileSystem := ⟨(∅ : Std.ExtTreeMap Location Node).insert [] .directory⟩

def node? (fs : FileSystem) (loc : Location) : Option Node := fs.nodes[loc]?

def set (fs : FileSystem) (loc : Location) (node : Node) : FileSystem :=
  ⟨fs.nodes.insert loc node⟩

/-- The file system without a location and everything below it. -/
def removeTree (fs : FileSystem) (loc : Location) : FileSystem :=
  ⟨fs.nodes.filter fun key _ => !loc.isPrefixOf key⟩

/-- The file system with directories at a location and all locations above it that hold
nothing. -/
def addDirectories (fs : FileSystem) (loc : Location) : FileSystem :=
  ((List.range (loc.length + 1)).map loc.take).foldl
    (fun fs dir => if (fs.node? dir).isSome then fs else fs.set dir .directory) fs

/-- The names in a directory, in order. -/
def names (fs : FileSystem) (dir : Location) : List String :=
  fs.nodes.keys.filterMap fun loc =>
    if loc ≠ [] ∧ loc.dropLast = dir then loc.getLast? else none

/-! ## Look-ups after a change -/

@[ext] theorem ext {a b : FileSystem} (h : ∀ loc, a.node? loc = b.node? loc) : a = b := by
  cases a; cases b
  congr
  exact Std.ExtTreeMap.ext_getElem? h

@[simp] theorem node?_set_self (fs : FileSystem) (loc : Location) (n : Node) :
    (fs.set loc n).node? loc = some n := by
  simp [node?, set]

theorem node?_set_of_ne (fs : FileSystem) {loc other : Location} (n : Node) (h : loc ≠ other) :
    (fs.set loc n).node? other = fs.node? other := by
  simp [node?, set, Std.ExtTreeMap.getElem?_insert, h]

end FileSystem
end CommandShell
