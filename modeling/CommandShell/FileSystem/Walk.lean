/-
# Following a path

A path is followed name by name from a starting location, or from the root when it is absolute.
Every step asks for a directory to step from; `.` and an empty name stay in it, `..` goes to the
location above, and a link is replaced by its target, followed from the directory that holds it.
At most forty links are followed, a name has at most 255 bytes and a path at most 4095.  A path that
is followed name by name may be longer; then the limit is for the paths of the locations on its way
(`FileSystem.locateStepwise`).

`FileSystem.locate` follows a path to a node that exists.  `FileSystem.locateForCreation` follows
one to the file that is to be written, which need not exist as long as its directory does.
-/
import CommandShell.FileSystem.Fault
import CommandShell.FileSystem.Node
import CommandShell.Path

namespace CommandShell.FileSystem

/-- The number of links that one path may lead through. -/
def linkLimit : Nat := 40

/-- The largest number of bytes in a name. -/
def nameLimit : Nat := 255

/-- The number of bytes that is too many for a path. -/
def pathLimit : Nat := 4096

/-- Where the names of a path are followed from. -/
def start (base : Location) (path : String) : Location :=
  if Path.isAbsolute path then [] else base

/-! ## 1. Nodes that exist -/

/-- Follows a name that is not the last one, or is that of a node which exists: `go` continues from
where it leads, and `follow` with the target of a link and the names behind it. -/
def pass (fs : FileSystem) (follow : Location → List String → Except OsError Location)
    (go : Location → Except OsError Location) (loc : Location) (name : String)
    (rest : List String) : Except OsError Location :=
  if name = "" ∨ name = "." then go loc
  else if name = ".." then go loc.dropLast
  else if nameLimit < name.utf8ByteSize then .error .nameTooLong
  else match fs.node? (loc ++ [name]) with
    | none => .error .notFound
    | some (.link target) => follow (start loc target) (Path.segments target ++ rest)
    | some _ => go (loc ++ [name])

/-- Follows names from a location; `follow` continues with the target of a link. -/
def walkWith (fs : FileSystem) (follow : Location → List String → Except OsError Location) :
    Location → List String → Except OsError Location
  | loc, [] => .ok loc
  | loc, name :: rest =>
    match fs.node? loc with
    | some .directory => fs.pass follow (fun loc => walkWith fs follow loc rest) loc name rest
    | some _ => .error .notDirectory
    | none => .error .notFound

/-- Follows names from a location through at most `links` links. -/
def walk (fs : FileSystem) : Nat → Location → List String → Except OsError Location
  | 0 => walkWith fs fun _ _ => .error .linkLoop
  | links + 1 => walkWith fs (walk fs links)

/-- Refuses the paths that are refused before they are followed. -/
def requireValid (path : String) : Except Fault Unit :=
  if path.toList.contains '\x00' then .error .nulInPath
  else if path = "" then .error (.os .notFound)
  else if pathLimit ≤ path.utf8ByteSize then .error (.os .nameTooLong)
  else .ok ()

/-- The nodes that can be asked for by the paths of their locations: these are not too long. -/
def nameable (fs : FileSystem) : FileSystem :=
  ⟨fs.nodes.filter fun loc _ => loc.path.utf8ByteSize < pathLimit⟩

theorem node?_nameable (fs : FileSystem) (loc : Location) : fs.nameable.node? loc =
    if loc.path.utf8ByteSize < pathLimit then fs.node? loc else none := by
  have hfilter : fs.nameable.node? loc =
      (fs.node? loc).filter fun _ => loc.path.utf8ByteSize < pathLimit := by
    simp [node?, nameable, Std.ExtTreeMap.getElem?_filter]
  rw [hfilter]
  cases fs.node? loc <;> simp [Option.filter]

theorem node?_of_nameable {fs : FileSystem} {loc : Location} {n : Node}
    (h : fs.nameable.node? loc = some n) : fs.node? loc = some n := by
  rw [node?_nameable] at h
  split at h
  · exact h
  · cases h

/-- The location that a path leads to from `base` when it is followed name by name.  Every node on
the way is asked for by the path of its location, so that path must not be too long, while `path`
itself may be. -/
def locateStepwise (fs : FileSystem) (base : Location) (path : String) : Option Location :=
  if path.toList.contains '\x00' ∨ path = "" then none
  else (fs.nameable.walk linkLimit (start base path) (Path.segments path)).toOption

theorem locateStepwise_eq_some_iff {fs : FileSystem} {base loc : Location} {path : String} :
    fs.locateStepwise base path = some loc ↔ '\x00' ∉ path.toList ∧ path ≠ "" ∧
      fs.nameable.walk linkLimit (start base path) (Path.segments path) = .ok loc := by
  simp only [locateStepwise, List.contains_iff_mem]
  split
  next h => exact iff_of_false (by simp) fun ⟨hnul, hne, _⟩ => h.elim hnul hne
  next h =>
    rw [not_or] at h
    cases fs.nameable.walk linkLimit (start base path) (Path.segments path) <;>
      simp [h, Except.toOption]

/-- The location of the node that a path leads to from `base`. -/
def locate (fs : FileSystem) (base : Location) (path : String) : Except Fault Location := do
  requireValid path
  (fs.walk linkLimit (start base path) (Path.segments path)).mapError .os

/-- The node that a path leads to from `base`, if it leads to one. -/
def nodeAt? (fs : FileSystem) (base : Location) (path : String) : Option Node :=
  match fs.locate base path with
  | .ok loc => fs.node? loc
  | .error _ => none

/-- Whether a path leads to a node. -/
def present (fs : FileSystem) (base : Location) (path : String) : Bool :=
  (fs.nodeAt? base path).isSome

/-- Whether a path leads to a regular file that may be run. -/
def isExecutable (fs : FileSystem) (base : Location) (path : String) : Bool :=
  (fs.nodeAt? base path).any Node.isExecutable

/-! ## 2. Files that are to be written -/

/-- The file to write, given its name and its directory.  A name with a slash behind it, and one
that stays in the directory or leaves it, can only be that of a directory. -/
def createIn (fs : FileSystem) (follow : Location → List String → Except OsError Location)
    (dir : Location) (name : String) (slashes : List String) : Except OsError Location :=
  if name = "" ∨ name = "." ∨ name = ".." ∨ slashes ≠ [] then .error .isDirectory
  else if nameLimit < name.utf8ByteSize then .error .nameTooLong
  else match fs.node? (dir ++ [name]) with
    | some .directory => .error .isDirectory
    | some (.link target) => follow (start dir target) (Path.segments target)
    | _ => .ok (dir ++ [name])

/-- Follows names from a location, of which the last is the name of the file to write; `follow`
continues with the target of a link. -/
def createWith (fs : FileSystem) (follow : Location → List String → Except OsError Location) :
    Location → List String → Except OsError Location
  | _, [] => .error .isDirectory
  | loc, name :: rest =>
    match fs.node? loc with
    | some .directory =>
      if rest.all (· == "") then fs.createIn follow loc name rest
      else fs.pass follow (fun loc => createWith fs follow loc rest) loc name rest
    | some _ => .error .notDirectory
    | none => .error .notFound

/-- Follows names from a location to the file to write, through at most `links` links. -/
def create (fs : FileSystem) : Nat → Location → List String → Except OsError Location
  | 0 => createWith fs fun _ _ => .error .linkLoop
  | links + 1 => createWith fs (create fs links)

/-- The location of the file that is written when `path` is opened for writing. -/
def locateForCreation (fs : FileSystem) (base : Location) (path : String) :
    Except Fault Location := do
  requireValid path
  (fs.create linkLimit (start base path) (Path.segments path)).mapError .os

end CommandShell.FileSystem
