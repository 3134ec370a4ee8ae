/-
# The current directory

The commands `cd` and `pwd` of the script language.  A script knows its directory by the path on
which it came there, so `..` leads back to where it came from, also through links; `-P` asks for the
directory as it is.
-/
import CommandShell.Machine.Script.Builtin.Letters
import CommandShell.Path

namespace CommandShell.Script.Place

open Runner

/-- The parts of a path that name something. -/
def parts (path : ByteText) : List ByteText := (Path.segments path).filter (· ≠ "")

/-- The parts of a path after some more have been followed, the last one first. -/
def follow : List ByteText → List ByteText → List ByteText
  | place, [] => place
  | place, "." :: rest => follow place rest
  | place, ".." :: rest => follow (place.drop 1) rest
  | place, part :: rest => follow (part :: place) rest

/-- The front of an absolute path: two slashes mean something else than one or three. -/
def root (path : ByteText) : ByteText :=
  match path.toList with
  | '/' :: '/' :: '/' :: _ => "/"
  | '/' :: '/' :: _ => "//"
  | _ => "/"

/-- The path on which a target is reached from a directory. -/
def reached (directory target : ByteText) : ByteText :=
  if target.toList.head? = some '/' then
    root target ++ "/".intercalate (follow [] (parts target)).reverse
  else
    root directory ++ "/".intercalate (follow (parts directory).reverse (parts target)).reverse

/-- Whether a path begins with `.` or `..` as a part of its own. -/
def isDotted (path : ByteText) : Bool :=
  let first := path.toList.takeWhile (· ≠ '/')
  first = ['.'] || first = ['.', '.']

/-- The directory that a target is found in on a list of directories, and whether it is shown. -/
def searched (target : ByteText) : List ByteText → Runner (Option (ByteText × Bool))
  | [] => pure none
  | dir :: rest => do
    let path := if dir = "" then target else dir ++ "/" ++ target
    match ← say (Routine.examine path) with
    | .ok found =>
      if found.kind == .directory then pure (some (path, dir ≠ "")) else searched target rest
    | .error _ => searched target rest

/-- Tells the variables where the script is now. -/
def record (directory : ByteText) : Runner Unit :=
  modify fun s =>
    let old := s.directory
    let s := (s.put "OLDPWD" old).expose "OLDPWD"
    let programs := s.programs.map fun (name, found) => (name, { found with stale := true })
    { (s.put "PWD" directory).expose "PWD" with directory, programs }

/-- The path of the current directory. -/
def current : Runner ByteText := do
  match ← ask .currentDirectory with
  | .text path => pure path
  | _ => pure "/"

/-- Whether the last of the letters asks for the directory as it is. -/
def isPhysical (found : List (Char × ByteText)) : Bool := (found.getLast?.map (·.1)) = some 'P'

def cd (args : List ByteText) : Runner Nat := do
  let (found, operands) ← Letters.read "LP" "" args
  let physical := isPhysical found
  let s ← get
  let (target, shown) := match operands.head? with
    | none => ((s.value? "HOME").getD "", false)
    | some "-" => ((s.value? "OLDPWD").getD "", true)
    | some target => (target, false)
  let (path, shown) ←
    if target.toList.head? = some '/' || isDotted target then pure (target, shown)
    else
      let target := if target = "" then "." else target
      let dirs := ((s.value? "CDPATH").getD "").splitOn ":"
      match ← searched target dirs with
      | some (path, far) => pure (path, shown || far)
      | none => pure (target, shown)
  let destination := if physical then path else reached s.directory path
  match ← ask (.changeDirectory destination) with
  | .failed _ => fail ("can't cd to " ++ target)
  | _ =>
    let directory ← if physical then current else pure destination
    record directory
    if shown then emit (directory ++ "\n")
    pure 0

def pwd (args : List ByteText) : Runner Nat := do
  let (found, _) ← Letters.read "LP" "" args
  let directory ← if isPhysical found then current else pure (← get).directory
  emit (directory ++ "\n")
  pure 0

end CommandShell.Script.Place
