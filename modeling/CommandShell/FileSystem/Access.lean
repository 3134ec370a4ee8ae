/-
# Reading and writing files

A file is opened for writing by its path.  Opening creates it, or empties it when its content is to
be replaced, and gives the sink that the bytes go to: a location or a device.  On these rest the
operations on whole texts that the history needs, and the names of a directory.
-/
import CommandShell.FileSystem.Walk
import CommandShell.Syntax.Redirection

namespace CommandShell

/-- What an open file reads from or writes to. -/
inductive Target
  | file (loc : Location)
  | device (device : Device)
deriving Repr, DecidableEq

namespace FileSystem

/-! ## 1. Content -/

/-- The bytes of the regular file at a location. -/
def content (fs : FileSystem) (loc : Location) : Bytes :=
  match fs.node? loc with
  | some (.file bytes _) => bytes
  | _ => []

/-- The file system with other bytes in the regular file at a location.  Whether it may be run stays
as it was; a new file may not be.  Nothing else at a location takes bytes. -/
def setContent (fs : FileSystem) (loc : Location) (bytes : Bytes) : FileSystem :=
  match fs.node? loc with
  | none => fs.set loc (.file bytes false)
  | some (.file _ executable) => fs.set loc (.file bytes executable)
  | some (.program _) => fs.set loc (.file bytes true)
  | some _ => fs

/-! ## 2. Opening -/

def openForWriting (fs : FileSystem) (base : Location) (path : String) (mode : WriteMode) :
    Except Fault (Target × FileSystem) := do
  let loc ← fs.locateForCreation base path
  match fs.node? loc, mode with
  | some (.device d), _ => .ok (.device d, fs)
  | some _, .append => .ok (.file loc, fs)
  | some _, .overwrite => .ok (.file loc, fs.setContent loc [])
  | none, _ => .ok (.file loc, fs.setContent loc [])

/-- Opens a file for reading and writing; one that does not exist is created. -/
def openForUpdate (fs : FileSystem) (base : Location) (path : String) :
    Except Fault (Target × FileSystem) := do
  let loc ← fs.locateForCreation base path
  match fs.node? loc with
  | some (.device d) => .ok (.device d, fs)
  | some _ => .ok (.file loc, fs)
  | none => .ok (.file loc, fs.setContent loc [])

/-- Opens a file for reading.  A directory can be opened, but not read. -/
def openForReading (fs : FileSystem) (base : Location) (path : String) :
    Except Fault Target := do
  let loc ← fs.locate base path
  match fs.node? loc with
  | some (.device d) => .ok (.device d)
  | _ => .ok (.file loc)

/-- Puts bytes behind the content of an open file. -/
def extend (fs : FileSystem) (target : Target) (bytes : Bytes) : Except Fault FileSystem :=
  match target with
  | .file loc => .ok (fs.setContent loc (fs.content loc ++ bytes))
  | .device .full => if bytes = [] then .ok fs else .error (.os .noSpace)
  | .device _ => .ok fs

/-! ## 3. Whole texts -/

def readText (fs : FileSystem) (base : Location) (path : String) : Except Fault String := do
  let loc ← fs.locate base path
  match fs.node? loc with
  | some .directory => .error (.os .isDirectory)
  | _ =>
    match Text.decode? (fs.content loc) with
    | some text => .ok text
    | none => .error .notText

/-! ## 4. Directories -/

/-- The names in the directory that a path leads to, or none if it leads to no directory. -/
def namesAt (fs : FileSystem) (base : Location) (path : String) : List String :=
  match fs.locate base path with
  | .ok loc => if fs.node? loc = some .directory then fs.names loc else []
  | .error _ => []

end FileSystem
end CommandShell
