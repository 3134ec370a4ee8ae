/-
# The command history

A history holds the lines of the session, which `history` lists, and the lines a line editor offers
again (`recalled`).  It may be kept in a file.  In immediate mode every added line is appended to
the file at once; in on-exit mode the lines loaded from the file open the session, and the lines
that came after them (`flushed` counts those the file has) are appended when the history is flushed.
Apart from that the session can be written to any file, extended from one, and appended to one piece
by piece: `marks` counts, for each such file, the entries that it has been given.

Operations that can fail leave the file system as it was when they do.
-/
import CommandShell.Failure
import CommandShell.FileSystem.Access
import CommandShell.Text.Blank

namespace CommandShell

/-- When accepted lines reach the history file. -/
inductive PersistMode
  /-- Right away. -/
  | immediate
  /-- When the shell exits. -/
  | onExit
deriving Repr, DecidableEq

/-- The history of a session. -/
structure History where
  /-- The file the history is kept in, if it is kept. -/
  file : Option (String × PersistMode) := none
  session : List String := []
  recalled : List String := []
  /-- How many entries of the session the file has. -/
  flushed : Nat := 0
  /-- How many entries of the session each other file has been given; files are told apart by the
  components of their paths. -/
  marks : Std.ExtTreeMap (List String) Nat := ∅

namespace History

/-! ## 1. Files of lines -/

/-- The lines of a history file that count: those that are not empty. -/
def entries (text : String) : List String := (Text.lines text).filter (· ≠ "")

def readEntries (fs : FileSystem) (base : Location) (path : String) :
    Except Failure (List String) :=
  match fs.readText base path with
  | .ok text => .ok (entries text)
  | .error fault => .error (.history path .reading fault)

/-- Appends lines to a file, which is created if it is missing. -/
def appendLines (fs : FileSystem) (base : Location) (path : String) (lines : List String) :
    Except Failure FileSystem :=
  match fs.openForWriting base path .append with
  | .error fault => .error (.history path .opening fault)
  | .ok (target, fs) =>
    (fs.extend target (Text.encode (Text.unlines lines))).mapError (.history path .appending)

/-- Replaces the content of a file by lines. -/
def replaceLines (fs : FileSystem) (base : Location) (path : String) (lines : List String) :
    Except Failure FileSystem :=
  match fs.openForWriting base path .overwrite with
  | .error fault => .error (.history path .writing fault)
  | .ok (target, fs) =>
    (fs.extend target (Text.encode (Text.unlines lines))).mapError (.history path .writing)

/-! ## 2. Where the history is kept -/

/-- The file that is used when none is configured, in the directory the shell starts in. -/
def defaultFile : String := ".shell_history"

/-- The history file and its mode.  A configured file is written on exit; without one the default
file in `dir` takes every line at once. -/
def locate (configured : Option String) (dir : String) : String × PersistMode :=
  match (configured.map Text.trim).filter (· ≠ "") with
  | some path => (Path.join dir path, .onExit)
  | none => (Path.join dir defaultFile, .immediate)

/-- The history kept in a file.  The file need not exist yet. -/
def load (fs : FileSystem) (base : Location) (path : String) (mode : PersistMode) :
    Except Failure History :=
  if fs.present base path then
    match readEntries fs base path with
    | .error failure => .error failure
    | .ok lines =>
      match mode with
      | .onExit =>
        .ok { file := some (path, mode), session := lines, recalled := lines,
              flushed := lines.length }
      | .immediate => .ok { file := some (path, mode), recalled := lines }
  else .ok { file := some (path, mode) }

/-! ## 3. Growing -/

/-- The history with more lines at its end. -/
def extend (h : History) (lines : List String) : History :=
  { h with session := h.session ++ lines, recalled := h.recalled ++ lines }

/-- Records an accepted line. -/
def add (h : History) (fs : FileSystem) (base : Location) (line : String) :
    History × Except Failure FileSystem :=
  let h := h.extend [line]
  match h.file with
  | some (path, .immediate) =>
    match appendLines fs base path [line] with
    | .ok fs => ({ h with flushed := h.session.length }, .ok fs)
    | .error failure => (h, .error failure)
  | _ => (h, .ok fs)

/-- Extends the session by the entries of a file. -/
def readFrom (h : History) (fs : FileSystem) (base : Location) (path : String) :
    Except Failure History :=
  (readEntries fs base path).map h.extend

/-! ## 4. Writing -/

/-- Appends lines to a file, unless there are none. -/
def appendPending (fs : FileSystem) (base : Location) (path : String) (lines : List String) :
    Except Failure FileSystem :=
  if lines = [] then .ok fs else appendLines fs base path lines

/-- Writes the entries that the file of an on-exit history does not have yet. -/
def flush (h : History) (fs : FileSystem) (base : Location) :
    History × Except Failure FileSystem :=
  match h.file with
  | some (path, .onExit) =>
    match appendPending fs base path (h.session.drop h.flushed) with
    | .ok fs => ({ h with flushed := h.session.length }, .ok fs)
    | .error failure => (h, .error failure)
  | _ => (h, .ok fs)

/-- Replaces a file by the whole session. -/
def writeTo (h : History) (fs : FileSystem) (base : Location) (path : String) :
    Except Failure FileSystem :=
  replaceLines fs base path h.session

/-- How many entries of the session a file has been given. -/
def mark (h : History) (path : String) : Nat := h.marks.getD (Path.components path) 0

/-- Appends to a file the entries that it has not been given yet. -/
def appendNewTo (h : History) (fs : FileSystem) (base : Location) (path : String) :
    History × Except Failure FileSystem :=
  match appendPending fs base path (h.session.drop (h.mark path)) with
  | .ok fs =>
    ({ h with marks := h.marks.insert (Path.components path) h.session.length }, .ok fs)
  | .error failure => (h, .error failure)

end History
end CommandShell
