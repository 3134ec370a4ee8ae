/-
# What goes wrong with files

The operating system answers a refused request with an error number and a text (`OsError`).
A path can be refused before the system is asked, when it holds a NUL, and a file can turn out
not to hold a text (`Fault`).
-/
namespace CommandShell

/-- The refusals of the operating system that a shell and its programs meet. -/
inductive OsError
  | notFound
  | noProcess
  | tooLong
  | notProgram
  | badDescriptor
  | denied
  | alreadyThere
  | notDirectory
  | isDirectory
  | noSpace
  | brokenPipe
  | nameTooLong
  | linkLoop
deriving Repr, DecidableEq

namespace OsError

/-- The system's error number. -/
def number : OsError → Nat
  | .notFound => 2
  | .noProcess => 3
  | .tooLong => 7
  | .notProgram => 8
  | .badDescriptor => 9
  | .denied => 13
  | .alreadyThere => 17
  | .notDirectory => 20
  | .isDirectory => 21
  | .noSpace => 28
  | .brokenPipe => 32
  | .nameTooLong => 36
  | .linkLoop => 40

/-- The system's text for the error. -/
def text : OsError → String
  | .notFound => "No such file or directory"
  | .noProcess => "No such process"
  | .tooLong => "Argument list too long"
  | .notProgram => "Exec format error"
  | .badDescriptor => "Bad file descriptor"
  | .denied => "Permission denied"
  | .alreadyThere => "File exists"
  | .notDirectory => "Not a directory"
  | .isDirectory => "Is a directory"
  | .noSpace => "No space left on device"
  | .brokenPipe => "Broken pipe"
  | .nameTooLong => "File name too long"
  | .linkLoop => "Too many levels of symbolic links"

end OsError

/-- Why a request about a file failed. -/
inductive Fault
  | os (error : OsError)
  /-- The path holds a NUL. -/
  | nulInPath
  /-- The bytes are not a text. -/
  | notText
deriving Repr, DecidableEq

def Fault.message : Fault → String
  | .os e => e.text ++ " (os error " ++ toString e.number ++ ")"
  | .nulInPath => "file name contained an unexpected NUL byte"
  | .notText => "stream did not contain valid UTF-8"

end CommandShell
