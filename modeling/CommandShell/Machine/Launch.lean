/-
# Starting programs

What the shell asks of the machine when it starts a program (`Launch`), and the process that comes
of it.  A program that cannot be started leaves the machine as it was: a text of the request may
hold a NUL or be too long, the directory may be missing, and the path may lead to nothing that can
be run.
-/
import CommandShell.Machine.World

namespace CommandShell

/-- A request to start a program. -/
structure Launch where
  /-- The path of the program. -/
  program : String
  /-- The name by which the program was called. -/
  name : String
  args : List String
  /-- The directory it starts in. -/
  directory : String
  vars : List (String × String)
  stdin : Channel
  stdout : Channel
  stderr : Channel
deriving Repr, DecidableEq

namespace Launch

def texts (l : Launch) : List String :=
  l.program :: l.name :: l.directory :: l.args ++ l.vars.flatMap fun (name, value) => [name, value]

/-- The arguments that the program sees, the first of which is its name. -/
def argv (l : Launch) : List ByteText := (l.name :: l.args).map ByteText.ofText

/-- The environment that the program sees. -/
def environment (l : Launch) : List ByteText :=
  l.vars.map fun (name, value) => ByteText.ofText (name ++ "=" ++ value)

/-- How long an argument may be at most. -/
def argumentLimit : Nat := 131071

/-- How much all arguments may take up, each with its end and a number for its place. -/
def totalLimit : Nat := 2097152

/-- What the machine hands over to the program. -/
def handedOver (l : Launch) : List ByteText := ByteText.ofText l.program :: l.argv ++ l.environment

/-- Whether the request can be handed over: no text holds a NUL, and none is too long. -/
def isProper (l : Launch) : Bool :=
  l.texts.all (fun s => !s.toList.contains '\x00')
    && l.handedOver.all (·.length ≤ argumentLimit)
    && l.handedOver.foldl (fun n text => n + text.length + 9) 0 ≤ totalLimit

end Launch

namespace World

/-- The process that a launch asks for. -/
def process? (w : World) (l : Launch) : Option Process :=
  if !l.isProper then none
  else
    match w.files.locate w.directory l.directory with
    | .error _ => none
    | .ok dir =>
      if w.files.node? dir = some .directory then
        match w.program? dir l.environment interpreterLimit (ByteText.ofText l.program) l.argv with
        | .error _ => none
        | .ok activity =>
          some {
            condition := .running activity.round
            descriptors := [(0, l.stdin), (1, l.stdout), (2, l.stderr)]
            directory := dir }
      else none

/-- Starts a program; gives the number of its process. -/
def launch (w : World) (l : Launch) : Option (Nat × World) :=
  (w.process? l).map fun p => (w.processes.length, { w with processes := w.processes ++ [p] })

end World
end CommandShell
