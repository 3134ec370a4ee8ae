/-
# Built-in commands at work

A built-in command works on the session and on two streams (`Job`).  Each stream goes to a sink: a
channel of the machine, or a buffer that collects what the next stage of a pipeline is to read.
-/
import CommandShell.Environment

namespace CommandShell

/-- Where a stream of a built-in command goes. -/
inductive Sink
  | channel (c : Channel)
  | buffer (collected : Bytes)
deriving Repr, DecidableEq

namespace Sink

def collected : Sink → Bytes
  | .buffer bytes => bytes
  | .channel _ => []

def write (w : World) (sink : Sink) (bytes : Bytes) : Except Failure (Sink × World) :=
  match sink with
  | .buffer collected => .ok (.buffer (collected ++ bytes), w)
  | .channel c =>
    match w.write c bytes with
    | .taken w _ => .ok (sink, w)
    | .refused e => .error (.stream (.os e))
    | .blocked | .broken => .ok (sink, w)

end Sink

/-- A session with the streams of the command that works on it. -/
structure Job where
  session : Session
  stdout : Sink
  stderr : Sink

/-- Something a built-in command does, which may fail. -/
abbrev Deed := ExceptT Failure (StateM Job)

namespace Deed

def env : Deed Environment := return (← get).session.env

def world : Deed World := return (← get).session.world

def setSession (s : Session) : Deed Unit := modify fun job => { job with session := s }

def setEnv (env : Environment) : Deed Unit :=
  modify fun job => { job with session := { job.session with env } }

def setWorld (world : World) : Deed Unit :=
  modify fun job => { job with session := { job.session with world } }

/-- Does what may fail outside the session. -/
def orFail {α : Type} (r : Except Failure α) : Deed α :=
  match r with
  | .ok a => pure a
  | .error f => throw f

def print (stream : Stream) (text : String) : Deed Unit := do
  let job ← get
  let sink := match stream with
    | .stdout => job.stdout
    | .stderr => job.stderr
  let (sink, world) ← orFail (Sink.write job.session.world sink (Text.encode text))
  setWorld world
  match stream with
  | .stdout => modify fun job => { job with stdout := sink }
  | .stderr => modify fun job => { job with stderr := sink }

end Deed
end CommandShell
