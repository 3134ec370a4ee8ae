/-
# What processes ask of the machine

A process gets on with its work in rounds.  A round is a routine (`Routine`): a finite dialogue of
requests to the machine (`Call`), each of which is answered (`Reply`), that ends in what is to be
done next.  So a process that never ends is still made of finite rounds.
-/
import CommandShell.FileSystem.Fault
import CommandShell.FileSystem.Node
import CommandShell.Machine.Script.State

namespace CommandShell

/-- How a file is opened. -/
inductive Access
  | read
  | write (mode : WriteMode)
  /-- For reading and writing. -/
  | update
deriving Repr, DecidableEq

/-- The kinds of things that a path or a descriptor can lead to. -/
inductive Kind
  | file | directory | link | device | pipe
deriving Repr, DecidableEq

/-- What is behind a path or a descriptor. -/
structure Finding where
  kind : Kind
  /-- Whether it may be run. -/
  executable : Bool
  /-- The number of bytes it holds. -/
  size : Nat
  /-- The location, if it has one. -/
  location : Option Location
deriving Repr, DecidableEq

/-- What a signal does to a process. -/
inductive Reaction
  | ends
  | nothing
  /-- It is kept until the process asks for it. -/
  | waits
deriving Repr, DecidableEq

/-- A request to the machine. -/
inductive Call
  | read (fd limit : Nat)
  /-- Gives back the last bytes that were read, if they came from a file. -/
  | unread (fd : Nat) (bytes : Bytes)
  | write (fd : Nat) (bytes : Bytes)
  /-- Opens a file as the given descriptor. -/
  | openFile (fd : Nat) (path : ByteText) (access : Access)
  /-- Makes `target` a copy of `source`. -/
  | copy (source target : Nat)
  | close (fd : Nat)
  /-- Makes a pipe with the given descriptors as its ends. -/
  | pipe (reader writer : Nat)
  /-- What a path leads to; `follow` tells whether a link at its end is followed. -/
  | examine (path : ByteText) (follow : Bool)
  /-- What a descriptor stands for. -/
  | inspect (fd : Nat)
  /-- Whether anybody can read what is written to a descriptor. -/
  | isHeard (fd : Nat)
  /-- Whether everything that is written to `target` is still to be read from `source`. -/
  | feedsItself (source target : Nat)
  | changeDirectory (path : ByteText)
  | currentDirectory
  /-- The names in the directory that a path leads to. -/
  | names (path : ByteText)
  | sleep (duration : Nat)
  /-- Goes on when the clock has reached a time. -/
  | sleepUntil (time : Nat)
  | sleepForever
  /-- Starts a process of the script language; its descriptors are this one's after the changes,
  each of which copies a descriptor of this process or closes one. -/
  | fork (task : Script.Task) (changes : List (Nat × Option Nat))
  /-- Waits for a process; `yielding` tells whether signals that are caught end the wait. -/
  | await (process : Nat) (yielding : Bool)
  /-- How a process ended, if it has. -/
  | ended (process : Nat)
  /-- Sends a signal to a process. -/
  | signal (process number : Nat)
  /-- Changes what a signal does to the process. -/
  | onSignal (number : Nat) (reaction : Reaction)
  /-- The signals that have come and are caught. -/
  | caught
  /-- The signals that do nothing to the process. -/
  | ignored
  /-- The number of the process. -/
  | self
  /-- Lets the other processes have a turn. -/
  | tick
  /-- Becomes another program, which sees the given environment. -/
  | become (path : ByteText) (argv environment : List ByteText)
  | exit (status : Nat)

/-- The answer to a request. -/
inductive Reply
  | done
  | data (bytes : Bytes)
  | number (n : Nat)
  | numbers (list : List Nat)
  | flag (b : Bool)
  | text (s : ByteText)
  | names (list : List ByteText)
  | found (finding : Finding)
  | failed (error : OsError)

/-- A finite dialogue with the machine that ends in a value. -/
inductive Routine (α : Type) : Type
  | done (a : α)
  | call (request : Call) (next : Reply → Routine α)

namespace Routine

def bind {α β : Type} : Routine α → (α → Routine β) → Routine β
  | .done a, f => f a
  | .call c next, f => .call c fun reply => (next reply).bind f

instance : Monad Routine where
  pure := .done
  bind := bind

/-- A single request. -/
def ask (c : Call) : Routine Reply := .call c .done

/-- Lets the other processes have some turns. -/
def rest : Nat → Routine Unit
  | 0 => pure ()
  | n + 1 => do
    let _ ← ask .tick
    rest n

/-- Writes bytes, unless there are none; tells why that failed. -/
def put (fd : Nat) (bytes : Bytes) : Routine (Option OsError) :=
  if bytes = [] then pure none
  else do
    match ← ask (.write fd bytes) with
    | .failed e => pure (some e)
    | _ => pure none

/-- Writes a text to the standard error. -/
def complain (message : ByteText) : Routine Unit := do
  let _ ← put 2 (ByteText.toBytes message)

def exit {α : Type} (status : Nat) (a : α) : Routine α := do
  let _ ← ask (.exit status)
  pure a

/-- Opens a file; tells why that failed. -/
def openFile (fd : Nat) (path : ByteText) (access : Access) : Routine (Option OsError) := do
  match ← ask (.openFile fd path access) with
  | .failed e => pure (some e)
  | _ => pure none

/-- Reads at most so many bytes; none are left when none come. -/
def read (fd limit : Nat) : Routine (Except OsError Bytes) := do
  match ← ask (.read fd limit) with
  | .data bytes => pure (.ok bytes)
  | .failed e => pure (.error e)
  | _ => pure (.ok [])

/-- What a descriptor stands for, if it is open. -/
def inspect (fd : Nat) : Routine (Option Finding) := do
  match ← ask (.inspect fd) with
  | .found f => pure (some f)
  | _ => pure none

/-- What a path leads to, if it leads to anything. -/
def examine (path : ByteText) : Routine (Except OsError Finding) := do
  match ← ask (.examine path true) with
  | .found f => pure (.ok f)
  | .failed e => pure (.error e)
  | _ => pure (.error .notFound)

end Routine
end CommandShell
