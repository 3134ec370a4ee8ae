/-
# Sources of scripts

A script is read a line of commands at a time.  A script in a file is read in blocks, as far as the
current line needs them, so that what a command does to the file can still change what comes later.
-/
import CommandShell.Machine.Script.Reader
import CommandShell.Machine.Script.Runner

namespace CommandShell.Script

/-- Where a script is read from: the text that is there, and the descriptor that more comes from. -/
structure Source where
  cursor : Cursor
  fd : Option Nat := none

namespace Source

open Runner

def ofText (text : ByteText) : Source := { cursor := { rest := text.toList } }

/-- What is read from a descriptor, as a source. -/
def ofFd (fd : Nat) : Source := { cursor := { rest := [], complete := false }, fd := some fd }

/-- How much is read at once. -/
def blockSize : Nat := 8191

/-- Whether nothing follows the line that was read last. -/
def isAtEnd (s : Source) : Bool :=
  match s.cursor.back with
  | some .endOfFile => true
  | _ => false

/-- Reads a block. -/
def refill (s : Source) : Runner Source := do
  match s.fd with
  | none => pure { s with cursor := { s.cursor with complete := true } }
  | some fd =>
    match ← say (Routine.read fd blockSize) with
    | .ok [] | .error _ => pure { s with cursor := { s.cursor with complete := true } }
    | .ok block =>
      let more := (block.filter (· != 0)).map ByteText.charOf
      pure { s with cursor := s.cursor.extend more }

/-- Shows what was read, if the script asks for that. -/
def showRead (s : Source) (text : List Char) : Runner Unit := do
  if s.fd.isSome && (← get).has 'v' then say (Routine.complain (String.ofList text))

/-- Reads a line of commands; the number bounds how many blocks there are. -/
def next : Nat → Source → Runner (Reader.Line × Source)
  | 0, s => pure (.finished, s)
  | n + 1, s => do
    let st ← get
    let start := { s.cursor with
      next := st.nextDocument, documents := [], aliases := st.aliases }
    match Reader.readLine.run start with
    | .ok (line, c) =>
      s.showRead (start.rest.take (start.rest.length - c.rest.length))
      modify fun st => { st with
        documents := c.documents ++ st.documents
        nextDocument := c.next
        reached := c.line }
      pure (line, { s with cursor := c })
    | .error .more => next n (← s.refill)
    | .error (.malformed line message) =>
      modify fun st => { st with line }
      fail ("Syntax error: " ++ message)

end Source
end CommandShell.Script
