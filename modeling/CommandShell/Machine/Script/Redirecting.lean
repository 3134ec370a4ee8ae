/-
# Redirections of scripts

The words of all redirections of a command are expanded before the first of them is carried out,
but the text of a here-document only when its turn comes; if that fails, so does the redirection.
What a descriptor stood for before is kept under a descriptor that no script can name, and put back
when the command has ended.  The text of a here-document is read from a pipe; one that does not fit
into it is written by a process of its own.
-/
import CommandShell.Machine.Script.Expansion

namespace CommandShell.Script

namespace Redirecting

open Runner

/-- A redirection whose words are expanded. -/
inductive Ready
  | opening (fd : Nat) (path : ByteText) (access : Access)
  /-- A file that must not be there yet. -/
  | creating (fd : Nat) (path : ByteText)
  | copying (fd source : Nat)
  | closing (fd : Nat)
  | document (fd number : Nat)

/-- The descriptor that is changed. -/
def Ready.fd : Ready → Nat
  | .opening fd _ _ | .creating fd _ | .copying fd _ | .closing fd | .document fd _ => fd

/-- Expands the words of a redirection. -/
def prepare (r : Redirect) : Runner Ready := do
  match r with
  | .read fd target => return .opening fd (← Expansion.text target) .read
  | .update fd target => return .opening fd (← Expansion.text target) .update
  | .write fd mode force target =>
    let path ← Expansion.text target
    if mode == .overwrite && !force && (← get).has 'C' then pure (.creating fd path)
    else pure (.opening fd path (.write mode))
  | .copy fd source =>
    let text ← Expansion.text source
    match copied? text with
    | some none => pure (.closing fd)
    | some (some n) => pure (.copying fd n)
    | none =>
      modify fun s => { s with line := s.reached }
      fail "Syntax error: Bad fd number"
  | .document fd number => pure (.document fd number)

def prepareAll : List Redirect → Runner (List Ready)
  | [] => pure []
  | r :: rest => do
    let first ← prepare r
    return first :: (← prepareAll rest)

/-- How much text of a here-document a pipe takes. -/
def documentLimit : Nat := 4096

/-- The part of a script that writes a text. -/
def writer (text : ByteText) : Tree :=
  .simple 0 [] [[.text "printf" true], [.text "%s" true], [.text text true]] []

/-- Makes a descriptor one from which a text is read. -/
def giveText (fd : Nat) (text : ByteText) : Runner Unit :=
  withFds 2 fun reader => do
    let output := reader + 1
    let _ ← ask (.pipe reader output)
    if text.length ≤ documentLimit then
      let _ ← say (Routine.put output (ByteText.toBytes text))
    else
      let s ← partState
      let _ ← fork (.part (some (writer text)) [] false { s with functions := ∅, options := [] })
        [(1, some output), (reader, none), (output, none)]
    let _ ← ask (.close output)
    let _ ← ask (.copy reader fd)
    let _ ← ask (.close reader)

/-- A redirection that gives the same when its words are expanded again. -/
def Ready.settled : Ready → Redirect
  | .opening fd path .read => .read fd [.text path true]
  | .opening fd path .update => .update fd [.text path true]
  | .opening fd path (.write mode) => .write fd mode true [.text path true]
  | .creating fd path => .write fd .overwrite false [.text path true]
  | .copying fd source => .copy fd [.text (toString source) true]
  | .closing fd => .copy fd [.text "-" true]
  | .document fd number => .document fd number

/-- Expands the words of redirections that another process is to carry out. -/
def settle (redirects : List Redirect) : Runner (List Redirect) :=
  return (← prepareAll redirects).map Ready.settled

def refuse (message : ByteText) : Runner Bool := do
  complain message
  pure false

/-- Carries out a redirection; tells whether that could be done. -/
def perform (r : Ready) : Runner Bool := do
  let opened (fd : Nat) (path : ByteText) (access : Access) : Runner Bool := do
    match ← say (Routine.openFile fd path access) with
    | none => pure true
    | some e =>
      let created := access != .read
      refuse ((if created then "cannot create " else "cannot open ") ++ path ++ ": "
        ++ openingProblem created e)
  match r with
  | .opening fd path access => opened fd path access
  | .creating fd path =>
    match ← say (Routine.examine path) with
    | .ok found =>
      if found.kind == .file then refuse ("cannot create " ++ path ++ ": File exists")
      else opened fd path (.write .overwrite)
    | .error _ => opened fd path (.write .overwrite)
  | .copying fd source =>
    match ← ask (.copy source fd) with
    | .failed e => refuse (toString source ++ ": " ++ e.text)
    | _ => pure true
  | .closing fd =>
    let _ ← ask (.close fd)
    pure true
  | .document fd number =>
    let word := ((← get).documents.lookup number).getD []
    match ← attempt (Expansion.pieces {} false word) with
    | .ok atoms =>
      giveText fd (Field.ofAtoms atoms).text
      pure true
    | .error .failed => pure false
    | .error stop => throw stop

/-- Carries out redirections in order, as long as they can be. -/
def performAll : List Ready → Runner Bool
  | [] => pure true
  | r :: rest => do if ← perform r then performAll rest else pure false

/-- Carries out redirections for good; tells whether that could be done. -/
def enter (redirects : List Redirect) : Runner Bool := do performAll (← prepareAll redirects)

/-- Where descriptors are kept; one that was closed is kept nowhere. -/
abbrev Kept := List (Nat × Option Nat)

/-- Keeps what descriptors stand for, from a free descriptor on. -/
def keep (first : Nat) : List Nat → Runner Kept
  | [] => pure []
  | fd :: rest => do
    let place ← match ← ask (.copy fd first) with
      | .failed _ => pure none
      | _ => pure (some first)
    return (fd, place) :: (← keep (first + 1) rest)

/-- Puts descriptors back. -/
def putBack : Kept → Runner Unit
  | [] => pure ()
  | (fd, place) :: rest => do
    match place with
    | some kept =>
      let _ ← ask (.copy kept fd)
      let _ ← ask (.close kept)
    | none =>
      let _ ← ask (.close fd)
    putBack rest

/-- Where messages go that belong to what stands around the redirections. -/
def messageFd (kept : Kept) : Nat := ((kept.lookup 2).getD none).getD 2

/-- Runs something with redirections, which is told where messages about it go; `lasting` tells
whether the redirections stay in force.  Something else is run when one of them could not be carried
out. -/
def within (redirects : List Redirect) (lasting : Bool) (body : Nat → Runner Nat)
    (otherwise : Runner Nat) : Runner Nat := do
  if redirects.isEmpty then body 2
  else
    let ready ← prepareAll redirects
    let fds := (ready.map Ready.fd).eraseDups
    withFds fds.length fun first => do
      let kept ← keep first fds
      let outcome ← attempt (do if ← performAll ready then body (messageFd kept) else otherwise)
      if lasting then
        kept.forM fun (_, place) => do
          if let some n := place then
            let _ ← ask (.close n)
      else putBack kept
      resume outcome

end Redirecting
end CommandShell.Script
