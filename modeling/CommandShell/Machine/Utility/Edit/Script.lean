/-
# Scripts of the stream editor

A script is a list of commands, each of which acts on the lines that it selects (`Selection`).  The
editor works on a line in its working space and can keep text in a second space that it holds.
Commands in braces stand in the list like all others; the command that opens the braces knows where
they are closed.
-/
import CommandShell.Machine.ByteText
import CommandShell.Machine.Regex

namespace CommandShell.Edit

/-! ## 1. Lines that are selected -/

/-- A line of the input. -/
inductive Address
  | line (number : Nat)
  /-- Every line at some distance from the first. -/
  | every (first distance : Nat)
  | last
  /-- A line with a match; without an expression, of the one that was looked for last. -/
  | matching (expression : Option Regex)
deriving Repr, DecidableEq

/-- Where a range of lines ends. -/
inductive RangeEnd
  | address (address : Address)
  /-- So many lines behind the first one. -/
  | after (count : Nat)
  /-- At the next line behind the first one whose number is a multiple. -/
  | multiple (factor : Nat)
deriving Repr, DecidableEq

/-- The state of a range after its beginning was looked for. -/
inductive RangeState
  /-- It has begun; it ends at the line of a number, if that is known. -/
  | begun (stop : Option Nat)
  /-- It does not begin again. -/
  | over
deriving Repr, DecidableEq

/-- The lines that a command is for. -/
inductive Selection
  | all
  | one (address : Address)
  | range (first : Address) (last : RangeEnd)
deriving Repr, DecidableEq

/-! ## 2. Substitutions -/

/-- What letters are changed into. -/
inductive LetterCase
  | capitals | smalls
deriving Repr, DecidableEq

/-- A part of what is put in the place of a match. -/
inductive Part
  | text (bytes : Bytes)
  | group (number : Nat)
  /-- From here on letters are changed, or are not. -/
  | fold (change : Option LetterCase)
  /-- The next letter is changed. -/
  | foldNext (change : LetterCase)
deriving Repr, DecidableEq

/-- Where text is written to. -/
inductive Sink
  | output
  /-- The standard output under a name of its own. -/
  | standard
  | complaints
  /-- A file of the script, by its place among them. -/
  | file (index : Nat)
deriving Repr, DecidableEq

/-- What is put in the place of matches. -/
structure Substitution where
  expression : Option Regex
  parts : List Part
  /-- The number of the first match that is replaced. -/
  number : Nat := 1
  /-- Whether the matches behind it are replaced as well. -/
  all : Bool := false
  prints : Bool := false
  sink : Option Sink := none
deriving Repr, DecidableEq

/-! ## 3. Commands -/

/-- When a jump takes place. -/
inductive JumpMode
  | always
  /-- If something was replaced since the line came or the last jump of this kind. -/
  | ifReplaced
  | unlessReplaced
deriving Repr, DecidableEq

/-- What a command does. -/
inductive Action
  /-- Opens braces that are closed by the command at a place of the list. -/
  | openBrace (closing : Nat)
  | closeBrace
  /-- Puts a text behind the line. -/
  | append (text : Bytes)
  /-- Puts a text in front of the line. -/
  | insert (text : Bytes)
  /-- Puts a text in the place of the lines. -/
  | change (text : Bytes)
  /-- Goes on at a label, or at the end. -/
  | jump (mode : JumpMode) (label : ByteText)
  | label
  | delete
  /-- Deletes the first line of the working space. -/
  | deleteFirst
  | showName
  | showNumber
  /-- Shows the working space unambiguously, in lines of some length. -/
  | show (width : Option Nat)
  | print
  /-- Prints the first line of the working space. -/
  | printFirst
  /-- Takes the text that is held into the working space; `added` puts it behind what is there. -/
  | fetch (added : Bool)
  /-- Holds the working space; `added` puts it behind what is held. -/
  | hold (added : Bool)
  | exchange
  | clear
  /-- Goes on with the next line. -/
  | next
  /-- Puts the next line behind the working space. -/
  | nextAdded
  /-- Ends the editor; `silent` leaves out what would be printed at the end of the line. -/
  | quit (silent : Bool) (status : Nat)
  /-- Puts a file behind the line. -/
  | readFile (name : ByteText)
  /-- Puts the next line of a file behind the line. -/
  | readLine (name : ByteText)
  | substitute (s : Substitution)
  | translate (table : List (UInt8 × UInt8))
  /-- Writes the working space, or its first line. -/
  | write (first : Bool) (sink : Sink)
deriving Repr, DecidableEq

structure Command where
  selection : Selection := .all
  /-- Whether the command is for the other lines. -/
  negated : Bool := false
  action : Action
deriving Repr, DecidableEq

structure Script where
  commands : Array Command := #[]
  /-- The labels with their places in the list, the last one first. -/
  labels : List (ByteText × Nat) := []
  /-- The names of the files that are written. -/
  files : List ByteText := []
  /-- Whether lines are printed only where the script says so. -/
  quiet : Bool := false
deriving Repr, DecidableEq

/-- The place of a label, where the empty one stands for the end. -/
def Script.place? (s : Script) (label : ByteText) : Option Nat :=
  if label = "" then some s.commands.size else s.labels.lookup label

/-- The first label that a jump of the script misses. -/
def Script.missingLabel? (s : Script) : Option ByteText :=
  s.commands.toList.findSome? fun command =>
    match command.action with
    | .jump _ label => if (s.place? label).isNone then some label else none
    | _ => none

end CommandShell.Edit
