/-
# Fields

What the expansion of words gives is a list of atoms (`Atom`), out of which the fields of a command
are made.  Characters that came out of an expansion are loose: the separators among them end fields.
Blanks that separate count as one separator however many there are, also together with one other
separator, if they came out of the same expansion; any other separator that follows another one has
an empty field in front of it.  Right behind all the parameters between quotation marks each blank
counts.  An empty field stands at the end only where a mark or such parameters tell so.
-/
import CommandShell.Machine.Script.Glob

namespace CommandShell.Script

/-- A part of an expanded word. -/
inductive Atom
  /-- What follows came out of one expansion; `listed` tells whether it is all the parameters
  between quotation marks. -/
  | stretch (listed : Bool)
  /-- A character that separates nothing. -/
  | char (c : Char) (quoted : Bool)
  /-- A character that may separate fields. -/
  | loose (c : Char)
  /-- There is a field here, even if it is empty. -/
  | mark
  /-- One field ends and another one begins. -/
  | cut
  /-- A separator like a blank. -/
  | gap
deriving Repr, DecidableEq

/-- A field: characters, each of which may be quoted. -/
abbrev Field := List (Char × Bool)

namespace Field

def text (f : Field) : ByteText := String.ofList (f.map (·.1))

def pattern (f : Field) : ByteText :=
  String.ofList (f.flatMap fun (c, quoted) => if quoted then ['\\', c] else [c])

/-- The field of atoms that are not split. -/
def ofAtoms (atoms : List Atom) : Field :=
  atoms.filterMap fun
    | .char c quoted => some (c, quoted)
    | .loose c => some (c, false)
    | .gap => some (' ', false)
    | _ => none

end Field

structure Separators where
  isSeparator : Char → Bool
  isBlank : Char → Bool

/-- The separators in a text. -/
def Separators.ofText (s : ByteText) : Separators where
  isSeparator c := s.toList.contains c
  isBlank c := c == ' ' || c == '\t' || c == '\n'

/-- What an atom does to fields. -/
inductive Role
  | stretch (listed : Bool)
  | letter (c : Char) (quoted : Bool)
  | mark
  | cut
  /-- It separates, together with others like it. -/
  | blank (c : Char)
  /-- It separates. -/
  | separator (c : Char)
deriving Repr, DecidableEq

namespace Atom

/-- What an atom does to fields. -/
def role (sep : Separators) : Atom → Role
  | .stretch listed => .stretch listed
  | .char c quoted => .letter c quoted
  | .mark => .mark
  | .cut => .cut
  | .gap => .blank ' '
  | .loose c =>
    if !sep.isSeparator c then .letter c false
    else if sep.isBlank c then .blank c
    else .separator c

/-- What the last of a number of fields has taken. -/
structure Remainder where
  /-- Its characters, in reverse order. -/
  taken : Field
  /-- How many of them stay if only quoted characters follow. -/
  kept : Option Nat
  /-- Whether one other separator belongs to the blank in front of it. -/
  absorbing : Bool
deriving Repr, DecidableEq

/-- What the last of a number of fields takes: all that is left, without the blanks at its end and
without the separator that would end it as the only field. -/
def remainder (sep : Separators) : Remainder → List Atom → Field
  | r, [] => r.taken.reverse.take (r.kept.getD r.taken.length)
  | r, a :: rest =>
    match a with
    | .char c quoted =>
      remainder sep { r with taken := (c, quoted) :: r.taken, absorbing := false } rest
    | .loose c =>
      let taken := (c, false) :: r.taken
      match a.role sep with
      | .blank _ => remainder sep { r with taken, kept := some (r.kept.getD r.taken.length) } rest
      | .separator _ =>
        remainder sep ⟨taken, if r.absorbing then r.kept else none, false⟩ rest
      | _ => remainder sep ⟨taken, none, false⟩ rest
    | _ => remainder sep { r with absorbing := false } rest

/-- How far splitting has got. -/
structure Splitting where
  /-- How many fields may still be made, if there is a bound. -/
  wanted : Option Nat := none
  /-- The field that has begun, in reverse order. -/
  current : Field := []
  begun : Bool := false
  /-- Whether the stretch is all the parameters between quotation marks. -/
  listed : Bool := false
  /-- Whether the stretch in front of it was. -/
  behindList : Bool := false
  /-- Whether blanks and one other separator belong to the blank in front of them. -/
  absorbing : Bool := false
deriving Repr, DecidableEq

/-- What is known when a field has ended. -/
def Splitting.ended (s : Splitting) (absorbing : Bool) : Splitting :=
  { s with wanted := s.wanted.map (· - 1), current := [], begun := false, absorbing }

/-- What the last field has taken when a separator would end it. -/
def Splitting.remainder (s : Splitting) (separator : Char) (absorbing : Bool) : Remainder :=
  ⟨(separator, false) :: s.current, some s.current.length, absorbing⟩

def split (sep : Separators) : Splitting → List Atom → List Field
  | s, [] => if s.begun || s.listed then [s.current.reverse] else []
  | s, a :: rest =>
    match a.role sep with
    | .stretch listed =>
      split sep { s with listed, behindList := s.listed, absorbing := false } rest
    | .letter c quoted =>
      let current := (c, quoted) :: s.current
      split sep { s with current, begun := true, absorbing := false } rest
    | .mark => split sep { s with begun := true, absorbing := false } rest
    | .cut => s.current.reverse :: split sep (s.ended false) rest
    | .blank c =>
      if s.absorbing || (!s.begun && !s.behindList) then split sep s rest
      else if s.wanted = some 1 then [remainder sep (s.remainder c !s.behindList) rest]
      else s.current.reverse :: split sep (s.ended !s.behindList) rest
    | .separator c =>
      if s.absorbing then split sep { s with absorbing := false } rest
      else if s.wanted = some 1 then [remainder sep (s.remainder c false) rest]
      else s.current.reverse :: split sep (s.ended false) rest

def fields (separators : ByteText) (atoms : List Atom) : List Field :=
  split (Separators.ofText separators) {} atoms

/-- The fields of atoms of which there are at most so many: the last one takes what is left. -/
def fieldsUpTo (n : Nat) (separators : ByteText) (atoms : List Atom) : List Field :=
  split (Separators.ofText separators) { wanted := some n } atoms

end Atom
end CommandShell.Script
