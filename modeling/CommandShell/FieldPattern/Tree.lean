/-
# Field patterns as trees

What a pattern is made of.  Nothing is ever matched with these patterns: the shell only has to know
whether one can be used, so a tree keeps what its checks look at, and the parts of the pattern that
a report may have to show.
-/
import CommandShell.FieldPattern.Fault

namespace CommandShell.FieldPattern

/-- A character that stands for itself. -/
structure Literal where
  span : Span
  char : Char
  /-- Whether it is written as two hexadecimal digits, and so may stand for a byte. -/
  isByte : Bool := false
deriving Repr, DecidableEq

/-- One of the flags in a group, or the sign that those after it are switched off. -/
inductive FlagItem
  | negation
  | flag (letter : Char)
deriving Repr, DecidableEq

/-- Whether a flag is switched on or off, if it is named. -/
def switch? (letter : Char) : Bool → List FlagItem → Option Bool
  | _, [] => none
  | _, .negation :: rest => switch? letter false rest
  | on, .flag l :: rest => if l = letter then some on else switch? letter on rest

mutual

/-- A member of a class in brackets. -/
inductive Member
  | nothing (span : Span)
  | literal (literal : Literal)
  | range (span : Span) (first last : Literal)
  /-- A class of ASCII characters, by name. -/
  | named (span : Span) (negated : Bool)
  | property (span : Span)
  | shorthand (span : Span) (negated : Bool)
  | bracket (span : Span) (negated : Bool) (set : CharSet)
  | union (span : Span) (members : List Member)

/-- What stands between the brackets of a class. -/
inductive CharSet
  | member (member : Member)
  /-- Two sets, joined by an operation. -/
  | operation (span : Span) (left right : CharSet)

end

/-- The part of the pattern that a member takes up. -/
def Member.span : Member → Span
  | .nothing s | .range s _ _ | .named s _ | .property s | .shorthand s _ | .bracket s _ _
  | .union s _ => s
  | .literal l => l.span

def CharSet.span : CharSet → Span
  | .member m => m.span
  | .operation s _ _ => s

/-- A pattern. -/
inductive Tree
  | nothing (span : Span)
  | flags (span : Span) (items : List FlagItem)
  | literal (literal : Literal)
  | dot (span : Span)
  /-- A condition on the place in the text; the word boundaries are told apart. -/
  | condition (span : Span) (boundary : Bool)
  | property (span : Span)
  | shorthand (span : Span) (negated : Bool)
  | bracket (span : Span) (negated : Bool) (set : CharSet)
  | repeated (span : Span) (body : Tree)
  | group (span : Span) (items : List FlagItem) (body : Tree)
  | sequence (span : Span) (parts : List Tree)
  | alternatives (span : Span) (branches : List Tree)

def Tree.span : Tree → Span
  | .nothing s | .flags s _ | .dot s | .condition s _ | .property s | .shorthand s _
  | .bracket s _ _ | .repeated s _ | .group s _ _ | .sequence s _ | .alternatives s _ => s
  | .literal l => l.span

/-- Some trees one after the other. -/
def Tree.ofParts (span : Span) : List Tree → Tree
  | [] => .nothing span
  | [t] => t
  | parts => .sequence span parts

end CommandShell.FieldPattern
