/-
# Checking field patterns

A pattern that can be read may still be of no use: it may be nested too deeply, it may ask for
knowledge of Unicode that is not at hand -- shorthand classes, properties, letter case -- or it may
match what is no text.  Flags change what is asked for; they hold up to the end of the group around
them.
-/
import CommandShell.FieldPattern.Reader

namespace CommandShell.FieldPattern

/-! ## 1. Depth -/

/-- How deeply a pattern may be nested. -/
def depthLimit : Nat := 250

/-- Refuses a part that is nested inside so many others, if they are too many. -/
def checkDepthAt (depth : Nat) (span : Span) : Except Fault Unit :=
  if depth < depthLimit then .ok () else .error ⟨.tooDeep depthLimit, span, none⟩

mutual

def Member.checkDepth (depth : Nat) : Member → Except Fault Unit
  | .bracket span _ set => do
    checkDepthAt depth span
    set.checkDepth (depth + 1)
  | .union span members => do
    checkDepthAt depth span
    checkMembersDepth (depth + 1) members
  | _ => .ok ()

def checkMembersDepth (depth : Nat) : List Member → Except Fault Unit
  | [] => .ok ()
  | m :: rest => do
    m.checkDepth depth
    checkMembersDepth depth rest

def CharSet.checkDepth (depth : Nat) : CharSet → Except Fault Unit
  | .member m => m.checkDepth depth
  | .operation span left right => do
    checkDepthAt depth span
    left.checkDepth (depth + 1)
    right.checkDepth (depth + 1)

end

mutual

def Tree.checkDepth (depth : Nat) : Tree → Except Fault Unit
  | .bracket span _ set => do
    checkDepthAt depth span
    set.checkDepth (depth + 1)
  | .repeated span body | .group span _ body => do
    checkDepthAt depth span
    body.checkDepth (depth + 1)
  | .sequence span parts | .alternatives span parts => do
    checkDepthAt depth span
    checkPartsDepth (depth + 1) parts
  | _ => .ok ()

def checkPartsDepth (depth : Nat) : List Tree → Except Fault Unit
  | [] => .ok ()
  | t :: rest => do
    t.checkDepth depth
    checkPartsDepth depth rest

end

/-! ## 2. Meaning -/

/-- What holds at a place in a pattern. -/
structure Mode where
  /-- Whether letters match in either case. -/
  caseless : Bool := false
  /-- Whether characters are those of Unicode, or else those of ASCII. -/
  unicode : Bool := true
  /-- Whether a word boundary of Unicode stands before the place. -/
  boundary : Bool := false
deriving Repr, DecidableEq

def Mode.withFlags (m : Mode) (items : List FlagItem) : Mode :=
  { m with
    caseless := (switch? 'i' true items).getD m.caseless
    unicode := (switch? 'u' true items).getD m.unicode }

def flawed {α : Type} (flaw : Flaw) (span : Span) : Except Fault α := .error ⟨flaw, span, none⟩

/-- Checks a negation; outside Unicode the rest is not text. -/
def Mode.checkNegation (m : Mode) (span : Span) (negated : Bool) : Except Fault Unit :=
  if negated && !m.unicode then flawed .invalidText span else .ok ()

/-- Checks that letter case is known where it matters: for a set that has characters which may
occur in another case. -/
def Mode.checkCase (m : Mode) (span : Span) (cased : Bool) : Except Fault Unit :=
  if m.caseless && m.unicode && cased then flawed .caseUnknown span else .ok ()

def Mode.checkProperty (m : Mode) (span : Span) : Except Fault Unit :=
  flawed (if m.unicode then .propertyUnknown else .notUnicode) span

def Mode.checkShorthand (m : Mode) (span : Span) (negated : Bool) : Except Fault Unit :=
  if m.unicode then flawed .shorthandUnknown span else m.checkNegation span negated

/-- Checks a character that stands for itself, outside or inside a class. -/
def Mode.checkLiteral (m : Mode) (inClass : Bool) (l : Literal) : Except Fault Unit :=
  if m.unicode || l.char.toNat < 0x80 then .ok ()
  else if l.isByte then flawed .invalidText l.span
  else if inClass then flawed .notUnicode l.span
  else .ok ()

mutual

/-- Checks a member of a class; tells whether it has characters whose case matters. -/
def Member.check (m : Mode) : Member → Except Fault Bool
  | .nothing _ => .ok false
  | .literal l => do
    m.checkLiteral true l
    return true
  | .range _ first last => do
    m.checkLiteral true first
    m.checkLiteral true last
    return true
  | .named span negated => do
    m.checkCase span true
    m.checkNegation span negated
    return true
  | .property span => do
    m.checkProperty span
    return true
  | .shorthand span negated => do
    m.checkShorthand span negated
    return true
  | .bracket span negated set => do
    let cased ← set.check m
    m.checkCase span cased
    m.checkNegation span negated
    return cased
  | .union _ members => checkMembers m members

/-- Checks members of a class; tells whether some have characters whose case matters. -/
def checkMembers (m : Mode) : List Member → Except Fault Bool
  | [] => .ok false
  | first :: rest => do
    let cased ← first.check m
    let others ← checkMembers m rest
    return cased || others

/-- Checks a set; tells whether it has characters whose case matters. -/
def CharSet.check (m : Mode) : CharSet → Except Fault Bool
  | .member member => member.check m
  | .operation _ left right => do
    let casedLeft ← left.check m
    let casedRight ← right.check m
    m.checkCase right.span casedRight
    m.checkCase left.span casedLeft
    return casedLeft || casedRight

end

mutual

/-- Checks a pattern; gives the mode after it. -/
def Tree.check (m : Mode) : Tree → Except Fault Mode
  | .nothing _ => .ok m
  | .flags _ items => .ok (m.withFlags items)
  | .literal l => do
    m.checkLiteral false l
    m.checkCase l.span true
    return m
  | .dot span => if m.unicode then .ok m else flawed .invalidText span
  | .condition _ boundary => .ok { m with boundary := m.boundary || (boundary && m.unicode) }
  | .property span => do
    m.checkProperty span
    return m
  | .shorthand span negated => do
    m.checkShorthand span negated
    return m
  | .bracket span negated set => do
    let cased ← set.check m
    m.checkCase span cased
    m.checkNegation span negated
    return m
  | .repeated _ body => body.check m
  | .group _ items body => do
    let inner ← body.check (m.withFlags items)
    return { m with boundary := inner.boundary }
  | .sequence _ parts | .alternatives _ parts => checkParts m parts

def checkParts (m : Mode) : List Tree → Except Fault Mode
  | [] => .ok m
  | t :: rest => do
    let m ← t.check m
    checkParts m rest

end

/-! ## 3. The check -/

/-- Why a pattern is of no use. -/
inductive Problem
  | fault (fault : Fault)
  /-- It asks for word boundaries of Unicode, which its machine cannot find. -/
  | boundary
deriving Repr, DecidableEq

def check (pattern : String) : Except Problem Unit :=
  match (do let t ← read pattern; t.checkDepth 0; t.check {} : Except Fault Mode) with
  | .error f => .error (.fault f)
  | .ok m => if m.boundary then .error .boundary else .ok ()

end CommandShell.FieldPattern
