/-
# Expansion

Words become fields: what a word refers to is put in its place, which gives atoms
(`Expansion.atoms`), the atoms are split into fields, and a field that is a pattern becomes the
names of the files that it stands for, if there are any.  Where only one text is wanted, as in an
assignment or behind a redirection, nothing is split.
-/
import CommandShell.Machine.Script.Arithmetic
import CommandShell.Machine.Script.Field
import CommandShell.Machine.Script.Runner

namespace CommandShell.Script

namespace Expansion

open Runner

/-! ## 1. Home directories -/

/-- The home directories of the users that every machine has. -/
def homes : List (String × String) :=
  [("root", "/root"), ("daemon", "/usr/sbin"), ("bin", "/bin"), ("sys", "/dev"), ("sync", "/bin"),
    ("games", "/usr/games"), ("man", "/var/cache/man"), ("lp", "/var/spool/lpd"),
    ("mail", "/var/mail"), ("news", "/var/spool/news"), ("nobody", "/nonexistent")]

/-- The home directory that a text stands for which begins with a tilde. -/
def home? (s : State) (name : ByteText) : Option ByteText :=
  if name = "" then s.value? "HOME" else homes.lookup name

def colonParts : List Char → List (List Char)
  | [] => [[]]
  | c :: cs =>
    match colonParts cs with
    | first :: rest => if c = ':' then [] :: first :: rest else (c :: first) :: rest
    | [] => [[c]]

/-- A text in parts, each of which may be quoted, with the home directory put in that its start may
stand for; `last` tells whether nothing follows it in the word. -/
def tildeParts (s : State) (last : Bool) (text : List Char) : List (ByteText × Bool) :=
  let plain := [(String.ofList text, false)]
  match text with
  | '~' :: rest =>
    let name := rest.takeWhile (· ≠ '/')
    let after := rest.drop name.length
    if after = [] && !last then plain
    else match home? s (String.ofList name) with
      | some home => (home, true) :: if after = [] then [] else [(String.ofList after, false)]
      | none => plain
  | _ => plain

/-- A text in parts, with home directories put in behind its colons and, where it is `fresh`, at its
start. -/
def colonTildeParts (s : State) (fresh last : Bool) (text : List Char) : List (ByteText × Bool) :=
  let parts := colonParts text
  (parts.mapIdx fun i part =>
    if i = 0 then
      if fresh then tildeParts s (1 < parts.length || last) part
      else [(String.ofList part, false)]
    else (":", false) :: tildeParts s (i + 1 < parts.length || last) part).flatten

/-! ## 2. Parameters -/

/-- The letters of the options, in the order in which they are shown. -/
def optionLetters : List Char := "pubaCEVvxsnmiIfe".toList

/-- What a parameter stands for. -/
inductive Content
  | text (value? : Option ByteText)
  /-- All the parameters; `joined` tells whether they are one text between quotation marks. -/
  | all (joined : Bool)
deriving Repr, DecidableEq

/-- What a parameter stands for. -/
def content (s : State) (name : ByteText) : Content :=
  match name with
  | "@" => .all false
  | "*" => .all true
  | "#" => .text (some (toString s.parameters.length))
  | "?" => .text (some (toString s.status))
  | "$" => .text (some (toString s.process))
  | "!" => .text (s.background.map toString)
  | "-" => .text (some (String.ofList (optionLetters.filter s.options.contains)))
  | "0" => .text (some s.name)
  | name =>
    match name.toNat? with
    | some n => .text s.parameters[n - 1]?
    | none => .text (s.value? name)

def joinedParameters (s : State) : ByteText :=
  let separator := String.ofList (s.separators.toList.take 1)
  separator.intercalate s.parameters

/-- How an expansion is used. -/
structure Mode where
  /-- Whether fields are made of it. -/
  full : Bool := false
  /-- Whether text that is not quoted is split as well. -/
  word : Bool := false
  /-- Whether home directories stand behind colons, too. -/
  colons : Bool := false
deriving Repr, DecidableEq

/-- The atoms of a text that an expansion gives. -/
def Mode.atoms (m : Mode) (quoted : Bool) (text : ByteText) : List Atom :=
  text.toList.map fun c =>
    if quoted then .char c true else if m.full then .loose c else .char c false

/-- The atoms of what one expansion gives. -/
def Mode.stretch (m : Mode) (quoted : Bool) (text : ByteText) : List Atom :=
  if m.full && !quoted then .stretch false :: m.atoms quoted text else m.atoms quoted text

/-- The atoms of a text of the script. -/
def Mode.ofScript (m : Mode) (quoted : Bool) (text : ByteText) : List Atom :=
  if m.word && text != "" then m.stretch quoted text
  else text.toList.map fun c => .char c quoted

/-- Texts with an atom between them. -/
def between (separator : Atom) : List (List Atom) → List Atom
  | [] => []
  | [a] => a
  | a :: rest => a ++ separator :: between separator rest

/-- The atoms of what a parameter stands for, the texts of which are changed by a function.  All the
parameters are several texts where fields are made of them, unless the separators are unset. -/
def contentAtoms (s : State) (m : Mode) (quoted : Bool)
    (change : List ByteText → List ByteText) (c : Content) : List Atom :=
  let one (text : ByteText) : List Atom := m.atoms quoted (String.join (change [text]))
  match c with
  | .text value? => one (value?.getD "")
  | .all joined =>
    if m.full && !(quoted && joined) then
      if quoted then between .cut ((change s.parameters).map (m.atoms quoted))
      else if (s.value? "IFS").isNone then one (" ".intercalate s.parameters)
      else between .gap ((change s.parameters).map (m.atoms quoted))
    else one (joinedParameters s)

/-- The atoms that the use of a parameter gives. -/
def Mode.ofUse (m : Mode) (s : State) (name : ByteText) (quoted : Bool) (atoms : List Atom) :
    List Atom :=
  if !m.full then atoms
  else if !quoted then .stretch false :: atoms
  else if name = "@" && s.parameters != [] then .stretch true :: atoms
  else atoms

/-- Whether a parameter has a value; `orEmpty` tells whether an empty one counts as missing. -/
def isPresent (s : State) (orEmpty : Bool) : Content → Bool
  | .text none => false
  | .text (some value) => !orEmpty || value != ""
  | .all _ => !orEmpty || joinedParameters s != ""

/-- Complains about a parameter without a value, if the script asks for that. -/
def demand (name : ByteText) (c : Content) : Runner Unit := do
  if (← get).has 'u' && c == .text none then fail (name ++ ": parameter not set")

/-! ## 3. Output and numbers -/

def trimNewlines (s : ByteText) : ByteText :=
  String.ofList (s.toList.reverse.dropWhile (· == '\n')).reverse

/-- What a part of the script writes. -/
def output (script : Option Tree) : Runner ByteText := do
  let part ← partState
  let (bytes, process) ← withFds 2 fun reader => do
    let writer := reader + 1
    let _ ← ask (.pipe reader writer)
    let process ← fork (.part script [] false part)
      [(1, some writer), (reader, none), (writer, none)]
    let _ ← ask (.close writer)
    let bytes ← readAll reader bound
    let _ ← ask (.close reader)
    pure (bytes, process)
  let status ← await process
  modify fun s => { s with outputStatus := status }
  pure (trimNewlines (ByteText.ofBytes (bytes.filter (· != 0))))

/-- How arithmetic sees variables. -/
def reading (s : State) : Arithmetic.Reading := fun name =>
  (s.value? name, (s.held? name).any (·.fixed))

/-- The value of an arithmetic expression. -/
def number (expression : ByteText) : Runner ByteText := do
  let (result, changes) := Arithmetic.evaluate (reading (← get)) expression
  changes.forM fun (name, value) => assign name value
  match result with
  | .error fault => fail (fault.message expression)
  | .ok n => pure (toString n)

/-! ## 4. Words -/

/-- The atoms of a text of the script that is not quoted.  Where it is `fresh`, its start may stand
for a home directory, and `last` tells whether nothing follows it in the word. -/
def Mode.ofText (m : Mode) (s : State) (fresh last : Bool) (text : ByteText) : List Atom :=
  let parts :=
    if m.colons then colonTildeParts s fresh last text.toList
    else if fresh then tildeParts s last text.toList
    else [(text, false)]
  parts.flatMap fun (part, quoted) => m.ofScript quoted part

/-- Whether a home directory may stand behind a piece. -/
def Mode.refreshes (m : Mode) : Piece → Bool
  | .text s false => m.colons && s.toList.getLast? == some ':'
  | _ => false

mutual

/-- The atoms of pieces; `fresh` tells whether their start may stand for a home directory. -/
def pieces (m : Mode) (fresh : Bool) : List Piece → Runner (List Atom)
  | [] => pure []
  | p :: rest => do
    let first ← piece m fresh rest.isEmpty p
    return first ++ (← pieces m (m.refreshes p) rest)

/-- The atoms of a piece; `last` tells whether nothing follows it. -/
def piece (m : Mode) (fresh last : Bool) : Piece → Runner (List Atom)
  | .text s true => pure (m.ofScript true s)
  | .text s false => return m.ofText (← get) fresh last s
  | .mark => pure [.mark]
  | .parameter name use quoted => used m name quoted use
  | .output script quoted => return m.stretch quoted (← output script)
  | .arithmetic expression quoted => do
    let text := (Field.ofAtoms (← pieces {} false expression)).text
    return m.stretch quoted (← number text)

/-- The atoms of a parameter in its use. -/
def used (m : Mode) (name : ByteText) (quoted : Bool) : Use → Runner (List Atom)
  | .value => do
    let c := content (← get) name
    demand name c
    let s ← get
    if c == .text none then pure [] else pure (m.ofUse s name quoted (contentAtoms s m quoted id c))
  | .length => do
    let c := content (← get) name
    demand name c
    let s ← get
    let text := match c with
      | .text value? => value?.getD ""
      | .all _ => joinedParameters s
    pure (m.ofUse s name quoted (m.atoms quoted (toString text.length)))
  | .substitute what orEmpty word => do
    let s ← get
    let present := isPresent s orEmpty (content s name)
    let value : Runner (List Atom) := do
      let s ← get
      pure (m.ofUse s name quoted (contentAtoms s m quoted id (content s name)))
    match what, present with
    | .alternative, true => pieces { m with word := true } true word
    | .alternative, false => pure (m.ofUse s name quoted [])
    | _, true => value
    | .default, false => pieces { m with word := true } true word
    | .assigned, false =>
      let text := (Field.ofAtoms (← pieces {} true word)).text
      if !isName name then fail (name ++ ": bad variable name")
      assign name text
      value
    | .refused, false =>
      let text := (Field.ofAtoms (← pieces {} true word)).text
      fail (name ++ ": " ++
        if word.isEmpty then
          if orEmpty then "parameter not set or null" else "parameter not set"
        else text)
  | .trim atEnd longest pattern => do
    let c := content (← get) name
    demand name c
    if c == .text none then pure []
    else
      let wanted := (Field.ofAtoms (← pieces {} true pattern)).pattern
      let s ← get
      pure (m.ofUse s name quoted (contentAtoms s m quoted (Glob.trim atEnd longest wanted) c))
  | .malformed => fail "Bad substitution"

end

/-! ## 5. Names of files -/

/-- The parts of a pattern between slashes. -/
def slashParts : List Char → List (List Char)
  | [] => [[]]
  | '\\' :: '/' :: cs => [] :: slashParts cs
  | '/' :: cs => [] :: slashParts cs
  | c :: cs =>
    match slashParts cs with
    | first :: rest => (c :: first) :: rest
    | [] => [[c]]

/-- The names in a directory that a part of a pattern stands for, in order. -/
def namesIn (directory : ByteText) (part : List Char) : Runner (List ByteText) := do
  let pattern := String.ofList part
  let dotted := part.head? = some '.' || part.take 2 = ['\\', '.']
  match ← ask (.names (if directory = "" then "." else directory)) with
  | .names found =>
    let all := if dotted then "." :: ".." :: found else found
    pure (all.filter fun name =>
      (dotted || name.toList.head? != some '.') && Glob.matches? pattern name)
  | _ => pure []

/-- The paths that the parts of a pattern stand for, behind a path; `searched` tells whether a part
stood for more than one name. -/
def paths (searched : Bool) : ByteText → List (List Char) → Runner (List ByteText)
  | _, [] => pure []
  | before, [part] => do
    if Glob.isOpen (part.length + 1) part then
      return (← namesIn before part).map (before ++ ·)
    else
      let path := before ++ String.ofList (Glob.bare part)
      match searched, ← ask (.examine path false) with
      | true, .found _ => pure [path]
      | _, _ => pure []
  | before, part :: rest => do
    if Glob.isOpen (part.length + 1) part then
      let names ← namesIn before part
      let found ← names.mapM fun name => paths true (before ++ name ++ "/") rest
      pure found.flatten
    else paths searched (before ++ String.ofList (Glob.bare part) ++ "/") rest

/-- Puts texts in the order of their bytes. -/
def sortTexts (texts : List ByteText) : List ByteText := texts.mergeSort fun a b => !(b < a)

/-- The texts that a field stands for. -/
def resolve (f : Field) : Runner (List ByteText) := do
  let pattern := f.pattern
  let asIs := [f.text]
  if (← get).has 'f' || !Glob.isOpen (pattern.length + 1) pattern.toList then pure asIs
  else
    match ← paths false "" (slashParts pattern.toList) with
    | [] => pure asIs
    | found => pure (sortTexts found)

/-! ## 6. Uses of words -/

def fields (word : Word) : Runner (List ByteText) := do
  let atoms ← pieces { full := true } true word
  let found ← (Atom.fields (← get).separators atoms).mapM resolve
  pure found.flatten

def allFields : List Word → Runner (List ByteText)
  | [] => pure []
  | w :: rest => do
    let first ← fields w
    return first ++ (← allFields rest)

def text (word : Word) : Runner ByteText := do
  return (Field.ofAtoms (← pieces {} true word)).text

/-- The text of a value that is assigned. -/
def value (word : Word) : Runner ByteText := do
  return (Field.ofAtoms (← pieces { colons := true } true word)).text

def pattern (word : Word) : Runner ByteText := do
  return (Field.ofAtoms (← pieces {} true word)).pattern

/-- The fields of words that may be assignments, the values of which are not split. -/
def declarations : List Word → Runner (List ByteText)
  | [] => pure []
  | w :: rest => do
    let first ← match w with
      | .text s false :: others =>
        match assignment? s with
        | some (name, start) =>
          let word : Word := if start = "" then others else .text start false :: others
          pure [name ++ "=" ++ (← value word)]
        | none => fields w
      | _ => fields w
    return first ++ (← declarations rest)

end Expansion
end CommandShell.Script
