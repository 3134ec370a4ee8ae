/-
# Variables and parameters

The commands of the script language that change variables and parameters: `export`, `readonly`,
`unset`, `local`, `set`, `shift`, `read` and `getopts`.
-/
import CommandShell.Machine.Script.Builtin.Letters
import CommandShell.Machine.Script.Expansion

namespace CommandShell.Script.Variables

open Runner

/-! ## 1. Showing variables -/

/-- A value in quotes, as the language reads it back; the number bounds how many quotes it
holds. -/
def quotedFrom : Nat → List Char → List Char
  | 0, _ => []
  | n + 1, cs =>
    let plain := cs.takeWhile (· ≠ '\'')
    let rest := cs.drop plain.length
    let quotes := rest.takeWhile (· == '\'')
    let after := rest.drop quotes.length
    '\'' :: plain ++ '\'' ::
      if quotes = [] then []
      else '"' :: quotes ++ '"' :: if after = [] then [] else quotedFrom n after

/-- A value in quotes. -/
def quoted (value : ByteText) : ByteText :=
  String.ofList (quotedFrom (value.length + 1) value.toList)

/-- A variable as a line of a script. -/
def line (front name : ByteText) (v : Variable) : ByteText :=
  front ++ name ++ (v.value.map fun value => "=" ++ quoted value).getD "" ++ "\n"

/-- Shows the variables that satisfy a condition. -/
def list (front : ByteText) (p : Variable → Bool) : Runner Unit := do
  for (name, v) in (← get).vars.toList do
    if p v then emit (line front name v)

/-! ## 2. Marks -/

/-- Complains about a name that is none. -/
def checkName (name : ByteText) : Runner Unit := do
  if !isName name then fail (name ++ ": bad variable name")

/-- The name and the value in an argument. -/
def nameAndValue (arg : ByteText) : ByteText × Option ByteText :=
  let name := arg.toList.takeWhile (· ≠ '=')
  (String.ofList name,
    if name.length < arg.length then some (String.ofList (arg.toList.drop (name.length + 1)))
    else none)

/-- Marks variables, some of which get a value. -/
def mark (change : Variable → Variable) : List ByteText → Runner Unit
  | [] => pure ()
  | arg :: rest => do
    let (name, value?) := nameAndValue arg
    checkName name
    if let some value := value? then assign name value
    modify fun s => { s with
      vars := s.vars.insert name (change ((s.held? name).getD {})) }
    mark change rest

/-- The commands `export` and `readonly`. -/
def declare (name : ByteText) (has : Variable → Bool) (change : Variable → Variable)
    (args : List ByteText) : Runner Nat := do
  let (found, args) ← Letters.read "p" "" args
  if args.isEmpty || !found.isEmpty then list (name ++ " ") has
  else mark change args
  pure 0

/-- Takes variables away. -/
def unsetAll : List ByteText → Runner Unit
  | [] => pure ()
  | name :: rest => do
    checkName name
    if ((← get).held? name).any (·.fixed) then fail (name ++ ": is read only")
    modify (·.hold name none)
    unsetAll rest

def unset (args : List ByteText) : Runner Nat := do
  let (found, args) ← Letters.read "fv" "" args
  if (found.getLast?.map (·.1)) = some 'f' then
    modify fun s => { s with functions := args.foldl (·.erase ·) s.functions }
  else unsetAll args
  pure 0

/-! ## 3. Variables of functions -/

/-- Remembers a variable as it was before the function, unless that was done already. -/
def keep (name : ByteText) : Runner Unit :=
  modify fun s =>
    match s.locals with
    | frame :: outer =>
      if (frame.lookup name).isSome then s
      else { s with locals := ((name, s.held? name) :: frame) :: outer }
    | [] => s

/-- Runs something with a frame for variables, which get back what they had. -/
def withFrame {α : Type} (body : Runner α) : Runner α := do
  modify fun s => { s with locals := [] :: s.locals }
  ensuring body (modify fun s =>
    match s.locals with
    | frame :: outer =>
      { frame.foldl (fun s (name, old) => s.hold name old) s with locals := outer }
    | [] => s)

/-- Makes variables local to the function. -/
def makeLocal : List ByteText → Runner Unit
  | [] => pure ()
  | arg :: rest => do
    let (name, value?) := nameAndValue arg
    checkName name
    keep name
    match value? with
    | some value => assign name value
    | none => pure ()
    makeLocal rest

/-- The command `local`. -/
def localise (args : List ByteText) : Runner Nat := do
  if (← get).locals.isEmpty then fail "not in a function"
  makeLocal args
  pure 0

/-! ## 4. Options and parameters -/

/-- The names of the options, with their letters. -/
def optionNames : List (String × Option Char) :=
  [("errexit", some 'e'), ("noglob", some 'f'), ("ignoreeof", some 'I'), ("interactive", some 'i'),
    ("monitor", some 'm'), ("noexec", some 'n'), ("stdin", some 's'), ("xtrace", some 'x'),
    ("verbose", some 'v'), ("vi", some 'V'), ("emacs", some 'E'), ("noclobber", some 'C'),
    ("allexport", some 'a'), ("notify", some 'b'), ("nounset", some 'u'), ("privileged", some 'p'),
    ("nolog", none), ("debug", none)]

/-- Sets an option or takes it back. -/
def setOption (on : Bool) (c : Char) : Runner Unit := do
  if !Expansion.optionLetters.contains c then fail ("Illegal option -" ++ String.singleton c)
  if on && c = 'm' then complain "can't access tty; job control turned off"
  else modify fun s =>
    let others := s.options.filter (· != c)
    { s with options := if on then c :: others else others }

/-- Sets the option of a name or takes it back; without a name the options are shown. -/
def setNamedOption (on : Bool) (name? : Option ByteText) : Runner Unit := do
  match name? with
  | some name =>
    match optionNames.lookup name with
    | some (some c) => setOption on c
    | some none => pure ()
    | none => fail ("Illegal option -o " ++ name)
  | none =>
    let s ← get
    if on then emit "Current option settings\n"
    for (name, letter) in optionNames do
      let isOn := letter.any s.options.contains
      if on then
        emit (name ++ String.ofList (List.replicate (16 - name.length) ' ')
          ++ (if isOn then "on\n" else "off\n"))
      else emit ("set " ++ (if isOn then "-o " else "+o ") ++ name ++ "\n")

/-- Sets the options whose letters share an argument; gives the arguments that are left. -/
def setLetters (on : Bool) : List Char → List ByteText → Runner (List ByteText)
  | [], rest => pure rest
  | 'o' :: cs, rest => do
    setNamedOption on rest.head?
    setLetters on cs (rest.drop 1)
  | c :: cs, rest => do
    setOption on c
    setLetters on cs rest

/-- Sets options and parameters; the number bounds how many arguments there are. -/
def setFrom : Nat → List ByteText → Runner Unit
  | 0, _ => pure ()
  | _, [] => pure ()
  | n + 1, arg :: rest => do
    let parameters (args : List ByteText) : Runner Unit :=
      modify fun s => { s with parameters := args, optionPlace := 0 }
    match arg.toList with
    | ['-'] =>
      modify fun s => { s with options := s.options.filter fun c => c ≠ 'x' && c ≠ 'v' }
      if !rest.isEmpty then parameters rest
    | ['-', '-'] => parameters rest
    | '-' :: cs =>
      let rest ← setLetters true cs rest
      setFrom n rest
    | '+' :: cs =>
      let rest ← setLetters false cs rest
      setFrom n rest
    | _ => parameters (arg :: rest)

/-- The command `set`. -/
def configure (args : List ByteText) : Runner Nat := do
  if args.isEmpty then list "" (·.value.isSome) else setFrom (args.length + 1) args
  pure 0

def shift (args : List ByteText) : Runner Nat := do
  let n ← match args with
    | arg :: _ => number arg
    | [] => pure 1
  if (← get).parameters.length < n then fail "can't shift that many"
  modify fun s => { s with parameters := s.parameters.drop n, optionPlace := 0 }
  pure 0

/-! ## 5. Reading a line -/

/-- The characters of a line that is read, and whether the line has an end.  Those read so far are
given in reverse order, and the number bounds how many there are. -/
def readLine (raw : Bool) : Nat → Bool → List Atom → Runner (List Atom × Bool)
  | 0, _, line => pure (line.reverse, false)
  | n + 1, escaped, line => do
    match ← say (Routine.read 0 1) with
    | .ok (b :: _) =>
      let c := ByteText.charOf b
      if b = 0 then readLine raw n escaped line
      else if escaped then
        let escapedText : List Atom := if c = '\n' then [] else [.char c true]
        readLine raw n false (.stretch false :: escapedText ++ line)
      else if c = '\\' && !raw then readLine raw n true line
      else if c = '\n' then pure (line.reverse, true)
      else readLine raw n false (.loose c :: line)
    | _ => pure (line.reverse, false)

/-- Gives texts to names, and nothing to those that are left. -/
def assignAll : List ByteText → List ByteText → Runner Unit
  | [], _ => pure ()
  | name :: rest, values => do
    checkName name
    assign name (values.headD "")
    assignAll rest values.tail

def read (args : List ByteText) : Runner Nat := do
  let (found, names) ← Letters.read "r" "p" args
  if names.isEmpty then fail "arg count"
  let (line, ended) ← readLine (found.any (·.1 == 'r')) bound false []
  assignAll names ((Atom.fieldsUpTo names.length (← get).separators line).map Field.text)
  pure (if ended then 0 else 1)

/-! ## 6. Options of a script -/

/-- What the options of a script are like, from the letters that it knows. -/
inductive Known
  | no
  | plain
  | valued
deriving Repr, DecidableEq

/-- Whether an option is among some letters. -/
def known (c : Char) : List Char → Known
  | [] => .no
  | x :: rest =>
    match rest with
    | ':' :: more => if x = c then .valued else known c more
    | rest => if x = c then .plain else known c rest

/-- The next option of some arguments: the option, what remains of its argument, how many arguments
were passed, and its value. -/
structure OptionPlace where
  letter : Char
  left : List Char
  passed : Nat
deriving Repr, DecidableEq

/-- Where the next option stands, if there is one; the number tells how many arguments come before
it. -/
def nextOption? (args : List ByteText) (passed place : Nat) : Nat ⊕ OptionPlace :=
  let current := if place = 0 then [] else ((args[passed - 1]?).getD "").toList.drop place
  match current with
  | c :: left => .inr ⟨c, left, passed⟩
  | [] =>
    match args[passed]? with
    | some arg =>
      match arg.toList with
      | ['-', '-'] => .inl (passed + 1)
      | '-' :: c :: left => .inr ⟨c, left, passed + 1⟩
      | _ => .inl passed
    | none => .inl passed

/-- Ends `getopts`: the name gets a letter. -/
def answerOption (name : ByteText) (letter : Char) (passed place : Nat) (status : Nat) :
    Runner Nat := do
  checkName name
  modify fun s => (s.put "OPTIND" (toString (passed + 1))).put name (String.singleton letter)
  modify fun s => { s with optionPlace := place }
  pure status

def getopts (args : List ByteText) : Runner Nat := do
  match args with
  | letters :: name :: given =>
    let s ← get
    let all := if given.isEmpty then s.parameters else given
    let index := ((s.value? "OPTIND").bind number?).getD 1
    let (index, place) := if all.length + 1 < index then (1, 0) else (index, s.optionPlace)
    let silent := letters.toList.head? = some ':'
    match nextOption? all (index - 1) (if index ≤ 1 then 0 else place) with
    | .inl passed => answerOption name '?' passed 0 1
    | .inr found =>
      let whole := ((all[found.passed - 1]?).getD "").length
      let place := if found.left.isEmpty then 0 else whole - found.left.length
      let problem (c : Char) (message : String) : Runner Char := do
        if silent then
          modify (·.put "OPTARG" (String.singleton found.letter))
          pure c
        else
          say (Routine.complain (message ++ "\n"))
          modify (·.hold "OPTARG" none)
          pure '?'
      match known found.letter letters.toList with
      | .no =>
        let c ← problem '?' ("Illegal option -" ++ String.singleton found.letter)
        answerOption name c found.passed place 0
      | .plain =>
        modify (·.put "OPTARG" "")
        answerOption name found.letter found.passed place 0
      | .valued =>
        if !found.left.isEmpty then
          modify (·.put "OPTARG" (String.ofList found.left))
          answerOption name found.letter found.passed 0 0
        else
          match all[found.passed]? with
          | some value =>
            modify (·.put "OPTARG" value)
            answerOption name found.letter (found.passed + 1) 0 0
          | none =>
            let c ← problem ':' ("No arg for -" ++ String.singleton found.letter ++ " option")
            answerOption name c found.passed 0 0
  | _ => fail "Usage: getopts optstring var [arg...]"

end CommandShell.Script.Variables
