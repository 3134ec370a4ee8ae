/-
# How scripts of the stream editor are written

A script comes in pieces, which are arguments or files (`ReadState.readPiece`).  Commands are ended
by lines and semicolons; a text, a label or the name of a file goes on to the end of its line.  A
fault is told with the place at which it was noticed, counted in characters for an argument and in
lines for a file.
-/
import CommandShell.Machine.Regex.Reader
import CommandShell.Machine.Utility.Edit.Script

namespace CommandShell.Edit

/-! ## 1. Faults -/

/-- What is wrong with a script. -/
inductive Fault
  | braceAddress
  | commentAddress
  | differentLengths
  | disallowed
  | extraCharacters
  | labelAddress
  | lineZero
  | missingCommand
  | missingLabel
  | missingName
  | missingText
  | modifiers
  | newerVersion
  | noExpression
  | numberZero
  | oneAddress
  | reference (number : Nat)
  | regex (fault : RegexFault)
  | severalNegations
  | severalNumbers
  | severalOptions (option : Char)
  | stepAddress
  | unexpectedBrace
  | unexpectedComma
  | unknownCommand (command : Char)
  | unknownOption
  | unmatchedBrace
  | unterminated (command : Char)
  | unterminatedAddress
deriving Repr, DecidableEq

/-- A text between the quotes of messages. -/
def quote (s : ByteText) : ByteText := "\x60" ++ s ++ "'"

def Fault.text : Fault → ByteText
  | .braceAddress => quote "\x7d" ++ " doesn't want any addresses"
  | .commentAddress => "comments don't accept any addresses"
  | .differentLengths => "strings for " ++ quote "y" ++ " command are different lengths"
  | .disallowed => "e/r/w commands disabled in sandbox mode"
  | .extraCharacters => "extra characters after command"
  | .labelAddress => ": doesn't want any addresses"
  | .lineZero => "invalid usage of line address 0"
  | .missingCommand => "missing command"
  | .missingLabel => "\":\" lacks a label"
  | .missingName => "missing filename in r/R/w/W commands"
  | .missingText =>
    "expected \\ after " ++ quote "a" ++ ", " ++ quote "c" ++ " or " ++ quote "i"
  | .modifiers => "cannot specify modifiers on empty regexp"
  | .newerVersion => "expected newer version of sed"
  | .noExpression => "no previous regular expression"
  | .numberZero => "number option to " ++ quote "s" ++ " command may not be zero"
  | .oneAddress => "command only uses one address"
  | .reference n =>
    "invalid reference \\" ++ toString n ++ " on " ++ quote "s" ++ " command's RHS"
  | .regex fault => fault.text
  | .severalNegations => "multiple " ++ quote "!" ++ "s"
  | .severalNumbers => "multiple number options to " ++ quote "s" ++ " command"
  | .severalOptions c =>
    "multiple " ++ quote (String.singleton c) ++ " options to " ++ quote "s" ++ " command"
  | .stepAddress => "invalid usage of +N or ~N as first address"
  | .unexpectedBrace => "unexpected " ++ quote "\x7d"
  | .unexpectedComma => "unexpected " ++ quote ","
  | .unknownCommand c => "unknown command: " ++ quote (String.singleton c)
  | .unknownOption => "unknown option to " ++ quote "s"
  | .unmatchedBrace => "unmatched " ++ quote "\x7b"
  | .unterminated c => "unterminated " ++ quote (String.singleton c) ++ " command"
  | .unterminatedAddress => "unterminated address regex"

/-- Where a piece of a script comes from. -/
inductive Origin
  /-- An argument, by its number among those that hold pieces. -/
  | argument (number : Nat)
  | file (name : ByteText)
deriving Repr, DecidableEq

/-- A fault at a place of a piece: so many characters or lines from its start. -/
def Origin.complain (o : Origin) (characters line : Nat) (fault : Fault) : ByteText :=
  (match o with
    | .argument n => "-e expression #" ++ toString n ++ ", char " ++ toString characters
    | .file name => "file " ++ name ++ " line " ++ toString line)
    ++ ": " ++ fault.text

/-! ## 2. Texts inside commands -/

def digitValue (c : Char) : Nat :=
  if c.isDigit then c.toNat - '0'.toNat
  else if 'a' ≤ c && c ≤ 'f' then c.toNat - 'a'.toNat + 10
  else if 'A' ≤ c && c ≤ 'F' then c.toNat - 'A'.toNat + 10
  else 16

/-- The character whose number stands at the start of a text, and what follows. -/
def numbered? (base length : Nat) (cs : List Char) : Option (Char × List Char) :=
  match (cs.take length).takeWhile (digitValue · < base) with
  | [] => none
  | digits =>
    let n := digits.foldl (fun n c => base * n + digitValue c) 0
    some (Char.ofNat (n % 256), cs.drop digits.length)

/-- The character that a letter behind a backslash stands for together with what follows it. -/
def escape? (c : Char) (rest : List Char) : Option (Char × List Char) :=
  match c with
  | 'a' => some ('\x07', rest)
  | 'f' => some ('\x0c', rest)
  | 'n' => some ('\n', rest)
  | 'r' => some ('\r', rest)
  | 't' => some ('\t', rest)
  | 'v' => some ('\x0b', rest)
  | 'c' => rest.head?.map fun x => (Char.ofNat (x.toUpper.toNat ^^^ 64), rest.drop 1)
  | 'd' => numbered? 10 3 rest
  | 'o' => numbered? 8 3 rest
  | 'x' => numbered? 16 2 rest
  | _ => none

/-- A text with its escapes resolved; the number bounds how long it is. -/
def unescape : Nat → List Char → List Char
  | 0, _ => []
  | _, [] => []
  | n + 1, '\\' :: c :: rest =>
    match escape? c rest with
    | some (x, rest) => x :: unescape n rest
    | none => c :: unescape n rest
  | n + 1, c :: rest => c :: unescape n rest

/-- A regular expression with the escapes for characters resolved, and all other backslashes kept;
the number bounds how long it is. -/
def unescapeRegex : Nat → List Char → List Char
  | 0, _ => []
  | _, [] => []
  | n + 1, '\\' :: c :: rest =>
    match escape? c rest with
    | some (x, rest) => (if x = '\\' then ['\\', '\\'] else [x]) ++ unescapeRegex n rest
    | none => '\\' :: c :: unescapeRegex n rest
  | n + 1, c :: rest => c :: unescapeRegex n rest

/-- Some parts with a character in front of them. -/
def addCharacter (c : Char) : List Part → List Part
  | .text bytes :: parts => .text (ByteText.byteOf c :: bytes) :: parts
  | parts => .text [ByteText.byteOf c] :: parts

/-- The parts of a replacement; the number bounds how long it is. -/
def readParts : Nat → List Char → List Part
  | 0, _ => []
  | _, [] => []
  | n + 1, '\\' :: c :: rest =>
    match c with
    | 'L' => .fold (some .smalls) :: readParts n rest
    | 'U' => .fold (some .capitals) :: readParts n rest
    | 'E' => .fold none :: readParts n rest
    | 'l' => .foldNext .smalls :: readParts n rest
    | 'u' => .foldNext .capitals :: readParts n rest
    | c =>
      if c.isDigit then .group (c.toNat - '0'.toNat) :: readParts n rest
      else match escape? c rest with
        | some (x, rest) => addCharacter x (readParts n rest)
        | none => addCharacter c (readParts n rest)
  | n + 1, c :: rest =>
    if c = '&' then .group 0 :: readParts n rest else addCharacter c (readParts n rest)

/-- The highest group that parts of a replacement ask for. -/
def highestGroup (parts : List Part) : Nat :=
  (parts.map fun
    | .group n => n
    | _ => 0).foldl max 0

/-- Where a reader is among the brackets of a regular expression. -/
inductive InBrackets
  | outside
  /-- Nothing was read between the brackets; `negated` tells whether a circumflex was. -/
  | atStart (negated : Bool)
  | inside
  /-- In the name of a class, which is ended by a character and a bracket. -/
  | named (mark : Char)
deriving Repr, DecidableEq

/-- Splits a text at a delimiter; fails with what is left when the text or its line ends.  In a
regular expression, a delimiter between brackets does not count.  A backslash protects a delimiter
and is dropped. -/
def splitAtDelimiter (delimiter : Char) (regex : Bool) :
    InBrackets → List Char → Except (List Char) (List Char × List Char)
  | _, [] => .error []
  | place, c :: cs =>
    let keep (kept : List Char) (split : Except (List Char) (List Char × List Char)) :
        Except (List Char) (List Char × List Char) :=
      split.map fun (text, rest) => (kept ++ text, rest)
    if c = '\n' then .error (c :: cs)
    else match place with
      | .outside =>
        if c = delimiter then .ok ([], cs)
        else if c = '\\' then
          match cs with
          | [] => .error []
          | d :: rest =>
            let kept :=
              if d = 'n' && regex then ['\n']
              else if d = '\n' || (d = delimiter && (regex || d ≠ '&')) then [d]
              else ['\\', d]
            keep kept (splitAtDelimiter delimiter regex .outside rest)
        else
          keep [c] (splitAtDelimiter delimiter regex
            (if regex && c = '[' then .atStart false else .outside) cs)
      | .named mark =>
        match cs with
        | ']' :: rest =>
          if c = mark then keep [c, ']'] (splitAtDelimiter delimiter regex .inside rest)
          else keep [c] (splitAtDelimiter delimiter regex place (']' :: rest))
        | cs => keep [c] (splitAtDelimiter delimiter regex place cs)
      | .inside | .atStart _ =>
        match c, cs with
        | '\\', 'n' :: rest => keep ['\n'] (splitAtDelimiter delimiter regex .inside rest)
        | '[', d :: rest =>
          if d = ':' || d = '.' || d = '=' then
            keep ['[', d] (splitAtDelimiter delimiter regex (.named d) rest)
          else keep ['['] (splitAtDelimiter delimiter regex .inside (d :: rest))
        | c, cs =>
          let after :=
            if place = .atStart false && c = '^' then .atStart true
            else if place = .inside && c = ']' then .outside
            else .inside
          keep [c] (splitAtDelimiter delimiter regex after cs)

/-- The text of a command up to the end of its line, what follows, and whether the text is to go on
in the next piece; the number bounds how long it is. -/
def splitText : Nat → List Char → List Char × List Char × Bool
  | 0, rest => ([], rest, false)
  | _, [] => ([], [], false)
  | _, '\n' :: rest => ([], rest, false)
  | _, ['\\'] => ([], [], true)
  | n + 1, '\\' :: c :: rest =>
    let (x, rest) := (escape? c rest).getD (c, rest)
    let (text, rest, unfinished) := splitText n rest
    (x :: text, rest, unfinished)
  | n + 1, c :: rest =>
    let (text, rest, unfinished) := splitText n rest
    (c :: text, rest, unfinished)

/-! ## 3. Reading -/

/-- How scripts are to be read. -/
structure ReadStyle where
  extended : Bool := false
  /-- Whether a script may do nothing to files. -/
  harmless : Bool := false
deriving Repr, DecidableEq

/-- A script that is being read. -/
structure ReadState where
  style : ReadStyle := {}
  /-- What is left of the piece. -/
  rest : List Char := []
  /-- How many characters were read. -/
  count : Nat := 0
  /-- The line that is being read. -/
  line : Nat := 1
  origin : Origin := .argument 0
  script : Script := {}
  /-- The commands whose braces are open, with where they come from. -/
  braces : List (Nat × Origin × Nat) := []
  /-- Whether the text of the last command goes on. -/
  unfinished : Bool := false
deriving Repr

/-- What is said about a script that cannot be used, and the status of the program then. -/
structure Refusal where
  text : ByteText
  status : Nat := 1
deriving Repr, DecidableEq

/-- Reads something, or tells what is wrong at which place. -/
abbrev Reader := ExceptT Refusal (StateM ReadState)

namespace Reader

/-- Tells what is wrong at this place. -/
def fail {α : Type} (fault : Fault) : Reader α := do
  let s ← get
  throw { text := s.origin.complain s.count s.line fault }

/-- Goes to a later place. -/
def moveTo (rest : List Char) : Reader Unit := modify fun s =>
  let passed := s.rest.take (s.rest.length - rest.length)
  { s with rest, count := s.count + passed.length, line := s.line + passed.count '\n' }

/-- The next character, if there is one. -/
def next : Reader (Option Char) := do
  match (← get).rest with
  | [] => pure none
  | c :: rest =>
    moveTo rest
    pure (some c)

/-- Gives back the last character. -/
def back (c : Option Char) : Reader Unit :=
  match c with
  | none => pure ()
  | some c => modify fun s =>
    { s with
      rest := c :: s.rest
      count := s.count - 1
      line := if c = '\n' then s.line - 1 else s.line }

/-- The characters that satisfy a condition. -/
def takeWhile (p : Char → Bool) : Reader (List Char) := do
  let taken := (← get).rest.takeWhile p
  moveTo ((← get).rest.drop taken.length)
  pure taken

def isBlank (c : Char) : Bool := c = ' ' || c = '\t'

def isSpace (c : Char) : Bool := c = ' ' || ('\t' ≤ c && c ≤ '\r')

/-- The next character that is no blank. -/
def nextNonBlank : Reader (Option Char) := do
  let _ ← takeWhile isBlank
  next

/-- A number that begins with a character; without a digit it is zero. -/
def number (c : Option Char) : Reader Nat := do
  match c with
  | none => pure 0
  | some c =>
    if c.isDigit then
      let digits ← takeWhile Char.isDigit
      pure ((c :: digits).foldl (fun n c => 10 * n + (c.toNat - '0'.toNat)) 0)
    else
      back (some c)
      pure 0

def endOfCommand : Reader Unit := do
  match ← nextNonBlank with
  | none | some '\n' | some ';' => pure ()
  | some '}' => back (some '}')
  | some '#' => back (some '#')
  | some _ => fail .extraCharacters

/-- What stands in front of the next delimiter. -/
def delimited (delimiter : Option Char) (regex : Bool) (fault : Fault) : Reader (List Char) := do
  match delimiter with
  | none => fail fault
  | some d =>
    match splitAtDelimiter d regex .outside (← get).rest with
    | .ok (text, rest) =>
      moveTo rest
      pure text
    | .error rest =>
      moveTo rest
      fail fault

/-- A regular expression, with how many groups it has; an empty one stands for the one that was
looked for last. -/
def expression (folded lines : Bool) (text : List Char) : Reader (Option Regex × Nat) := do
  if text = [] then
    if folded || lines then fail .modifiers else pure (none, 9)
  else
    let style : RegexStyle := { extended := (← get).style.extended, folded, lines }
    match Regex.read style (unescapeRegex text.length text) with
    | .ok (r, groups) => pure (some r, groups)
    | .error .classOutside => throw { text := RegexFault.classOutside.text, status := 4 }
    | .error fault => fail (.regex fault)

/-! ## 4. Addresses -/

/-- The letters behind a regular expression that is an address. -/
def addressFlags : Nat → Bool → Bool → Reader (Bool × Bool)
  | 0, folded, lines => pure (folded, lines)
  | n + 1, folded, lines => do
    match ← nextNonBlank with
    | some 'I' => addressFlags n true lines
    | some 'M' => addressFlags n folded true
    | c =>
      back c
      pure (folded, lines)

/-- An address that begins with a character, if one does. -/
def address? (c : Option Char) : Reader (Option RangeEnd) := do
  match c with
  | none => pure none
  | some c =>
    if c = '/' || c = '\\' then
      let delimiter ← if c = '/' then pure (some c) else next
      let text ← delimited delimiter true .unterminatedAddress
      let (folded, lines) ← addressFlags ((← get).rest.length + 1) false false
      let (r, _) ← expression folded lines text
      pure (some (.address (.matching r)))
    else if c.isDigit then
      let first ← number (some c)
      match ← nextNonBlank with
      | some '~' =>
        let distance ← number (← nextNonBlank)
        pure (some (.address (if distance = 0 then .line first else .every first distance)))
      | other =>
        back other
        pure (some (.address (.line first)))
    else if c = '+' then pure (some (.after (← number (← nextNonBlank))))
    else if c = '~' then pure (some (.multiple (← number (← nextNonBlank))))
    else if c = '$' then pure (some (.address .last))
    else pure none

/-- The lines that a command is for that begins with a character, and the character behind them. -/
def selection (c : Option Char) : Reader (Selection × Option Char) := do
  match ← address? c with
  | none => pure (.all, c)
  | some (.address first) =>
    let c ← nextNonBlank
    if c = some ',' then
      match ← address? (← nextNonBlank) with
      | none => fail .unexpectedComma
      | some last =>
        let c ← nextNonBlank
        match first, last with
        | .line 0, .address (.matching _) => pure (.range first last, c)
        | .line 0, _ => fail .lineZero
        | _, _ => pure (.range first last, c)
    else if first = .line 0 then fail .lineZero
    else pure (.one first, c)
  | some _ => fail .stepAddress

/-! ## 5. Parts of commands -/

def label : Reader ByteText := do
  let _ ← takeWhile isBlank
  let name ← takeWhile fun c => !isSpace c && c ≠ ';' && c ≠ '}' && c ≠ '#'
  pure (String.ofList name)

def fileName : Reader ByteText := do
  let _ ← takeWhile isBlank
  let name ← takeWhile (· ≠ '\n')
  if name = [] then fail .missingName
  let _ ← next
  pure (String.ofList name)

/-- Where text is written to under a name. -/
def sink (name : ByteText) : Reader Sink := do
  if name == "/dev/stdout" then pure .standard
  else if name == "/dev/stderr" then pure .complaints
  else
    let files := (← get).script.files
    match files.findIdx? (· == name) with
    | some index => pure (.file index)
    | none =>
      modify fun s => { s with script.files := files ++ [name] }
      pure (.file files.length)

/-- The text of a command up to the end of its line. -/
def textBody : Reader Bytes := do
  let rest := (← get).rest
  let (text, after, unfinished) := splitText (rest.length + 1) rest
  moveTo after
  modify fun s => { s with unfinished }
  pure (ByteText.toBytes (String.ofList text) ++ if unfinished && text = [] then [] else [10])

def text : Reader Bytes := do
  match ← nextNonBlank with
  | none => fail .missingText
  | some '\\' =>
    let rest := (← get).rest
    if rest = [] then
      modify fun s => { s with unfinished := true }
      pure []
    else
      match rest.dropWhile isBlank with
      | '\n' :: rest => moveTo rest
      | _ => pure ()
      textBody
  | c =>
    back c
    textBody

/-- The letters behind a substitution. -/
structure SubstituteFlags where
  number : Option Nat := none
  all : Bool := false
  prints : Bool := false
  folded : Bool := false
  lines : Bool := false
  sink : Option Sink := none

/-- Reads the letters behind a substitution; the number bounds how many there are. -/
def substituteFlags : Nat → SubstituteFlags → Reader SubstituteFlags
  | 0, f => pure f
  | n + 1, f => do
    match ← nextNonBlank with
    | none | some '\n' | some ';' => pure f
    | some '}' =>
      back (some '}')
      pure f
    | some '#' =>
      back (some '#')
      pure f
    | some 'i' | some 'I' => substituteFlags n { f with folded := true }
    | some 'm' | some 'M' => substituteFlags n { f with lines := true }
    | some 'g' =>
      if f.all then fail (.severalOptions 'g')
      substituteFlags n { f with all := true }
    | some 'p' =>
      if f.prints then fail (.severalOptions 'p')
      substituteFlags n { f with prints := true }
    | some 'w' =>
      if (← get).style.harmless then fail .disallowed
      let found ← sink (← fileName)
      pure { f with sink := some found }
    | some c =>
      if c.isDigit then
        if f.number.isSome then fail .severalNumbers
        let k ← number (some c)
        if k = 0 then fail .numberZero
        substituteFlags n { f with number := some k }
      else fail .unknownOption

/-- What follows the letter of a substitution. -/
def substitution : Reader Action := do
  let delimiter ← next
  let pattern ← delimited delimiter true (.unterminated 's')
  let replacement ← delimited delimiter false (.unterminated 's')
  let parts := readParts replacement.length replacement
  let f ← substituteFlags ((← get).rest.length + 1) {}
  let (r, groups) ← expression f.folded f.lines pattern
  if groups < highestGroup parts then fail (.reference (highestGroup parts))
  pure (.substitute
    { expression := r, parts, number := f.number.getD 1, all := f.all, prints := f.prints,
      sink := f.sink })

/-- What follows the letter of a transliteration. -/
def transliteration : Reader Action := do
  let delimiter ← next
  let side : Reader Bytes := do
    let text ← delimited delimiter false (.unterminated 'y')
    pure (ByteText.toBytes (String.ofList (unescape text.length text)))
  let first ← side
  let second ← side
  if first.length ≠ second.length then fail .differentLengths
  endOfCommand
  pure (.translate (first.zip second))

/-- A number that may stand behind a command, and the end of the command. -/
def optionalNumber : Reader (Option Nat) := do
  let c ← nextNonBlank
  if c.any Char.isDigit then
    let n ← number c
    endOfCommand
    pure (some n)
  else
    back c
    endOfCommand
    pure none

/-- The version of the script language, as the numbers that stand between its points. -/
def version : List Nat := [4, 9]

def isNewer : List Nat → List Nat → Bool
  | [], _ => false
  | _ :: _, [] => true
  | a :: as, b :: bs => b < a || a = b && isNewer as bs

/-! ## 6. Commands -/

/-- A command that ends behind its letter. -/
def simple (a : Action) : Reader (Option Action) := do
  endOfCommand
  pure (some a)

/-- What a command does that begins with a letter; nothing if it only matters for reading. -/
def action (selection : Selection) (c : Char) : Reader (Option Action) := do
  let forFiles : Reader ByteText := do
    if (← get).style.harmless then fail .disallowed
    fileName
  match c with
  | '#' =>
    if selection ≠ .all then fail .commentAddress
    let _ ← takeWhile (· ≠ '\n')
    pure none
  | 'v' =>
    let wanted := ((← label).splitOn ".").map (·.toNat?.getD 0)
    if isNewer wanted version then fail .newerVersion
    pure none
  | ':' =>
    if selection ≠ .all then fail .labelAddress
    let name ← label
    if name = "" then fail .missingLabel
    modify fun s => { s with script.labels := (name, s.script.commands.size) :: s.script.labels }
    pure (some .label)
  | '{' =>
    modify fun s => { s with braces := (s.script.commands.size, s.origin, s.line) :: s.braces }
    pure (some (.openBrace 0))
  | '}' =>
    match (← get).braces with
    | [] => fail .unexpectedBrace
    | (opening, _, _) :: braces =>
      if selection ≠ .all then fail .braceAddress
      endOfCommand
      modify fun s =>
        { s with
          braces
          script.commands := s.script.commands.modify opening fun command =>
            { command with action := .openBrace s.script.commands.size } }
      pure (some .closeBrace)
  | 'a' => return some (.append (← text))
  | 'i' => return some (.insert (← text))
  | 'c' => return some (.change (← text))
  | 'b' => return some (.jump .always (← label))
  | 't' => return some (.jump .ifReplaced (← label))
  | 'T' => return some (.jump .unlessReplaced (← label))
  | '=' => simple .showNumber
  | 'd' => simple .delete
  | 'D' => simple .deleteFirst
  | 'F' => simple .showName
  | 'g' => simple (.fetch false)
  | 'G' => simple (.fetch true)
  | 'h' => simple (.hold false)
  | 'H' => simple (.hold true)
  | 'n' => simple .next
  | 'N' => simple .nextAdded
  | 'p' => simple .print
  | 'P' => simple .printFirst
  | 'x' => simple .exchange
  | 'z' => simple .clear
  | 'l' => return some (.show (← optionalNumber))
  | 'q' | 'Q' =>
    match selection with
    | .range .. => fail .oneAddress
    | _ => return some (.quit (c = 'Q') ((← optionalNumber).getD 0))
  | 'r' => return some (.readFile (← forFiles))
  | 'R' => return some (.readLine (← forFiles))
  | 'w' => return some (.write false (← sink (← forFiles)))
  | 'W' => return some (.write true (← sink (← forFiles)))
  | 's' => return some (← substitution)
  | 'y' => return some (← transliteration)
  | c => fail (.unknownCommand c)

/-- A command that begins with a character. -/
def command (c : Char) : Reader Unit := do
  let (selection, c) ← selection (some c)
  let negated := c = some '!'
  let c ← if negated then nextNonBlank else pure c
  if negated && c = some '!' then fail .severalNegations
  match c with
  | none => fail .missingCommand
  | some c =>
    match ← action selection c with
    | none => pure ()
    | some action =>
      modify fun s =>
        { s with script.commands := s.script.commands.push { selection, negated, action } }

/-- All commands; the number bounds how many there are. -/
def commands : Nat → Reader Unit
  | 0 => pure ()
  | n + 1 => do
    let _ ← takeWhile fun c => isSpace c || c = ';'
    match ← next with
    | none => pure ()
    | some c =>
      command c
      commands n

/-- Goes on with the text of the last command. -/
def continueText : Reader Unit := do
  let more ← textBody
  modify fun s =>
    { s with script.commands := s.script.commands.modify (s.script.commands.size - 1) fun command =>
      { command with
        action := match command.action with
          | .append text => .append (text ++ more)
          | .insert text => .insert (text ++ more)
          | .change text => .change (text ++ more)
          | other => other } }

end Reader

namespace ReadState

/-- Reads one more piece of a script; tells why that was not possible to its end. -/
def readPiece (s : ReadState) (origin : Origin) (piece : ByteText) :
    Option Refusal × ReadState :=
  let rest := piece.toList
  let begins := s.origin = .argument 0
  let quiet := s.script.quiet || (begins && ['#', 'n'].isPrefixOf rest)
  let s := { s with rest, count := 0, line := 1, origin, script.quiet := quiet }
  let reading : Reader Unit := do
    if s.unfinished then Reader.continueText
    Reader.commands (rest.length + 1)
  match reading.run s with
  | (.ok _, s) => (none, s)
  | (.error refusal, s) => (some refusal, s)

/-- The script, when all its pieces were read. -/
def finish (s : ReadState) : Except Refusal Script := do
  match s.braces with
  | (_, origin, line) :: _ => throw { text := origin.complain 0 line .unmatchedBrace }
  | [] =>
    match s.script.missingLabel? with
    | some label => throw { text := "can't find label for jump to " ++ quote label, status := 4 }
    | none => pure s.script

end ReadState
end CommandShell.Edit
