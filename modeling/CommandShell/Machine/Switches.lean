/-
# Switches of installed programs

The installed programs read their arguments in one way.  A switch is a letter behind a dash, where
letters may share a dash, or a name behind two dashes, which may be cut short as long as it is clear
which one is meant.  A switch may want a value: the rest of its argument or the next argument, and
for a name what follows an equals sign.  Switches and operands may be mixed; `--` ends the switches.

A program acts on its switches one by one, so those in front of a fault are still found
(`Switches.read`).
-/
import CommandShell.Machine.ByteText

namespace CommandShell

/-- Whether a switch takes a value. -/
inductive Wants
  | nothing
  | value
  /-- Only when it is written in the same argument; with a value it is the switch of this letter. -/
  | perhaps (given : Char)
deriving Repr, DecidableEq

/-- What switches a program knows. -/
structure Switches where
  letters : List (Char × Wants) := []
  /-- The names, each with the letter that means the same. -/
  names : List (String × Wants × Char) := []
deriving Repr

namespace Switches

/-- Letters that want no value. -/
def plain (letters : String) : List (Char × Wants) := letters.toList.map (·, .nothing)

/-- Letters that want a value. -/
def valued (letters : String) : List (Char × Wants) := letters.toList.map (·, .value)

/-- What was found in arguments: the switches with their values, and the operands or what is wrong
with the first switch that is not all right. -/
structure Found where
  switches : List (Char × ByteText) := []
  operands : Except ByteText (List ByteText) := .ok []

/-- What was found, with a switch in front. -/
def Found.switch (c : Char) (value : ByteText) (f : Found) : Found :=
  { f with switches := (c, value) :: f.switches }

/-- What was found, with an operand in front. -/
def Found.operand (arg : ByteText) (f : Found) : Found :=
  { f with operands := f.operands.map (arg :: ·) }

/-- A text in single quotes. -/
def inQuotes (s : ByteText) : ByteText := "'" ++ s ++ "'"

/-- The names that a switch, written as given, may mean. -/
def candidates (known : Switches) (written : String) : List (String × Wants × Char) :=
  match known.names.filter (·.1 == written) with
  | [] =>
    let begun := known.names.filter (written.isPrefixOf ·.1)
    match begun with
    | first :: rest => if rest.all (·.2 == first.2) then [first] else begun
    | [] => []
  | exact => exact

/-- Reads the letters behind a dash. -/
def readLetters (known : Switches) (follow : List ByteText → Found) (rest : List ByteText) :
    List Char → Found
  | [] => follow rest
  | c :: cs =>
    match known.letters.lookup c with
    | none => { operands := .error ("invalid option -- " ++ inQuotes (String.singleton c)) }
    | some .nothing => (readLetters known follow rest cs).switch c ""
    | some (.perhaps given) =>
      (follow rest).switch (if cs = [] then c else given) (String.ofList cs)
    | some .value =>
      if cs ≠ [] then (follow rest).switch c (String.ofList cs)
      else match rest with
        | value :: rest => (follow rest).switch c value
        | [] =>
          { operands :=
              .error ("option requires an argument -- " ++ inQuotes (String.singleton c)) }

/-- Reads a name behind two dashes, with what follows an equals sign. -/
def readName (known : Switches) (follow : List ByteText → Found) (rest : List ByteText)
    (name : String) (given : Option ByteText) : Found :=
  let refuse (message : ByteText) : Found := { operands := .error message }
  let written := "--" ++ name ++ (given.map ("=" ++ ·)).getD ""
  match known.candidates name with
  | [] => refuse ("unrecognized option " ++ inQuotes written)
  | [(full, wants, c)] =>
    match wants, given with
    | .nothing, none => (follow rest).switch c ""
    | .nothing, some _ =>
      refuse ("option " ++ inQuotes ("--" ++ full) ++ " doesn't allow an argument")
    | .perhaps given, some value => (follow rest).switch given value
    | .value, some value => (follow rest).switch c value
    | .perhaps _, none => (follow rest).switch c ""
    | .value, none =>
      match rest with
      | value :: rest => (follow rest).switch c value
      | [] => refuse ("option " ++ inQuotes ("--" ++ full) ++ " requires an argument")
  | several =>
    refuse ("option " ++ inQuotes written ++ " is ambiguous; possibilities:"
      ++ String.join (several.map fun (full, _) => " " ++ inQuotes ("--" ++ full)))

/-- Reads arguments; `mixed` tells whether switches may follow operands, and the number bounds how
many arguments there are. -/
def readFrom (known : Switches) (mixed : Bool) : Nat → List ByteText → Found
  | 0, args => { operands := .ok args }
  | _, [] => {}
  | n + 1, arg :: rest =>
    match arg.toList with
    | ['-', '-'] => { operands := .ok rest }
    | '-' :: '-' :: cs =>
      let name := cs.takeWhile (· ≠ '=')
      let given := if name.length < cs.length then some (String.ofList (cs.drop (name.length + 1)))
        else none
      known.readName (known.readFrom mixed n) rest (String.ofList name) given
    | '-' :: c :: cs => known.readLetters (known.readFrom mixed n) rest (c :: cs)
    | _ => if mixed then (known.readFrom mixed n rest).operand arg
      else { operands := .ok (arg :: rest) }

def read (known : Switches) (args : List ByteText) : Found :=
  known.readFrom true (args.length + 1) args

/-- Reads arguments of which all behind the first operand are operands. -/
def readInFront (known : Switches) (args : List ByteText) : Found :=
  known.readFrom false (args.length + 1) args

end Switches
end CommandShell
