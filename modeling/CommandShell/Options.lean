/-
# Options and operands

The arguments of a command are read from the left.  `help` and `--help` ask for the help text;
`--` ends the options; any other argument that starts with a dash is an option, whose value is the
next argument, whatever it is; every other argument is an operand.  After the end of the options
all arguments are operands, and a command that takes many operands ends its options with the first.

`Grammar.read` reads the arguments that a `Grammar` describes.  Whatever is wrong first decides how
they are refused (`Complaint`).  The help text is made from the same grammar (`Grammar.help`).
-/
import CommandShell.Text.Lines

namespace CommandShell

/-! ## 1. Grammars -/

/-- An option.  It takes a value and may be given once. -/
structure OptionSpec where
  /-- The name after two dashes, which is also the name of the value. -/
  long : String
  /-- The letter after one dash. -/
  short : Option Char := none
  about : String
deriving Repr, DecidableEq

/-- The operands that a command takes, with how their texts are read. -/
inductive Operands (α : Type)
  | none
  /-- At most one; reading it fails with a reason. -/
  | atMostOne (name about : String) (read : String → Except String α)
  /-- Any number. -/
  | many (name : String) (read : String → α)

/-- The arguments that a command takes. -/
structure Grammar (α : Type) where
  command : String
  about : String
  options : List OptionSpec := []
  operands : Operands α

/-- What is wrong with arguments. -/
inductive Complaint
  /-- An option after the help text was asked for. -/
  | trailing
  | unrecognized (arg : String)
  | missingValue (option : String)
  | duplicate (option value : String)
  | invalidOperand (name value reason : String)
deriving Repr, DecidableEq

def Complaint.message : Complaint → String
  | .trailing => "Trailing arguments are not allowed after `help`."
  | .unrecognized arg => "Unrecognized argument: " ++ arg ++ "\n"
  | .missingValue option => "No value provided for option '" ++ option ++ "'.\n"
  | .duplicate option value =>
    "Error parsing option '" ++ option ++ "' with value '" ++ value
      ++ "': duplicate values provided\n"
  | .invalidOperand name value reason =>
    "Error parsing positional argument '" ++ name ++ "' with value '" ++ value ++ "': "
      ++ reason ++ "\n"

/-- What has been read of some arguments. -/
structure Reading (α : Type) where
  /-- Whether the help text has been asked for. -/
  helpWanted : Bool := false
  /-- Whether the options are over. -/
  optionsOver : Bool := false
  /-- The values of options, by the long names. -/
  values : List (String × String) := []
  operands : List α := []
deriving Repr

namespace Grammar

variable {α : Type}

/-! ## 2. Reading -/

/-- The option that an argument names. -/
def option? (g : Grammar α) (arg : String) : Option OptionSpec :=
  g.options.find? fun o => arg == "--" ++ o.long || o.short.any fun c => arg == "-" ++ c.toString

def asksForHelp (arg : String) : Bool := arg == "--help" || arg == "help"

def looksLikeOption (arg : String) : Bool := arg.toList.head? == some '-'

def readOperand (g : Grammar α) (r : Reading α) (arg : String) : Except Complaint (Reading α) :=
  match g.operands with
  | .none => .error (.unrecognized arg)
  | .atMostOne name _ read =>
    if r.operands.isEmpty then
      match read arg with
      | .ok a => .ok { r with operands := [a] }
      | .error reason => .error (.invalidOperand name arg reason)
    else .error (.unrecognized arg)
  | .many _ read => .ok { r with operands := r.operands ++ [read arg], optionsOver := true }

/-- Reads arguments after some have been read. -/
def readFrom (g : Grammar α) (r : Reading α) : List String → Except Complaint (Reading α)
  | [] => .ok r
  | arg :: rest =>
    if r.optionsOver then
      match g.readOperand r arg with
      | .ok r => readFrom g r rest
      | .error c => .error c
    else if asksForHelp arg then readFrom g { r with helpWanted := true } rest
    else if arg = "--" then readFrom g { r with optionsOver := true } rest
    else if looksLikeOption arg then
      if r.helpWanted then .error .trailing
      else
        match g.option? arg, rest with
        | none, _ => .error (.unrecognized arg)
        | some _, [] => .error (.missingValue arg)
        | some o, value :: rest =>
          if (r.values.lookup o.long).isSome then .error (.duplicate arg value)
          else readFrom g { r with values := r.values ++ [(o.long, value)] } rest
    else
      match g.readOperand r arg with
      | .ok r => readFrom g r rest
      | .error c => .error c

def read (g : Grammar α) (args : List String) : Except Complaint (Reading α) := g.readFrom {} args

/-! ## 3. Help -/

/-- Where descriptions start in a line of the help text. -/
def helpColumn : Nat := 20

/-- The number of characters that a line of the help text has at most. -/
def helpWidth : Nat := 80

def spaces (n : Nat) : String := String.ofList (List.replicate n ' ')

/-- Puts words behind a line, and on new lines where it is full. -/
def fill (line : String) (fresh : Bool) : List String → List String
  | [] => [line]
  | word :: rest =>
    if fresh then fill (line ++ word) false rest
    else if line.length + 1 + word.length ≤ helpWidth then fill (line ++ " " ++ word) false rest
    else line :: fill (spaces helpColumn ++ word) false rest

/-- The lines that describe one argument. -/
def helpEntry (name about : String) : List String :=
  fill ("  " ++ name ++ spaces (helpColumn - 2 - name.length)) true (Text.fields ' ' about)

/-- How an option is spelled in the usage line. -/
def optionUsage (o : OptionSpec) : String :=
  let name := match o.short with
    | some c => "-" ++ c.toString
    | none => "--" ++ o.long
  " [" ++ name ++ " <" ++ o.long ++ ">]"

/-- How an option is named in its description. -/
def optionNames (o : OptionSpec) : String :=
  match o.short with
  | some c => "-" ++ c.toString ++ ", --" ++ o.long
  | none => "--" ++ o.long

def usage (g : Grammar α) : String :=
  "Usage: " ++ g.command ++ String.join (g.options.map optionUsage)
    ++ match g.operands with
      | .none => ""
      | .atMostOne name _ _ => " [--] [<" ++ name ++ ">]"
      | .many name _ => " [" ++ name ++ "...]"

/-- The lines about operands. -/
def operandLines (g : Grammar α) : List String :=
  match g.operands with
  | .atMostOne name about _ => ["Positional Arguments:"] ++ helpEntry name about ++ [""]
  | _ => []

def help (g : Grammar α) : String :=
  "\n".intercalate
    ([g.usage, "", g.about, ""] ++ g.operandLines ++ ["Options:"]
      ++ g.options.flatMap (fun o => helpEntry (optionNames o) o.about)
      ++ helpEntry "--help, help" "display usage information")
    ++ "\n"

end Grammar
end CommandShell
