/-
# Options of the commands of the language

An option of a command of the script language is a letter behind a dash; letters may share a dash,
and a letter may want a value, which is the rest of its argument or the next argument.  Options end
at the first other argument, or at `--`.
-/
import CommandShell.Machine.Script.Runner

namespace CommandShell.Script.Letters

/-- The options that were found, and the other arguments. -/
abbrev Found := List (Char × ByteText) × List ByteText

/-- Reads the letters of one argument. -/
def letters (plain valued : List Char) : List Char → List ByteText → Runner Found
  | [], rest => pure ([], rest)
  | c :: cs, rest =>
    if plain.contains c then do
      let (found, rest) ← letters plain valued cs rest
      pure ((c, "") :: found, rest)
    else if valued.contains c then
      match cs, rest with
      | [], value :: rest => pure ([(c, value)], rest)
      | [], [] => Runner.fail ("No arg for -" ++ String.singleton c ++ " option")
      | cs, rest => pure ([(c, String.ofList cs)], rest)
    else Runner.fail ("Illegal option -" ++ String.singleton c)

/-- Reads options; the number bounds how many arguments there are. -/
def readFrom (plain valued : List Char) : Nat → List ByteText → Runner Found
  | 0, args => pure ([], args)
  | _, [] => pure ([], [])
  | n + 1, arg :: rest => do
    match arg.toList with
    | ['-', '-'] => pure ([], rest)
    | '-' :: c :: cs =>
      let (found, rest) ← letters plain valued (c :: cs) rest
      let (more, rest) ← readFrom plain valued n rest
      pure (found ++ more, rest)
    | _ => pure ([], arg :: rest)

/-- Reads options, where some letters stand alone and some want a value. -/
def read (plain valued : String) (args : List ByteText) : Runner Found :=
  readFrom plain.toList valued.toList (args.length + 1) args

/-- The arguments of a command that has no options. -/
def operands (args : List ByteText) : Runner (List ByteText) := return (← read "" "" args).2

end CommandShell.Script.Letters
