/-
# Words to choose from

Some switches of installed programs take one of a few words as their value.  A word may be cut short
as long as it is clear what is meant (`Choice.read`).
-/
import CommandShell.Machine.NameQuoting

namespace CommandShell

/-- The words that a switch takes, each with what it means; those that mean the same stand one after
the other. -/
structure Choice (α : Type) where
  switch : String
  words : List (String × α)

namespace Choice

variable {α : Type} [DecidableEq α]

/-- The words as a list that is shown, after a word with some meaning. -/
def listing : Option α → List (String × α) → ByteText
  | _, [] => ""
  | last, (word, meaning) :: rest =>
    (if last = some meaning then ", " else "\n  - ") ++ "'" ++ word ++ "'"
      ++ listing (some meaning) rest

/-- What is said about a value that means nothing, or not one thing only. -/
def complaint (c : Choice α) (what value : ByteText) : ByteText :=
  what ++ " argument " ++ NameQuoting.inSingleQuotes value ++ " for '--" ++ c.switch
    ++ "'\nValid arguments are:" ++ listing none c.words

/-- What a value means, or what is wrong with it. -/
def read (c : Choice α) (value : ByteText) : Except ByteText α :=
  match c.words.lookup value, c.words.filter (value.isPrefixOf ·.1) with
  | some meaning, _ => .ok meaning
  | none, [] => .error (c.complaint "invalid" value)
  | none, (_, meaning) :: rest =>
    if rest.all (·.2 = meaning) then .ok meaning else .error (c.complaint "ambiguous" value)

end Choice
end CommandShell
