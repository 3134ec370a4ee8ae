/-
# Fields and lines of a text

`fields` cuts a text at every occurrence of a separator; `lines` reads a text as a file of lines
and `unlines` writes one.  Reading takes a line feed, or a carriage return and a line feed, as the
end of a line; a last line without an end counts too, and keeps its carriage return.  Writing ends
every line with a line feed.
-/
namespace CommandShell.Text

/-! ## 1. Fields -/

/-- The fields of the rest of a text, where `field` is the one begun so far. -/
def fieldsFrom (sep : Char) : String → List Char → List String
  | field, [] => [field]
  | field, c :: cs =>
    if c = sep then field :: fieldsFrom sep "" cs else fieldsFrom sep (field.push c) cs

/-- The parts of a text between the occurrences of a separator; there is always at least one. -/
def fields (sep : Char) (s : String) : List String := fieldsFrom sep "" s.toList

/-! ## 2. Lines -/

/-- The text without one carriage return at its end, if it has one there. -/
def dropReturn (s : String) : String :=
  if s.toList.getLast? = some '\r' then String.ofList s.toList.dropLast else s

/-- The lines of the rest of a text, where `line` is the one begun so far. -/
def linesFrom : String → List Char → List String
  | line, [] => if line = "" then [] else [line]
  | line, c :: cs =>
    if c = '\n' then dropReturn line :: linesFrom "" cs else linesFrom (line.push c) cs

def lines (s : String) : List String := linesFrom "" s.toList

/-- The text that holds the given lines. -/
def unlines : List String → String
  | [] => ""
  | line :: rest => line ++ "\n" ++ unlines rest

end CommandShell.Text
