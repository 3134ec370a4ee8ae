/-
# Pipeline segments of a line

A pipe character that is neither quoted nor escaped separates two stages of a pipeline.
`Segment.split` cuts a line at all of them and keeps every other character where it stands, so the
segments joined by pipe characters are the line again.  It follows quotes and escapes by the rules
of `Word.readAll`, but needs to know no more than which quotes are open.
-/
namespace CommandShell.Segment

/-- The quotes that are open at a point of a line. -/
inductive Quotes
  | none
  | single
  | double
deriving Repr, DecidableEq

/-- The segments of the rest of a line, where `seg` is the segment begun so far. -/
def splitFrom : Quotes → String → List Char → List String
  | _, seg, [] => [seg]
  | .single, seg, c :: cs =>
    splitFrom (if c = '\'' then .none else .single) (seg.push c) cs
  | .double, seg, '\\' :: '\\' :: cs => splitFrom .double ((seg.push '\\').push '\\') cs
  | .double, seg, '\\' :: '"' :: cs => splitFrom .double ((seg.push '\\').push '"') cs
  | .double, seg, c :: cs =>
    splitFrom (if c = '"' then .none else .double) (seg.push c) cs
  | .none, seg, '\\' :: c :: cs => splitFrom .none ((seg.push '\\').push c) cs
  | .none, seg, c :: cs =>
    if c = '|' then seg :: splitFrom .none "" cs
    else if c = '\'' then splitFrom .single (seg.push c) cs
    else if c = '"' then splitFrom .double (seg.push c) cs
    else splitFrom .none (seg.push c) cs

/-- The line cut at its bare pipe characters; a line without one is a single segment. -/
def split (line : String) : List String := splitFrom .none "" line.toList

end CommandShell.Segment
