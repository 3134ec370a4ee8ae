/-
# The first line of a script

A file that may be run but is no program of its own names its interpreter on its first line, behind
`#!`.  The line is looked for in the first 256 bytes of the file; a shorter file counts as if it
were filled up with zeros.  Only blanks -- spaces and tabs -- separate the name from what surrounds
it, and a zero ends it.  What follows the name is one argument, without the blanks around it.  If no
line ends within these bytes, the argument may be cut off, but not the name.
-/
import CommandShell.Machine.ByteText

namespace CommandShell.FirstLine

/-- How many bytes of a file are looked at. -/
def window : Nat := 256

/-- Whether a byte separates the name from its argument. -/
def isBlank (b : UInt8) : Bool := b == 32 || b == 9

/-- Whether a byte ends the name. -/
def endsName (b : UInt8) : Bool := isBlank b || b == 0

/-- Bytes without the blanks at their end. -/
def trimEnd (s : Bytes) : Bytes := (s.reverse.dropWhile isBlank).reverse

/-- The name of an interpreter and its argument, from what stands behind `#!`. -/
def read? (s : Bytes) : Option (ByteText × Option ByteText) :=
  let s := (trimEnd s).dropWhile isBlank
  let name := s.takeWhile (!endsName ·)
  let rest := s.drop name.length
  let argument := ((rest.dropWhile isBlank).takeWhile (· ≠ 0))
  if name = [] then none
  else
    some (ByteText.ofBytes name,
      if rest.head? = some 0 || argument = [] then none else some (ByteText.ofBytes argument))

/-- The interpreter of a script and its argument. -/
def interpreter? (content : Bytes) : Option (ByteText × Option ByteText) :=
  let shown := content.take window ++ List.replicate (window - content.length) 0
  match shown with
  | 35 :: 33 :: rest =>
    let text := rest.takeWhile (· ≠ 0)
    if text.contains 10 then read? (text.takeWhile (· ≠ 10))
    else if (rest.dropWhile isBlank).any endsName then read? rest.dropLast
    else none
  | _ => none

end CommandShell.FirstLine
