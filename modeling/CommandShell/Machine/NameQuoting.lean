/-
# File names in messages

The installed programs show a file name so that it can be given to a command shell again: as it is
when it holds nothing that a shell treats specially, else in single quotes (`quotedIfNeeded`).  A
quote inside the name is written outside the quotes, behind a backslash, and bytes that do not print
are written as escapes in a `$'…'` of their own.  A name whose only trouble is a single quote is put
in double quotes.  Every byte beyond ASCII counts as one that does not print.
-/
import CommandShell.Machine.ByteText

namespace CommandShell.NameQuoting

/-! ## 1. Classes of bytes -/

/-- The letter or digits that stand for a byte that does not print, behind a backslash. -/
def escape? (b : UInt8) : Option String :=
  match b with
  | 7 => some "a"
  | 8 => some "b"
  | 9 => some "t"
  | 10 => some "n"
  | 11 => some "v"
  | 12 => some "f"
  | 13 => some "r"
  | b =>
    if b < 32 || 127 ≤ b then
      some (toString (b / 64) ++ toString (b / 8 % 8) ++ toString (b % 8))
    else none

open ByteText

/-- Whether a byte is one of some characters. -/
def isOneOf (chars : String) (b : UInt8) : Bool := (chars.toList.map byteOf).contains b

/-- Whether a name that is not empty can stand without quotes. -/
def isPlain (name : Bytes) : Bool :=
  name.all (fun b => (escape? b).isNone && !isOneOf " !\"$&'()*:;<=>?[\\^\x60|" b)
    && !(name.head?.any (isOneOf "#~"))
    && !(name.length == 1 && name.all (isOneOf "\x7b\x7d"))

/-- Whether a name can stand in double quotes, which is shorter when it holds a single quote. -/
def fitsDoubleQuotes (name : Bytes) : Bool :=
  name.contains (byteOf '\'')
    && name.all (fun b => (escape? b).isNone && !isOneOf "!\"$&()*;<=>?[\\^\x60\x7b|\x7d" b)
    && name.tail.all (!isOneOf "#~" ·)

/-! ## 2. Quoting -/

/-- The rest of a name inside single quotes; `escaping` tells whether the quotes that are open
hold escapes. -/
def quoteFrom (escaping : Bool) : Bytes → String
  | [] => "'"
  | b :: rest =>
    if b = byteOf '\'' then "'\\''" ++ quoteFrom false rest
    else match escape? b with
      | some e => (if escaping then "\\" else "'$'\\") ++ e ++ quoteFrom true rest
      | none =>
        (if escaping then "''" else "") ++ String.singleton (Char.ofNat b.toNat)
          ++ quoteFrom false rest

/-- A text in single quotes, with what does not print in it escaped, and a quote as well. -/
def inSingleQuotes (text : ByteText) : ByteText :=
  "'" ++ String.join ((toBytes text).map fun b =>
    match escape? b with
    | some e => "\\" ++ e
    | none =>
      if b = byteOf '\'' || b = byteOf '\\' then "\\" ++ String.singleton (charOf b)
      else String.singleton (charOf b)) ++ "'"

/-- A name in quotes. -/
def quoted (name : ByteText) : ByteText :=
  let bytes := toBytes name
  if fitsDoubleQuotes bytes then "\"" ++ name ++ "\"" else "'" ++ quoteFrom false bytes

/-- A name, in quotes if it needs them. -/
def quotedIfNeeded (name : ByteText) : ByteText :=
  if name ≠ "" ∧ isPlain (toBytes name) then name else quoted name

end CommandShell.NameQuoting
