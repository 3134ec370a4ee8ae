/-
# Patterns for names

A pattern of the script language is a text in which `*` stands for any characters, `?` for one, and
brackets for one of several, while a backslash takes its meaning from the character behind it.  A
bracket that is not closed stands for itself.
-/
import CommandShell.Machine.ByteClass
import CommandShell.Machine.ByteText

namespace CommandShell.Script.Glob

/-! ## 1. Brackets -/

/-- The class that stands at the start of a text, behind its bracket, and what follows it. -/
def namedClass? (cs : List Char) : Option ((Char → Bool) × List Char) :=
  match cs with
  | ':' :: rest =>
    let name := rest.takeWhile Char.isAlpha
    match rest.drop name.length with
    | ':' :: ']' :: rest =>
      (byteClass? (String.ofList name)).map fun p => (p ∘ ByteText.byteOf, rest)
    | _ => none
  | _ => none

/-- The characters that brackets stand for, and what follows them; nothing if they are not closed.
`first` tells whether a closing bracket stands for itself, and the number bounds how much is
read. -/
def members? : Nat → Bool → List Char → Option ((Char → Bool) × List Char)
  | 0, _, _ => none
  | _, _, [] => none
  | n + 1, first, c :: cs =>
    if c = ']' && !first then some (fun _ => false, cs)
    else
      let named := if c = '[' then namedClass? cs else none
      match named with
      | some (p, rest) => (members? n false rest).map fun (q, rest) => (fun x => p x || q x, rest)
      | none =>
        let (low, rest) : Option Char × List Char := match c, cs with
          | '\\', d :: rest => (some d, rest)
          | '\\', [] => (none, [])
          | c, cs => (some c, cs)
        match low, rest with
        | none, _ => none
        | some low, '-' :: '\\' :: high :: rest =>
          (members? n false rest).map fun (q, rest) =>
            (fun x => (low ≤ x && x ≤ high) || q x, rest)
        | some low, '-' :: high :: rest' =>
          if high = ']' then
            (members? n false rest).map fun (q, rest) => (fun x => x == low || q x, rest)
          else
            (members? n false rest').map fun (q, rest) =>
              (fun x => (low ≤ x && x ≤ high) || q x, rest)
        | some low, rest =>
          (members? n false rest).map fun (q, rest) => (fun x => x == low || q x, rest)

/-- The characters that a bracket stands for which was read, and what follows. -/
def bracket? (cs : List Char) : Option ((Char → Bool) × List Char) :=
  match cs with
  | '!' :: rest => (members? (rest.length + 1) true rest).map fun (p, rest) => (fun x => !p x, rest)
  | cs => members? (cs.length + 1) true cs

/-! ## 2. Matching -/

/-- An element of a pattern. -/
inductive Item
  | one (p : Char → Bool)
  | many

/-- The elements of a pattern; the number bounds how many. -/
def items : Nat → List Char → List Item
  | 0, _ => []
  | _, [] => []
  | n + 1, c :: cs =>
    match c with
    | '*' => .many :: items n cs
    | '?' => .one (fun _ => true) :: items n cs
    | '\\' =>
      match cs with
      | d :: rest => .one (· == d) :: items n rest
      | [] => [.one (· == '\\')]
    | '[' =>
      match bracket? cs with
      | some (p, rest) => .one p :: items n rest
      | none => .one (· == '[') :: items n cs
    | c => .one (· == c) :: items n cs

/-- Whether some ending of a text satisfies a condition. -/
def anyEnding (p : List Char → Bool) : List Char → Bool
  | [] => p []
  | c :: cs => p (c :: cs) || anyEnding p cs

/-- Whether elements of a pattern stand for a whole text. -/
def matchItems : List Item → List Char → Bool
  | [], cs => cs.isEmpty
  | .one p :: rest, c :: cs => p c && matchItems rest cs
  | .one _ :: _, [] => false
  | .many :: rest, cs => anyEnding (matchItems rest) cs

/-- Whether a pattern stands for a whole text. -/
def matches? (pattern text : ByteText) : Bool :=
  matchItems (items (pattern.length + 1) pattern.toList) text.toList

/-- Whether a part of a pattern stands for more than one text. -/
def isOpen : Nat → List Char → Bool
  | 0, _ => false
  | _, [] => false
  | n + 1, c :: cs =>
    match c with
    | '*' | '?' => true
    | '\\' => isOpen n (cs.drop 1)
    | '[' => (bracket? cs).isSome || isOpen n cs
    | _ => isOpen n cs

/-- A pattern without the backslashes that protect characters. -/
def bare : List Char → List Char
  | '\\' :: c :: cs => c :: bare cs
  | c :: cs => c :: bare cs
  | [] => []

/-! ## 3. Parts of texts -/

/-- The parts of a text in front of each place of it, with what follows, the shortest first. -/
def cuts (cs : List Char) : List (List Char × List Char) :=
  (List.range (cs.length + 1)).map fun n => (cs.take n, cs.drop n)

/-- A text without its shortest or longest part, at the end or at the start, that a pattern stands
for, if there is such a part. -/
def trim? (atEnd longest : Bool) (pattern text : ByteText) : Option ByteText :=
  let wanted := items (pattern.length + 1) pattern.toList
  let all := cuts text.toList
  let fits (cut : List Char × List Char) : Bool :=
    matchItems wanted (if atEnd then cut.2 else cut.1)
  let found := if atEnd == longest then all.find? fits else all.reverse.find? fits
  found.map fun (front, back) => String.ofList (if atEnd then front else back)

/-- Texts without the last part that a pattern stands for and all behind it: the texts are in
reverse order. -/
def trimLast (pattern : ByteText) : List ByteText → Option (List ByteText)
  | [] => none
  | text :: before =>
    match trim? true false pattern text with
    | some front => some (front :: before)
    | none => trimLast pattern before

/-- Texts of which a part is left out that a pattern stands for.  A part at the end takes all that
follows it along, and the longest one is looked for in the first text only.  A part at the start is
one of the first text, and the longest one takes all texts along if it is the whole of the first. -/
def trim (atEnd longest : Bool) (pattern : ByteText) (texts : List ByteText) : List ByteText :=
  match texts with
  | [] => []
  | first :: others =>
    match atEnd, longest with
    | true, false => ((trimLast pattern texts.reverse).map List.reverse).getD texts
    | true, true => ((trim? true true pattern first).map ([·])).getD texts
    | false, false => (trim? false false pattern first).getD first :: others
    | false, true =>
      match trim? false true pattern first with
      | some "" => []
      | some back => back :: others
      | none => texts

end CommandShell.Script.Glob
