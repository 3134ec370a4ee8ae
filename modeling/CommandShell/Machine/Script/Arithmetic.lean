/-
# Arithmetic in scripts

An arithmetic expression of a script is made of whole numbers of 64 bits, variables, parentheses and
the usual operators with their usual ranks; assignments change variables.  A variable without a
value counts as 0.

An expression is worked out while it is read, from left to right, so a fault in what comes later
does not hide one in what came before.  The parts that a condition rules out are read but have no
effect (`Evaluator`, `dead`).
-/
import CommandShell.Machine.Floating

namespace CommandShell.Script.Arithmetic

/-! ## 1. Tokens -/

inductive Token
  | number (n : Int)
  | name (s : ByteText)
  | operator (s : String)
  /-- A character that has no meaning. -/
  | strange
deriving Repr, DecidableEq

/-- The operators that assign, and those of several characters, longer ones first. -/
def longOperators : List String :=
  ["<<=", ">>=", "<<", ">>", "<=", ">=", "==", "!=", "&&", "||", "+=", "-=", "*=", "/=", "%=", "&=",
    "|=", "^="]

/-- The characters that are operators. -/
def shortOperators : List Char := "=<>|&!()*/%+-~^?:".toList

/-- A whole number within 64 bits. -/
def wrap (n : Int) : Int := Width.wrap 64 n

/-- The number nearest to a whole number that 64 bits hold. -/
def clamp (n : Int) : Int := Width.clamp 64 n

/-- Whether a character may stand in the name of a variable. -/
def isNameChar (c : Char) : Bool := c.isAlphanum || c == '_'

/-- The tokens of an expression; the number bounds how many. -/
def tokens : Nat → List Char → List Token
  | 0, _ => []
  | _, [] => []
  | n + 1, c :: cs =>
    if c = ' ' || c = '\t' || c = '\n' then tokens n cs
    else if c.isDigit then
      match Numeral.integer? (c :: cs) with
      | some (value, rest) => .number (clamp value) :: tokens n rest
      | none => .number 0 :: tokens n cs
    else if isNameChar c then
      let name := (c :: cs).takeWhile isNameChar
      .name (String.ofList name) :: tokens n ((c :: cs).drop name.length)
    else
      match longOperators.find? fun op => op.toList.isPrefixOf (c :: cs) with
      | some op => .operator op :: tokens n ((c :: cs).drop op.length)
      | none =>
        if shortOperators.contains c then .operator (String.singleton c) :: tokens n cs
        else [.strange]

/-! ## 2. Operators -/

/-- Why an expression has no value. -/
inductive Fault
  | expectingPrimary
  | expectingClose
  | expectingColon
  | expectingEnd
  | divisionByZero
  /-- A variable does not hold a number. -/
  | illegalNumber (value : ByteText)
  /-- A variable that must not be changed. -/
  | fixed (name : ByteText)
deriving Repr, DecidableEq

def Fault.message (expression : ByteText) : Fault → ByteText
  | .illegalNumber value => "Illegal number: " ++ value
  | .fixed name => name ++ ": is read only"
  | f => "arithmetic expression: " ++ (match f with
      | .expectingPrimary => "expecting primary"
      | .expectingClose => "expecting ')'"
      | .expectingColon => "expecting ':'"
      | .expectingEnd => "expecting EOF"
      | _ => "division by zero") ++ ": \"" ++ expression ++ "\""

def ofBool (b : Bool) : Int := if b then 1 else 0

/-- A whole number as its 64 bits. -/
def bits (n : Int) : Nat := Width.lowest 64 n

/-- The rank of an operator between two values; the others have none. -/
def rank? : String → Option Nat
  | "|" => some 1
  | "^" => some 2
  | "&" => some 3
  | "==" | "!=" => some 4
  | "<" | "<=" | ">" | ">=" => some 5
  | "<<" | ">>" => some 6
  | "+" | "-" => some 7
  | "*" | "/" | "%" => some 8
  | _ => none

/-- What an operator makes of two values. -/
def apply (op : String) (a b : Int) : Except Fault Int :=
  match op with
  | "|" => .ok (wrap (bits a ||| bits b))
  | "^" => .ok (wrap (bits a ^^^ bits b))
  | "&" => .ok (wrap (bits a &&& bits b))
  | "==" => .ok (ofBool (a == b))
  | "!=" => .ok (ofBool (a != b))
  | "<" => .ok (ofBool (a < b))
  | "<=" => .ok (ofBool (a ≤ b))
  | ">" => .ok (ofBool (b < a))
  | ">=" => .ok (ofBool (b ≤ a))
  | "<<" => .ok (wrap (a * Width.values (b % 64).toNat))
  | ">>" => .ok (a.fdiv (Width.values (b % 64).toNat))
  | "+" => .ok (wrap (a + b))
  | "-" => .ok (wrap (a - b))
  | "*" => .ok (wrap (a * b))
  | "/" => if b = 0 then .error .divisionByZero else .ok (wrap (a.tdiv b))
  | _ => if b = 0 then .error .divisionByZero else .ok (wrap (a.tmod b))

/-- The operator that goes with an assignment, where a plain one has none. -/
def assigning? : String → Option (Option String)
  | "=" => some none
  | op =>
    let plain := String.ofList op.toList.dropLast
    if op.toList.getLast? = some '=' && (rank? plain).any (fun r => r ≠ 4 && r ≠ 5) then
      some (some plain)
    else none

/-! ## 3. Evaluation -/

/-- The tokens that are left, and the variables that were changed, the last one first. -/
structure Working where
  tokens : List Token
  changed : List (ByteText × ByteText) := []

/-- Something that works out a part of an expression. -/
abbrev Evaluator := ExceptT Fault (StateM Working)

/-- How a variable is seen: its value, if it has one, and whether it is fixed. -/
abbrev Reading := ByteText → Option ByteText × Bool

namespace Evaluator

/-- What an operator makes of two values, as part of the work. -/
def applied (op : String) (a b : Int) : Evaluator Int :=
  match apply op a b with
  | .ok n => pure n
  | .error fault => throw fault

def peek? : Evaluator (Option Token) := return (← get).tokens.head?

def skip : Evaluator Unit := modify fun w => { w with tokens := w.tokens.drop 1 }

/-- Takes the next token if it is the given operator. -/
def accept (op : String) : Evaluator Bool := do
  if (← peek?) = some (.operator op) then
    skip
    pure true
  else pure false

/-- The number that a variable holds. -/
def value (reading : Reading) (name : ByteText) : Evaluator Int := do
  let text := ((← get).changed.lookup name <|> (reading name).1).getD ""
  let cs := text.toList
  let (n, rest) := (Numeral.integer? cs).getD (0, cs)
  if rest.all Numeral.isSpace && clamp n = n then pure n
  else throw (.illegalNumber text)

def assign (reading : Reading) (name : ByteText) (n : Int) : Evaluator Int := do
  if (reading name).2 then throw (.fixed name)
  modify fun w => { w with changed := (name, toString n) :: w.changed }
  pure n

mutual

/-- An assignment or a condition.  `dead` tells whether it has no effect. -/
def assignment (reading : Reading) : Nat → Bool → Evaluator Int
  | 0, _ => throw .expectingPrimary
  | fuel + 1, dead => do
    let op? := match (← get).tokens with
      | .name s :: .operator op :: _ => (assigning? op).map ((s, ·))
      | _ => none
    match op? with
    | some (s, op?) =>
      skip
      skip
      let n ← assignment reading fuel dead
      if dead then pure n
      else match op? with
        | none => assign reading s n
        | some op =>
          let old ← value reading s
          assign reading s (← applied op old n)
    | none => condition reading fuel dead

/-- A condition with its two outcomes, or an alternative. -/
def condition (reading : Reading) : Nat → Bool → Evaluator Int
  | 0, _ => throw .expectingPrimary
  | fuel + 1, dead => do
    let a ← either reading fuel dead
    if ← accept "?" then
      let b ← assignment reading fuel (dead || a = 0)
      if !(← accept ":") then throw .expectingColon
      let c ← condition reading fuel (dead || a ≠ 0)
      pure (if a ≠ 0 then b else c)
    else pure a

/-- An alternative. -/
def either (reading : Reading) : Nat → Bool → Evaluator Int
  | 0, _ => throw .expectingPrimary
  | fuel + 1, dead => do
    let a ← both reading fuel dead
    if ← accept "||" then
      let b ← either reading fuel (dead || a ≠ 0)
      pure (ofBool (a ≠ 0 || b ≠ 0))
    else pure a

/-- A conjunction. -/
def both (reading : Reading) : Nat → Bool → Evaluator Int
  | 0, _ => throw .expectingPrimary
  | fuel + 1, dead => do
    let a ← operation reading fuel dead 0 (← primary reading fuel dead)
    if ← accept "&&" then
      let b ← both reading fuel (dead || a = 0)
      pure (ofBool (a ≠ 0 && b ≠ 0))
    else pure a

/-- The operations of more than a rank that begin with a value. -/
def operation (reading : Reading) : Nat → Bool → Nat → Int → Evaluator Int
  | 0, _, _, _ => throw .expectingPrimary
  | fuel + 1, dead, above, a => do
    match ← peek? with
    | some (.operator op) =>
      match rank? op with
      | some rank =>
        if rank ≤ above then pure a
        else
          skip
          let b ← primary reading fuel dead
          let b ← operation reading fuel dead rank b
          let n ← if dead then pure b else applied op a b
          operation reading fuel dead above n
      | none => pure a
    | _ => pure a

/-- A value. -/
def primary (reading : Reading) : Nat → Bool → Evaluator Int
  | 0, _ => throw .expectingPrimary
  | fuel + 1, dead => do
    let t ← peek?
    skip
    match t with
    | some (.number n) => pure n
    | some (.name s) => if dead then pure 0 else value reading s
    | some (.operator "(") =>
      let n ← assignment reading fuel dead
      if !(← accept ")") then throw .expectingClose
      pure n
    | some (.operator "+") => primary reading fuel dead
    | some (.operator "-") => return wrap (-(← primary reading fuel dead))
    | some (.operator "!") => return ofBool ((← primary reading fuel dead) = 0)
    | some (.operator "~") => return -(← primary reading fuel dead) - 1
    | _ => throw .expectingPrimary

end

end Evaluator

/-- The value of an expression, and the variables that it changes, the first one first.  An
expression without a value may have changed some before that was seen. -/
def evaluate (reading : Reading) (expression : ByteText) :
    Except Fault Int × List (ByteText × ByteText) :=
  let ts := tokens (expression.length + 1) expression.toList
  let whole : Evaluator Int := do
    let n ← Evaluator.assignment reading (8 * ts.length + 8) false
    if (← get).tokens.isEmpty then pure n else throw .expectingEnd
  let (result, w) := whole.run.run { tokens := ts }
  (result, w.changed.reverse)

end CommandShell.Script.Arithmetic
