/-
# Tests

The command `test` of the script language compares texts and numbers and looks at files.  Its
arguments are an expression of unary and binary operators, negation, conjunction, disjunction and
parentheses.  What looks like an operator is an operand where an operator would have none: a unary
one in front of a binary one, and the middle one of three arguments decides.

The expression is worked out from left to right; a place in the arguments tells where the reader is
(`Examination.Place`).
-/
import CommandShell.Machine.Script.Runner
import CommandShell.Machine.Floating

namespace CommandShell.Script.Examination

open Runner

/-! ## 1. Operators -/

/-- What an argument can be. -/
inductive Lexeme
  | ended
  | operand
  | unary (op : String)
  | binary (op : String)
  | negation
  | conjunction
  | disjunction
  | opening
  | closing
deriving Repr, DecidableEq

def unaryOperators : List String :=
  ["-r", "-w", "-x", "-e", "-f", "-d", "-c", "-b", "-p", "-u", "-g", "-k", "-s", "-t", "-z", "-n",
    "-h", "-L", "-O", "-G", "-S"]

def binaryOperators : List String :=
  ["=", "!=", "<", ">", "-eq", "-ne", "-ge", "-gt", "-le", "-lt", "-nt", "-ot", "-ef"]

def isBinary (s : ByteText) : Bool := binaryOperators.contains s

/-- The first of some arguments, as what it is there. -/
def lexeme : List ByteText → Lexeme
  | [] => .ended
  | s :: rest =>
    if unaryOperators.contains s then
      match rest with
      | [] => .operand
      | [_] => .unary s
      | next :: _ => if isBinary next then .operand else .unary s
    else if isBinary s then .binary s
    else match s with
      | "!" => .negation
      | "-a" => .conjunction
      | "-o" => .disjunction
      | "(" => if rest.isEmpty then .operand else .opening
      | ")" => .closing
      | _ => .operand

/-! ## 2. Numbers and files -/

/-- The number that an operand stands for. -/
def integer (s : ByteText) : Runner Int := do
  let cs := s.toList
  let (negative, rest) := Numeral.sign (cs.dropWhile Numeral.isSpace)
  let digits := rest.takeWhile Char.isDigit
  let n : Int := Numeral.value 10 digits
  let n := if negative then -n else n
  if digits = [] || !(rest.drop digits.length).all Numeral.isSpace || !Width.holds 64 n then
    fail ("Illegal number: " ++ s)
  else pure n

/-- Whether a file is as a unary operator asks. -/
def examined (op : String) (path : ByteText) : Runner Bool := do
  match ← ask (.examine path (op ≠ "-h" && op ≠ "-L")) with
  | .found f =>
    pure (match op with
      | "-f" => f.kind == .file
      | "-d" => f.kind == .directory
      | "-c" => f.kind == .device
      | "-p" => f.kind == .pipe
      | "-s" => 0 < f.size
      | "-x" => f.executable
      | "-h" | "-L" => f.kind == .link
      | "-b" | "-u" | "-g" | "-k" | "-S" => false
      | _ => true)
  | _ => pure false

/-- The outcome of a unary operator. -/
def unary (op : String) (operand : ByteText) : Runner Bool := do
  match op with
  | "-z" => pure (operand == "")
  | "-n" => pure (operand != "")
  | "-t" =>
    let _ ← integer operand
    pure false
  | op => examined op operand

/-- The outcome of a binary operator. -/
def binary (op : String) (a b : ByteText) : Runner Bool := do
  let compared (p : Int → Int → Bool) : Runner Bool := return p (← integer a) (← integer b)
  match op with
  | "=" => pure (a == b)
  | "!=" => pure (a != b)
  | "<" => pure (a < b)
  | ">" => pure (b < a)
  | "-eq" => compared (· == ·)
  | "-ne" => compared (· != ·)
  | "-ge" => compared (· ≥ ·)
  | "-gt" => compared (· > ·)
  | "-le" => compared (· ≤ ·)
  | "-lt" => compared (· < ·)
  | "-ef" =>
    match ← ask (.examine a true), ← ask (.examine b true) with
    | .found f, .found g => pure (f.location.isSome && f.location == g.location)
    | _, _ => pure false
  | _ => pure false

/-! ## 3. Expressions -/

/-- The place in the arguments: those from the current one on. -/
abbrev Place := List ByteText

def refuse {α : Type} (op message : ByteText) : Runner α :=
  fail (if op = "" then message else op ++ ": " ++ message)

/-- What follows the current argument. -/
def lexemeAfter (p : Place) : Lexeme := lexeme (p.drop 1)

mutual

/-- A disjunction at a place, where the current argument is of the given kind; also gives the place
of its last argument. -/
def disjunction : Nat → Lexeme → Place → Runner (Bool × Place)
  | 0, _, p => pure (false, p)
  | fuel + 1, l, p => do
    let (a, p) ← conjunction fuel l p
    if lexemeAfter p = .disjunction then
      let p := p.drop 2
      let (b, p) ← disjunction fuel (lexeme p) p
      pure (a || b, p)
    else pure (a, p)

def conjunction : Nat → Lexeme → Place → Runner (Bool × Place)
  | 0, _, p => pure (false, p)
  | fuel + 1, l, p => do
    let (a, p) ← negation fuel l p
    if lexemeAfter p = .conjunction then
      let p := p.drop 2
      let (b, p) ← conjunction fuel (lexeme p) p
      pure (a && b, p)
    else pure (a, p)

/-- A value that may be negated. -/
def negation : Nat → Lexeme → Place → Runner (Bool × Place)
  | 0, _, p => pure (false, p)
  | fuel + 1, l, p => do
    if l = .negation then
      let next := lexemeAfter p
      let (a, p) ← negation fuel next (if next = .ended then p else p.drop 1)
      pure (!a, p)
    else primary fuel l p

/-- A value. -/
def primary : Nat → Lexeme → Place → Runner (Bool × Place)
  | 0, _, p => pure (false, p)
  | fuel + 1, l, p => do
    match l with
    | .ended => pure (false, p)
    | .opening =>
      let p := p.drop 1
      let next := lexeme p
      if next = .closing then pure (false, p)
      else
        let (a, p) ← disjunction fuel next p
        let p := p.drop 1
        if lexeme p ≠ .closing then refuse "" "closing paren expected"
        pure (a, p)
    | .unary op =>
      match p.drop 1 with
      | operand :: rest => return (← unary op operand, operand :: rest)
      | [] => refuse op "argument expected"
    | _ =>
      match lexemeAfter p with
      | .binary op =>
        match p.drop 2 with
        | b :: rest => return (← binary op (p.head?.getD "") b, b :: rest)
        | [] => refuse op "argument expected"
      | _ => pure (p.head?.getD "" != "", p)

end

/-- The outcome of an expression whose first argument is of a given kind. -/
def outcome (l : Lexeme) (args : List ByteText) : Runner Bool := do
  let (a, p) ← disjunction (6 * args.length + 6) l args
  match p with
  | op :: _ :: _ => refuse op "unexpected operator"
  | _ => pure a

/-- The outcome of the arguments of `test`. -/
def evaluate : List ByteText → Runner Bool
  | [] => pure false
  | ["!", a, b] => do
    if isBinary a then outcome .operand ["!", a, b] else return !(← evaluate [a, b])
  | ["!", a, b, c] => return !(← evaluate [a, b, c])
  | args => do
    let parenthesized := args.head? = some "(" && args.getLast? = some ")"
    if args.length = 3 && (args[1]?).any isBinary then outcome .operand args
    else if (args.length = 3 || args.length = 4) && parenthesized then
      let inner := (args.drop 1).dropLast
      outcome (lexeme inner) inner
    else outcome (lexeme args) args

end CommandShell.Script.Examination
