/-
# Reading scripts

A script is read by descent, one line of commands at a time, since a command may change how the
rest of the script is read and where it comes from.  `Reader.readLine` reads such a line; it asks
for more of the script when the text that is there does not hold all of it.  Reading takes a bound
on its depth, which the lengths of the text and of the texts of aliases give.
-/
import CommandShell.Machine.Script.Context

namespace CommandShell.Script.Reader

/-! ## 1. Putting trees together -/

/-- A list of commands in front of another one. -/
def inFront : Option Tree → Tree → Tree
  | none, t => t
  | some a, b => .sequence a b

/-- The command in the background. -/
def inBackground (line : Nat) : Tree → Tree
  | .pipeline stages _ => .pipeline stages true
  | .redirected line body redirects => .background line body redirects
  | t => .background line t []

def withRedirects (line : Nat) (redirects : List Redirect) (t : Tree) : Tree :=
  match t, redirects with
  | t, [] => t
  | .subshell line body _, redirects => .subshell line body redirects
  | t, redirects => .redirected line t redirects

/-! ## 2. Commands -/

mutual

/-- Reads the pieces of a word; those read so far are given in reverse order. -/
def pieces : Nat → Context → Word → Reader Word
  | 0, _, _ => refuse "Out of space"
  | fuel + 1, ctx, word => do
    match ← peek? with
    | none => atEnd ctx word
    | some c =>
      let quoted := ctx.isQuoted
      if (ctx == .bare || ctx == .delimiter) && endsWord c then return word.reverse
      skip
      let literal : Reader Word := pieces fuel ctx (addText [c] quoted word)
      match c with
      | '\\' =>
        match ← raw? with
        | none => pieces fuel ctx (addText ['\\'] true word)
        | some d =>
          skip
          if quoted && !ctx.protects d then pieces fuel ctx (addText ['\\', d] true word)
          else pieces fuel ctx (addText [d] true word)
      | '\'' =>
        if quoted then literal
        else
          let (inner, closed) ← untilQuote ((← get).rest.length + 1)
          let word := addText inner true (.mark :: word)
          if closed then pieces fuel ctx word else unclosedQuote
      | '"' =>
        match ctx with
        | .double => pure word.reverse
        | .document | .sum _ => literal
        | .braces true inner => pieces fuel (.braces true !inner) word
        | _ =>
          let inner ← pieces fuel .double []
          pieces fuel ctx ((quotedPieces inner).reverse ++ word)
      | '$' =>
        if ctx == .delimiter then literal
        else
          match ← dollar fuel ctx with
          | some piece => pieces fuel ctx (piece :: word)
          | none => literal
      | '\x60' =>
        if ctx == .delimiter then literal
        else
          let script ← backQuoted fuel quoted
          pieces fuel ctx (.output script quoted :: word)
      | '\x7d' =>
        match ctx with
        | .braces _ inner => if inner then literal else pure word.reverse
        | _ => literal
      | '(' =>
        match ctx with
        | .sum depth => pieces fuel (.sum (depth + 1)) (addText [c] quoted word)
        | _ => literal
      | ')' =>
        match ctx with
        | .sum (depth + 1) => pieces fuel (.sum depth) (addText [c] quoted word)
        | .sum 0 => if ← accept ')' then pure word.reverse else literal
        | _ => literal
      | _ => literal

/-- Reads what stands behind a dollar sign, if it means anything. -/
def dollar : Nat → Context → Reader (Option Piece)
  | 0, _ => refuse "Out of space"
  | fuel + 1, ctx => do
    let quoted := ctx.isQuoted
    match ← peek? with
    | some '(' =>
      skip
      if ← accept '(' then return some (.arithmetic (← pieces fuel (.sum 0) []) quoted)
      let outer ← get
      set { outer with asked := [], back := none, ending := none, inDocument := false }
      let script ← list fuel false true none
      let t ← token fuel {}
      if !t.isOperator ")" then expected (.operator ")") t
      modify fun c => { c with
        asked := outer.asked, back := none, ending := outer.ending, inDocument := outer.inDocument }
      return some (.output script quoted)
    | some '\x7b' =>
      skip
      return some (← braced fuel ctx)
    | some c =>
      if isNameStart c then
        let name ← takeWhile isNameChar (← get).rest.length
        return some (.parameter (String.ofList name) .value quoted)
      else if isSpecial c then
        skip
        return some (.parameter (String.singleton c) .value quoted)
      else pure none
    | none => pure none

/-- Reads a parameter in braces. -/
def braced : Nat → Context → Reader Piece
  | 0, _ => refuse "Out of space"
  | fuel + 1, ctx => do
    let quoted := ctx.isQuoted
    let (name, counted, meaningful) ← bracedName
    let bad : Reader Piece := do
      let _ ← pieces fuel (.braces quoted false) []
      pure (.parameter name .malformed quoted)
    if !meaningful then bad
    else if counted then
      if ← accept '\x7d' then pure (.parameter name .length quoted) else bad
    else
      match ← usage with
      | .plain => pure (.parameter name .value quoted)
      | .ignored =>
        let _ ← pieces fuel (.braces quoted false) []
        pure (.parameter name .value quoted)
      | .substitute what orEmpty =>
        let word ← pieces fuel (.braces quoted false) []
        pure (.parameter name (.substitute what orEmpty word) quoted)
      | .trim atEnd longest =>
        let pattern ← pieces fuel (.braces false false) []
        pure (.parameter name (.trim atEnd longest pattern) quoted)
      | .malformed => bad

/-- Reads the script in front of a back quote. -/
def backQuoted : Nat → Bool → Reader (Option Tree)
  | 0, _ => refuse "Out of space"
  | fuel + 1, quoted => do
    let outer ← get
    match untilBackQuote quoted outer.rest with
    | none =>
      if outer.complete then
        throw (.malformed (outer.line + outer.rest.count '\n') "EOF in backquote substitution")
      else throw .more
    | some (inner, rest) =>
      set (outer.within inner)
      let script ← list fuel false true none
      let taken := outer.rest.take (outer.rest.length - rest.length)
      modify fun c => { outer with
        rest, line := outer.line + taken.count '\n', documents := c.documents, next := c.next }
      pure script

/-- Reads the here-documents that were asked for. -/
def readDocuments : Nat → Reader Unit
  | 0 => refuse "Out of space"
  | fuel + 1 => do
    match (← get).asked with
    | [] => pure ()
    | a :: others =>
      modify fun c => { c with asked := others }
      let word ← withDocument a
        (if a.expanded then pieces fuel .document []
        else return [.text (String.ofList (← takeRest ((← get).rest.length + 1))) true])
      modify fun c => { c with documents := (a.number, word) :: c.documents }
      readDocuments fuel

/-- Reads a token that was not read before. -/
def lex : Nat → Context → Reader Token
  | 0, _ => refuse "Out of space"
  | fuel + 1, ctx => do
    modify fun c =>
      let (rest, n) := skipBlanks c.rest 0
      { c with rest, line := c.line + n }
    match ← operator? with
    | some t => pure t
    | none =>
      let word ← pieces fuel ctx []
      match ← peek?, descriptor? word with
      | some '>', some fd => arrow '>' fd
      | some '<', some fd => arrow '<' fd
      | _, _ =>
        modify fun c => { c with word }
        pure (.word word)

/-- Reads a token that comes with some wishes. -/
def token : Nat → Wishes → Reader Token
  | 0, _ => refuse "Out of space"
  | fuel + 1, wishes => do
    let c ← get
    let t ← match c.back with
      | some t =>
        set { c with back := none }
        pure t
      | none => lex fuel .bare
    let invited := c.back.isNone && (← get).isInvited c.rest.length
    match t with
    | .newline =>
      if wishes.skipsLines then
        readDocuments fuel
        token fuel wishes
      else pure t
    | .word pieces =>
      match Word.plain? pieces with
      | some s =>
        if wishes.keywords && keywords.contains s then pure (.keyword s)
        else if wishes.aliases || invited then
          match (← get).meaning? s with
          | some text =>
            modify (·.insert s text)
            token fuel { wishes with aliases := true }
          | none => pure t
        else pure t
      | none => pure t
    | t => pure t

/-- Reads a list of commands behind the ones that were read.  `top` tells whether it is a line of
the script, and `mayEnd` whether it may end here. -/
def list : Nat → Bool → Bool → Option Tree → Reader (Option Tree)
  | 0, _, _, _ => refuse "Out of space"
  | fuel + 1, top, mayEnd, before => do
    let t ← token fuel { Wishes.command with skipsLines := !top }
    let ended : Reader (Option Tree) := do
      readDocuments fuel
      putBack .endOfFile
      pure before
    match t with
    | .newline =>
      readDocuments fuel
      pure before
    | .endOfFile => ended
    | t =>
      putBack t
      if !top && mayEnd && t.endsList then pure before
      else
        let line := (← get).line
        let command ← conditional fuel
        let t ← token fuel {}
        let command := if t.isOperator "&" then inBackground line command else command
        let whole := some (inFront before command)
        match t with
        | .endOfFile =>
          readDocuments fuel
          putBack .endOfFile
          pure whole
        | .newline =>
          putBack t
          list fuel top true whole
        | .operator "&" | .operator ";" => list fuel top true whole
        | t =>
          if top then unexpected t
          else
            putBack t
            pure whole

/-- Reads commands that depend on each other's outcome. -/
def conditional : Nat → Reader Tree
  | 0 => refuse "Out of space"
  | fuel + 1 => do conditionalFrom fuel (← pipeline fuel false)

/-- Reads the commands that depend on the outcome of one. -/
def conditionalFrom : Nat → Tree → Reader Tree
  | 0, _ => refuse "Out of space"
  | fuel + 1, first => do
    let t ← token fuel {}
    if t.isOperator "&&" then conditionalFrom fuel (.both first (← pipeline fuel true))
    else if t.isOperator "||" then conditionalFrom fuel (.either first (← pipeline fuel true))
    else
      putBack t
      pure first

def pipeline : Nat → Bool → Reader Tree
  | 0, _ => refuse "Out of space"
  | fuel + 1, skipsLines => do
    let t ← token fuel (if skipsLines then .line else {})
    let negated := t.isKeyword "!"
    if !negated then putBack t
    let first ← command fuel false
    let others ← stages fuel
    let whole := if others.isEmpty then first else .pipeline (first :: others) false
    pure (if negated then .negate whole else whole)

/-- Reads the further stages of a pipeline. -/
def stages : Nat → Reader (List Tree)
  | 0 => refuse "Out of space"
  | fuel + 1 => do
    let t ← token fuel {}
    if t.isOperator "|" then
      let stage ← command fuel true
      return stage :: (← stages fuel)
    else
      putBack t
      pure []

def command : Nat → Bool → Reader Tree
  | 0, _ => refuse "Out of space"
  | fuel + 1, skipsLines => do
    let t ← token fuel (if skipsLines then .line else .command)
    let line := (← get).line
    let closed (closing : Token) (body : Tree) : Reader Tree := do
      let t ← token fuel {}
      if t.isSame closing then
        let redirects ← redirections fuel .command
        pure (withRedirects line redirects body)
      else expected closing t
    let body : Reader Tree := return (← list fuel false false none).getD .skip
    match t with
    | .keyword "if" =>
      let tree ← branches fuel
      closed (.keyword "fi") tree
    | .keyword "while" | .keyword "until" =>
      let condition ← body
      let t' ← token fuel {}
      if !t'.isKeyword "do" then expected (.keyword "do") t'
      let repeated ← body
      closed (.keyword "done") (.loop (t.isKeyword "while") condition repeated)
    | .keyword "for" =>
      let name ← match ← token fuel {} with
        | .word w => match Word.plain? w with
          | some s => if isName s then pure s else refuse "Bad for loop variable"
          | none => refuse "Bad for loop variable"
        | _ => refuse "Bad for loop variable"
      let t ← token fuel .line
      let words ← if t.isKeyword "in" then fields fuel
        else do
          if !t.isOperator ";" then putBack t
          pure [allParameters]
      let t ← token fuel .line
      if !t.isKeyword "do" then expected (.keyword "do") t
      let repeated ← body
      closed (.keyword "done") (.each line name words repeated)
    | .keyword "case" =>
      match ← token fuel {} with
      | .word word =>
        let t ← token fuel .line
        if !t.isKeyword "in" then expected (.keyword "in") t
        let cases ← cases fuel
        let redirects ← redirections fuel .command
        pure (withRedirects line redirects (.choose line word cases))
      | t => expected (.word []) t
    | .operator "(" =>
      let inner ← body
      closed (.operator ")") (.subshell line inner [])
    | .keyword "\x7b" =>
      let inner ← body
      closed (.keyword "\x7d") inner
    | .word _ | .redirection _ _ =>
      putBack t
      simple fuel line [] [] [] false
    | t => unexpected t

/-- Reads a conditional construct behind its first keyword. -/
def branches : Nat → Reader Tree
  | 0 => refuse "Out of space"
  | fuel + 1 => do
    let condition := (← list fuel false false none).getD .skip
    let t ← token fuel {}
    if !t.isKeyword "then" then expected (.keyword "then") t
    let yes ← list fuel false false none
    let t ← token fuel {}
    if t.isKeyword "elif" then return .branch condition yes (some (← branches fuel))
    else if t.isKeyword "else" then return .branch condition yes (← list fuel false false none)
    else
      putBack t
      pure (.branch condition yes none)

/-- Reads the words after `in`. -/
def fields : Nat → Reader (List Word)
  | 0 => refuse "Out of space"
  | fuel + 1 => do
    match ← token fuel {} with
    | .word w => return w :: (← fields fuel)
    | .newline | .operator ";" => pure []
    | t => unexpected t

/-- Reads the cases of a choice up to its last keyword. -/
def cases : Nat → Reader (List (List Word × Option Tree))
  | 0 => refuse "Out of space"
  | fuel + 1 => do
    let t ← token fuel .pattern
    if t.isKeyword "esac" then return []
    let first ← if t.isOperator "(" then token fuel {} else pure t
    let found ← patterns fuel first
    let body ← list fuel false true none
    let t ← token fuel .pattern
    if t.isKeyword "esac" then return [(found, body)]
    else if t.isOperator ";;" then return (found, body) :: (← cases fuel)
    else expected (.operator ";;") t

/-- Reads the patterns of a case, of which the first token is given.  Where a pattern is no word,
the last word in front of it is taken. -/
def patterns : Nat → Token → Reader (List Word)
  | 0, _ => refuse "Out of space"
  | fuel + 1, t => do
    let pattern ← match t with
      | .word w => pure w
      | .keyword k => pure [.text k false]
      | _ => pure (← get).word
    let t ← token fuel {}
    if t.isOperator "|" then
      let next ← token fuel {}
      return pattern :: (← patterns fuel next)
    else if t.isOperator ")" then pure [pattern]
    else expected (.operator ")") t

/-- Reads the redirections behind a construct; the first token of them comes with some wishes. -/
def redirections : Nat → Wishes → Reader (List Redirect)
  | 0, _ => refuse "Out of space"
  | fuel + 1, wishes => do
    match ← token fuel wishes with
    | .redirection fd arrow =>
      let r ← redirection fuel fd arrow
      return r :: (← redirections fuel {})
    | t =>
      putBack t
      pure []

def redirection : Nat → Nat → Arrow → Reader Redirect
  | 0, _, _ => refuse "Out of space"
  | fuel + 1, fd, arrow => do
    let t ← match arrow with
      | .document _ => lex fuel .delimiter
      | _ => token fuel {}
    match t, arrow with
    | .word w, .read => pure (.read fd w)
    | .word w, .update => pure (.update fd w)
    | .word w, .write mode force => pure (.write fd mode force w)
    | .word w, .copy => pure (.copy fd w)
    | .word w, .document unindented =>
      let c ← get
      let a : Asked := ⟨c.next, wordText w, unindented, (Word.plain? w).isSome⟩
      set { c with asked := c.asked ++ [a], next := c.next + 1 }
      pure (.document fd c.next)
    | t, _ => unexpected t

/-- Reads the rest of a simple command, what was read being given in reverse order.  `begun` tells
whether the name of the command was read. -/
def simple : Nat → Nat → List (ByteText × Word) → List Word → List Redirect → Bool → Reader Tree
  | 0, _, _, _, _, _ => refuse "Out of space"
  | fuel + 1, line, assignments, words, redirects, begun => do
    let finished : Tree := .simple line assignments.reverse words.reverse redirects.reverse
    match ← token fuel { aliases := !begun } with
    | .word w =>
      match if begun then none else wordAssignment? w with
      | some a => simple fuel line (a :: assignments) words redirects false
      | none => simple fuel line assignments (w :: words) redirects true
    | .redirection fd arrow =>
      let r ← redirection fuel fd arrow
      simple fuel line assignments words (r :: redirects) begun
    | t =>
      match t.isOperator "(", words, assignments, redirects with
      | true, [name], [], [] =>
        let t ← token fuel {}
        if !t.isOperator ")" then expected (.operator ")") t
        match Word.plain? name with
        | some s =>
          if !isName s || specialBuiltins.contains s then refuse "Bad function name"
          return .define s (← command fuel true)
        | none => refuse "Bad function name"
      | _, _, _, _ =>
        putBack t
        pure finished

end

/-! ## 3. Lines of commands -/

/-- What was read of a script. -/
inductive Line
  | commands (tree : Tree)
  /-- A line without a command. -/
  | blank
  /-- The end of the script. -/
  | finished

def readLine : Reader Line := do
  modify fun c => { c with back := none, asked := [] }
  let c ← get
  let texts := c.aliases.foldl (fun n entry => n + entry.2.length) 1
  let fuel := (12 * c.rest.length + 200) * texts
  match ← list fuel true false none with
  | some tree => pure (.commands tree)
  | none =>
    match (← get).back with
    | some .endOfFile => pure .finished
    | _ => pure .blank

end CommandShell.Script.Reader
