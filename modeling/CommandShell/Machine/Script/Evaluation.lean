/-
# Carrying out scripts

A command of a script is carried out in place when it changes the script itself, and in a process of
its own when it is a program, a part in parentheses, a stage of a pipeline or in the background.
The last command of a script or of a part, which nothing follows, takes over the process instead of
getting one of its own.

How deeply commands may be nested, and how often a loop may go round, is bounded by a number that no
script reaches.
-/
import CommandShell.Machine.Script.Builtin.Aliases
import CommandShell.Machine.Script.Builtin.Mask
import CommandShell.Machine.Script.Builtin.Place
import CommandShell.Machine.Script.Builtin.Signals
import CommandShell.Machine.Script.Builtin.Writing
import CommandShell.Machine.Script.Examination
import CommandShell.Machine.Script.Redirecting
import CommandShell.Machine.Script.Source

namespace CommandShell.Script

/-- How a command stands among others. -/
structure Standing where
  /-- Whether nothing follows it in the process. -/
  last : Bool := false
  /-- Whether what follows depends on its outcome. -/
  tested : Bool := false
deriving Repr, DecidableEq

namespace Evaluation

open Runner

/-! ## 1. Becoming a program -/

/-- The program that runs scripts. -/
def interpreter : ByteText := "/bin/sh"

/-- Becomes the program at the first of some paths that is one; `problem` is why the last one was
none. -/
def becomeFirst (argv environment : List ByteText) : OsError → List ByteText → Runner OsError
  | problem, [] => pure problem
  | problem, path :: rest => do
    let failed (e : OsError) : Runner OsError :=
      becomeFirst argv environment (if e = .notFound || e = .notDirectory then problem else e) rest
    match ← ask (.become path argv environment) with
    | .failed .notProgram =>
      match ← ask (.become interpreter (interpreter :: path :: argv.drop 1) environment) with
      | .failed e => failed e
      | _ => pure problem
    | .failed e => failed e
    | _ => pure problem

/-- The status of a program that cannot be started. -/
def startingStatus (e : OsError) : Nat :=
  if [OsError.notFound, .notDirectory, .linkLoop, .nameTooLong].contains e then 127 else 126

/-- Becomes a program; the directories up to `place` are passed over. -/
def becomeProgram {α : Type} (place : Nat) (argv environment : List ByteText) : Runner α := do
  let name := argv.head?.getD ""
  let s ← get
  let paths := if name.toList.contains '/' then [name] else (Finding.candidates s name).drop place
  let problem ← becomeFirst argv environment .notFound paths
  complain (name ++ ": " ++ startingProblem problem)
  modify fun s => { s with status := startingStatus problem }
  throw .quit

/-! ## 2. What is called -/

/-- What a command calls. -/
inductive Callee
  /-- There are only assignments and redirections. -/
  | nothing
  | own (name : ByteText)
  | function (body : Tree)
  | program

/-- A command with its arguments. -/
structure Invocation where
  callee : Callee
  argv : List ByteText
  /-- Whether its failure ends the script. -/
  special : Bool

/-- The commands whose arguments may be assignments. -/
def declares (name : ByteText) : Bool := ["export", "readonly", "local"].contains name

/-- The fields of a command. -/
def commandFields : List Word → Runner (List ByteText)
  | [] => pure []
  | w :: rest => do
    match ← Expansion.fields w with
    | [] => commandFields rest
    | name :: args =>
      if declares name then return name :: args ++ (← Expansion.declarations rest)
      else if name = "command" && args.isEmpty then return name :: (← commandFields rest)
      else return name :: args ++ (← Expansion.allFields rest)

/-- The command behind `command`, if it is to be carried out. -/
def behind : List ByteText → Option (List ByteText)
  | [] => none
  | "-p" :: rest => behind rest
  | "--" :: rest => if rest.isEmpty then none else some rest
  | arg :: rest =>
    if arg.toList.head? = some '-' && arg ≠ "-" then none else some (arg :: rest)

/-- What a command without functions calls. -/
def ownOrProgram (name : ByteText) : Callee :=
  if Finding.ownCommands.contains name then .own name else .program

/-- What a command behind `command` calls; the number bounds how often that stands there. -/
def plainInvocation : Nat → List ByteText → Invocation
  | 0, argv => ⟨.nothing, argv, false⟩
  | n + 1, argv =>
    match argv with
    | "command" :: rest =>
      match behind rest with
      | some argv => plainInvocation n argv
      | none => ⟨.own "command", argv, false⟩
    | name :: _ => ⟨ownOrProgram name, argv, false⟩
    | [] => ⟨.nothing, [], false⟩

/-- What a command calls. -/
def invocation (s : State) (argv : List ByteText) : Invocation :=
  match argv with
  | [] => ⟨.nothing, [], false⟩
  | name :: _ =>
    if specialBuiltins.contains name then ⟨.own name, argv, true⟩
    else match s.functions[name]? with
      | some body => ⟨.function body, argv, false⟩
      | none => plainInvocation (argv.length + 1) argv

/-! ## 3. Parts of simple commands -/

/-- Carries out assignments; `framed` tells whether they end with the command, and `exported`
whether programs see them.  Gives them as they are shown. -/
def assignAll (framed exported : Bool) : List (ByteText × Word) → Runner (List ByteText)
  | [] => pure []
  | (name, word) :: rest => do
    let value ← Expansion.value word
    if framed then Variables.keep name
    assign name value
    if exported then modify (·.expose name)
    return (name ++ "=" ++ value) :: (← assignAll framed exported rest)

/-- Shows a command, if the script asks for that. -/
def trace (fd : Nat) (texts : List ByteText) : Runner Unit := do
  let s ← get
  if s.has 'x' then
    let line := (s.value? "PS4").getD "" ++ " ".intercalate texts ++ "\n"
    let _ ← say (Routine.put fd (ByteText.toBytes line))

def hasTraps (s : State) : Bool := s.traps.any (·.2 ≠ "")

/-- Starts a program and waits for it. -/
def external (st : Standing) (argv : List ByteText) : Runner Nat := do
  let name := argv.head?.getD ""
  let s ← get
  match ← if name.toList.contains '/' then pure (.ok 0) else Finding.locate name with
  | .error e =>
    complain (name ++ ": " ++ startingProblem e)
    pure 127
  | .ok place =>
    if st.last && !hasTraps s then becomeProgram place argv s.environment
    else
      let process ← fork (.program argv s.environment (← partState)) []
      await process

/-- The number of loops that an argument names. -/
def loopCount (args : List ByteText) : Runner Nat := do
  let n ← match args with
    | [] => pure 1
    | arg :: _ =>
      let n ← number arg
      if n = 0 then fail ("Illegal number: " ++ arg)
      pure n
  return min n (← get).loops

/-- The file that `.` reads. -/
def sourcePath (name : ByteText) : Runner ByteText := do
  if name.toList.contains '/' then pure name
  else
    let found ← (Finding.candidates (← get) name).findM? fun path => do
      match ← say (Routine.examine path) with
      | .ok found => pure (found.kind == .file)
      | .error _ => pure false
    match found with
    | some path => pure path
    | none => fail (name ++ ": not found")

/-- The commands of the language that carry out no other commands. -/
def plainCommand (name : ByteText) (args : List ByteText) : Runner Nat := do
  match name with
  | ":" | "true" => pure 0
  | "false" => pure 1
  | "echo" => Writing.echo args
  | "printf" => Writing.printf (← Letters.operands args)
  | "test" => return if ← Examination.evaluate args then 0 else 1
  | "[" =>
    if args.getLast? ≠ some "]" then fail "missing ]"
    return if ← Examination.evaluate args.dropLast then 0 else 1
  | "cd" | "chdir" => Place.cd args
  | "pwd" => Place.pwd args
  | "export" =>
    Variables.declare name (·.exported) (fun v => { v with exported := true }) args
  | "readonly" =>
    Variables.declare name (·.fixed) (fun v => { v with fixed := true }) args
  | "unset" => Variables.unset args
  | "local" => Variables.localise args
  | "set" => Variables.configure args
  | "shift" => Variables.shift args
  | "read" => Variables.read args
  | "getopts" => Variables.getopts args
  | "kill" => Signals.kill args
  | "trap" => Signals.trap args
  | "wait" => JobControl.wait args
  | "jobs" => JobControl.jobs args
  | "type" => Finding.type args
  | "hash" => Finding.hash args
  | "alias" => Aliases.set args
  | "unalias" => Aliases.unset args
  | "umask" => Mask.umask args
  | "times" =>
    emit "0m0.000000s 0m0.000000s\n0m0.000000s 0m0.000000s\n"
    pure 0
  | "exit" =>
    let s ← get
    let status ← match args with
      | arg :: _ => number arg
      | [] => pure (s.statusBefore.getD s.status)
    modify fun s => { s with status := status % 256 }
    throw .quit
  | "return" =>
    let status ← match args with
      | arg :: _ => number arg
      | [] => pure (← get).status
    modify fun s => { s with status }
    throw .answer
  | "break" =>
    let n ← loopCount args
    if n = 0 then pure 0
    else
      modify fun s => { s with status := 0 }
      throw (.leave n)
  | "continue" =>
    let n ← loopCount args
    if n = 0 then pure 0
    else
      modify fun s => { s with status := 0 }
      throw (.again n)
  | "command" =>
    let (found, args) ← Letters.read "pvV" "" args
    match args with
    | [] => pure 0
    | name :: _ => if found.any (·.1 == 'V') then Finding.describe name else Finding.identify name
  | "fg" | "bg" => JobControl.move args
  | _ => pure 0

/-! ## 4. Carrying out -/

/-- Sets the exit status. -/
def conclude (status : Nat) : Runner Unit := modify fun s => { s with status }

/-- Where the commands of a script stand on a line. -/
def atLine (line : Nat) : Runner Unit := modify fun s => { s with line }

/-- Leaves the script after a command if nothing follows it, or if it failed and the script asks for
that. -/
def afterCommand (st : Standing) (checked : Bool) : Runner Unit := do
  let s ← get
  if checked && !st.tested && s.status ≠ 0 && s.has 'e' then throw .quit
  if st.last then throw .quit

/-- The signals that a process in the background never gets. -/
def foregroundSignals : List Nat := [2, 3]

/-- Starts a part of the script in a process of its own.  One in the background gets no signals that
are meant for the foreground; `detached` tells whether its standard input is empty, too. -/
def startPart (part : State → Task) (background detached : Bool)
    (changes : List (Nat × Option Nat)) : Runner Nat := do
  let s ← partState
  let s := if background then { s with deaf := foregroundSignals ++ s.deaf } else s
  if detached then
    withFds 1 fun fd => do
      let _ ← say (Routine.openFile fd "/dev/null" .read)
      let process ← fork (part s) ((0, some fd) :: changes ++ [(fd, none)])
      let _ ← ask (.close fd)
      pure process
  else fork (part s) changes

/-- Notes that processes were started in the background. -/
def noteBackground (processes : List Nat) : Runner Unit :=
  modify fun s => { s with
    jobs := s.jobs.add processes, background := processes.getLast?, status := 0 }

/-- Looks for the program that a stage of a pipeline starts, if its name is plain. -/
def foresee : Tree → Runner Unit
  | .simple _ _ ([.text name false] :: _) _ => do
    let plain := name.toList.head?.any isNameStart && name.toList.all isNameChar
    if plain && !Finding.isCommand (← get) name then
      let _ ← Finding.locate name
  | _ => pure ()

/-- Starts the stages of a pipeline; `before` tells whether the last stage writes to a pipe, of
which the ends have the given numbers.  Gives the processes. -/
def startStages (background tested : Bool) (fd : Nat) : Bool → List Tree → Runner (List Nat)
  | _, [] => pure []
  | before, stage :: rest => do
    let (reader, writer, previous) := (fd, fd + 1, fd + 2)
    let further := !rest.isEmpty
    if further then
      let _ ← ask (.pipe reader writer)
    let changes : List (Nat × Option Nat) :=
      (if before then [(0, some previous)] else [])
        ++ (if further then [(1, some writer)] else [])
        ++ [(reader, none), (writer, none), (previous, none)]
    foresee stage
    let process ← startPart (.part (some stage) [] tested) background (background && !before)
      changes
    if before then
      let _ ← ask (.close previous)
    if further then
      let _ ← ask (.copy reader previous)
      let _ ← ask (.close reader)
      let _ ← ask (.close writer)
    return process :: (← startStages background tested fd further rest)

/-- Waits for the processes of a pipeline; gives the status of the last one. -/
def awaitStages : List Nat → Runner Nat
  | [] => pure 0
  | [process] => await process
  | process :: rest => do
    let _ ← await process
    awaitStages rest

/-- Whether a text stands for one of some patterns. -/
def fitsAny (text : ByteText) : List Word → Runner Bool
  | [] => pure false
  | w :: rest => do
    if Glob.matches? (← Expansion.pattern w) text then pure true else fitsAny text rest

/-- The command of the first case that a text fits. -/
def chosen (text : ByteText) : List (List Word × Option Tree) → Runner (Option Tree)
  | [] => pure none
  | (patterns, body) :: rest => do
    if ← fitsAny text patterns then pure body else chosen text rest

mutual

def run : Nat → Standing → Tree → Runner Unit
  | 0, _, _ => throw .quit
  | fuel + 1, st, tree => do
    onSignals fuel
    match tree with
    | .simple line assignments words redirects =>
      conclude (← simple fuel st line assignments words redirects)
      onSignals fuel
      afterCommand st true
    | .pipeline stages background =>
      let processes ← withFds 3 fun fd => startStages background st.tested fd false stages
      if background then noteBackground processes else conclude (← awaitStages processes)
      onSignals fuel
      afterCommand st true
    | .background line body redirects =>
      atLine line
      let redirects ← Redirecting.settle redirects
      noteBackground [← startPart (.part (some body) redirects false) true true []]
      afterCommand st true
    | .subshell line body redirects =>
      atLine line
      let redirects ← Redirecting.settle redirects
      if st.last && !hasTraps (← get) then
        set (← partState)
        part fuel redirects st.tested body
      else
        let process ← startPart (.part (some body) redirects st.tested) false false []
        conclude (← await process)
      onSignals fuel
      afterCommand st true
    | .redirected line body redirects =>
      atLine line
      let status ← Redirecting.within redirects false
        (fun _ => do
          run fuel { tested := st.tested } body
          return (← get).status)
        (pure 2)
      conclude status
      afterCommand st false
    | .sequence first second =>
      run fuel { tested := st.tested } first
      run fuel st second
    | .both first second =>
      run fuel { tested := true } first
      if (← get).status = 0 then run fuel st second else afterCommand st false
    | .either first second =>
      run fuel { tested := true } first
      if (← get).status ≠ 0 then run fuel st second else afterCommand st false
    | .negate body =>
      run fuel { tested := true } body
      conclude (if (← get).status = 0 then 1 else 0)
      afterCommand st false
    | .branch condition yes no =>
      run fuel { tested := true } condition
      match if (← get).status = 0 then yes else no with
      | some body => run fuel st body
      | none =>
        conclude 0
        afterCommand st false
    | .loop outcome condition body =>
      modify fun s => { s with loops := s.loops + 1 }
      let status ← ensuring (repeated fuel { tested := st.tested } outcome condition body 0)
        (modify fun s => { s with loops := s.loops - 1 })
      conclude status
      afterCommand st false
    | .each line name words body =>
      atLine line
      let fields ← Expansion.allFields words
      modify fun s => { s with loops := s.loops + 1 }
      let status ← ensuring (forEach fuel { tested := st.tested } name fields body 0)
        (modify fun s => { s with loops := s.loops - 1 })
      conclude status
      afterCommand st false
    | .choose line word cases =>
      atLine line
      let text ← Expansion.text word
      match ← chosen text cases with
      | some body => run fuel st body
      | none =>
        conclude 0
        afterCommand st false
    | .define name body =>
      modify fun s => { s.notice name none with
        functions := s.functions.insert name body, status := 0 }
      afterCommand st false
    | .skip => afterCommand st false

/-- Carries out a part of the script that has the process for itself. -/
def part : Nat → List Redirect → Bool → Tree → Runner Unit
  | 0, _, _, _ => throw .quit
  | fuel + 1, redirects, tested, tree => do
    if ← Redirecting.enter redirects then run fuel { last := true, tested } tree
    else
      conclude 2
      throw .quit

/-- Runs the body of a loop; gives the status, or nothing when the loop ends. -/
def body : Nat → Standing → Tree → Runner (Option Nat)
  | 0, _, _ => throw .quit
  | fuel + 1, st, tree => do
    match ← attempt (run fuel st tree) with
    | .ok _ => return some (← get).status
    | .error (.leave n) => if 1 < n then throw (.leave (n - 1)) else pure none
    | .error (.again n) => if 1 < n then throw (.again (n - 1)) else return some (← get).status
    | .error stop => throw stop

/-- Repeats a loop; gives the status of the last round. -/
def repeated : Nat → Standing → Bool → Tree → Tree → Nat → Runner Nat
  | 0, _, _, _, _, status => pure status
  | fuel + 1, st, outcome, condition, tree, status => do
    let _ ← ask .tick
    match ← attempt (run fuel { tested := true } condition) with
    | .error (.leave n) => if 1 < n then throw (.leave (n - 1)) else pure status
    | .error (.again n) =>
      if 1 < n then throw (.again (n - 1))
      else repeated fuel st outcome condition tree status
    | .error stop => throw stop
    | .ok _ =>
      if ((← get).status = 0) = outcome then
        match ← body fuel st tree with
        | some status => repeated fuel st outcome condition tree status
        | none => return (← get).status
      else pure status

/-- Runs a loop for each of some fields; gives the status of the last round. -/
def forEach : Nat → Standing → ByteText → List ByteText → Tree → Nat → Runner Nat
  | 0, _, _, _, _, status => pure status
  | _, _, _, [], _, status => pure status
  | fuel + 1, st, name, field :: rest, tree, _ => do
    let _ ← ask .tick
    assign name field
    match ← body fuel st tree with
    | some status => forEach fuel st name rest tree status
    | none => return (← get).status

/-- Carries out a simple command; gives its status. -/
def simple : Nat → Standing → Nat → List (ByteText × Word) → List Word → List Redirect → Runner Nat
  | 0, _, _, _, _, _ => throw .quit
  | fuel + 1, st, line, assignments, words, redirects => do
    modify fun s => { s with line, outputStatus := 0 }
    let call := invocation (← get) (← commandFields words)
    let framed := match call.callee with
      | .nothing => false
      | .own _ => !call.special
      | _ => true
    let (lasting, replaces) : Bool × Bool := match call.callee with
      | .own name => (name == "exec", name == "exec" && 1 < call.argv.length)
      | _ => (false, false)
    let work (fd : Nat) : Runner Nat := do
      let shown ← assignAll framed (framed || replaces) assignments
      if !(shown.isEmpty && call.argv.isEmpty) then trace fd (shown ++ call.argv)
      match call.callee with
      | .nothing => return (← get).outputStatus
      | .own name => own fuel st call.special name call.argv
      | .function body => function fuel st body (call.argv.drop 1)
      | .program => external st call.argv
    let unredirected : Runner Nat := do
      if call.special then
        conclude 2
        throw .failed
      else pure 2
    Redirecting.within redirects lasting
      (fun fd =>
        if framed && !assignments.isEmpty then Variables.withFrame (work fd) else work fd)
      unredirected

/-- Calls a function; gives its status. -/
def function : Nat → Standing → Tree → List ByteText → Runner Nat
  | 0, _, _, _ => throw .quit
  | fuel + 1, st, tree, args => do
    let outer ← get
    set { outer with parameters := args, optionPlace := 0, loops := 0 }
    let restore : Runner Unit := modify fun s => { s with
      parameters := outer.parameters
      optionPlace := outer.optionPlace
      loops := outer.loops }
    let outcome ← ensuring (Variables.withFrame (attempt (run fuel { tested := st.tested } tree)))
      restore
    match outcome with
    | .ok _ | .error .answer => return (← get).status
    | .error stop => throw stop

/-- Carries out a command of the language; gives its status. -/
def own : Nat → Standing → Bool → ByteText → List ByteText → Runner Nat
  | 0, _, _, _, _ => throw .quit
  | fuel + 1, st, special, name, argv => do
    let outer ← get
    modify fun s => { s with command := argv.head?, written := "" }
    let args := argv.drop 1
    let outcome ← attempt (match name with
      | "eval" => lines fuel { tested := st.tested } (.ofText (" ".intercalate args)) 0
      | "." => sourced fuel args
      | "exec" =>
        if args.isEmpty then pure 0
        else do becomeProgram 0 args (← get).environment
      | name => plainCommand name args)
    let status ← match outcome with
      | .ok status => pure status
      | .error _ => pure (← get).status
    let written ← flush
    let status ←
      if written then pure status
      else
        complain ((argv.head?.getD "") ++ ": I/O error")
        pure (status ||| 1)
    modify fun s => { s with command := outer.command, reached := outer.reached }
    match outcome with
    | .ok _ => pure status
    | .error .failed => if special then throw .failed else pure status
    | .error stop => throw stop

/-- Carries out the script in a file; gives its status. -/
def sourced : Nat → List ByteText → Runner Nat
  | 0, _ => throw .quit
  | fuel + 1, args => do
    match ← Letters.operands args with
    | [] => pure 0
    | name :: _ =>
      let path ← sourcePath name
      withFds 1 fun fd => do
        match ← say (Routine.openFile fd path .read) with
        | some e => fail ("cannot open " ++ path ++ ": " ++ openingProblem false e)
        | none =>
          modify fun s => { s with command := some path }
          let outcome ← attempt (lines fuel {} (.ofFd fd) 0)
          let _ ← ask (.close fd)
          match outcome with
          | .ok status => pure status
          | .error .answer => return (← get).status
          | .error stop => throw stop

/-- Carries out the lines of a script; gives the status of the last command, or the given one if
there is none. -/
def lines : Nat → Standing → Source → Nat → Runner Nat
  | 0, _, _, _ => throw .quit
  | fuel + 1, st, source, status => do
    match ← source.next bound with
    | (.finished, _) => pure status
    | (.blank, source) => lines fuel st source status
    | (.commands tree, source) =>
      if (← get).has 'n' then lines fuel st source status
      else
        run fuel { st with last := st.last && source.isAtEnd } tree
        lines fuel st source (← get).status

/-- Does what is to be done on the signals that have come. -/
def onSignals : Nat → Runner Unit
  | 0 => pure ()
  | fuel + 1 => do
    if (← get).traps.any fun (n, action) => n ≠ 0 && action ≠ "" then
      match ← ask .caught with
      | .numbers signals => eachSignal fuel signals
      | _ => pure ()

/-- Does what is to be done on some signals. -/
def eachSignal : Nat → List Nat → Runner Unit
  | 0, _ => pure ()
  | _, [] => pure ()
  | fuel + 1, n :: rest => do
    match (← get).traps.lookup n with
    | none => pure ()
    | some action =>
      let outer ← get
      set { outer with statusBefore := some outer.status }
      let _ ← lines fuel {} (.ofText action) 0
      modify fun s => { s with
        statusBefore := outer.statusBefore, status := outer.status, reached := outer.reached }
    eachSignal fuel rest

end

/-! ## 5. Whole scripts -/

/-- Does what is to be done at the end of a script. -/
def atEnd : Runner Unit := do
  let s ← get
  match s.traps.lookup 0 with
  | none => pure ()
  | some action =>
    set { s with
      traps := s.traps.filter (·.1 ≠ 0)
      statusBefore := some s.status
      command := none
      loops := 0 }
    match ← attempt (lines bound {} (.ofText action) 0) with
    | .error .quit => pure ()
    | _ => conclude s.status

/-- Tells the script where it is. -/
def arrive : Runner Unit := do
  let process ← match ← ask .self with
    | .number n => pure n
    | _ => pure 0
  let here ← Place.current
  let known ← match ← value? "PWD" with
    | none => pure none
    | some path =>
      if path.toList.head? ≠ some '/' then pure none
      else match ← ask (.examine path true), ← ask (.examine "." true) with
        | .found a, .found b => pure (if a.location == b.location then some path else none)
        | _, _ => pure none
  let directory := known.getD here
  let deaf ← match ← ask .ignored with
    | .numbers signals => pure signals
    | _ => pure []
  modify fun s => { (s.put "PWD" directory).expose "PWD" with directory, process, deaf }

/-- The script in a file, whose name the script takes. -/
def fromFile (path : ByteText) : Runner Unit := do
  arrive
  withFds 1 fun fd => do
    match ← say (Routine.openFile fd path .read) with
    | some e => fail ("cannot open " ++ path ++ ": " ++ openingProblem false e)
    | none =>
      modify fun s => { s with name := path }
      let _ ← lines bound {} (.ofFd fd) 0

/-- What a task carries out. -/
def ofTask : Task → Runner Unit × State
  | .given source state =>
    (do
      arrive
      let _ ← lines bound { last := !state.has 's' } (.ofText source) 0
      if state.has 's' then
        let _ ← lines bound {} (.ofFd 0) 0, state)
  | .file path state => (fromFile path, state)
  | .input state =>
    (do
      arrive
      let _ ← lines bound {} (.ofFd 0) 0, state)
  | .part tree redirects tested state =>
    (do
      for n in state.deaf do
        let _ ← ask (.onSignal n .nothing)
      if let some tree := tree then part bound redirects tested tree, state)
  | .program argv environment state =>
    let place := (state.programs.lookup (argv.head?.getD "")).map Found.place
    (becomeProgram (place.getD 0) argv environment, state)

end Evaluation

/-- Carries out a task to its end. -/
def Task.perform (t : Task) : Routine Unit := do
  let (runner, state) := Evaluation.ofTask t
  let whole : Runner Unit := do
    let _ ← Runner.attempt runner
    Evaluation.atEnd
  let (_, s) ← whole.run.run state
  Routine.exit s.status ()

end CommandShell.Script
