import PartitionTest.Shell.Program

/-! Running scripts. What runs the parts of a script is a parameter of what
runs the whole; the knot is tied once, with a bound on how deep scripts are
nested. -/
namespace PartitionTest.Shell.Interpreter

open Machine Redirection

def settle (status : Nat) : Run Unit := do
  setStatus status
  let p ← current
  if status != 0 && p.options.contains 'e' && !p.tested then throw (.exit status)

def maxCalls : Nat := 1000

def callFunction (run : Runner) (body : Script) (args : List String) : Run Nat := do
  let calls := (← current).calls
  if maxCalls ≤ calls then
    Expansion.breakOff ("Maximum function recursion depth (" ++ toString maxCalls ++ ") reached")
  let params := (← current).params
  let hidden := (← current).hidden
  let loops := (← current).loops
  change fun p => { p with params := args, hidden := some [], loops := 0, calls := calls + 1 }
  let result ← attempt (run body)
  ((← current).hidden.getD []).forM fun (name, old) =>
    match old with
    | some value => assign name value
    | none => unassign name
  change fun p => { p with params := params, hidden := hidden, loops := loops, calls := calls }
  match result with
  | .ok () => return (← current).status
  | .error (.finish status) => return status
  | .error stop => throw stop

inductive Meaning where
  | keyword
  | special
  | builtin
  | function
  | program (path : String)

/-- Commands that the shell carries out itself with the help of what runs scripts. -/
def ownCommands : List String := [".", "command", "eval", "exec", "type"]

def meaning? (name : String) : Run (Option Meaning) := do
  let isOwn := (Builtin.table.lookup name).isSome || ownCommands.contains name
  if Grammar.keywords.contains name then return some .keyword
  else if Grammar.specialCommands.contains name then return some .special
  else if ((← current).functions.lookup name).isSome then return some .function
  else if isOwn then return some .builtin
  else match Start.locate (← Program.scope) (toUtf8 name) with
  | .ok (path, _) => return some (.program (ofUtf8 path))
  | .error _ => return none

def tellMeaning (full : Bool) (names : List String) : Run Nat :=
  names.foldlM (fun status name => do
    match ← meaning? name with
    | none =>
      if full then print (name ++ ": not found\n")
      return 127
    | some m =>
      print ((match full, m with
        | true, .keyword => name ++ " is a shell keyword"
        | true, .special => name ++ " is a special shell builtin"
        | true, .builtin => name ++ " is a shell builtin"
        | true, .function => name ++ " is a shell function"
        | true, .program path => name ++ " is " ++ path
        | false, .program path => path
        | false, _ => name) ++ "\n")
      return status) 0

def evaluate (run : Runner) (args : List String) : Run Nat := do
  let line := (← current).line
  setStatus 0
  Expansion.runLines run (String.intercalate " " args)
  change fun p => { p with line := line }
  return (← current).status

/-- Runs a file as part of the script; a name without a slash is searched for. -/
def source (run : Runner) (args : List String) : Run Nat := do
  match args with
  | [] => return 0
  | name :: _ =>
    let s ← Program.scope
    let found := if name.toList.contains '/' then some (toUtf8 name)
      else (Start.candidates s (toUtf8 name)).find? fun path =>
        match s.files.lookupFrom s.directory path with
        | .ok (.file _ _) => true
        | _ => false
    match found with
    | none => Expansion.breakOff (name ++ ": not found")
    | some path =>
      match ← bytes (ofUtf8 path) with
      | .ok bytes =>
        let line := (← current).line
        setStatus 0
        let result ← attempt (Expansion.runLines run (ofBytes bytes.toList))
        change fun p => { p with line := line }
        match result with
        | .error (.finish status) => return status
        | result =>
          resume result
          return (← current).status
      | .error e => Expansion.breakOff ("cannot open " ++ name ++ ": " ++ openReason "No such file" e)

def execute (run : Runner) (args : List String) : Run Nat := do
  match args with
  | [] => return 0
  | name :: args =>
    change fun p => { p with traps := p.traps.filter fun t => t.2.isEmpty }
    throw (.exit (← Program.replace run name args))

mutual

def plainCommand (run : Runner) (name : String) (args : List String) : Nat → Run Nat
  | 0 => return 126
  | n + 1 =>
    match Builtin.table.lookup name with
    | some builtin => Builtin.call name (builtin args)
    | none =>
      match name with
      | "eval" => Builtin.call name (evaluate run args)
      | "." => Builtin.call name (source run args)
      | "exec" => Builtin.call name (execute run args)
      | "type" => Builtin.call name (tellMeaning true args)
      | "command" => withCommand run args n
      | _ => Program.runCommand run name args

def withCommand (run : Runner) (args : List String) : Nat → Run Nat
  | 0 => return 126
  | n + 1 =>
    match args with
    | "-v" :: names => Builtin.call "command" (tellMeaning false (names.take 1))
    | "-V" :: names => Builtin.call "command" (tellMeaning true names)
    | "-p" :: rest | "--" :: rest => withCommand run rest n
    | [] => return 0
    | name :: args => plainCommand run name args n

end

/-- Assignments in front of a command hold for that command, or from then on
for some commands of the shell. -/
def binding (isKept : Bool) (assignments : List (String × String)) (body : Run Nat) : Run Nat := do
  let p ← current
  assignments.forM fun (name, value) => do
    assignOr name value
    change fun p => { p with exported := name :: p.exported }
  if isKept then
    change fun q => { q with exported := p.exported }
    body
  else
    let isOwn (v : String × String) := assignments.any (·.1 == v.1)
    restoring (fun _ q => if assignments.isEmpty then q else { q with
      exported := p.exported
      bindings := q.bindings.filter (fun v => !isOwn v) ++ p.bindings.filter isOwn }) body

def trace (descriptor : Option Channel) (assignments : List (String × String))
    (words : List String) : Run Unit := do
  if ← hasOption 'x' then
    let mark := (← value? "PS4").getD "+ "
    let texts := assignments.map (fun (name, value) => name ++ "=" ++ value) ++ words
    let text := mark ++ String.intercalate " " texts ++ "\n"
    restoring (fun before p => { p with channels := before.channels }) do
      match descriptor with
      | some c => direct 2 c
      | none => close 2
      report text

def valuesOf (run : Runner) (assignments : List (String × Word)) : Run (List (String × String)) :=
  assignments.mapM fun (name, w) => do return (name, ← Expansion.whole run w)

def simple (run : Runner) (c : SimpleCommand) : Run Unit := do
  pass commandTime
  change fun p => { p with line := c.line, outputStatus := 0 }
  let words ← Expansion.wordFields run c.words
  let errors ← channel? 2
  match words with
  | [] =>
    redirecting run c.redirects do
      c.assignments.forM fun (name, w) => do
        let value ← Expansion.whole run w
        trace errors [(name, value)] []
        assignOr name value
      setStatus (← current).outputStatus
    settle (← current).status
  | ["exec"] =>
    trace errors [] words
    if ← redirect run c.redirects then setStatus 0 else throw (.exit 2)
  | name :: args =>
    let isSpecial := Grammar.specialCommands.contains name
    let body : Run Unit := do
      let assignments ← valuesOf run c.assignments
      trace errors assignments words
      setStatus (← binding isSpecial assignments do
        let functions := (← current).functions
        match if isSpecial then none else functions.lookup name with
        | some body => callFunction run body args
        | none => plainCommand run name args 20)
    /- A special command whose redirections fail ends the script. -/
    restoring (fun before p => { p with channels := before.channels }) do
      if ← redirect run c.redirects then body
      else if isSpecial then throw (.exit 2)
      else setStatus 2
    settle (← current).status

def test (run : Runner) (s : Script) : Run Bool := do
  restoring (fun before p => { p with tested := before.tested }) do
    change fun p => { p with tested := true }
    run s
  return (← current).status == 0

def once (run : Runner) (body : Script) : Run Bool := do
  let result ← attempt do
    restoring (fun before p => { p with loops := before.loops }) do
      change fun p => { p with loops := p.loops + 1 }
      run body
  match result with
  | .ok () => return true
  | .error (.leave n) => if n ≤ 1 then return false else throw (.leave (n - 1))
  | .error (.next n) => if n ≤ 1 then return true else throw (.next (n - 1))
  | .error stop => throw stop

def maxRounds : Nat := 100000000

def loop (run : Runner) (whileTrue : Bool) (guard body : Script) : Nat → Nat → Run Unit
  | 0, _ => throw .late
  | n + 1, status => do
    pass commandTime
    if (← test run guard) == whileTrue then
      if ← once run body then loop run whileTrue guard body n (← current).status
      else setStatus 0
    else setStatus status

def each (run : Runner) (name : String) (body : Script) : List String → Run Unit
  | [] => pure ()
  | value :: rest => do
    pass commandTime
    assignOr name value
    if ← once run body then each run name body rest

def fitsAny (run : Runner) (text : String) : List Word → Run Bool
  | [] => return false
  | w :: ws => do
    let pattern := Pattern.ofGlyphs (Expansion.glyphs (← Expansion.marks run w))
    if Pattern.fits pattern text.toList then return true else fitsAny run text ws

def select (run : Runner) (text : String) : List (List Word × Script) → Run Unit
  | [] => setStatus 0
  | (patterns, body) :: rest => do
    if ← fitsAny run text patterns then
      setStatus 0
      run body
    else select run text rest

def part (run : Runner) (s : Script) : Run Unit := Program.withLastAction run (run s)

/-- The redirections of a script, which are made before it is known to run,
and the script without them. -/
def opened (run : Runner) : Script → Run Bool × Script
  | .simple c => (redirect run c.redirects, .simple { c with redirects := [] })
  | .redirected s rs => (redirect run rs, s)
  | s => (pure true, s)

def step (run : Runner) : Script → Run Unit
  | .nothing => setStatus 0
  | .simple c => simple run c
  | .negated s => do
    let holds ← test run s
    setStatus (if holds then 1 else 0)
  | .pipe first rest => do
    let finished ← together (part run first) (part run rest)
    if let .signal n := finished then report (Signal.note n)
    settle finished.status
  | .both first second => do
    if ← test run first then run second
  | .either first second => do
    if !(← test run first) then run second
  | .sequence first second => do
    run first
    run second
  | .background s => do
    let (redirects, s) := opened run s
    beside (do
      direct 0 (.device .null)
      redirects) (do
      pass startTime
      part run s)
    setStatus 0
  | .subshell s => do
    pass startTime
    let finished ← inSubshell (part run s)
    if let .signal n := finished then report (Signal.note n)
    settle finished.status
  | .redirected s redirects =>
    restoring (fun before p => { p with channels := before.channels }) do
      if ← redirect run redirects then run s else settle 2
  | .choice guard yes no => do
    if ← test run guard then run yes else run no
  | .loop whileTrue guard body => loop run whileTrue guard body maxRounds 0
  | .each name words body => do
    let values ← match words with
      | some ws => Expansion.wordFields run ws
      | none => pure (← current).params
    setStatus 0
    each run name body values
  | .select line subject arms => do
    change fun p => { p with line := line }
    select run (← Expansion.whole run subject) arms
  | .define name body => do
    change fun p => { p with functions := (name, body) :: p.functions }
    setStatus 0

def actOnSignals (run : Runner) : Run Unit := do
  let p ← current
  change fun p => { p with caught := [] }
  p.caught.forM fun n =>
    match p.traps.lookup (Signal.name n) with
    | some action => do
      let status := (← current).status
      Expansion.runLines run action
      setStatus status
    | none => pure ()

/-- Runs a script with its parts nested at most so deep; below that the
process breaks down. -/
def runner : Nat → Runner
  | 0, _ => throw (.killed Signal.segmentation)
  | n + 1, s => do
    if ← hasOption 'n' then return
    step (runner n) s
    if !(← current).caught.isEmpty then actOnSignals (runner n)

def maxDepth : Nat := 20000

/-- The descriptors of a program: its input, and two sinks for what it prints. -/
def standardChannels : List (Nat × Channel) := [(0, .source 0), (1, .sink 0), (2, .sink 1)]

def standardBindings : List (String × String) :=
  [("PATH", String.intercalate ":" ("/usr/local/sbin" :: "/usr/local/bin" :: "/usr/sbin" ::
      "/usr/bin" :: "/sbin" :: ["/bin"])), ("HOME", "/root")]

def firstPid : Nat := 4242

/-- What a sink holds at the end; nothing if it is still open at the deadline. -/
def outputAt (m : Machine) (n : Nat) : Output :=
  let sink := sinkAt m n
  if m.deadline ≤ sink.heldUntil then none else some [bytesOf sink.text]

def launch (l : Launch) (timeout : Duration) (files : FileTree) : Ending × FileTree :=
  let m : Machine := {
    files := files
    deadline := timeout.nanoseconds / 1000
    sources := #[.ofText (ofUtf8 l.input)]
    sinks := #[{}, {}]
    nextPid := firstPid + 1
    process := {
      name := ofUtf8 l.program
      params := []
      channels := standardChannels
      directory := files.home
      bindings := standardBindings
      exported := standardBindings.map (·.1)
      pid := firstPid
      shellPid := firstPid
      parentPid := firstPid - 1
      group := [firstPid] } }
  let run := runner maxDepth
  let body : Run (Except StartError Nat) := do
    match Start.resolve (← Program.scope) (ofUtf8 l.program) (l.args.map ofUtf8) with
    | .error e => return .error e
    | .ok target => return .ok (← Program.runProgram run target)
  let (result, m) := body.run m
  let ended (exit : Exit) : Ending := .ended exit (outputAt m 0) (outputAt m 1)
  let ending := match result with
    | .ok (.error e) => .notStarted e
    | .ok (.ok status) | .error (.exit status) | .error (.finish status) =>
      ended (.code (Int32.ofNat (status % 256)))
    | .error (.killed signal) => ended (.signal signal)
    | .error (.leave _) | .error (.next _) => ended (.code 0)
    | .error .late => .late
  (ending, m.files)

end PartitionTest.Shell.Interpreter
