import PartitionTest.Shell.Condition
import PartitionTest.Shell.Expansion
import PartitionTest.Shell.Format

/-! Commands that a shell carries out itself. Each answers with its status. -/
namespace PartitionTest.Shell.Builtin

open Machine

def refuse (reason : String) : Run Nat := do
  complain reason
  return 2

def echo (args : List String) : Run Nat := do
  let (bare, args) := match args with
    | "-n" :: rest => (true, rest)
    | _ => (false, args)
  let (text, stop) := Format.plainText .shell (String.intercalate " " args)
  print (if bare || stop.isSome then text else text ++ "\n")
  return 0

def printf (args : List String) : Run Nat := do
  match args with
  | "--" :: format :: args => go format args
  | [] | ["--"] => refuse "usage: printf format [arg ...]"
  | format :: args =>
    if format.startsWith "-" && 1 < format.length then
      refuse ("Illegal option " ++ String.ofList (format.toList.take 2))
    else go format args
where
  go (format : String) (args : List String) : Run Nat := do
    let printed := Format.print .shell format args
    print printed.text
    printed.flaws.forM fun flaw => complain flaw.message
    return if printed.broken then 2 else if printed.flaws.isEmpty then 0 else 1

def bracket (args : List String) : Run Nat := do
  if args.getLast? == some "]" then Condition.ask args.dropLast else refuse "missing ]"

def isName (s : String) : Bool :=
  match s.toList with
  | [] => false
  | c :: cs => isNameStart c && cs.all isNameChar

def quote (s : String) : String :=
  "'" ++ String.join (s.toList.map fun c => if c = '\'' then "'\"'\"'" else String.singleton c) ++ "'"

def binding (arg : String) : String × Option String :=
  let cs := arg.toList
  let name := cs.takeWhile (· != '=')
  match cs.drop name.length with
  | _ :: value => (String.ofList name, some (String.ofList value))
  | [] => (arg, none)

def bind (args : List String) : Run (List String) :=
  args.mapM fun arg => do
    let (name, value) := binding arg
    if !isName name then Expansion.breakOff (name ++ ": bad variable name")
    if let some value := value then assignOr name value
    return name

def list (lead : String) (names : List String) : Run Nat := do
  let bindings := (← current).bindings
  names.mergeSort.eraseDups.forM fun name =>
    print (lead ++ name ++ (match bindings.lookup name with
      | some value => "=" ++ quote value
      | none => "") ++ "\n")
  return 0

def exportNames (args : List String) : Run Nat := do
  if args.isEmpty || args == ["-p"] then list "export " (← current).exported
  else
    let names ← bind args
    change fun p => { p with exported := names ++ p.exported }
    return 0

def readonly (args : List String) : Run Nat := do
  if args.isEmpty || args == ["-p"] then list "readonly " (← current).fixed
  else
    let names ← bind args
    change fun p => { p with fixed := names ++ p.fixed }
    return 0

def declare (args : List String) : Run Nat := do
  match (← current).hidden with
  | none => Expansion.breakOff "not in a function"
  | some hidden =>
    let bindings := (← current).bindings
    let olds := args.map fun arg => ((binding arg).1, bindings.lookup (binding arg).1)
    change fun p => { p with hidden := some (olds ++ hidden) }
    let _ ← bind args
    return 0

def unset (args : List String) : Run Nat := do
  let (functions, names) := match args with
    | "-f" :: rest => (true, rest)
    | "-v" :: rest => (false, rest)
    | _ => (false, args)
  names.forM fun name => do
    if functions then change fun p => { p with functions := p.functions.filter (·.1 != name) }
    else if name.startsWith "-" then
      Expansion.breakOff ("Illegal option " ++ String.ofList (name.toList.take 2))
    else if !isName name then Expansion.breakOff (name ++ ": bad variable name")
    else if ← isFixed name then Expansion.breakOff (name ++ ": is read only")
    else
      unassign name
      change fun p => { p with exported := p.exported.filter (· != name) }
  return 0

/-- Characters with the backslashes gone that hide them, and whether one is
left over at the end. -/
def unhide : List Char → List Glyph × Bool
  | [] => ([], false)
  | ['\\'] => ([], true)
  | '\\' :: c :: rest =>
    let (gs, joined) := unhide rest
    (⟨c, true⟩ :: gs, joined)
  | c :: rest =>
    let (gs, joined) := unhide rest
    (⟨c, false⟩ :: gs, joined)

def maxJoined : Nat := 1000

/-- A line, joined with the next one at a backslash, and whether it has an end. -/
def readGlyphs (raw : Bool) : Nat → Run (List Glyph × Bool)
  | 0 => return ([], false)
  | n + 1 => do
    match ← readLine (← channel 0) with
    | none => return ([], false)
    | some (line, ended) =>
      let line := line.filter (· != Char.ofNat 0)
      if raw then return (line.map fun c => ⟨c, false⟩, ended)
      else
        let (gs, joined) := unhide line
        if joined && ended then
          let (more, ended) ← readGlyphs raw n
          return (gs ++ more, ended)
        else return (gs, ended)

/-- The values of names: a field each, and all that is left for the last one. -/
def distribute (separators : List Char) : List String → List Glyph → List (String × String)
  | [], _ => []
  | name :: names, gs =>
    let cuts (g : Glyph) := !g.quoted && separators.contains g.char
    let blank (g : Glyph) := cuts g && Expansion.isSpace g.char
    let gs := gs.dropWhile blank
    let text (gs : List Glyph) := String.ofList (gs.map (·.char))
    /- A separator after a field belongs to it, with the blanks around. -/
    let cut (gs : List Glyph) : List Glyph × List Glyph :=
      let field := gs.takeWhile fun g => !cuts g
      match (gs.drop field.length).dropWhile blank with
      | g :: more => (field, if cuts g then more.dropWhile blank else g :: more)
      | [] => (field, [])
    if names.isEmpty then
      let (field, rest) := cut gs
      [(name, text (if rest.isEmpty then field else (gs.reverse.dropWhile blank).reverse))]
    else
      let (field, rest) := cut gs
      (name, text field) :: distribute separators names rest

def assignAll : List (String × String) → Run Bool
  | [] => return true
  | (name, value) :: rest => do
    if !isName name then
      complain (name ++ ": bad variable name")
      return false
    else if ← isFixed name then
      complain (name ++ ": is read only")
      return false
    else
      assign name value
      assignAll rest

def read (args : List String) : Run Nat := go false args
where
  go (raw : Bool) : List String → Run Nat
    | "-r" :: rest => go true rest
    | "-p" :: _ :: rest => go raw rest
    | "--" :: rest => fill raw rest
    | [] => refuse "arg count"
    | arg :: rest =>
      if arg.startsWith "-" && arg.length > 1 then
        refuse ("Illegal option " ++ String.ofList (arg.toList.take 2))
      else fill raw (arg :: rest)
  fill (raw : Bool) (names : List String) : Run Nat := do
    if names.isEmpty then refuse "arg count"
    else
      let (gs, ended) ← readGlyphs raw maxJoined
      if ← assignAll (distribute (← Expansion.separators) names gs) then
        return if ended then 0 else 1
      else return 2

/-- The number that an argument gives; another text ends the script. -/
def countOf (args : List String) (default : Nat) : Run Nat := do
  match args with
  | [] => return default
  | arg :: _ =>
    match arg.toList.all Char.isDigit, arg.toNat? with
    | true, some n => return n
    | _, _ => Expansion.breakOff ("Illegal number: " ++ arg)

def exit (args : List String) : Run Nat := do
  throw (.exit ((← countOf args (← current).status) % 256))

def finish (args : List String) : Run Nat := do
  throw (.finish (← countOf args (← current).status))

def shift (args : List String) : Run Nat := do
  let n ← countOf args 1
  if (← current).params.length < n then Expansion.breakOff "can't shift that many"
  change fun p => { p with params := p.params.drop n }
  return 0

def leave (stop : Nat → Stop) (args : List String) : Run Nat := do
  let n ← countOf args 1
  if n = 0 then Expansion.breakOff ("Illegal number: " ++ args.headD "")
  if (← current).loops = 0 then return 0 else throw (stop n)

def optionNames : List (String × Char) := [
  ("errexit", 'e'), ("noglob", 'f'), ("ignoreeof", 'I'), ("interactive", 'i'), ("monitor", 'm'),
  ("noexec", 'n'), ("stdin", 's'), ("xtrace", 'x'), ("verbose", 'v'), ("vi", 'V'), ("emacs", 'E'),
  ("noclobber", 'C'), ("allexport", 'a'), ("notify", 'b'), ("nounset", 'u'), ("privileged", 'p'),
  ("nolog", 'l'), ("debug", 'd')]

def setOption (on : Bool) (letter : Char) : Run Unit :=
  change fun p => { p with
    options := if on then letter :: p.options.filter (· != letter)
      else p.options.filter (· != letter) }

def showOption (on : Bool) (name : String) (letter : Char) : Run Unit := do
  let isSet ← hasOption letter
  print (if on then name ++ String.ofList (List.replicate (16 - name.length) ' ') ++
      (if isSet then "on\n" else "off\n")
    else "set " ++ (if isSet then "-" else "+") ++ "o " ++ name ++ "\n")

/-- Options in front of the parameters of a script; what is left of the
arguments, and whether anything ended the options. -/
def takeOptions : List String → Run (Bool × List String)
  | [] => return (false, [])
  | "--" :: rest => return (true, rest)
  | "-" :: rest => do
    setOption false 'x'
    setOption false 'v'
    return (!rest.isEmpty, rest)
  | "-o" :: name :: rest => named true name rest
  | "+o" :: name :: rest => named false name rest
  | arg :: rest => do
    match arg.toList with
    | sign :: c :: cs =>
      if sign != '-' && sign != '+' then return (true, arg :: rest)
      else
        if arg == "-o" then print "Current option settings\n"
        (c :: cs).forM fun letter => do
          if letter = 'o' then
            optionNames.forM fun (name, letter) => showOption (sign = '-') name letter
          else if (optionNames.map (·.2)).contains letter then setOption (sign = '-') letter
          else Expansion.breakOff ("Illegal option -" ++ String.singleton letter)
        takeOptions rest
    | _ => return (true, arg :: rest)
where
  named (on : Bool) (name : String) (rest : List String) : Run (Bool × List String) := do
    match optionNames.lookup name with
    | some letter =>
      setOption on letter
      takeOptions rest
    | none => Expansion.breakOff ("Illegal option -o " ++ name)

def setOptions (args : List String) : Run Nat := do
  if args.isEmpty then
    let bindings := (← current).bindings
    (bindings.map (·.1)).mergeSort.forM fun name =>
      print (name ++ "=" ++ quote ((bindings.lookup name).getD "") ++ "\n")
  else
    let (given, rest) ← takeOptions args
    if given then change fun p => { p with params := rest }
  return 0

structure OptionStep where
  /-- The letter, a question mark, or a colon. -/
  letter : Char := '?'
  value : Option String := none
  index : Nat
  offset : Nat := 0
  complaint : Option String := none
  done : Bool := false

/-- Finds the next option. A colon in front of the letters keeps quiet about
faults; one after a letter asks for a value. -/
def nextOption (letters : List Char) (args : List String) (index offset : Nat) : OptionStep :=
  let word := ((args[index - 2]?).getD "").toList
  let inWord := 2 ≤ index && 0 < offset && offset < word.length
  let (cs, index) := if inWord then (word.drop offset, index)
    else (((args[index - 1]?).getD "").toList, index + 1)
  match inWord, cs with
  | false, ['-', '-'] => { index := index, done := true }
  | false, '-' :: c :: rest => option c rest (c :: rest).length index
  | false, _ => { index := index - 1, done := true }
  | true, c :: rest => option c rest (word.length - offset) index
  | true, [] => { index := index, done := true }
where
  option (c : Char) (rest : List Char) (left index : Nat) : OptionStep :=
    let quiet := letters.head? == some ':'
    let fault (letter : Char) (text : String) (offset : Nat) : OptionStep :=
      if quiet then { letter, value := some (String.singleton c), index, offset }
      else { index, offset, complaint := some text }
    let word := ((args[index - 2]?).getD "").toList
    let offset := if rest.isEmpty then 0 else word.length - left + 1
    match letters.dropWhile (· != c) with
    | [] => fault '?' ("Illegal option -" ++ String.singleton c) offset
    | _ :: ':' :: _ =>
      if !rest.isEmpty then { letter := c, value := some (String.ofList rest), index }
      else match args[index - 1]? with
      | some value => { letter := c, value := some value, index := index + 1 }
      | none => fault ':' ("No arg for -" ++ String.singleton c ++ " option") 0
    | _ => { letter := c, value := some "", index, offset }

def getOptions (args : List String) : Run Nat := do
  match args with
  | letters :: name :: rest =>
    let p ← current
    let index := ((p.bindings.lookup "OPTIND").bind String.toNat?).getD 1
    let index := Nat.max index 1
    let offset := if index = p.optionsRead.1 then p.optionsRead.2 else 0
    let step := nextOption letters.toList (if rest.isEmpty then p.params else rest) index offset
    match step.value with
    | some value => assign "OPTARG" value
    | none => unless step.done do unassign "OPTARG"
    if let some text := step.complaint then report (text ++ "\n")
    assign "OPTIND" (toString step.index)
    change fun p => { p with optionsRead := (step.index, step.offset) }
    assignOr name (String.singleton step.letter)
    return if step.done then 1 else 0
  | _ => refuse "Usage: getopts optstring var [arg...]"

def changeDirectory (args : List String) : Run Nat := do
  let args := args.filter fun arg => arg != "-P" && arg != "-L"
  let old := (← value? "PWD").getD ""
  let target ← match args with
    | [] => value? "HOME"
    | "-" :: _ => value? "OLDPWD"
    | path :: _ => pure (some path)
  let path := target.getD ""
  if path.isEmpty then return 0
  let m ← get
  match m.files.lookupFrom m.process.directory (toUtf8 path), ← locate path with
  | .ok .directory, .ok place =>
    let name := ofUtf8 place.toPath
    change fun p => { p with directory := place }
    assign "OLDPWD" old
    assign "PWD" name
    if args.head? == some "-" then print (name ++ "\n")
    return 0
  | _, _ => refuse ("can't cd to " ++ path)

def printDirectory (_ : List String) : Run Nat := do
  print (ofUtf8 (← current).directory.toPath ++ "\n")
  return 0

def mask (args : List String) : Run Nat := do
  let isOption (arg : String) := arg.startsWith "-" && 1 < arg.length
  let options := (args.takeWhile isOption).filter (· != "--")
  match options.find? (· != "-S"), args.dropWhile isOption with
  | some bad, _ => refuse ("Illegal option " ++ String.ofList (bad.toList.take 2))
  | none, [] =>
    let kept := (← current).mask
    print ((if options.isEmpty then Mode.octal 4 kept else Mode.clauses (Mode.everyone.without kept)) ++ "\n")
    return 0
  | none, text :: _ =>
    let set (m : Mode) : Run Nat := do
      change fun p => { p with mask := m &&& Mode.everyone }
      return 0
    if ((text.toList.head?).map Char.isDigit).getD false then
      if text.toList.all Mode.isOctal then set (Mode.ofOctal text.toList)
      else refuse ("Illegal number: " ++ text)
    else match (text.splitOn ",").mapM fun c => maskClause? c.toList with
      | none => refuse ("Illegal mode: " ++ text)
      | some clauses =>
        let allowed := Mode.everyone.without (← current).mask
        set (Mode.everyone.without (Mode.changed 0 false clauses.flatten allowed))
where
  /-- A clause; one that is empty changes nothing. -/
  maskClause? (cs : List Char) : Option (List Mode.Change) :=
    if cs.isEmpty then some [] else Mode.clause? cs

def limit (args : List String) : Run Nat := do
  match args.filter fun arg => !arg.startsWith "-" with
  | [] =>
    print "unlimited\n"
    return 0
  | arg :: _ =>
    if arg == "unlimited" || arg.toNat?.isSome then return 0 else refuse "bad number"

/-- Sets what is done on an event, or that it is left to the system. -/
def setTrap (action : Option String) (signal : Nat) : Run Unit :=
  change fun p => { p with
    traps :=
      let others := p.traps.filter (·.1 != Signal.name signal)
      match action with
      | some action => (Signal.name signal, action) :: others
      | none => others }

def trap (args : List String) : Run Nat := do
  match args with
  | [] =>
    let traps := (← current).traps
    (List.range (Signal.last + 1)).forM fun n =>
      match traps.lookup (Signal.name n) with
      | some action => print ("trap -- " ++ quote action ++ " " ++ Signal.name n ++ "\n")
      | none => pure ()
    return 0
  | "--" :: rest => install rest
  | first :: _ =>
    if first.startsWith "-" && first.length > 1 then
      Expansion.breakOff ("Illegal option " ++ String.ofList (first.toList.take 2))
    else install args
where
  /-- The first argument is an event too if it is a number or the only one. -/
  install (args : List String) : Run Nat := do
    match args with
    | [] => return 0
    | action :: events =>
      let (action, events) := if events.isEmpty || (action.toNat?.bind fun n =>
          if n ≤ Signal.last then some n else none).isSome then (none, action :: events)
        else (if action == "-" then none else some action, events)
      events.foldlM (fun status event => do
        match Signal.ofText? event with
        | some n =>
          setTrap action n
          return status
        | none =>
          report ("trap: " ++ event ++ ": bad trap\n")
          return 1) 0

def stopJob (pid signal : Nat) : Run Bool := do
  let m ← get
  match m.process.jobs.find? fun j => j.pid = pid && m.clock < j.finish with
  | none => return false
  | some _ =>
    let ignored := (m.process.traps.lookup (Signal.name signal)) == some ""
    unless Signal.isIdle signal || ignored do
      stopProcess pid m.clock
      change fun p => { p with
        jobs := p.jobs.map fun j => if j.pid = pid then ⟨pid, .signal signal, m.clock⟩ else j }
    return true

def sendTo (signal : Nat) (target : String) : Run Nat := do
  let p ← current
  if !target.toList.all Char.isDigit || target.isEmpty then
    if target.startsWith "%" then refuse ("No such job: " ++ target)
    else refuse ("Illegal number: " ++ target)
  else
    let pid := target.toNat?.getD 0
    if pid = p.pid then
      receive signal
      return 0
    else if p.group.contains pid then
      let now := (← get).clock
      modify fun m => { m with signals := m.signals ++ [⟨now, pid, signal⟩] }
      return 0
    else if ← stopJob pid signal then return 0
    else
      complain "No such process\n"
      return 1

def send (signal : Nat) (targets : List String) : Run Nat := do
  if targets.isEmpty then
    refuse "Usage: kill [-s sigspec | -signum | -sigspec] [pid | job]... or\nkill -l [exitstatus]"
  else targets.foldlM (fun status target => do return Nat.max status (← sendTo signal target)) 0

def listSignals (args : List String) : Run Nat := do
  match args with
  | [] =>
    print "0\n"
    Signal.names.forM fun name => print (name ++ "\n")
    return 0
  | arg :: _ =>
    match arg.toNat? with
    | none => refuse ("Illegal number: " ++ arg)
    | some n =>
      let n := if 128 < n then n - 128 else n
      if 0 < n && n ≤ Signal.last then
        print (Signal.name n ++ "\n")
        return 0
      else refuse ("invalid signal number or exit status: " ++ arg)

def signal? (text : String) : Option Nat :=
  match Signal.ofText? text with
  | some 0 => if text.toNat?.isSome then some 0 else none
  | n => n

def kill (args : List String) : Run Nat := do
  match args with
  | "-l" :: rest => listSignals rest
  | "-s" :: name :: targets =>
    match signal? name with
    | some n => send n targets
    | none => refuse ("invalid signal number or name: " ++ name)
  | "--" :: targets => send Signal.terminate targets
  | arg :: targets =>
    if arg.startsWith "-" then
      match signal? (String.ofList (arg.toList.drop 1)) with
      | some n => send n targets
      | none => refuse ("Illegal option -" ++ String.ofList ((arg.toList.drop 1).take 1))
    else send Signal.terminate args
  | [] => send Signal.terminate []

/-- Waits for a job; how it ended. A signal that has ended it is told. -/
def waitFor (pid : Nat) : Run Nat := do
  match (← current).jobs.find? (·.pid = pid) with
  | none => return 127
  | some job =>
    passTo job.finish
    if let .signal n := job.finished then report (Signal.note n)
    change fun p => { p with
      jobs := p.jobs.map fun j => if j.pid = pid then ⟨pid, .code job.finished.status, j.finish⟩
        else j }
    return job.finished.status

def wait (args : List String) : Run Nat := do
  match args with
  | [] =>
    passTo ((← current).jobs.foldl (fun t j => Nat.max t j.finish) 0)
    return 0
  | _ =>
    args.foldlM (fun _ arg =>
      match arg.toList.all Char.isDigit, arg.toNat? with
      | true, some pid => waitFor pid
      | _, _ => if arg.startsWith "%" then refuse ("No such job: " ++ arg)
        else refuse ("Illegal number: " ++ arg)) 0

def resumeJob (_ : List String) : Run Nat := refuse "No current job"

def succeed (_ : List String) : Run Nat := return 0

def table : List (String × (List String → Run Nat)) :=
  [("echo", echo), ("printf", printf), ("[", bracket), ("test", Condition.ask), ("read", read),
    ("exit", exit), ("return", finish), ("shift", shift), ("set", setOptions),
    ("export", exportNames), ("readonly", readonly), ("local", declare), ("unset", unset),
    ("kill", kill), ("wait", wait), (":", succeed), ("true", succeed),
    ("false", fun _ => return 1), ("trap", trap), ("umask", mask), ("ulimit", limit),
    ("break", leave .leave), ("continue", leave .next), ("getopts", getOptions),
    ("cd", changeDirectory), ("chdir", changeDirectory), ("pwd", printDirectory),
    ("alias", succeed), ("unalias", succeed), ("hash", succeed), ("jobs", succeed),
    ("times", succeed), ("bg", resumeJob), ("fg", resumeJob)]

/-- Runs a command; its name comes first in what it complains about. -/
def call (name : String) (body : Run Nat) : Run Nat := do
  restoring (fun before p => { p with speaker := before.speaker, lost := before.lost }) do
    change fun p => { p with speaker := some name, lost := false }
    let status ← body
    if (← current).lost then
      complain (name ++ ": I/O error")
      return status ||| 1
    else return status

end PartitionTest.Shell.Builtin
