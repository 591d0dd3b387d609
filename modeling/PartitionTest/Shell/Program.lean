import PartitionTest.Shell.Expansion
import PartitionTest.Shell.Objects.Program
import PartitionTest.Shell.Records.Program
import PartitionTest.Shell.Start
import PartitionTest.Shell.Utility

/-! Starting programs: those of the system, shells with their scripts, and
programs that start others. Before a command starts, redirections say where its
descriptors lead. -/
namespace PartitionTest.Shell.Redirection

open Machine

def openReason (missing : String) (e : FileError) : String :=
  match e with
  | .notFound => missing
  | e => e.reason

abbrev Opened := Except String (Option Channel)

def openSink (target : String) (contents : ByteArray → ByteArray) : Run Opened := do
  match ← Machine.openSink target contents with
  | .ok c => return .ok (some c)
  | .error e =>
    let reason := match ← entry target with
      | .ok (.device (.stream _)) => "No such device or address"
      | _ => openReason "Directory nonexistent" e
    return .error ("cannot create " ++ target ++ ": " ++ reason)

def openTarget (kind : RedirectKind) (target : String) : Run Opened := do
  match kind with
  | .read =>
    match ← openSource target with
    | .ok c => return .ok (some c)
    | .error e => return .error ("cannot open " ++ target ++ ": " ++ openReason "No such file" e)
  | .write =>
    let isFile := match ← entry target with
      | .ok (.file _ _) => true
      | _ => false
    if isFile && (← hasOption 'C') then
      return .error ("cannot create " ++ target ++ ": File exists")
    else openSink target fun _ => .empty
  | .overwrite => openSink target fun _ => .empty
  | .append => openSink target id
  | .readWrite =>
    match ← openSink target id with
    | .ok (some (.file _)) =>
      match ← openSource target with
      | .ok c => return .ok (some c)
      | .error e => return .error ("cannot open " ++ target ++ ": " ++ e.reason)
    | opened => return opened
  | .text => return .ok (some (← newSource (.ofText target)))
  | .copy =>
    if target == "-" then return .ok none
    else if !target.toList.all Char.isDigit then return .error "Syntax error: Bad fd number"
    else
      match ← channel? (target.toNat?.getD 0) with
      | some c => return .ok (some c)
      | none => return .error (target ++ ": Bad file descriptor")

/-- Redirects descriptors in order, up to the first that cannot be. -/
def redirect (run : Runner) : List Redirect → Run Bool
  | [] => return true
  | r :: rest => do
    match ← openTarget r.kind (← Expansion.whole run r.target) with
    | .ok (some c) =>
      direct r.descriptor c
      redirect run rest
    | .ok none =>
      close r.descriptor
      redirect run rest
    | .error reason =>
      complain reason
      return false

/-- Runs something with descriptors redirected, and sets them back. -/
def redirecting (run : Runner) (rs : List Redirect) (body : Run Unit) : Run Unit :=
  restoring (fun before p => { p with channels := before.channels }) do
    if ← redirect run rs then body else setStatus 2

end PartitionTest.Shell.Redirection

namespace PartitionTest.Shell.Program

open Machine

def withLastAction (run : Runner) (body : Run Unit) : Run Unit := do
  let result ← attempt body
  match result with
  | .error (.killed _) | .error .late => resume result
  | _ =>
    match (← current).traps.lookup Signal.exitName with
    | none => resume result
    | some action =>
      change fun p => { p with traps := p.traps.filter (·.1 != Signal.exitName) }
      let finished ← endOf result
      setStatus finished.status
      Expansion.runLines run action
      throw (.exit finished.status)

def runScript (run : Runner) (name : String) (params : List String) (options : List Char)
    (source : String) : Run Nat := do
  change fun p => {
    name := name
    params := params
    bindings := p.bindings.filter fun v => p.exported.contains v.1
    exported := p.exported
    channels := p.channels
    directory := p.directory
    options := options
    traps := p.traps.filter fun t => t.2.isEmpty
    pid := p.pid
    shellPid := p.pid
    parentPid := p.parentPid
    mask := p.mask
    group := p.group }
  assign "PWD" (ofUtf8 (← current).directory.toPath)
  assign "PPID" (toString (← current).parentPid)
  assign "OPTIND" "1"
  withLastAction run (Expansion.runLines run source)
  return (← current).status

structure Invocation where
  options : List Char := []
  /-- Whether the script is an argument. -/
  asArgument : Bool := false
  rest : List String := []

/-- Reads the options of a shell, or finds one that does not exist. -/
def invocation : List String → Invocation → Except String Invocation
  | [], i => .ok i
  | "--" :: rest, i | "-" :: rest, i => .ok { i with rest := rest }
  | arg :: rest, i =>
    match arg.toList with
    | sign :: c :: cs =>
      if sign != '-' && sign != '+' then .ok { i with rest := arg :: rest }
      else
        let letters := (c :: cs).filter (· != 'o')
        let known (c : Char) := c = 'c' || c = 'l' || (Builtin.optionNames.map (·.2)).contains c
        match letters.find? fun c => !known c with
        | some bad => .error ("Illegal option -" ++ String.singleton bad)
        | none =>
          let set := letters.filter (· != 'c')
          let i := { i with
            options := if sign = '-' then set ++ i.options
              else i.options.filter fun c => !set.contains c
            asArgument := i.asArgument || letters.contains 'c' }
          if (c :: cs).contains 'o' then
            match rest with
            | name :: rest =>
              match Builtin.optionNames.lookup name with
              | some letter => invocation rest { i with
                  options := if sign = '-' then letter :: i.options
                    else i.options.filter (· != letter) }
              | none => .error ("Illegal option -o " ++ name)
            | [] => .ok { i with rest := [] }
          else invocation rest i
    | _ => .ok { i with rest := arg :: rest }

/-- The shell with its own arguments: a script to run, a file with one, or
nothing if it stands in the input. -/
def shell (run : Runner) (name : String) (args : List String) : Run Nat := do
  match invocation args {} with
  | .error reason => Utility.fail name ("0: " ++ reason) 2
  | .ok i =>
    if i.asArgument then
      match i.rest with
      | [] => Utility.fail name "0: -c requires an argument" 2
      | source :: rest => runScript run (rest.headD name) rest.tail i.options source
    else if i.options.contains 's' || i.rest.isEmpty then
      let cs ← readAll (← channel 0)
      runScript run name i.rest ('s' :: i.options.filter (· != 's'))
        (String.ofList (cs.toOption.getD []))
    else
      let path := i.rest.headD ""
      match (← bytes path) with
      | .ok bytes => runScript run path i.rest.tail i.options (ofBytes bytes.toList)
      | .error e =>
        Utility.fail name ("0: cannot open " ++ path ++ ": " ++
          Redirection.openReason "No such file" e) 2

def scope : Run Start.Scope := do
  let m ← get
  let path := (m.process.bindings.lookup "PATH").getD ""
  return ⟨m.files, m.process.directory, Start.searchPath (toUtf8 path)⟩

/-- Starts what a name leads to, in place of the process; a file in no form
that can be run is a script. -/
def start (run : Runner) (runProgram : Start.Target → Run Nat) (name : String) (args : List String) :
    Run (Except StartError Nat) := do
  match Start.resolve (← scope) name args with
  | .ok target => return .ok (← runProgram target)
  | .error .format => return .ok (← shell run name (name :: args))
  | .error e => return .error e

def startStatus : StartError → Nat
  | .file .notFound | .file .notDirectory | .file .nameTooLong => 127
  | _ => 126

def startReason : StartError → String
  | .file e => e.reason
  | .format => "Exec format error"
  | .zeroByte => "Invalid argument"

def startFor (starter : String) (start : String → List String → Run (Except StartError Nat)) :
    List String → Run Nat
  | [] => return 0
  | name :: args => do
    match ← start name args with
    | .ok status => return status
    | .error e =>
      let lead := if starter == "timeout" || starter == "nohup" then "failed to run command " else ""
      let shown := if starter == "xargs" then name
        else if starter == "nohup" then Quotation.shellQuoted name else Quotation.quoted name
      Utility.fail starter (lead ++ shown ++ ": " ++ startReason e) (startStatus e)

def setVariables : List String → Run (List String)
  | [] => return []
  | arg :: rest => do
    match Builtin.binding arg with
    | (name, some value) =>
      assign name value
      change fun p => { p with exported := name :: p.exported }
      setVariables rest
    | (_, none) => return arg :: rest

def env (start : String → List String → Run (Except StartError Nat)) : Utility.Program :=
  Utility.withOptions { flags := "i0v", valued := "uCS", strict := true,
                        long := [("ignore-environment", 'i'), ("unset", 'u'), ("chdir", 'C')] } 125
    fun name o => do
      let o := if o.operands.head? == some "-" then
        { o with given := ('i', "") :: o.given, operands := o.operands.tail } else o
      if o.has 'i' then change fun p => { p with exported := [], bindings := p.bindings.filter (·.1 == "PATH") }
      (o.values 'u').forM unassign
      match (o.value? 'S').map fun s =>
          ((Text.split Utility.isBlank s.toList).filter (!·.isEmpty)).map String.ofList with
      | some words => startFor name start (← setVariables (words ++ o.operands))
      | none =>
        match ← setVariables o.operands with
        | [] =>
          Utility.put name (String.join ((← Utility.surroundings).reverse.map (· ++ "\n")))
          return 0
        | words => startFor name start words

def timeout (start : String → List String → Run (Except StartError Nat)) : Utility.Program :=
  Utility.withOptions { flags := "v", valued := "sk", strict := true,
                        long := [("signal", 's'), ("kill-after", 'k'), ("preserve-status", 'v')] } 125
    fun name o => do
      match o.operands with
      | [] | [_] => Utility.misused name "missing operand" 125
      | span :: command =>
        match Utility.span? span with
        | none => Utility.misused name ("invalid time interval " ++ Quotation.quoted span) 125
        | some 0 => startFor name start command
        | some micros =>
          let signal := ((o.value? 's').bind Signal.ofText?).getD Signal.terminate
          let m ← get
          let moment := Nat.min m.deadline (m.clock + micros)
          modify fun m => { m with deadline := moment }
          let (pid, result) ← inCopy do
            let status ← startFor name start command
            throw (.exit status)
          modify fun n => { n with deadline := m.deadline }
          match result with
          | .ok finished => return finished.status
          | .error .late =>
            if moment = m.deadline then throw .late
            modify fun n => { n with clock := moment }
            stopProcess pid moment
            return if o.has 'v' || signal = Signal.kill then 128 + signal else 124
          | .error stop => throw stop

def nohup (start : String → List String → Run (Except StartError Nat)) : Utility.Program :=
  Utility.withOptions { strict := true } 125 fun name o => do
    if o.operands.isEmpty then Utility.misused name "missing operand" 125
    else startFor name start o.operands

/-- Runs a program with a different priority, or tells the priority. -/
def nice (start : String → List String → Run (Except StartError Nat)) : Utility.Program :=
  Utility.withOptions { valued := "n", strict := true, long := [("adjustment", 'n')] } 125
    fun name o => do
      match o.operands, o.value? 'n' with
      | [], none =>
        Utility.put name "0\n"
        return 0
      | [], some _ => Utility.misused name "a command must be given with an adjustment" 125
      | words, _ => startFor name start words

def inputWords : List Char → Option (Char) → Option (List Char) → List (List Char)
  | [], _, word => (word.map List.reverse).toList
  | c :: rest, some quote, word =>
    if c = quote then inputWords rest none (some (word.getD []))
    else inputWords rest (some quote) (some (c :: word.getD []))
  | '\\' :: c :: rest, none, word => inputWords rest none (some (c :: word.getD []))
  | c :: rest, none, word =>
    if c = '"' || c = '\'' then inputWords rest (some c) (some (word.getD []))
    else if Utility.isBlank c then
      (word.map List.reverse).toList ++ inputWords rest none none
    else inputWords rest none (some (c :: word.getD []))

def inGroups (size : Nat) : Nat → List α → List (List α)
  | 0, _ | _, [] => []
  | n + 1, xs => xs.take size :: inGroups size n (xs.drop size)

def xargs (start : String → List String → Run (Except StartError Nat)) : Utility.Program :=
  Utility.withOptions { flags := "r0tpx", valued := "nILPdEs", strict := true,
                        long := [("max-args", 'n'), ("no-run-if-empty", 'r'), ("null", '0')] } 1
    fun name o => do
      let cs := ((← readAll (← channel 0)).toOption).getD []
      let (base, command) := match o.operands with
        | [] => ("echo", [])
        | c :: rest => (c, rest)
      let runs : List (List String) := match o.value? 'I' with
        | some mark =>
          ((Utility.linesOf cs).1.map fun line => String.ofList (line.dropWhile Utility.isBlank)).filterMap
            fun line => if line.isEmpty then none else some (command.map fun arg => arg.replace mark line)
        | none =>
          let words := if o.has '0' then
              ((Text.split (· == Char.ofNat 0) cs).filter (!·.isEmpty)).map String.ofList
            else match (o.value? 'd').bind fun d => (Format.plainText .printf d).1.toList.head? with
            | some d => (Text.split (· == d) (if cs.getLast? == some d then cs.dropLast else cs)).map String.ofList
            | none => (inputWords cs none none).map String.ofList
          let size := ((o.value? 'n').bind String.toNat?).getD ((words.length + 1))
          if words.isEmpty then if o.has 'r' then [] else [command]
          else (inGroups (Nat.max 1 size) words.length words).map (command ++ ·)
      runs.foldlM (fun status args => do
        let finished ← inSubshell do
          direct 0 (.device .null)
          let status ← startFor name start (base :: args)
          throw (.exit status)
        match finished with
        | .code 0 => return status
        | .code n =>
          if n = 126 || n = 127 then throw (.exit n)
          else if n = 255 then
            Utility.say name (base ++ ": exited with status 255; aborting")
            throw (.exit 124)
          else return 123
        | .signal n =>
          Utility.say name (base ++ ": terminated by signal " ++ toString n)
          throw (.exit 125)) 0

/-- Runs a program of the system in place of the process; programs may start
others so deep. -/
def runTarget (run : Runner) : Nat → Start.Target → Run Nat
  | 0, _ => return 126
  | n + 1, target => do
    let start (name : String) (args : List String) := start run (runTarget run n) name args
    let utility : Utility.Program := match target.program with
      | "env" => env start
      | "timeout" => timeout start
      | "xargs" => xargs start
      | "nohup" => nohup start
      | "nice" => nice start
      | "awk" | "mawk" => Records.Program.awk start
      | "python" | "python3" => Objects.Program.python
      | program => (Utility.table.lookup program).getD (Utility.always 127)
    if Utility.shells.contains target.program then shell run target.name target.args
    else Utility.Help.offer target.program utility target.name target.args

def maxStarts : Nat := 40

def runProgram (run : Runner) (target : Start.Target) : Run Nat := runTarget run maxStarts target

/-- Puts a program in the place of the process; the status if there is none. -/
def replace (run : Runner) (name : String) (args : List String) : Run Nat := do
  match ← start run (runProgram run) name args with
  | .ok status => throw (.exit status)
  | .error e =>
    let isMissing := match e with
      | .file .notFound | .file .notDirectory => true
      | .file .nameTooLong => !name.toList.contains '/'
      | _ => false
    complain (name ++ ": " ++ (if isMissing then "not found" else startReason e))
    return startStatus e

/-- Runs a program as a command of a script. A signal to the program does not
end the script. -/
def runCommand (run : Runner) (name : String) (args : List String) : Run Nat := do
  match Start.resolve (← scope) name args with
  | .error .format | .ok _ =>
    let finished ← inSubshell do
      pass startTime
      let status ← replace run name args
      throw (.exit status)
    if let .signal n := finished then report (Signal.note n)
    return finished.status
  | .error _ => replace run name args

end PartitionTest.Shell.Program
