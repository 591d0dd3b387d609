import PartitionTest.Files.Tree
import PartitionTest.Shell.Script
import PartitionTest.Shell.Signal
import PartitionTest.Text.Utf8

/-! The machine on which scripts run: files, streams, a clock, and the process
that is running now. Time is counted in microseconds. What runs beside
something else is run first and the clock is set back; all that passes between
the two carries its time. -/
namespace PartitionTest.Shell

def ofUtf8 (s : String) : String :=
  String.ofList (s.toUTF8.toList.map fun b => Char.ofNat b.toNat)

def bytesOf (s : String) : List UInt8 :=
  s.toList.map fun c => c.toNat.toUInt8

def ofBytes (bytes : List UInt8) : String :=
  String.ofList (bytes.map fun b => Char.ofNat b.toNat)

def toUtf8 (s : String) : String :=
  String.ofList (Text.Utf8.decode (bytesOf s))

inductive Channel where
  | source (n : Nat)
  | sink (n : Nat)
  | file (p : Place)
  | device (d : Device)
deriving DecidableEq, Repr, Inhabited

structure Source where
  /-- What arrives, and when. -/
  pieces : List (Nat × List Char) := []
  /-- When it is known that nothing more comes. -/
  closed : Nat := 0
  /-- What comes after all pieces, again and again. -/
  endless : Option String := none
  /-- Whether one can go back in it, as in a file. -/
  seekable : Bool := false
  /-- Why nothing can be read, if that is so. -/
  fault : Option FileError := none
deriving Inhabited

namespace Source

def ofText (s : String) : Source := { pieces := [(0, s.toList)] }

/-- The characters before a line feed, whether one comes, and when this is known. -/
def line (s : Source) : (List Char × Bool × Nat) × Source :=
  match s.endless, go s.pieces with
  | none, ((cs, false, _), rest) => ((cs, false, s.closed), { s with pieces := rest })
  | some text, ((cs, false, time), rest) =>
    ((cs ++ text.toList.takeWhile (· != '\n'), true, time), { s with pieces := rest })
  | _, (taken, rest) => (taken, { s with pieces := rest })
where
  go : List (Nat × List Char) → (List Char × Bool × Nat) × List (Nat × List Char)
    | [] => (([], false, 0), [])
    | (time, cs) :: more =>
      match cs.span (· != '\n') with
      | (before, _ :: after) => ((before, true, time), (time, after) :: more)
      | (before, []) =>
        let ((cs, ended, later), rest) := go more
        ((before ++ cs, ended, Nat.max time later), rest)

/-- So many characters, if there are as many, and when they have arrived. -/
def chars (s : Source) (count : Nat) : (List Char × Nat) × Source :=
  let ((cs, time, missing), rest) := go count s.pieces
  let s := { s with pieces := rest }
  match missing, s.endless with
  | 0, _ => ((cs, time), s)
  | n, some text =>
    let more := (List.replicate (n / text.length + 1) text.toList).flatten.take n
    ((cs ++ more, time), s)
  | _, none => ((cs, s.closed), s)
where
  go (count : Nat) : List (Nat × List Char) →
      (List Char × Nat × Nat) × List (Nat × List Char)
    | [] => (([], 0, count), [])
    | (time, cs) :: more =>
      let (taken, left) := cs.splitAt count
      if taken.length = count then ((taken, time, 0), (time, left) :: more)
      else
        let ((cs, later, missing), rest) := go (count - taken.length) more
        ((taken ++ cs, Nat.max time later, missing), rest)

end Source

/-- Something written, with its time, and who wrote it: the numbers of the
process and of those that it is part of. -/
structure Print where
  time : Nat
  group : List Nat
  text : String
deriving Inhabited

structure Sink where
  prints : List Print := []
  /-- What is written after that without end. -/
  endless : Option String := none
  /-- Processes that hold it open, and until when. -/
  holders : List (List Nat × Nat) := []
deriving Inhabited

namespace Sink

def ordered (s : Sink) : List Print :=
  s.prints.reverse.mergeSort fun a b => a.time ≤ b.time

def text (s : Sink) : String := String.join (s.ordered.map (·.text))

def heldUntil (s : Sink) : Nat := s.holders.foldl (fun t h => Nat.max t h.2) 0

def stopped (s : Sink) (pid moment : Nat) : Sink :=
  { s with
    prints := s.prints.filter fun p => p.time ≤ moment || !p.group.contains pid
    holders := s.holders.map fun (group, until') =>
      (group, if group.contains pid then Nat.min until' moment else until') }

/-- When a process writes to it for the first time after a moment. -/
def nextPrint? (s : Sink) (pid moment : Nat) : Option Nat :=
  (s.ordered.find? fun p => moment < p.time && p.group.contains pid).map (·.time)

end Sink

inductive End where
  | code (status : Nat)
  | signal (number : Nat)
deriving DecidableEq, Repr, Inhabited

def End.status : End → Nat
  | .code status => status
  | .signal number => 128 + number

structure Job where
  pid : Nat
  finished : End
  /-- When it ends. -/
  finish : Nat
deriving Inhabited

structure Process where
  /-- What the script is called. -/
  name : String
  params : List String
  bindings : List (String × String) := []
  exported : List String := []
  /-- Variables that cannot be changed. -/
  fixed : List String := []
  functions : List (String × Script) := []
  channels : List (Nat × Channel) := []
  directory : Place := Place.root
  /-- How the last command ended. -/
  status : Nat := 0
  /-- How the last command ended whose output became part of a word. -/
  outputStatus : Nat := 0
  line : Nat := 1
  /-- The command whose name comes first in messages. -/
  speaker : Option String := none
  /-- Whether a command could not write what it wanted to. -/
  lost : Bool := false
  /-- Letters of options that are set. -/
  options : List Char := []
  /-- Whether the command is part of a test. -/
  tested : Bool := false
  /-- How many loops the command is in. -/
  loops : Nat := 0
  /-- How many functions the command is in. -/
  calls : Nat := 0
  /-- In a function, what its own variables held before. -/
  hidden : Option (List (String × Option String)) := none
  /-- What is done on an event; nothing at all if the text is empty. -/
  traps : List (String × String) := []
  /-- Signals that were caught and not yet acted on. -/
  caught : List Nat := []
  jobs : List Job := []
  /-- The job that was started last. -/
  lastJob : Option Nat := none
  /-- The number of the process. -/
  pid : Nat := 0
  /-- The number by which a script knows itself. -/
  shellPid : Nat := 0
  /-- The number of the process that started the script. -/
  parentPid : Nat := 0
  /-- The numbers of the process and of those that it is part of. -/
  group : List Nat := []
  /-- Where the reading of options stands: the next argument, and how many
  letters of the one before it are read. -/
  optionsRead : Nat × Nat := (1, 0)
  /-- What is not allowed with new files. -/
  mask : Mode := 0o022
deriving Inhabited

def Process.newMode (p : Process) : Mode := Mode.fresh.without p.mask

structure Sent where
  time : Nat
  target : Nat
  signal : Nat
deriving Inhabited

structure Machine where
  files : FileTree
  clock : Nat := 0
  deadline : Nat
  sources : Array Source := #[]
  sinks : Array Sink := #[]
  nextPid : Nat := 4242
  signals : List Sent := []
  process : Process
deriving Inhabited

inductive Stop where
  | exit (status : Nat)
  /-- Leaves so many loops. -/
  | leave (loops : Nat)
  /-- Leaves all but one of so many loops and goes on with that one. -/
  | next (loops : Nat)
  | finish (status : Nat)
  | killed (signal : Nat)
  /-- The deadline has come. -/
  | late
deriving DecidableEq, Repr, Inhabited

abbrev Run := ExceptT Stop (StateM Machine)

def commandTime : Nat := 10

def startTime : Nat := 500

namespace Machine

def current : Run Process := do return (← get).process

def change (f : Process → Process) : Run Unit :=
  modify fun m => { m with process := f m.process }

def changeSink (n : Nat) (f : Sink → Sink) : Run Unit :=
  modify fun m => { m with sinks := m.sinks.modify n f }

/-- Keeps the sinks open up to a moment that the process can write to. -/
def hold (moment : Nat) : Run Unit := do
  let p ← current
  p.channels.forM fun (_, c) =>
    match c with
    | .sink n => changeSink n fun s => { s with holders := (p.group, moment) :: s.holders }
    | _ => pure ()

def receive (signal : Nat) : Run Unit := do
  match (← current).traps.lookup (Signal.name signal) with
  | some action =>
    if !Signal.canBeCaught signal then throw (.killed signal)
    unless action.isEmpty do change fun p => { p with caught := p.caught ++ [signal] }
  | none =>
    if Signal.suspends signal then throw .late
    unless Signal.isIdle signal do throw (.killed signal)

def deliver : Run Unit := do
  let m ← get
  let (due, rest) := m.signals.partition fun s => s.target = m.process.pid && s.time ≤ m.clock
  set { m with signals := rest }
  due.forM fun s => do
    try receive s.signal catch stop =>
      hold m.clock
      modify fun m => { m with clock := s.time }
      throw stop

def pass (time : Nat) : Run Unit := do
  modify fun m => { m with clock := m.clock + time }
  if !(← get).signals.isEmpty then deliver
  let m ← get
  if m.deadline ≤ m.clock then throw .late

def passTo (moment : Nat) : Run Unit := do
  pass (moment - (← get).clock)

def hasOption (letter : Char) : Run Bool := do
  return (← current).options.contains letter

def newPid : Run Nat := do
  let n := (← get).nextPid
  modify fun m => { m with nextPid := n + 1 }
  return n

def entry (path : String) : Run (Except FileError Entry) := do
  let m ← get
  return m.files.lookupFrom m.process.directory (toUtf8 path)

def bytes (path : String) : Run (Except FileError ByteArray) := do
  return (← entry path) >>= Entry.bytes

def locate (path : String) : Run (Except FileError Place) := do
  let m ← get
  return m.files.locateFrom m.process.directory (toUtf8 path)

def channel? (descriptor : Nat) : Run (Option Channel) := do
  return (← current).channels.lookup descriptor

def direct (descriptor : Nat) (channel : Channel) : Run Unit :=
  change fun p => { p with
    channels := (descriptor, channel) :: p.channels.filter (·.1 != descriptor) }

def close (descriptor : Nat) : Run Unit :=
  change fun p => { p with channels := p.channels.filter (·.1 != descriptor) }

def newSource (s : Source) : Run Channel := do
  let n := (← get).sources.size
  modify fun m => { m with sources := m.sources.push s }
  return .source n

def newSink : Run Nat := do
  let n := (← get).sinks.size
  modify fun m => { m with sinks := m.sinks.push {} }
  return n

def sinkAt (m : Machine) (n : Nat) : Sink := m.sinks[n]?.getD {}

def write (descriptor : Nat) (text : String) : Run (Option FileError) := do
  if text.isEmpty then return none
  match ← channel? descriptor with
  | some (.sink n) =>
    let m ← get
    changeSink n fun s => { s with prints := ⟨m.clock, m.process.group, text⟩ :: s.prints }
    return none
  | some (.file p) =>
    modify fun m => match m.files.entry? p with
      | some (.file contents mode) =>
        { m with files := m.files.insert p (.file (contents ++ ⟨(bytesOf text).toArray⟩) mode) }
      | _ => m
    return none
  | some (.device .full) => return some .noSpace
  | some (.device _) => return none
  | some (.source _) | none => return some .badDescriptor

def report (text : String) : Run Unit := do
  let _ ← write 2 text

/-- Writes what a command prints; what cannot be written is noted. -/
def print (text : String) : Run Unit := do
  if (← write 1 text).isSome then change fun p => { p with lost := true }

/-- A message of the shell, with the name of the script, the line and the command. -/
def complain (message : String) : Run Unit := do
  let p ← current
  let lead := match p.speaker with
    | some command => command ++ ": "
    | none => ""
  report (p.name ++ ": " ++ toString p.line ++ ": " ++ lead ++ message ++ "\n")

def writeForever (descriptor : Nat) (text : String) : Run (Option FileError) := do
  match ← channel? descriptor with
  | some (.sink n) =>
    changeSink n fun s => { s with endless := some text }
    throw .late
  | some (.file _) | some (.device .null) | some (.device .zero) => throw .late
  | some (.device .full) => return some .noSpace
  | _ => return some .badDescriptor

def zeros : String := String.ofList (List.replicate 1024 (Char.ofNat 0))

def source? (c : Channel) : Run (Option (Option Nat × Source)) := do
  match c with
  | .source n => return (← get).sources[n]?.map fun s => (some n, s)
  | .device .null => return some (none, {})
  | .device .zero | .device .full => return some (none, { endless := some zeros })
  | _ => return none

def setSource (n : Option Nat) (s : Source) : Run Unit :=
  match n with
  | some n => modify fun m => { m with sources := m.sources.modify n fun _ => s }
  | none => pure ()

def channel (descriptor : Nat) : Run Channel := do
  return (← channel? descriptor).getD (.sink 0)

/-- Everything there is to read, with the times at which it arrives, or what
comes without end. The source is empty then. -/
def takePieces (c : Channel) : Run (Except FileError Source) := do
  match ← source? c with
  | none => return .error .badDescriptor
  | some (n, s) =>
    match s.fault with
    | some e => return .error e
    | none =>
      setSource n { s with pieces := [] }
      return .ok s

/-- Everything there is to read; what comes without end is never read to its end. -/
def readAll (c : Channel) : Run (Except FileError (List Char)) := do
  match ← takePieces c with
  | .error e => return .error e
  | .ok s =>
    if s.endless.isSome then throw .late
    passTo s.closed
    return .ok (s.pieces.flatMap (·.2))

def readChars (c : Channel) (count : Nat) : Run (List Char) := do
  match ← source? c with
  | none => return []
  | some (n, s) =>
    let ((cs, time), s) := s.chars count
    setSource n s
    passTo time
    return cs

/-- Reads a line without its end, and whether it has one; nothing if the
channel cannot be read. -/
def readLine (c : Channel) : Run (Option (List Char × Bool)) := do
  match ← source? c with
  | none => return none
  | some (n, s) =>
    if s.fault.isSome then return none
    let ((line, ended, time), s) := s.line
    setSource n s
    passTo time
    return some (line, ended)

def openSource (path : String) : Run (Except FileError Channel) := do
  match ← entry path with
  | .error e => return .error e
  | .ok (.file contents _) =>
    return .ok (← newSource { Source.ofText (ofBytes contents.toList) with seekable := true })
  | .ok .directory => return .ok (← newSource { fault := some .isDirectory })
  | .ok (.program _) => return .ok (← newSource {})
  | .ok (.device (.stream n)) =>
    match ← channel? n with
    | some c => return .ok c
    | none => return .error .notFound
  | .ok (.device d) => return .ok (.device d)

/-- Opens what a path leads to for writing, with the contents of a file changed first. -/
def openSink (path : String) (contents : ByteArray → ByteArray) : Run (Except FileError Channel) := do
  match ← entry path with
  | .ok (.device (.stream n)) =>
    match ← channel? n with
    | some c => return .ok c
    | none => return .error .notFound
  | .ok (.device d) => return .ok (.device d)
  | _ =>
    let m ← get
    match m.files.update m.process.directory (toUtf8 path) contents m.process.newMode, ← locate path with
    | .ok (.stored files), .ok place =>
      modify fun m => { m with files := files }
      return .ok (.file place)
    | .ok _, _ => return .ok (.device .null)
    | .error e, _ => return .error e

def value? (name : String) : Run (Option String) := do
  return (← current).bindings.lookup name

def assign (name value : String) : Run Unit :=
  change fun p => { p with
    bindings := (name, value) :: p.bindings.filter (·.1 != name)
    exported := if p.options.contains 'a' then name :: p.exported else p.exported }

def unassign (name : String) : Run Unit :=
  change fun p => { p with bindings := p.bindings.filter (·.1 != name) }

def isFixed (name : String) : Run Bool := do
  return (← current).fixed.contains name

/-- Assigns a variable; one that cannot be changed ends the script. -/
def assignOr (name value : String) : Run Unit := do
  if ← isFixed name then
    complain (name ++ ": is read only")
    throw (.exit 2)
  else assign name value

def setStatus (status : Nat) : Run Unit :=
  change fun p => { p with status := status }

def attempt (run : Run α) : Run (Except Stop α) := fun m =>
  let (result, m) := run m
  (.ok result, m)

def resume : Except Stop α → Run α
  | .ok a => return a
  | .error stop => throw stop

/-- Runs something and makes good a change to the process, whatever stops it. -/
def restoring (back : Process → Process → Process) (run : Run α) : Run α := do
  let before ← current
  let result ← attempt run
  change (back before)
  resume result

def endOf (result : Except Stop Unit) : Run End := do
  match result with
  | .ok () | .error (.leave _) | .error (.next _) => return .code (← current).status
  | .error (.exit status) | .error (.finish status) => return .code status
  | .error (.killed signal) => return .signal signal
  | .error .late => throw .late

/-- Runs something in a copy of the process; its number and how it ended. -/
def inCopy (run : Run Unit) : Run (Nat × Except Stop End) := do
  let p ← current
  let pid ← newPid
  change fun p => { p with
    pid := pid, group := pid :: p.group, parentPid := p.pid, jobs := [], caught := []
    traps := p.traps.filter fun t => t.2.isEmpty }
  let result ← attempt run
  let finished ← attempt (endOf result)
  modify fun m => { m with process := p }
  return (pid, finished)

def inSubshell (run : Run Unit) : Run End := do
  let finished ← resume (← inCopy run).2
  deliver
  return finished

def stopProcess (pid moment : Nat) : Run Unit :=
  modify fun m => { m with sinks := m.sinks.map fun s => s.stopped pid moment }

/-- Lets something run beside the process, once its descriptors are in place.
It keeps the sinks open that it can write to; what would come after the
deadline does not happen. -/
def beside (prepare : Run Bool) (run : Run Unit) : Run Unit := do
  let start := (← get).clock
  let held := (← get).sinks.size
  let (pid, result) ← inCopy do
    if ← prepare then
      hold (← get).deadline
      run
    else throw (.exit 2)
  let m ← get
  let finish := match result with
    | .error .late => m.deadline
    | _ => m.clock
  modify fun m => { m with
    clock := start
    sinks := m.sinks.mapIdx fun n s => if n < held then
        { s with holders := s.holders.map fun (group, until') =>
            (group, if group.head? == some pid then finish else until') }
      else s }
  let job : Job := ⟨pid, result.toOption.getD (.code 0), finish⟩
  change fun p => { p with jobs := job :: p.jobs, lastJob := some pid }

/-- Everything that something prints, read when nobody holds the sink any more. -/
def outputOf (run : Run Unit) : Run (String × Nat) := do
  let n ← newSink
  let finished ← inSubshell do
    direct 1 (.sink n)
    run
  let sink := sinkAt (← get) n
  if sink.endless.isSome then throw .late
  passTo sink.heldUntil
  return ((sinkAt (← get) n).text, finished.status)

/-- Two things at once; the second reads what the first prints. The first ends
at the latest when it prints after the second has ended. -/
def together (first second : Run Unit) : Run End := do
  let start := (← get).clock
  let n ← newSink
  let (pid, result) ← inCopy do
    direct 1 (.sink n)
    pass startTime
    first
  let m ← get
  let sink := sinkAt m n
  let firstEnd := match result with
    | .error .late => m.deadline
    | _ => m.clock
  let closed := Nat.max firstEnd sink.heldUntil
  let input ← newSource {
    pieces := sink.ordered.map fun p => (p.time, p.text.toList)
    closed := closed
    endless := sink.endless }
  modify fun m => { m with clock := start }
  let (_, second) ← inCopy do
    direct 0 input
    pass startTime
    second
  let finished ← resume second
  let now := (← get).clock
  if now < firstEnd then
    let sink := sinkAt (← get) n
    let stop := if sink.endless.isSome then some now else sink.nextPrint? pid now
    match stop with
    | some moment =>
      stopProcess pid moment
      passTo moment
    | none => passTo firstEnd
  match result with
  | .ok (.signal n) => report (Signal.note n)
  | _ => pure ()
  deliver
  return finished

end Machine

end PartitionTest.Shell
