import PartitionTest.Command.Ending
import PartitionTest.Shell.Records.Memory
import PartitionTest.Shell.Records.Tokens

/-! Streams of a program of the language: records that are read from files and
commands, and output that goes to them. -/
namespace PartitionTest.Shell.Records

open Machine

abbrev Starter := String → List String → Run (Except StartError Nat)

namespace Streams

open Memory

def command (start : Starter) (text : String) : Run Unit := do
  pass startTime
  match ← start "sh" ["-c", text] with
  | .ok status => throw (.exit status)
  | .error _ => throw (.exit 127)

def statusOf : End → Int
  | .code n => n
  | .signal n => 256 + n

def fill (i : Input) : Eval (Input × Bool) := do
  match i.channel with
  | none => return (i, false)
  | some c =>
    let cs ← (Utility.readBlock c : Run _)
    if cs.isEmpty then return ({ i with channel := none }, false)
    else return ({ i with buffer := i.buffer ++ cs }, true)

inductive Ends where
  | char (c : Char)
  /-- By empty lines. -/
  | paragraphs
  | regex (r : Regex)

def endsOf (s : String) : Eval Ends := do
  match s.toList with
  | [] => return .paragraphs
  | [c] => return .char c
  | _ => return .regex (← regexOf s)

/-- The first record of a text and what comes after it, if its end is there. -/
def Ends.cut (e : Ends) (isLast : Bool) (cs : List Char) : Option (List Char × List Char) :=
  let all : Option (List Char × List Char) := if isLast && !cs.isEmpty then some (cs, []) else none
  match e with
  | .char c =>
    match cs.span (· != c) with
    | (before, _ :: after) => some (before, after)
    | (_, []) => all
  | .paragraphs =>
    match paragraph [] cs with
    | some (before, after) =>
      if isLast || after.any (· != '\n') then some (before, after.dropWhile (· == '\n')) else none
    | none => all.map fun (cs, _) => (if cs.getLast? == some '\n' then cs.dropLast else cs, [])
  | .regex r =>
    match Regex.search? false r cs with
    | some m =>
      if m.text.isEmpty || (m.rest.isEmpty && !isLast) then all else some (m.before, m.rest)
    | none => all
where
  paragraph : List Char → List Char → Option (List Char × List Char)
    | read, '\n' :: '\n' :: rest => some (read.reverse, rest)
    | read, c :: rest => paragraph (c :: read) rest
    | _, [] => none

def maxBlocks : Nat := 100000000

def record (e : Ends) : Nat → Input → Eval (Option String × Input)
  | 0, i => return (none, i)
  | n + 1, i => do
    let i := match e with
      | .paragraphs => { i with buffer := i.buffer.dropWhile (· == '\n') }
      | _ => i
    match e.cut i.channel.isNone i.buffer with
    | some (cs, rest) => return (some (String.ofList cs), { i with buffer := rest })
    | none =>
      let (i, more) ← fill i
      if more || !i.buffer.isEmpty then record e n i else return (none, i)

def nextRecord (i : Input) : Eval (Option String × Input) := do
  record (← endsOf (← scalarText "RS")) maxBlocks i

def assignment? (arg : String) : Option (String × String) :=
  let cs := arg.toList
  let name := cs.takeWhile Tokens.isNameChar
  match name.head?, cs.drop name.length with
  | some c, '=' :: value =>
    if Tokens.isNameStart c then
      some (String.ofList name, String.ofList (Tokens.unescaped (value.length + 1) value))
    else none
  | _, _ => none

def argument (i : Nat) : Eval String := do
  words ((← table (← tableOf (.outer "ARGV"))).get (.inr i))

def openFile (path : String) : Eval (Except FileError Input) := do
  match ← (Utility.openInput (if path == "/dev/stdin" then "-" else path) : Run _) with
  | .error e => return .error e
  | .ok c =>
    match ← (source? c : Run _) with
    | some (_, s) =>
      match s.fault with
      | some e => return .error e
      | none => return .ok { channel := some c }
    | none => return .error .badDescriptor

/-- Opens the next file of the arguments; assignments between them are made. -/
def openNext : Nat → Eval Bool
  | 0 => return false
  | n + 1 => do
    let m ← get
    let count := (Value.toWord ((← scalar "ARGC").toNumber)).toNat
    let opened (path name : String) : Eval Bool := do
      match ← openFile path with
      | .ok i =>
        modify fun m => { m with main := some i, hasFile := true }
        setScalar "FILENAME" (.text name)
        setScalar "FNR" (.number 0.0)
        return true
      | .error .isDirectory => throw (.fault "read error (Is a directory)" false)
      | .error e => throw (.fault ("cannot open \"" ++ path ++ "\" (" ++ e.reason ++ ")") false)
    if m.position < count then
      let arg ← argument m.position
      modify fun m => { m with position := m.position + 1 }
      if arg.isEmpty then openNext n
      else match assignment? arg with
      | some (name, value) =>
        assign name (.input value)
        openNext n
      | none => opened arg arg
    else if m.hasFile then return false
    else opened "-" "-"

def maxArguments : Nat := 100000

def mainRecord : Nat → Eval (Option String)
  | 0 => return none
  | n + 1 => do
    match (← get).main with
    | none => if ← openNext maxArguments then mainRecord n else return none
    | some i =>
      let (r, i) ← nextRecord i
      match r with
      | some r =>
        modify fun m => { m with main := some i }
        return some r
      | none =>
        modify fun m => { m with main := none }
        if ← openNext maxArguments then mainRecord n else return none

def count : Eval Unit := do
  ["NR", "FNR"].forM fun name => do
    setScalar name (.number ((← scalar name).toNumber + 1.0))

def inputFor (start : Starter) (kind : InputKind) (name : String) : Eval (Except FileError Input) := do
  match (← get).inputs.lookup name with
  | some i => return .ok i
  | none =>
    match kind with
    | .command =>
      flushAll
      let (text, status) ← (outputOf (command start name) : Run _)
      modify fun m => { m with statuses := (name, status) :: m.statuses.filter (·.1 != name) }
      return .ok { channel := none, buffer := text.toList }
    | _ => openFile name

/-- Reads a record from elsewhere: one if there was one, zero at the end, and
minus one if that is not possible. -/
def readFrom (start : Starter) (kind : InputKind) (name : String) (keep : String → Eval Unit) :
    Eval Value := do
  match ← inputFor start kind name with
  | .error _ => return .number (-1.0)
  | .ok i =>
    let (r, i) ← nextRecord i
    modify fun m => { m with inputs := (name, i) :: m.inputs.filter (·.1 != name) }
    match r with
    | some r =>
      keep r
      return .number 1.0
    | none => return .number 0.0

def writeTo (kind : OutputKind) (name text : String) : Eval Unit := do
  match kind != .command, standard? name with
  | true, some 1 => emit text
  | true, some n => do
    let _ ← (write n text : Run _)
  | _, _ =>
    let o ← match (← get).outputs.lookup name with
      | some o => pure o
      | none => do
        if kind = .command then flushAll
        else
          let m ← (get : Run Machine)
          let written := m.files.update m.process.directory (toUtf8 name) fun before =>
            if kind = .append then before else .empty
          match written with
          | .ok (.stored files) => (modify fun m => { m with files := files } : Run Unit)
          | .ok _ => pure ()
          | .error e => throw (.fault ("cannot open \"" ++ name ++ "\" for output (" ++ e.reason ++ ")") false)
        pure { kind := kind }
    let o := { o with pending := text :: o.pending, size := o.size + text.length }
    let o ← if kind != .command && blockSize ≤ o.size then do
        flushFile name (String.join o.pending.reverse) false
        pure { o with pending := [], size := 0 }
      else pure o
    modify fun m => { m with outputs := (name, o) :: m.outputs.filter (·.1 != name) }

def finish (start : Starter) (name : String) (o : Output) : Eval Int := do
  let finished ← (inSubshell do
    direct 0 (← newSource (Source.ofText (String.join o.pending.reverse)))
    command start name : Run End)
  return statusOf finished

def close (start : Starter) (name : String) : Eval Value := do
  let m ← get
  match m.outputs.lookup name, m.inputs.lookup name with
  | some o, _ =>
    set { m with outputs := m.outputs.filter (·.1 != name) }
    if o.kind = .command then
      flushAll
      return .number (Number.ofInt (← finish start name o))
    else
      flushFile name (String.join o.pending.reverse) true
      return .number 0.0
  | none, some _ =>
    set { m with inputs := m.inputs.filter (·.1 != name) }
    return .number (Number.ofInt ((m.statuses.lookup name).getD 0))
  | none, none => return .number (-1.0)

/-- Closes everything at the end: commands first, the own output last. -/
def closeAll (start : Starter) : Eval Unit := do
  let outputs := (← get).outputs
  modify fun m => { m with outputs := [] }
  outputs.forM fun (name, o) => do
    if o.kind = .command then
      let _ ← finish start name o
    else flushFile name (String.join o.pending.reverse) true
  flushOwn true

end Streams

end PartitionTest.Shell.Records
