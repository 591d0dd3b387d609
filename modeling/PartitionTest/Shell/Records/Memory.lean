import PartitionTest.Shell.Records.Patterns
import PartitionTest.Shell.Records.Printing
import PartitionTest.Shell.Records.Table
import PartitionTest.Shell.Utility.Basic

/-! What a running program of the language has: variables, the record with its
fields, and the streams that it reads and writes. -/
namespace PartitionTest.Shell.Records

open Machine

inductive Slot where
  | value (v : Value)
  | table (id : Nat)
deriving Inhabited

structure Input where
  /-- Where more comes from, as long as there may be more. -/
  channel : Option Channel
  buffer : List Char := []
deriving Inhabited

/-- Something that is written to. What is written goes on its way in blocks. -/
structure Output where
  kind : OutputKind
  pending : List String := []
  size : Nat := 0
deriving Inhabited

structure Memory where
  /-- The name by which the program was called. -/
  name : String
  scalars : Std.HashMap String Value := {}
  tables : Array Table := #[]
  arrays : List (String × Nat) := []
  frame : Array Slot := #[]
  record : String := ""
  fields : Array Value := #[]
  /-- What remains of the arguments: names of files and assignments. -/
  position : Nat := 1
  /-- The file that is read for the rules. -/
  main : Option Input := none
  /-- Whether an argument has named a file. -/
  hasFile : Bool := false
  inputs : List (String × Input) := []
  outputs : List (String × Output) := []
  /-- How commands ended whose output was read. -/
  statuses : List (String × Nat) := []
  /-- The output of the program itself. -/
  own : Output := { kind := .write }
  /-- Rules whose range is open. -/
  openRanges : List Nat := []
  /-- Where the random numbers started. -/
  seed : Value := .nothing
  random : Nat := 1
  /-- How many values are in use at once, and how many calls. -/
  stack : Nat := 0
  calls : Nat := 0
deriving Inhabited

inductive Leave where
  | leave
  | again
  | next
  | nextFile
  | return (v : Value)
  | exit (status : Option Int)
  /-- The program cannot go on. -/
  | fault (message : String) (located : Bool)
deriving Inhabited

abbrev Eval := ExceptT Leave (StateT Memory Run)

namespace Memory

def scalar (name : String) : Eval Value := do return ((← get).scalars[name]?).getD .nothing

def setScalar (name : String) (v : Value) : Eval Unit :=
  modify fun m => { m with scalars := m.scalars.insert name v }

def textFormat : Eval String := do
  match ← scalar "CONVFMT" with
  | .text s | .input s => return s
  | v => return Printing.text "%.6g" v

def words (v : Value) : Eval String := do
  match v with
  | .text s | .input s => return s
  | .nothing => return ""
  | .number x =>
    match Value.wholeText? x with
    | some s => return s
    | none => return Printing.words (← textFormat) x

def scalarText (name : String) : Eval String := do words (← scalar name)

def fault (message : String) : Eval α := throw (.fault message true)

/-- A pattern that separates: a single blank stands for blanks of any kind, and
another single character for itself. -/
inductive Separator where
  | blanks
  | char (c : Char)
  | every
  | regex (r : Regex)
  /-- Line ends separate besides what else does. -/
  | orLines (s : Separator)

def regexOf (source : String) : Eval Regex := do
  match Patterns.parse source with
  | .ok r => return r
  | .error reason =>
    throw (.fault ("regular expression compile failed (" ++ reason ++ ")\n" ++ source) true)

def separatorOf (s : String) : Eval Separator := do
  match s.toList with
  | [' '] => return .blanks
  | [] => return .every
  | [c] => return .char c
  | ['\\', c] => return .char ((Format.escape? c).getD c)
  | _ => return .regex (← regexOf s)

def isBlank (c : Char) : Bool := c = ' ' || c = '\t' || c = '\n'

/-- The parts of a text between what fits an expression; what is empty does not
separate. -/
def splitBy (r : Regex) : Nat → List Char → List (List Char)
  | 0, cs => [cs]
  | n + 1, cs =>
    match Regex.search? false r cs with
    | some m =>
      if m.text.isEmpty then [cs] else m.before :: splitBy r n m.rest
    | none => [cs]

def Separator.split (s : Separator) (cs : List Char) : List (List Char) :=
  if cs.isEmpty then []
  else match s with
  | .blanks => (Text.split isBlank cs).filter (!·.isEmpty)
  | .char c => Text.split (· == c) cs
  | .every => cs.map fun c => [c]
  | .regex r => splitBy r (cs.length + 1) cs
  | .orLines s => (Text.split (· == '\n') cs).flatMap fun line => match s with
    | .blanks => (Text.split isBlank line).filter (!·.isEmpty)
    | .char c => Text.split (· == c) line
    | .regex r => splitBy r (line.length + 1) line
    | _ => line.map fun c => [c]

def parts (s : Separator) (text : String) : List Value :=
  (s.split text.toList).map fun cs => .input (String.ofList cs)

def setCount (n : Nat) : Eval Unit := setScalar "NF" (.number (Number.ofInt n))

def fieldSeparator : Eval Separator := do
  let s ← separatorOf (← scalarText "FS")
  match ← scalarText "RS" with
  | "" => match s with
    | .blanks => return s
    | _ => return .orLines s
  | _ => return s

def setRecord (s : String) : Eval Unit := do
  let fields := (parts (← fieldSeparator) s).toArray
  modify fun m => { m with record := s, fields := fields }
  setCount fields.size

def rebuild : Eval Unit := do
  let glue ← scalarText "OFS"
  let all ← (← get).fields.toList.mapM words
  modify fun m => { m with record := String.intercalate glue all }

def maxField : Nat := 10000000

def resize (n : Nat) : Eval Unit :=
  modify fun m => { m with fields :=
    if n ≤ m.fields.size then m.fields.take n
    else m.fields ++ Array.replicate (n - m.fields.size) (.text "") }

def indexOf (v : Value) : Eval Nat := do
  let n := Value.toWord v.toNumber
  if n < 0 then fault ("negative field index $" ++ toString n)
  if (maxField : Int) < n then throw (.fault "maximum number of fields exceeded" false)
  return n.toNat

def field (n : Nat) : Eval Value := do
  let m ← get
  if n = 0 then return .input m.record else return (m.fields[n - 1]?).getD .nothing

def setField (n : Nat) (v : Value) : Eval Unit := do
  if n = 0 then setRecord (← words v)
  else
    if (← get).fields.size < n then
      resize n
      setCount n
    modify fun m => { m with fields := m.fields.setIfInBounds (n - 1) v }
    rebuild

def assign (name : String) (v : Value) : Eval Unit := do
  if name == "NF" then
    let n := Value.toWord v.toNumber
    if n < 0 then fault "negative value assigned to NF"
    if (maxField : Int) < n then throw (.fault "maximum number of fields exceeded" false)
    resize n.toNat
    setScalar name (.number (Number.ofInt n))
    rebuild
  else setScalar name v

def newTable : Eval Nat := do
  let id := (← get).tables.size
  modify fun m => { m with tables := m.tables.push {} }
  return id

def tableOf (p : Place) : Eval Nat := do
  match p with
  | .inner i =>
    match ((← get).frame[i]?).getD (.value .nothing) with
    | .table id => return id
    | .value _ =>
      let id ← newTable
      modify fun m => { m with frame := m.frame.setIfInBounds i (.table id) }
      return id
  | .outer name =>
    match (← get).arrays.lookup name with
    | some id => return id
    | none =>
      let id ← newTable
      modify fun m => { m with arrays := (name, id) :: m.arrays }
      return id

def table (id : Nat) : Eval Table := do return ((← get).tables[id]?).getD {}

def changeTable (id : Nat) (f : Table → Table) : Eval Unit :=
  modify fun m => { m with tables := m.tables.modify id f }

/-- A key: a whole number counts as one only if it is given as a number. -/
def keyOf (v : Value) : Eval (String ⊕ Int) := do
  match v with
  | .number x =>
    let n := Value.toWord x
    if Number.ofInt n == x then return .inr n else return .inl (← words v)
  | _ => return .inl (← words v)

def blockSize : Nat := 4096

/-- Where text for the standard output or for messages goes, by its name. -/
def standard? (path : String) : Option Nat :=
  if path == "/dev/stdout" || path == "-" then some 1
  else if path == "/dev/stderr" then some 2
  else none

def lostOutput (path : String) (closing : Bool) (e : FileError) : Eval α :=
  throw (.fault ((if closing then "close failed on file \"" ++ path ++ "\"" else "write failure") ++
    " (" ++ e.reason ++ ")") false)

def flushOwn (closing : Bool) : Eval Unit := do
  let m ← get
  set { m with own := { m.own with pending := [], size := 0 } }
  let text := String.join m.own.pending.reverse
  match (← (write 1 text : Run _)) with
  | some e => lostOutput "/dev/stdout" closing e
  | none => pure ()

def flushFile (path : String) (text : String) (closing : Bool) : Eval Unit := do
  if text.isEmpty then return
  let m ← (get : Run Machine)
  let bytes : ByteArray := ⟨(bytesOf text).toArray⟩
  match m.files.update m.process.directory (toUtf8 path) (· ++ bytes) with
  | .ok (.stored files) => (modify fun m => { m with files := files } : Run Unit)
  | .ok (.passed n) => do
    let _ ← (write n text : Run _)
  | .ok .lost => pure ()
  | .error e => lostOutput path closing e

def flushAll : Eval Unit := do
  flushOwn false
  (← get).outputs.forM fun (path, o) => do
    if o.kind != .command then flushFile path (String.join o.pending.reverse) false
  modify fun m => { m with outputs := m.outputs.map fun (path, o) =>
    if o.kind = .command then (path, o) else (path, { o with pending := [], size := 0 }) }

def writeTime : Nat := 4

def emit (text : String) : Eval Unit := do
  pass writeTime
  modify fun m => { m with own := { m.own with
    pending := text :: m.own.pending, size := m.own.size + text.length } }
  if blockSize ≤ (← get).own.size then flushOwn false

end Memory

end PartitionTest.Shell.Records
