import PartitionTest.Shell.Format

/-! What the programs of the system share: options, files and messages. A
program knows the name by which it was called. -/
namespace PartitionTest.Shell.Utility

open Machine

/-- A program: its name and arguments, and the status it answers with. -/
abbrev Program := String → List String → Run Nat

def say (name reason : String) : Run Unit :=
  report (name ++ ": " ++ reason ++ "\n")

def fail (name reason : String) (status : Nat) : Run Nat := do
  say name reason
  return status

def misused (name reason : String) (status : Nat) : Run Nat := do
  say name reason
  report ("Try '" ++ name ++ " --help' for more information.\n")
  return status

def put (name text : String) : Run Unit := do
  if let some e ← write 1 text then
    say name ("write error: " ++ e.reason)
    throw (.exit 1)

def putForever (name text : String) : Run Unit := do
  if let some e ← writeForever 1 text then
    say name ("write error: " ++ e.reason)
    throw (.exit 1)

structure Options where
  /-- Letters in the order given, with their values. -/
  given : List (Char × String) := []
  operands : List String := []
deriving Inhabited

namespace Options

def has (o : Options) (letter : Char) : Bool := o.given.any (·.1 = letter)

def value? (o : Options) (letter : Char) : Option String :=
  (o.given.filter (·.1 = letter)).getLast?.map (·.2)

def values (o : Options) (letter : Char) : List String :=
  (o.given.filter (·.1 = letter)).map (·.2)

def last? (o : Options) (letters : List Char) : Option Char :=
  (o.given.filter fun g => letters.contains g.1).getLast?.map (·.1)

end Options

structure Usage where
  /-- Letters without a value. -/
  flags : String := ""
  /-- Letters with a value. -/
  valued : String := ""
  /-- Letters whose value can be left out; it follows without a blank. -/
  optional : String := ""
  /-- Long names for letters. A letter beyond those of a byte has only its long name. -/
  long : List (String × Char) := []
  /-- Whether the first operand ends the options. -/
  strict : Bool := false

namespace Usage

/-- The letter of a long name, which may be cut short where it stays clear. -/
def long? (u : Usage) (name : String) : Except String Char :=
  match u.long.lookup name with
  | some letter => .ok letter
  | none =>
    match u.long.filter fun l => l.1.startsWith name with
    | [] => .error ("unrecognized option '--" ++ name ++ "'")
    | (full, letter) :: rest =>
      if rest.all (·.2 = letter) then .ok letter
      else .error ("option '--" ++ name ++ "' is ambiguous; possibilities:" ++
        String.join (((full, letter) :: rest).map fun l => " '--" ++ l.1 ++ "'"))

/-- Letters behind one dash; the last one may take its value from what follows. -/
def cluster (u : Usage) : List Char → List String →
    Except String (List (Char × String) × List String)
  | [], rest => .ok ([], rest)
  | c :: cs, rest =>
    if u.valued.toList.contains c then
      match cs, rest with
      | [], value :: rest => .ok ([(c, value)], rest)
      | [], [] => .error ("option requires an argument -- '" ++ String.singleton c ++ "'")
      | _, _ => .ok ([(c, String.ofList cs)], rest)
    else if u.optional.toList.contains c then .ok ([(c, String.ofList cs)], rest)
    else if u.flags.toList.contains c then do
      let (more, rest) ← u.cluster cs rest
      return ((c, "") :: more, rest)
    else .error ("invalid option -- '" ++ String.singleton c ++ "'")

def longOption (u : Usage) (arg : String) (rest : List String) :
    Except String (List (Char × String) × List String) :=
  let cs := arg.toList.drop 2
  let name := String.ofList (cs.takeWhile (· != '='))
  let value := match cs.drop name.length with
    | _ :: value => some (String.ofList value)
    | [] => none
  match u.long? name with
  | .error reason => .error reason
  | .ok letter =>
    /- An option is told by its full name. -/
    let full := if (u.long.lookup name).isSome then name
      else ((u.long.find? fun l => l.1.startsWith name).map (·.1)).getD name
    match u.valued.toList.contains letter, value, rest with
    | true, some value, _ => .ok ([(letter, value)], rest)
    | true, none, value :: rest => .ok ([(letter, value)], rest)
    | true, none, [] => .error ("option '--" ++ full ++ "' requires an argument")
    | false, none, _ => .ok ([(letter, "")], rest)
    | false, some value, _ =>
      if u.optional.toList.contains letter then .ok ([(letter, value)], rest)
      else .error ("option '--" ++ full ++ "' doesn't allow an argument")

def read (u : Usage) : Nat → List String → Except String Options
  | 0, _ | _, [] => .ok {}
  | n + 1, arg :: rest =>
    if arg == "--" then .ok { operands := rest }
    else if arg.startsWith "-" && arg.length > 1 then do
      let (given, rest) ← if arg.startsWith "--" then u.longOption arg rest
        else u.cluster (arg.toList.drop 1) rest
      let more ← u.read n rest
      return { more with given := given ++ more.given }
    else if u.strict then .ok { operands := arg :: rest }
    else do
      let more ← u.read n rest
      return { more with operands := arg :: more.operands }

end Usage

def withOptions (u : Usage) (failure : Nat) (run : String → Options → Run Nat) : Program :=
  fun name args =>
    match u.read (args.length + 1) args with
    | .ok o => run name o
    | .error reason => misused name reason failure

def openInput (path : String) : Run (Except FileError Channel) := do
  if path == "-" then
    match ← channel? 0 with
    | some c => return .ok c
    | none => return .error .badDescriptor
  else openSource path

def contents (path : String) : Run (Except FileError (List Char)) := do
  match ← openInput path with
  | .ok c => readAll c
  | .error e => return .error e

def sampleSize : Nat := 20000

/-- All of what an operand names, or much of it if it has no end; and whether it has one. -/
def contentsOrSample (path : String) : Run (Except FileError (List Char × Bool)) := do
  match ← openInput path with
  | .error e => return .error e
  | .ok c =>
    match ← takePieces c with
    | .error e => return .error e
    | .ok s =>
      let cs := s.pieces.flatMap (·.2)
      match s.endless with
      | none =>
        passTo s.closed
        return .ok (cs, true)
      | some text =>
        return .ok (cs ++ (List.replicate (sampleSize / text.length + 1) text.toList).flatten, false)

/-- Does something with each operand, or with the standard input if there is
none. What cannot be read is told in the words of the program. -/
def eachInput (name : String) (complaint : String → FileError → String) (failure : Nat)
    (paths : List String) (f : String → List Char → Run Unit) : Run Nat :=
  (if paths.isEmpty then ["-"] else paths).foldlM (fun status path => do
    match ← contents path with
    | .ok cs =>
      f path cs
      return status
    | .error e => fail name (complaint path e) failure) 0

def plainComplaint (path : String) (e : FileError) : String :=
  Quotation.inMessage path ++ ": " ++ e.reason

def blockSize : Nat := 8192

def readBlock (c : Channel) : Run (List Char) := do
  match ← source? c with
  | none => return []
  | some (n, s) =>
    match s.pieces.filter (fun p => !p.2.isEmpty), s.endless with
    | [], none =>
      passTo s.closed
      return []
    | [], some _ => readChars c blockSize
    | (time, cs) :: rest, _ =>
      setSource n { s with pieces := (time, cs) :: rest }
      passTo time
      let now := (← get).clock
      let ready := ((time, cs) :: rest).takeWhile fun p => p.1 ≤ now
      readChars c (Nat.min blockSize (ready.foldl (fun size p => size + p.2.length) 0))

/-- Passes on what is read, changed character by character, as it arrives. -/
def passOn (name : String) (c : Channel) (f : List Char → List Char) :
    Run (Except FileError Unit) := do
  match ← takePieces c with
  | .error e => return .error e
  | .ok s =>
    s.pieces.forM fun (time, cs) => do
      passTo time
      put name (String.ofList (f cs))
    match s.endless with
    | some text =>
      let text := String.ofList (f text.toList)
      if text.isEmpty then throw .late
      putForever name text
    | none => passTo s.closed
    return .ok ()

/-- The lines of a text without the marks that end them, and whether the last
one is ended. -/
def linesWith (mark : Char) (cs : List Char) : List (List Char) × Bool :=
  match cs.reverse with
  | [] => ([], true)
  | c :: rest =>
    if c = mark then (Text.split (· == mark) rest.reverse, true) else (Text.split (· == mark) cs, false)

/-- The lines of a text without their ends, and whether the last one has an end. -/
def linesOf (cs : List Char) : List (List Char) × Bool := linesWith '\n' cs

def ofLines (lines : List (List Char)) : String :=
  String.ofList (lines.flatMap fun line => line ++ ['\n'])

def padLeft (width : Nat) (s : String) : String :=
  String.ofList (List.replicate (width - s.length) ' ') ++ s

end PartitionTest.Shell.Utility
