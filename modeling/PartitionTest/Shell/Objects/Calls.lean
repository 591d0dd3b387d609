import PartitionTest.Shell.Objects.Modules

/-! Calls and loops: the frames they open, and what parameters are given. -/
namespace PartitionTest.Shell.Objects.Calls

open Memory Shown

def roundTime : Nat := 5

def tick : Eval Unit := (Machine.pass roundTime : Run Unit)

def currentLine : Eval Nat := do return (((← get).frames.head?).map (·.line)).getD 1

def setLine (line : Nat) : Eval Unit :=
  modify fun m => match m.frames with
    | f :: rest => { m with frames := { f with line := line } :: rest }
    | [] => m

def inFrame (name : String) (isInner : Bool) (body : Eval α) : Eval α := do
  let m ← get
  if m.maxDepth ≤ m.depth then fail "RecursionError" "maximum recursion depth exceeded"
  let frames := m.frames
  let depth := m.depth
  let line := (frames.head?.map (·.line)).getD 1
  set { m with frames := ⟨name, line, isInner⟩ :: frames, depth := depth + 1 }
  tick
  let a ← try body
    catch l => do
      modify fun m => { m with frames := frames, depth := depth }
      throw l
  modify fun m => { m with frames := frames, depth := depth }
  return a

def once (body : Eval Unit) : Eval Bool := do
  tick
  try
    body
    return true
  catch
    | .leave => return false
    | .again => return true
    | l => throw l

def maxRounds : Nat := 1000000000

def repeatWhile (test : Eval Bool) (body : Eval Unit) : Nat → Eval Bool
  | 0 => return true
  | n + 1 => do
    if ← test then
      if ← once body then repeatWhile test body n else return false
    else return true

def repeatFor (next : Eval (Option Value)) (body : Value → Eval Unit) : Nat → Eval Bool
  | 0 => return true
  | n + 1 => do
    match ← next with
    | none => return true
    | some v => if ← once (body v) then repeatFor next body n else return false

def collect (next : Eval (Option Value)) : Nat → Array Value → Eval (List Value)
  | 0, read => return read.toList
  | n + 1, read => do
    match ← next with
    | none => return read.toList
    | some v =>
      tick
      collect next n (read.push v)

def listed (names : List String) : String :=
  match names.map fun s => "'" ++ s ++ "'" with
  | [] => ""
  | [a] => a
  | [a, b] => a ++ " and " ++ b
  | quoted => String.intercalate ", " quoted.dropLast ++ ", and " ++ quoted.getLast?.getD ""

/-- What parameters are given, with what is left of the arguments, and the
names of those that are given nothing. -/
structure Given where
  names : List (String × Value) := []
  args : List Value
  named : List (String × Value)
  missing : List String := []
  missingNamed : List String := []

def give (function : String) (g : Given) (p : String × Taking × Option Value) : Eval Given := do
  let (name, taking, default) := p
  let without : List (String × Value) := g.named.filter (·.1 != name)
  let put (v : Value) : List (String × Value) := (name, v) :: g.names
  match taking with
  | .rest =>
    if name.isEmpty then return g
    else return { g with names := put (.tuple g.args), args := [] }
  | .restNamed =>
    let d ← newNames g.named
    return { g with names := put d, named := [] }
  | .one =>
    match g.args, g.named.lookup name, default with
    | v :: rest, none, _ => return { g with names := put v, args := rest }
    | _ :: _, some _, _ => typeError (function ++ "() got multiple values for argument '" ++ name ++ "'")
    | [], some v, _ => return { g with names := put v, named := without }
    | [], none, some v => return { g with names := put v }
    | [], none, none => return { g with missing := g.missing ++ [name] }
  | .front =>
    match g.args, default with
    | v :: rest, _ => return { g with names := put v, args := rest }
    | [], some v => return { g with names := put v }
    | [], none => return { g with missing := g.missing ++ [name] }
  | .named =>
    match g.named.lookup name, default with
    | some v, _ => return { g with names := put v, named := without }
    | none, some v => return { g with names := put v }
    | none, none => return { g with missingNamed := g.missingNamed ++ [name] }

def parameters (f : Function) (args : List Value) (named : List (String × Value)) :
    Eval (List (String × Value)) := do
  let g ← f.params.foldlM (give f.path) { args := args, named := named }
  let plural (n : Nat) : String := if n = 1 then "" else "s"
  let fronts := (f.params.filter fun p => p.2.1 = .front).map (·.1)
  let misplaced := (g.named.map (·.1)).filter fronts.contains
  unless misplaced.isEmpty do
    typeError (f.path ++ "() got some positional-only arguments passed as keyword arguments: '" ++
      String.intercalate ", " misplaced ++ "'")
  if let (k, _) :: _ := g.named then
    typeError (f.path ++ "() got an unexpected keyword argument '" ++ k ++ "'")
  if !g.args.isEmpty then
    let takes := f.params.filter fun p => p.2.1 = .one || p.2.1 = .front
    let least := (takes.filter fun p => p.2.2.isNone).length
    let range := if least = takes.length then toString least else "from " ++ toString least ++ " to " ++ toString takes.length
    typeError (f.path ++ "() takes " ++ range ++ " positional argument" ++
      (if least = takes.length then plural least else "s") ++ " but " ++ toString args.length ++
      (if args.length = 1 then " was given" else " were given"))
  let complain (kind : String) (names : List String) : Eval Unit := do
    unless names.isEmpty do
      typeError (f.path ++ "() missing " ++ toString names.length ++ " required " ++ kind ++ " argument" ++
        plural names.length ++ ": " ++ listed names)
  complain "positional" g.missing
  complain "keyword-only" g.missingNamed
  return g.names

end PartitionTest.Shell.Objects.Calls
