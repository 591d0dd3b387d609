import PartitionTest.Shell.Number
import PartitionTest.Shell.Objects.Value
import PartitionTest.Shell.Utility.Basic

/-! What a running script has: its names, the values that can change, and what
it has read and not yet written. -/
namespace PartitionTest.Shell.Objects

/-- A call, and the line that it has come to. Calls of what is always there are not told. -/
structure Frame where
  name : String
  line : Nat
  isInner : Bool := false
deriving Inhabited

/-- An error on its way: where it came from, and the error that was dealt with
at that time. -/
inductive Raised where
  | of (value : Value) (trace : List Frame) (before : Option Raised) (isCause : Bool)
deriving Inhabited

namespace Raised

def value : Raised → Value
  | of v _ _ _ => v

def trace : Raised → List Frame
  | of _ t _ _ => t

end Raised

inductive Leave where
  | leave
  | again
  | return (v : Value)
  | raised (e : Raised)
deriving Inhabited

abbrev Handlers := List (Option Expr × Option String × List Statement)

/-- What is left to do of a function that hands out values in its middle. -/
inductive Pending where
  | statements (all : List Statement)
  /-- What comes back for a value that was handed out gets assigned. -/
  | receive (targets : List Expr)
  /-- Another round of a loop; the line is that of its test. -/
  | loop (test : Expr) (body after : List Statement) (line : Nat)
  | each (target : Expr) (stream : Nat) (body after : List Statement) (line : Nat)
  /-- All further items of a stream; what it ends with gets assigned. -/
  | items (stream : Nat) (targets : List Expr)
  /-- The end of what is watched for errors. -/
  | attempt (handlers : Handlers) (after last : List Statement)
  /-- The end of what is done about an error. -/
  | handled (name : Option String) (before : List Raised)
  | last (all : List Statement)
  /-- Values that are left with the block. -/
  | using (v : Value)
  /-- Goes on with what was held up. -/
  | ending (l : Leave)
deriving Inhabited

inductive Cursor where
  | items (rest : List Value)
  | list (id index : Nat)
  /-- Without an end if there is none. -/
  | counting (next : Int) (stop : Option Int) (step : Int)
  /-- Lines of a descriptor. -/
  | lines (descriptor : Nat) (isBinary : Bool)
  | mapped (f : Value) (inner : List Nat)
  | filtered (f : Value) (inner : Nat)
  /-- Streams side by side; whether they must have the same length. -/
  | zipped (inner : List Nat) (isStrict : Bool)
  | numbered (next : Int) (inner : Nat)
  /-- Loops and tests; the streams of the loops that are open, the innermost first. -/
  | gathered (item : Expr) (clauses : List (Expr × Expr × List Expr)) (inner : List Nat) (scope : Nat)
      (isStream : Bool)
  /-- A function that hands out values in its middle. -/
  | suspended (name : String) (rest : List Pending) (scope : Nat) (isInner : Bool)
  /-- A function that has handed out everything, and what it ended with. -/
  | finished (v : Value)
  /-- An object that makes the next item. -/
  | object (v : Value)
  /-- An object that has items by their places. -/
  | places (v : Value) (index : Nat)
  /-- What a function returns, up to a last value. -/
  | calls (f last : Value)
  /-- The next entries of a dictionary, which must not change its size. -/
  | entries (dict : Nat) (side : Side) (index size : Nat)
  /-- Places where a regular expression fits. -/
  | found (rest : List Found)
  /-- Items from the end of a list. -/
  | turned (id : Nat) (index : Int)
deriving Inhabited

inductive Body where
  | statements (all : List Statement)
  | expr (e : Expr)
deriving Inhabited

structure Function where
  /-- What calls of it are told as. -/
  name : String
  params : List (String × Taking × Option Value)
  body : Body
  /-- Where it was made. -/
  scope : Nat
  own : List String
  isStream : Bool := false
  /-- The kind that it is part of. -/
  home : Option Nat := none
  /-- Its name with those of what it is part of. -/
  path : String := name
  /-- The name that it goes by. -/
  title : String := name
  /-- Whether it is always there. -/
  isInner : Bool := false
  doc : Value := .nothing
  /-- The dictionary of its members, if it has some. -/
  members : Option Nat := none
  notes : List (String × Value) := []
deriving Inhabited

structure Scope where
  names : Std.HashMap String Value := {}
  parent : Option Nat := none
  /-- The names that belong here even if they stand for nothing yet. -/
  own : List String := []
  /-- Names that belong to the whole script, and to a function around. -/
  whole : List String := []
  around : List String := []
  /-- Whether they are names of a kind, which functions in it do not see. -/
  isKind : Bool := false
  /-- The function whose names they are. -/
  function : Option Nat := none
  /-- The place of the kind whose names they are. -/
  home : Option Nat := none
  /-- What stands in front of names of what is made here. -/
  lead : String := ""
  /-- The names in the order in which they came, the last one first. -/
  order : List String := []
deriving Inhabited

def Scope.toDict (s : Scope) : Dict :=
  s.order.reverse.foldl (fun d name => match s.names[name]? with
    | some v => d.setName name v
    | none => d) {}

def Scope.withNames (s : Scope) (d : Dict) : Scope :=
  { s with
    names := d.keyed.foldl (fun all (_, k, v) => match k with
      | .text name => all.insert name v
      | _ => all) {}
    order := d.names.reverse }

structure OwnKind where
  name : String
  /-- Its name with those of what it is part of. -/
  path : String
  module : String
  bases : List Value
  /-- The kind itself and those that it is part of, in the order in which members are looked up. -/
  order : List Value
  /-- The dictionary of its members. -/
  members : Nat
  /-- The kind that the kind itself is of. -/
  above : Option Nat := none
  /-- Names of members that kinds below have to make, before there can be values. -/
  missing : List String := []
deriving Inhabited

def OwnKind.bare : OwnKind := {
  name := "object", path := "object", module := "builtins", bases := [], order := [.kind "object"], members := 0 }

def bareKind : Nat := 0

structure Object where
  kind : Nat
  /-- The dictionary of its members. -/
  members : Nat
  /-- What it was made from. -/
  args : List Value := []
  /-- The value that it extends, if its kind is part of one that is always there. -/
  core : Option Value := none
deriving Inhabited

structure Memory where
  /-- What messages call the script. -/
  file : String
  /-- The lines of the script, if messages can show them. -/
  lines : List String := []
  args : List String := []
  scopes : Array Scope := #[{}]
  lists : Array (Array Value) := #[]
  dicts : Array Dict := #[{}]
  streams : Array Cursor := #[]
  functions : Array Function := #[]
  kinds : Array OwnKind := #[OwnKind.bare]
  objects : Array Object := #[]
  /-- The scope that names are looked up in. -/
  scope : Nat := 0
  /-- Open calls, the innermost first. -/
  frames : List Frame := []
  /-- How many they are, and how many they can be. -/
  depth : Nat := 0
  maxDepth : Nat := 1000
  /-- Errors that are dealt with. -/
  handled : List Raised := []
  /-- Texts that wait to be written, the last one first, and bytes in front of them. -/
  texts : List String := []
  bytes : List String := []
  waiting : Nat := 0
  /-- What was read from descriptors and not yet used. -/
  inputs : Std.HashMap Nat (List Char) := {}
  /-- The scopes of modules that are scripts themselves. -/
  modules : Std.HashMap String Nat := {}
  /-- The module whose script runs, if it is always there. -/
  module : Option String := none
  /-- Dictionaries that stand for the names of scopes. -/
  mirrors : List (Nat × Nat) := []
  decimals : Decimal.Context := {}
  /-- Words of a generator of numbers, and how many of them are used up. -/
  chance : Array UInt32 := #[]
  chanceIndex : Nat := 0
  /-- Messages with names that may have been meant, the last ones first. -/
  hints : List (String × String) := []
deriving Inhabited

abbrev Eval := ExceptT Leave (StateT Memory Run)

namespace Memory

def raise (v : Value) : Eval α := do
  let m ← get
  throw (.raised (.of v m.frames.reverse m.handled.head? false))

def fail (kind message : String) : Eval α := raise (.error kind [.text message])

def typeError (message : String) : Eval α := fail "TypeError" message

def valueError (message : String) : Eval α := fail "ValueError" message

def newList (items : List Value) : Eval Value := do
  let id := (← get).lists.size
  modify fun m => { m with lists := m.lists.push items.toArray }
  return .list id

def listAt (id : Nat) : Eval (Array Value) := do return ((← get).lists[id]?).getD #[]

def changeList (id : Nat) (f : Array Value → Array Value) : Eval Unit :=
  modify fun m => { m with lists := m.lists.modify id f }

def dictAt (id : Nat) : Eval Dict := do
  let m ← get
  match m.mirrors.lookup id with
  | some scope => return (((m.scopes[scope]?).map Scope.toDict).getD {})
  | none => return (m.dicts[id]?).getD {}

def changeDict (id : Nat) (f : Dict → Dict) : Eval Unit :=
  modify fun m => match m.mirrors.lookup id with
    | some scope => { m with scopes := m.scopes.modify scope fun s => s.withNames (f s.toDict) }
    | none => { m with dicts := m.dicts.modify id f }

def putDict (d : Dict) : Eval Nat := do
  let id := (← get).dicts.size
  modify fun m => { m with dicts := m.dicts.push d }
  return id

def newStream (c : Cursor) : Eval Nat := do
  let id := (← get).streams.size
  modify fun m => { m with streams := m.streams.push c }
  return id

def setStream (id : Nat) (c : Cursor) : Eval Unit :=
  modify fun m => { m with streams := m.streams.setIfInBounds id c }

def newFunction (f : Function) : Eval Value := do
  let id := (← get).functions.size
  modify fun m => { m with functions := m.functions.push f }
  return .function id

def functionAt (id : Nat) : Eval Function := do return ((← get).functions[id]?).getD default

def kindAt (id : Nat) : Eval OwnKind := do return ((← get).kinds[id]?).getD default

def objectAt (id : Nat) : Eval Object := do return ((← get).objects[id]?).getD default

def changeObject (id : Nat) (f : Object → Object) : Eval Unit :=
  modify fun m => { m with objects := m.objects.modify id f }

def core (v : Value) : Eval Value := do
  match v with
  | .object id => return (← objectAt id).core.getD v
  | v => return v

def newObject (kind : Nat) (args : List Value) (core : Option Value) : Eval Value := do
  let members ← putDict {}
  let id := (← get).objects.size
  modify fun m => { m with objects := m.objects.push { kind, members, args, core } }
  return .object id

/-- What a kind of the script, or one that it is part of, holds under a name. -/
def kindMember? (id : Nat) (name : String) : Eval (Option Value) := do
  (← kindAt id).order.findSomeM? fun k => do
    match k with
    | .ownKind k => return (← dictAt (← kindAt k).members).named? name
    | _ => return none

/-- The name under which a function gets a value in front of its arguments. -/
def leadName : String := "!lead"

def boundTo (self kind : Value) : Value → Value
  | .function f => .method self f
  | .kept f id => .bound (.tuple [self, .kept f id]) leadName
  | .marked "staticmethod" f => f
  | .marked "classmethod" f => boundTo kind kind f
  | v => v

def special? (v : Value) (name : String) : Eval (Option Value) := do
  match v with
  | .object id =>
    let kind := (← objectAt id).kind
    return (← kindMember? kind name).map (boundTo v (.ownKind kind))
  | .ownKind id =>
    match (← kindAt id).above with
    | some above => return (← kindMember? above name).map (boundTo v (.ownKind above))
    | none => return none
  | _ => return none

inductive Resume where
  /-- With a value for what it has handed out. -/
  | send (v : Value)
  | raise (e : Raised)
deriving Inhabited

structure Running where
  /-- What values of the script's own kinds look like, printed or not. -/
  own : Bool → Value → Eval String
  /-- All items of a value. -/
  items : Value → Eval (List Value)
  call : Value → List Value → List (String × Value) → Eval Value
  member : Value → String → Eval Value
  equal : Value → Value → Eval Bool
  truth : Value → Eval Bool
  /-- Puts values into a text behind signs for a part. -/
  percent : String → Value → Eval String
  /-- The stream of a value's items, if it has some. -/
  cursor? : Value → Eval (Option Nat)
  /-- The stream of a value's items. -/
  cursor : Value → Eval Nat
  /-- The next item of a stream. -/
  next : Nat → Eval (Option Value)
  /-- What a function that was held up hands out next. -/
  resume : Nat → Resume → Eval (Option Value)

namespace Running

/-- Calls what a value has under a name by its kind, if it has something. -/
def special? (r : Running) (v : Value) (name : String) (args : List Value) : Eval (Option Value) := do
  match ← Memory.special? v name with
  | some f => some <$> r.call f args []
  | none => return none

end Running

def maxSameHash : Nat := 1000

def unhashable (kind : String) : Eval α := typeError ("unhashable type: '" ++ kind ++ "'")

mutual

/-- The key under which a value is found: values that are equal have the same.
What can change has none. -/
def keyOf (r : Running) : Value → Eval String
  | .tuple items => do return "(" ++ (← allKeys r items) ++ ")"
  | .list _ => unhashable "list"
  | .dict _ => unhashable "dict"
  | .set _ => unhashable "set"
  | .slice _ _ _ => unhashable "slice"
  | .frozen id => do
    let keys := (← dictAt id).keyed.map (·.1)
    return "Z" ++ String.join ((keys.mergeSort (fun a b => a ≤ b)).map (· ++ ","))
  | .object id => do
    match ← special? (.object id) "__hash__" with
    | some .nothing => unhashable (← kindAt (← objectAt id).kind).name
    | some f =>
      match ← r.call f [] [] with
      | .int n => return "#" ++ toString n ++ "~0"
      | .bool b => return "#" ++ toString b.toNat ++ "~0"
      | _ => typeError "__hash__ method should return an integer"
    | none =>
      match ← core (.object id) with
      | .object id => return Value.plainKey (.object id)
      | .list _ | .dict _ | .set _ => unhashable (← kindAt (← objectAt id).kind).name
      | .tuple items => return "(" ++ String.join (items.map fun v => v.identity ++ ",") ++ ")"
      | v => return v.plainKey
  | v => return v.identity

def allKeys (r : Running) : List Value → Eval String
  | [] => return ""
  | v :: vs => do return (← keyOf r v) ++ "," ++ (← allKeys r vs)

end

/-- The key under which a value is found in a dictionary, or would be. -/
def keyIn (r : Running) (d : Dict) (v : Value) : Eval String := do
  let key ← keyOf r v
  match v with
  | .object _ =>
    if !key.startsWith "#" then return key
    else
      let lead := String.ofList (key.toList.dropLast)
      let rec go : Nat → Nat → Eval String
        | 0, _ => return key
        | n + 1, i => do
          let key := lead ++ toString i
          match d.entry? key with
          | none => return key
          | some (w, _) => if w.identity == v.identity || (← r.equal w v) then return key else go n (i + 1)
      go maxSameHash 0
  | _ => return key

def dictOf (r : Running) (entries : List (Value × Value)) : Eval Dict :=
  entries.foldlM (fun d (k, v) => do return d.set (← keyIn r d k) k v) {}

def newDict (r : Running) (entries : List (Value × Value)) : Eval Value := do
  return .dict (← putDict (← dictOf r entries))

def newNames (entries : List (String × Value)) : Eval Value := do
  return .dict (← putDict (entries.foldl (fun d (s, v) => d.setName s v) {}))

def setOf (r : Running) (items : List Value) : Eval Dict :=
  items.foldlM (fun d v => do return d.add (← keyIn r d v) v .nothing) {}

def newSet (r : Running) (items : List Value) : Eval Value := do return .set (← putDict (← setOf r items))

def newScope (s : Scope) : Eval Nat := do
  let id := (← get).scopes.size
  modify fun m => { m with scopes := m.scopes.push s }
  return id

def scopeAt (id : Nat) : Eval Scope := do return ((← get).scopes[id]?).getD {}

def changeScope (id : Nat) (f : Scope → Scope) : Eval Unit :=
  modify fun m => { m with scopes := m.scopes.modify id f }

def namesAsDict (scope : Nat) : Eval Nat := do
  match (← get).mirrors.find? fun (_, s) => s = scope with
  | some (id, _) => return id
  | none =>
    let id ← putDict {}
    modify fun m => { m with mirrors := (id, scope) :: m.mirrors }
    return id

def inScope (id : Nat) (body : Eval α) : Eval α := do
  let before := (← get).scope
  modify fun m => { m with scope := id }
  let a ← try body
    catch l => do
      modify fun m => { m with scope := before }
      throw l
  modify fun m => { m with scope := before }
  return a

def maxScopes : Nat := 10000

def outermost : Nat → Nat → Eval Nat
  | 0, id => return id
  | n + 1, id => do
    match (← scopeAt id).parent with
    | some p => outermost n p
    | none => return id

def lookUp (s : String) : Nat → Nat → Eval (Option Value)
  | 0, _ => return none
  | n + 1, id => do
    let scope ← scopeAt id
    match scope.names[s]? with
    | some v => return some v
    | none =>
      if scope.whole.contains s then return (← scopeAt (← outermost maxScopes id)).names[s]?
      else if scope.own.contains s then return none
      else match scope.parent with
      | some p => lookUp s n p
      | none => return none

/-- Whether a name belongs to the scope, though it may stand for nothing. -/
def isOwn (s : String) : Eval Bool := do
  let scope ← scopeAt (← get).scope
  return scope.own.contains s

/-- The scope in which a name is assigned that belongs to a function around. -/
def around (s : String) : Nat → Nat → Eval Nat
  | 0, id => return id
  | n + 1, id => do
    let scope ← scopeAt id
    if scope.own.contains s then return id
    else match scope.parent with
    | some p => around s n p
    | none => return id

def assign (s : String) (v : Value) : Eval Unit := do
  let id := (← get).scope
  let scope ← scopeAt id
  let id ← if scope.whole.contains s then outermost maxScopes id
    else if scope.around.contains s then
      match scope.parent with
      | some p => around s maxScopes p
      | none => pure id
    else pure id
  changeScope id fun scope =>
    let order := if scope.names.contains s then scope.order else s :: scope.order
    { scope with names := scope.names.insert s v, order := order }

def forget (s : String) : Eval Unit := do
  let id := (← get).scope
  changeScope id fun scope => { scope with names := scope.names.erase s, order := scope.order.filter (· != s) }

/-- The names of a scope with what they stand for, in the order in which they came. -/
def namesOf (id : Nat) : Eval (List (String × Value)) := do
  let scope ← scopeAt id
  return scope.order.reverse.filterMap fun s => (scope.names[s]?).map fun v => (s, v)

def blockSize : Nat := 8192

def inputOf (descriptor : Nat) : Eval (List Char) := do return (← get).inputs.getD descriptor []

def setInput (descriptor : Nat) (cs : List Char) : Eval Unit :=
  modify fun m => { m with inputs := m.inputs.insert descriptor cs }

def fill (descriptor : Nat) : Eval Bool := do
  let cs ← (Utility.readBlock (← (Machine.channel descriptor : Run _)) : Run _)
  setInput descriptor ((← inputOf descriptor) ++ cs)
  return !cs.isEmpty

def maxBlocks : Nat := 100000000

/-- The next line of an input with its end; nothing at the end of the input. -/
def readLine (descriptor : Nat) : Nat → Eval (List Char)
  | 0 => return []
  | n + 1 => do
    match (← inputOf descriptor).span (· != '\n') with
    | (line, c :: rest) =>
      setInput descriptor rest
      return line ++ [c]
    | (line, []) =>
      if ← fill descriptor then readLine descriptor n
      else
        setInput descriptor []
        return line

def readInput (descriptor : Nat) (count : Option Nat) : Nat → Eval (List Char)
  | 0 => return []
  | n + 1 => do
    let cs ← inputOf descriptor
    let isEnough : Bool := match count with
      | some k => k ≤ cs.length
      | none => false
    let more ← if isEnough then pure false else fill descriptor
    if more then readInput descriptor count n
    else
      let k := count.getD cs.length
      setInput descriptor (cs.drop k)
      return cs.take k

def writeFault (e : FileError) : Eval α :=
  let (kind, number) := match e with
    | .noSpace => ("OSError", 28)
    | .badDescriptor => ("OSError", 9)
    | _ => ("OSError", 5)
  raise (.error kind [.int number, .text e.reason])

def writeNow (n : Nat) (text : String) : Eval Unit := do
  match ← (Machine.write n text : Run _) with
  | some e => writeFault e
  | none => pure ()

/-- Writes bytes that wait, and texts behind them. What cannot be written goes on
waiting; where there is no output at all, nothing is told. -/
def flush : Eval Unit := do
  let m ← get
  if (← (Machine.channel? 1 : Run _)).isSome then
    writeNow 1 (String.join m.bytes.reverse ++ ofUtf8 (String.join m.texts.reverse))
  modify fun m => { m with texts := [], bytes := [], waiting := 0 }

def writeText (n : Nat) (s : String) : Eval Unit := do
  if n = 1 then
    modify fun m => { m with texts := s :: m.texts, waiting := m.waiting + s.utf8ByteSize }
    if blockSize ≤ (← get).waiting then flush
  else writeNow n (ofUtf8 s)

def writeBytes (n : Nat) (s : String) : Eval Unit := do
  if n = 1 then modify fun m => { m with bytes := s :: m.bytes }
  else writeNow n s

end Memory

end PartitionTest.Shell.Objects
