import PartitionTest.Shell.Objects.Calls
import PartitionTest.Shell.Objects.Creation

/-! Members of values: how they are found, set and removed. -/
namespace PartitionTest.Shell.Objects.Members

open Memory Shown

/-- How many messages are kept with names that may have been meant. -/
def maxHints : Nat := 8

/-- An error about a name, and the one of given names that may have been meant. -/
def failNear (kind message name : String) (names : List String) : Eval α := do
  if let some s := Builtins.alike? name names then
    modify fun m => { m with hints := ((message, s) :: m.hints).take maxHints }
  fail kind message

def sortedNames (names : List String) : List String :=
  names.eraseDups.mergeSort fun a b => Operations.textOrder a b != .gt

/-- Names of what can be done with values of a kind that is always there. -/
def kindNames (kind : String) : List String :=
  ((Methods.sample? kind).map Methods.names).getD [] ++ Specials.ownNames kind ++ Specials.common ++ ["__class__", "__doc__"]

def orderNames (order : List Value) : Eval (List String) := do
  let all ← order.mapM fun k => do
    match k with
    | .ownKind id => return (← dictAt (← kindAt id).members).names ++ ["__dict__", "__module__", "__weakref__"]
    | .kind s => return kindNames s
    | _ => return []
  return all.flatten

def loaded? (path : String) : Eval (Option Nat) := do return (← get).modules[path]?

def moduleNames (path : String) : Eval (List String) := do
  let own ← match ← loaded? path with
    | some id => do pure ((← namesOf id).map (·.1))
    | none => pure []
  return own ++ (Modules.names.lookup path).getD []

def names (v : Value) : Eval (List String) := do
  match v with
  | .object id =>
    let o ← objectAt id
    return sortedNames ((← dictAt o.members).names ++ (← orderNames (← Kinds.order (← Kinds.of v))))
  | .ownKind id => return sortedNames (← orderNames (← kindAt id).order)
  | .kind s => return sortedNames (kindNames s)
  | .module path => return sortedNames ((← moduleNames path) ++ ["__name__", "__doc__"])
  | .function id =>
    let own ← match (← functionAt id).members with
      | some d => do pure (← dictAt d).names
      | none => pure []
    return sortedNames (own ++ ["__name__", "__qualname__", "__doc__", "__module__", "__dict__", "__code__",
      "__defaults__", "__kwdefaults__", "__annotations__", "__globals__", "__closure__"] ++ kindNames "function")
  | v =>
    let more : List String := match v with
      | .int _ | .bool _ | .fraction _ _ => ["real", "imag", "numerator", "denominator"]
      | .float _ | .complex _ _ | .decimal _ => ["real", "imag"]
      | .range _ _ _ | .slice _ _ _ => ["start", "stop", "step"]
      | .error _ _ => ["args", "__cause__", "__context__", "__traceback__"]
      | _ => []
    return sortedNames (more ++ Methods.names v ++ kindNames (← kindName v))

def missing (v : Value) (name : String) : Eval α := do
  let all ← names v
  let of ← match v with
    | .ownKind id => do pure ("type object '" ++ (← kindAt id).name ++ "'")
    | .kind s => pure ("type object '" ++ lastName s ++ "'")
    | .module path => pure ("module '" ++ path ++ "'")
    | v => do pure ("'" ++ (← kindName v) ++ "' object")
  failNear "AttributeError" (of ++ " has no attribute '" ++ name ++ "'") name all

/-- A member of a kind as what it is or extends, if that decides how it is found. -/
def asMember (w : Value) : Eval Value := do
  match ← core w with
  | .property get put remove => return .property get put remove
  | .marked how f => return .marked how f
  | _ => return w

/-- A member of a kind as it is found through a value of the kind, or through the kind itself. -/
def found (r : Running) (self : Option Value) (kind : Value) (name : String) (w : Value) : Eval Value := do
  match ← asMember w, self with
  | .property get _ _, some v =>
    match get with
    | .nothing => fail "AttributeError" ("property '" ++ name ++ "' of '" ++ (← kindName v) ++ "' object has no getter")
    | f => r.call f [v] []
  | .object _, self =>
    match ← r.special? w "__get__" [self.getD .nothing, kind] with
    | some u => return u
    | none => return w
  | w, some v => return boundTo v kind w
  | .marked "staticmethod" f, none => return f
  | .marked "classmethod" f, none => return boundTo kind kind (.marked "classmethod" f)
  | w, none => return w

/-- The error that another one came from, and whether it was given as its cause. -/
def origin? (v : Value) : Eval (Option (Value × Bool)) := do
  let same := (← get).handled.find? fun e => Kinds.isSame e.value v
  return same.bind fun e => match e with
    | .of _ _ (some before) isCause => some (before.value, isCause)
    | _ => none

def quotedPart (s : String) : String := ((s.splitOn "'").drop 1).headD ""

def errorMember? (v : Value) (kind : String) (args : List Value) (name : String) : Eval (Option Value) := do
  let arg (i : Nat) : Value := (args[i]?).getD .nothing
  let isOf (s : String) : Bool := isErrorOf kind s
  let message : String := match args with
    | .text s :: _ => s
    | _ => ""
  let digitsBehind (mark : String) : Option Value :=
    ((message.splitOn mark).getLast?.bind fun s => (String.ofList (s.toList.takeWhile Char.isDigit)).toNat?).map
      fun n => .int n
  match name with
  | "args" => return some (.tuple args)
  | "code" => return if isOf "SystemExit" then some (if args.length < 2 then arg 0 else .tuple args) else none
  | "value" => return if isOf "StopIteration" then some (arg 0) else none
  | "errno" => return if isOf "OSError" then some (if args.length < 2 then .nothing else arg 0) else none
  | "strerror" => return if isOf "OSError" then some (arg 1) else none
  | "filename" => return if isOf "OSError" then some (arg 2) else none
  | "name" =>
    return if isOf "NameError" || isOf "ImportError" then some (.text (quotedPart message))
      else if isOf "AttributeError" then some (.text (((message.splitOn "'").reverse.drop 1).headD "")) else none
  | "msg" =>
    return if kind == "json.decoder.JSONDecodeError" then some (.text ((message.splitOn ": line ").headD ""))
      else if kind == "re.error" then some (.text ((message.splitOn " at position ").headD ""))
      else if isOf "ImportError" || isOf "SyntaxError" then some (arg 0) else none
  | "pos" =>
    return if kind == "json.decoder.JSONDecodeError" then digitsBehind "(char "
      else if kind == "re.error" then digitsBehind " at position " else none
  | "lineno" => return if kind == "json.decoder.JSONDecodeError" then digitsBehind ": line " else none
  | "colno" => return if kind == "json.decoder.JSONDecodeError" then digitsBehind " column " else none
  | "__traceback__" => return some .nothing
  | "__suppress_context__" => return some (.bool (((← origin? v).map (·.2)).getD false))
  | "__cause__" => return some (match ← origin? v with
      | some (w, true) => w
      | _ => .nothing)
  | "__context__" => return some (((← origin? v).map (·.1)).getD .nothing)
  | "with_traceback" | "add_note" => return some (.bound v name)
  | _ => return none

/-- What a value that is always there has under a name, apart from what can be done with it. -/
def plainPart? (v : Value) (name : String) : Eval (Option Value) := do
  match v, name with
  | .bool b, "real" | .bool b, "numerator" => return some (.int b.toNat)
  | .int n, "real" | .int n, "numerator" => return some (.int n)
  | .int _, "imag" | .bool _, "imag" => return some (.int 0)
  | .int _, "denominator" | .bool _, "denominator" => return some (.int 1)
  | .float x, "real" => return some (.float x)
  | .float _, "imag" => return some (.float 0.0)
  | .complex x _, "real" => return some (.float x)
  | .complex _ y, "imag" => return some (.float y)
  | .fraction n _, "numerator" => return some (.int n)
  | .fraction _ d, "denominator" => return some (.int d)
  | .fraction n d, "real" => return some (.fraction n d)
  | .fraction _ _, "imag" => return some (.int 0)
  | .decimal d, "real" => return some (.decimal d)
  | .decimal _, "imag" => return some (.decimal (.ofInt 0))
  | .range a _ _, "start" => return some (.int a)
  | .range _ b _, "stop" => return some (.int b)
  | .range _ _ c, "step" => return some (.int c)
  | .slice a _ _, "start" => return some a
  | .slice _ b _, "stop" => return some b
  | .slice _ _ c, "step" => return some c
  | .channel k _, "buffer" => return some (.channel k true)
  | .channel _ _, "encoding" => return some (.text "utf-8")
  | .channel _ _, "errors" => return some (.text "strict")
  | .channel k _, "mode" => return some (.text (if k = 0 then "r" else "w"))
  | .channel k _, "name" =>
    return some (if k = 0 then .text "<stdin>" else if k = 1 then .text "<stdout>"
      else if k = 2 then .text "<stderr>" else .int k)
  | .channel k _, "closed" => return some (.bool (← Channels.readable? k).isNone)
  | .either ks, "__args__" => return some (.tuple ks)
  | .pattern p, name => Matching.patternMember? p name
  | .found m, name => return Matching.foundMember? m name
  | .error kind args, name => errorMember? v kind args name
  | .property get _ _, "fget" => return some get
  | .property _ put _, "fset" => return some put
  | .property _ _ remove, "fdel" => return some remove
  | .property _ _ _, "setter" | .property _ _ _, "getter" | .property _ _ _, "deleter" => return some (.bound v name)
  | .marked _ f, "__func__" | .marked _ f, "__wrapped__" => return some f
  | .stream id, "send" | .stream id, "throw" | .stream id, "close" =>
    match (← get).streams[id]? with
    | some (.suspended _ _ _ _) | some (.finished _) | some (.gathered _ _ _ _ true) => return some (.bound v name)
    | _ => return none
  | .stream id, "__name__" =>
    match (← get).streams[id]? with
    | some (.suspended name _ _ _) => return some (.text name)
    | some (.gathered _ _ _ _ true) => return some (.text "<genexpr>")
    | _ => return none
  | .kept f _, "__wrapped__" => return some f
  | .kept _ _, "cache_info" | .kept _ _, "cache_clear" | .kept _ _, "cache_parameters" => return some (.bound v name)
  | .method self _, "__self__" => return some self
  | .method _ f, "__func__" => return some (.function f)
  | .bound self _, "__self__" => return some self
  | .bound _ s, "__name__" | .bound _ s, "__qualname__" => return some (.text s)
  | .builtin s, "__name__" | .builtin s, "__qualname__" => return some (.text (lastName s))
  | .builtin s, "__module__" =>
    return some (.text (match (s.splitOn ".").dropLast with
      | [] => "builtins"
      | path => String.intercalate "." path))
  | .builtin "decimal.context", name =>
    let c := (← get).decimals
    match name with
    | "prec" => return some (.int c.precision)
    | "rounding" => return (Decimal.Rounding.all.find? fun (_, r) => r == c.rounding).map fun (s, _) => .text s
    | _ => return none
  | _, _ => return none

def plain? (v : Value) (name : String) : Eval (Option Value) := do
  match name with
  | "__class__" => some <$> Kinds.of v
  | "__doc__" => return some ((← plainPart? v name).getD .nothing)
  | _ =>
    match ← plainPart? v name with
    | some w => return some w
    | none =>
      let isThere := (Methods.names v).contains name || (← Specials.names v).contains name ||
        Specials.common.contains name
      return if isThere then some (.bound v name) else none

def functionMembers (id : Nat) : Eval Nat := do
  match (← functionAt id).members with
  | some d => return d
  | none =>
    let d ← putDict {}
    modify fun m => { m with functions := m.functions.modify id fun f => { f with members := some d } }
    return d

def defaultsOf (f : Function) : Value :=
  match f.params.filterMap fun (_, taking, d) => if taking = .one || taking = .front then d else none with
  | [] => .nothing
  | vs => .tuple vs

def functionMember? (id : Nat) (name : String) : Eval (Option Value) := do
  let f ← functionAt id
  let own ← match f.members with
    | some d => do pure ((← dictAt d).named? name)
    | none => pure none
  match own, name with
  | some w, _ => return some w
  | none, "__name__" => return some (.text f.title)
  | none, "__qualname__" => return some (.text f.path)
  | none, "__doc__" => return some f.doc
  | none, "__module__" =>
    return some (((← scopeAt (← outermost maxScopes f.scope)).names["__name__"]?).getD (.text "__main__"))
  | none, "__dict__" => return some (.dict (← functionMembers id))
  | none, "__defaults__" => return some (defaultsOf f)
  | none, "__kwdefaults__" =>
    match f.params.filterMap fun (s, taking, d) => if taking = .named then d.map fun v => (s, v) else none with
    | [] => return some .nothing
    | named => some <$> newNames named
  | none, "__annotations__" =>
    let notes ← newNames f.notes
    if let .dict _ := notes then
      let d ← functionMembers id
      changeDict d (·.setName name notes)
    return some notes
  | none, "__code__" => return some (.marked "code" (.function id))
  | none, "__closure__" => return some .nothing
  | none, "__globals__" => return some (.dict (← namesAsDict (← outermost maxScopes f.scope)))
  | none, name => plain? (.function id) name

def codeMember? (id : Nat) (name : String) : Eval (Option Value) := do
  let f ← functionAt id
  let count (taking : Taking) : Nat := (f.params.filter fun p => p.2.1 = taking).length
  match name with
  | "co_name" => return some (.text f.name)
  | "co_qualname" => return some (.text f.path)
  | "co_argcount" => return some (.int (count .one + count .front : Nat))
  | "co_posonlyargcount" => return some (.int (count .front))
  | "co_kwonlyargcount" => return some (.int (count .named))
  | "co_varnames" => return some (.tuple ((f.own.filter fun s => s != "" && s != "/").map .text))
  | "co_filename" => return some (.text (← get).file)
  | _ => return none

def kindPart? (v : Value) (name : String) : Eval (Option Value) := do
  match v, name with
  | .kind s, "__name__" | .kind s, "__qualname__" => return some (.text (lastName s))
  | .kind s, "__module__" =>
    return some (.text (match (s.splitOn ".").dropLast with
      | [] => "builtins"
      | path => String.intercalate "." path))
  | .ownKind id, "__name__" => return some (.text (← kindAt id).name)
  | .ownKind id, "__qualname__" => return some (.text (← kindAt id).path)
  | .ownKind id, "__module__" => return some (.text (← kindAt id).module)
  | .ownKind id, "__bases__" => return some (.tuple (← kindAt id).bases)
  | .ownKind id, "__base__" => return some ((← kindAt id).bases.headD (.kind "object"))
  | .ownKind id, "__abstractmethods__" =>
    let k ← kindAt id
    if k.above.isNone then return none
    return some (.frozen (← putDict (k.missing.foldl (fun d s => d.setName s .nothing) {})))
  | .ownKind id, "__dict__" => return some (.dict (← kindAt id).members)
  | .ownKind id, "__annotations__" =>
    let notes ← newNames []
    changeDict (← kindAt id).members (·.setName name notes)
    return some notes
  | .kind s, "__bases__" => return some (.tuple (((Kinds.chain s).drop 1).take 1 |>.map .kind))
  | .kind s, "__base__" => return some ((((Kinds.chain s)[1]?).map Value.kind).getD .nothing)
  | .kind s, "__dict__" => some <$> newNames ((kindNames s).map fun t => (t, .builtin (s ++ "." ++ t)))
  | v, "__mro__" => return some (.tuple (← Kinds.order v))
  | v, "__class__" => some <$> Kinds.of v
  | v, "mro" | v, "__subclasses__" | v, "__call__" | v, "__prepare__" | v, "__instancecheck__"
  | v, "__subclasscheck__" => return some (.bound v name)
  | _, "__doc__" => return some .nothing
  | _, _ => return none

/-- Whether values of a kind that is always there have something under a name. -/
def isKindName (kind name : String) : Bool :=
  ((Methods.sample? kind).map fun v => (Methods.names v).contains name).getD false ||
    (Specials.ownNames kind).contains name || Specials.common.contains name

def kindMember (v : Value) (s name : String) : Eval Value := do
  if isKindName s name then return .builtin (s ++ "." ++ name)
  match ← kindPart? v name with
  | some w => return w
  | none => missing v name

def ownKindMember (r : Running) (id : Nat) (name : String) : Eval Value := do
  let v := Value.ownKind id
  let above := (← kindAt id).above
  let ofAbove ← match above with
    | some a => do pure ((← Memory.kindMember? a name).map fun w => (Value.ownKind a, w))
    | none => pure none
  match ofAbove with
  | some (a, .property get put remove) => return ← found r (some v) a name (.property get put remove)
  | _ => pure ()
  match ← Memory.kindMember? id name, ofAbove with
  | some w, _ => found r none v name w
  | none, some (a, w) => found r (some v) a name w
  | none, none =>
    match ← kindPart? v name with
    | some w => return w
    | none =>
      let base := (← Kinds.base? id).getD "object"
      if isKindName base name then return .builtin (base ++ "." ++ name)
      match ← r.special? v "__getattr__" [.text name] with
      | some w => return w
      | none => missing v name

/-- What an object has under a name although neither it nor its kind says so. -/
def inherent? (v : Value) (o : Object) (name : String) : Eval (Option Value) := do
  match name with
  | "__class__" => some <$> Kinds.of v
  | "__dict__" => return some (.dict o.members)
  | "__module__" => return some (.text (← kindAt o.kind).module)
  | "__doc__" | "__weakref__" => return some .nothing
  | _ =>
    let ofError ← match ← Kinds.errorKind? v with
      | some kind => errorMember? v kind o.args name
      | none => pure none
    match ofError, o.core with
    | some w, _ => return some w
    | none, some c =>
      if Specials.common.contains name then return some (.bound v name) else plain? c name
    | none, none => return if Specials.common.contains name then some (.bound v name) else none

/-- Whether a member of a kind goes before what its values have themselves. -/
def isFirst (w : Value) : Eval Bool := do
  match ← asMember w with
  | .property _ _ _ => return true
  | .object _ => return (← special? w "__set__").isSome
  | _ => return false

def rawMember? (r : Running) (id : Nat) (name : String) : Eval (Option Value) := do
  let v := Value.object id
  let o ← objectAt id
  let byKind ← Memory.kindMember? o.kind name
  let own := (← dictAt o.members).named? name
  match byKind, own with
  | some w, some u =>
    if ← isFirst w then some <$> found r (some v) (.ownKind o.kind) name w else return some u
  | none, some u => return some u
  | some w, none => some <$> found r (some v) (.ownKind o.kind) name w
  | none, none => inherent? v o name

def rawMember (r : Running) (id : Nat) (name : String) : Eval Value := do
  match ← rawMember? r id name with
  | some w => return w
  | none => missing (.object id) name

def objectMember (r : Running) (id : Nat) (name : String) : Eval Value := do
  let v := Value.object id
  let isLack (e : Raised) : Eval Bool := do
    return ((← Kinds.errorKind? e.value).map fun k => isErrorOf k "AttributeError").getD false
  let asked : Eval Value := do
    match ← special? v "__getattribute__" with
    | some f => r.call f [.text name] []
    | none => rawMember r id name
  match ← special? v "__getattr__" with
  | none => asked
  | some f =>
    try asked
    catch
      | .raised e => if ← isLack e then r.call f [.text name] [] else throw (.raised e)
      | l => throw l

def aboveMember (r : Running) (kind : Nat) (self : Value) (name : String) : Eval Value := do
  let own ← match self with
    | .object id => do pure (Value.ownKind (← objectAt id).kind)
    | v => pure v
  let isKind := match self with
    | .ownKind _ => true
    | _ => false
  let direct ← Kinds.order own
  let isDirect := Kinds.isIn (.ownKind kind) direct
  let order ← if isDirect then pure direct else Kinds.order (← Kinds.of own)
  let rest := (order.dropWhile fun k => !Kinds.isSame k (.ownKind kind)).drop 1
  let w ← rest.findSomeM? fun k => do
    match k with
    | .ownKind id =>
      match (← dictAt (← kindAt id).members).named? name with
      | some w => some <$> found r (if isKind && isDirect then none else some self) own name w
      | none => return none
    | .kind s =>
      if name == "__new__" then return some (.builtin (s ++ ".__new__"))
      if s == "type" && isKind then return ← kindPart? self name
      match self with
      | .object id =>
        if Specials.common.contains name then return some (.bound self name)
        else if s == "object" then inherent? self { (← objectAt id) with core := none } name
        else inherent? self (← objectAt id) name
      | _ => return if isKindName s name then some (.bound self name) else none
    | _ => return none
  match w with
  | some w => return w
  | none =>
    if Specials.common.contains name then return .bound self name
    failNear "AttributeError" ("'super' object has no attribute '" ++ name ++ "'") name []

def moduleMember? (path name : String) : Eval (Option Value) := do
  let own ← match ← loaded? path with
    | some id => do pure (← scopeAt id).names[name]?
    | none => pure none
  match own with
  | some w => return some w
  | none => Modules.member? path name

def member (r : Running) (v : Value) (name : String) : Eval Value := do
  let orMissing (w : Option Value) : Eval Value := do
    match w with
    | some w => return w
    | none => missing v name
  match v with
  | .object id => objectMember r id name
  | .ownKind id => ownKindMember r id name
  | .kind s => kindMember v s name
  | .generic k args =>
    match name with
    | "__origin__" => return k
    | "__args__" => return .tuple args
    | "__class__" => Kinds.of v
    | _ => r.member k name
  | .above kind self => if name == "__class__" then return .kind "super" else aboveMember r kind self name
  | .function id => functionMember? id name >>= orMissing
  | .method _ id =>
    match ← plainPart? v name with
    | some w => return w
    | none =>
      if name == "__class__" || name == "__call__" then plain? v name >>= orMissing
      else functionMember? id name >>= orMissing
  | .module path =>
    match ← moduleMember? path name, name with
    | some w, _ => return w
    | none, "__name__" => return .text path
    | none, "__dict__" => newNames (← (← moduleNames path).filterMapM fun s => do
        return (← moduleMember? path s).map fun w => (s, w))
    | none, "__doc__" => return .nothing
    | none, "__class__" => Kinds.of v
    | none, _ => missing v name
  | .kept f _ | .marked _ f =>
    match ← plainPart? v name, v, f with
    | some w, _, _ => return w
    | none, .marked "code" _, .function id => codeMember? id name >>= orMissing
    | none, _, _ => if name == "__class__" then Kinds.of v else r.member f name
  | v => plain? v name >>= orMissing

/-- The names that values of a kind can have, if they are limited. -/
def slots? (kind : Nat) : Eval (Option (List String)) := do
  let own := (← kindAt kind).order.filterMap fun k => match k with
    | .ownKind id => some id
    | _ => none
  let all ← own.mapM fun id => do return (← dictAt (← kindAt id).members).named? "__slots__"
  let parts : List (Option (List String)) ← all.mapM fun v => do
    match v with
    | none => return none
    | some (.text s) => return some [s]
    | some v =>
      let items := (← Operations.heldItems? v).getD []
      return some (items.filterMap fun v => match v with
        | .text s => some s
        | _ => none)
  return if parts.any (·.isNone) then none else some (parts.filterMap id).flatten

def rawSet (r : Running) (id : Nat) (name : String) (w : Value) : Eval Unit := do
  let v := Value.object id
  let o ← objectAt id
  let put : Eval Unit := do
    match ← slots? o.kind with
    | some names =>
      if !names.contains name && !names.contains "__dict__" then
        if (← Memory.kindMember? o.kind name).isSome then
          fail "AttributeError" ("'" ++ (← kindName v) ++ "' object attribute '" ++ name ++ "' is read-only")
        missing v name
    | none => pure ()
    changeDict o.members (·.setName name w)
  if o.kind = bareKind then missing v name
  match ← (← Memory.kindMember? o.kind name).mapM asMember with
  | some (.property _ put _) =>
    match put with
    | .nothing => fail "AttributeError" ("property '" ++ name ++ "' of '" ++ (← kindName v) ++ "' object has no setter")
    | f =>
      let _ ← r.call f [v, w] []
  | some (.object d) =>
    match ← r.special? (.object d) "__set__" [v, w] with
    | some _ => pure ()
    | none => put
  | _ =>
    match name, w with
    | "__class__", .ownKind k => changeObject id fun o => { o with kind := k }
    | "__dict__", .dict d => changeObject id fun o => { o with members := d }
    | "args", w =>
      if (← Kinds.errorKind? v).isSome then
        let args ← r.items w
        changeObject id fun o => { o with args := args }
      else put
    | _, _ => put

def setFunctionMember (id : Nat) (name : String) (w : Value) : Eval Unit := do
  let change (g : Function → Function) : Eval Unit :=
    modify fun m => { m with functions := m.functions.modify id g }
  match name, w with
  | "__name__", .text s => change fun f => { f with title := s }
  | "__qualname__", .text s => change fun f => { f with path := s }
  | "__doc__", w => change fun f => { f with doc := w }
  | "__dict__", .dict d => change fun f => { f with members := some d }
  | "__defaults__", .tuple vs => change fun f =>
    let taking := f.params.filter fun p => p.2.1 = .one || p.2.1 = .front
    let free := taking.length - vs.length
    let named := taking.map (·.1)
    { f with params := f.params.map fun (s, taking, d) =>
        match (named.drop free).zip vs |>.lookup s with
        | some v => (s, taking, some v)
        | none => (s, taking, if named.contains s then none else d) }
  | name, w => changeDict (← functionMembers id) (·.setName name w)

def moduleScope (path : String) : Eval Nat := do
  match ← loaded? path with
  | some id => return id
  | none =>
    let id ← newScope {}
    modify fun m => { m with modules := m.modules.insert path id }
    return id

def set (r : Running) (v : Value) (name : String) (w : Value) : Eval Unit := do
  match v with
  | .object id =>
    match ← r.special? v "__setattr__" [.text name, w] with
    | some _ => pure ()
    | none => rawSet r id name w
  | .ownKind id =>
    match ← r.special? v "__setattr__" [.text name, w] with
    | some _ => pure ()
    | none =>
      match name, w with
      | "__name__", .text s => modify fun m => { m with kinds := m.kinds.modify id fun k => { k with name := s } }
      | "__qualname__", .text s => modify fun m => { m with kinds := m.kinds.modify id fun k => { k with path := s } }
      | "__module__", .text s => modify fun m => { m with kinds := m.kinds.modify id fun k => { k with module := s } }
      | _, w => changeDict (← kindAt id).members (·.setName name w)
  | .kind s => typeError ("cannot set '" ++ name ++ "' attribute of immutable type '" ++ s ++ "'")
  | .function id => setFunctionMember id name w
  | .kept (.function id) _ | .marked _ (.function id) => setFunctionMember id name w
  | .module path =>
    let id ← moduleScope path
    inScope id (assign name w)
  | .builtin "decimal.context" =>
    match name, w with
    | "prec", .int n => modify fun m => { m with decimals := { m.decimals with precision := n.toNat } }
    | "rounding", .text s =>
      if let some rounding := Decimal.Rounding.all.lookup s then
        modify fun m => { m with decimals := { m.decimals with rounding := rounding } }
    | _, _ => pure ()
  | .error _ _ => pure ()
  | v =>
    match ← plain? v name with
    | some (.bound _ _) =>
      fail "AttributeError" ("'" ++ (← kindName v) ++ "' object attribute '" ++ name ++ "' is read-only")
    | some _ =>
      let kind ← kindName v
      fail "AttributeError" (if kind == "range" || kind == "slice" then "readonly attribute"
        else "attribute '" ++ name ++ "' of '" ++ kind ++ "' objects is not writable")
    | none => missing v name

def rawRemove (r : Running) (id : Nat) (name : String) : Eval Unit := do
  let v := Value.object id
  let o ← objectAt id
  let remove : Eval Unit := do
    if ((← dictAt o.members).named? name).isNone then
      if (← Memory.kindMember? o.kind name).isSome then fail "AttributeError" name else missing v name
    changeDict o.members (·.remove (Dict.nameKey name))
  match ← (← Memory.kindMember? o.kind name).mapM asMember with
  | some (.property _ _ f) =>
    match f with
    | .nothing => fail "AttributeError" ("property '" ++ name ++ "' of '" ++ (← kindName v) ++ "' object has no deleter")
    | f =>
      let _ ← r.call f [v] []
  | some (.object d) =>
    match ← r.special? (.object d) "__delete__" [v] with
    | some _ => pure ()
    | none => remove
  | _ => remove

def remove (r : Running) (v : Value) (name : String) : Eval Unit := do
  let from? (d : Nat) : Eval Unit := do
    if ((← dictAt d).named? name).isNone then missing v name
    changeDict d (·.remove (Dict.nameKey name))
  match v with
  | .object id =>
    match ← r.special? v "__delattr__" [.text name] with
    | some _ => pure ()
    | none => rawRemove r id name
  | .ownKind id =>
    if ((← dictAt (← kindAt id).members).named? name).isNone then fail "AttributeError" name
    from? (← kindAt id).members
  | .function id => from? (← functionMembers id)
  | .module path =>
    let id ← moduleScope path
    inScope id (forget name)
  | .kind s => typeError ("cannot set '" ++ name ++ "' attribute of immutable type '" ++ s ++ "'")
  | v => missing v name

def text (r : Running) (isPlain : Bool) (v : Value) : Eval String := do
  match v with
  | .object id =>
    let o ← objectAt id
    let k ← kindAt o.kind
    match ← Kinds.errorKind? v, o.core with
    | some kind, _ =>
      if isPlain then errorText r.own kind o.args
      else return k.name ++ "(" ++ (← allShown r.own Shown.maxDepth o.args) ++ ")"
    | none, some c =>
      match c with
      | .set s | .frozen s =>
        let d ← dictAt s
        if d.size = 0 then return k.name ++ "()"
        else return k.name ++ "(\x7b" ++ (← allShown r.own Shown.maxDepth (Sets.items d)) ++ "\x7d)"
      | c => if isPlain then plain r.own c else shown r.own Shown.maxDepth c
    | none, none =>
      let lead := if k.module == "builtins" then "" else k.module ++ "."
      return "<" ++ lead ++ k.path ++ " object at " ++ address ++ ">"
  | .ownKind id => return "<class '" ++ (← kindAt id).module ++ "." ++ (← kindAt id).path ++ "'>"
  | v => if isPlain then plain r.own v else shown r.own Shown.maxDepth v

/-- Whether an object is printed by itself although only its kind says what it looks like in a script. -/
def isPrintedPlain (v : Value) : Eval Bool := do
  match v with
  | .object id =>
    if (← Kinds.errorKind? v).isSome then return true
    return match (← objectAt id).core with
      | some (.text _) | some (.fraction _ _) | some (.decimal _) => true
      | _ => false
  | _ => return false

def objectCall (r : Running) (id : Nat) (name : String) (args : List Value) (named : List (String × Value)) :
    Eval Value := do
  let v := Value.object id
  let arg (i : Nat) : Value := (args[i]?).getD .nothing
  let nameArgument : Eval String := do
    match ← core (arg 0) with
    | .text s => return s
    | w => typeError ("attribute name must be string, not '" ++ (← kindName w) ++ "'")
  let o ← objectAt id
  match name with
  | "__init__" =>
    Creation.start r id args named
    return .nothing
  | "__init_subclass__" => return .nothing
  | "__repr__" => return .text (← text r false v)
  | "__str__" => if ← isPrintedPlain v then return .text (← text r true v) else return .text (← r.own false v)
  | "__setattr__" =>
    rawSet r id (← nameArgument) (arg 1)
    return .nothing
  | "__delattr__" =>
    rawRemove r id (← nameArgument)
    return .nothing
  | "__getattribute__" => rawMember r id (← nameArgument)
  | "__dir__" => newList ((← names v).map .text)
  | "__sizeof__" => return .int 48
  | "with_traceback" | "add_note" => return v
  | _ =>
    match o.core with
    | some c =>
      match ← Specials.call? r c name args with
      | some w => return w
      | none => Methods.call r v name args named
    | none =>
      match name with
      | "__eq__" => return if Kinds.isSame v (arg 0) then .bool true else .declined
      | "__ne__" =>
        match ← r.special? v "__eq__" args with
        | some .declined => return .declined
        | some w => return .bool !(← r.truth w)
        | none => return if Kinds.isSame v (arg 0) then .bool false else .declined
      | "__hash__" => return .int (1000003 + 16 * (id : Int))
      | "__format__" =>
        match ← core (arg 0) with
        | .text "" => return .text (← plain r.own v)
        | _ => typeError ("unsupported format string passed to " ++ (← kindName v) ++ ".__format__")
      | _ => return .declined

end PartitionTest.Shell.Objects.Members
