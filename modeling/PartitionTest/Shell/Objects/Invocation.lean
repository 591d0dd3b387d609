import PartitionTest.Shell.Objects.Statements
import PartitionTest.Shell.Objects.Suspension

/-! Calling what can be called. -/
namespace PartitionTest.Shell.Objects.Invocation

open Memory Shown Calls Names Expressions Statements

def countUp (id : Nat) (key : String) : Eval Unit :=
  changeDict id fun d => match d.get? key with
    | some (.int n) => d.set key .nothing (.int (n + 1))
    | _ => d

def keptEntries : Nat := 3

/-- Keeps a result, and gives up the one that was not used for longest if there are too many. -/
def keep (id : Nat) (key : String) (args : List Value) (v : Value) : Eval Unit :=
  changeDict id fun d =>
    let d := d.set key (.tuple args) v
    match d.get? Modules.mostKey with
    | some (.int most) =>
      if most < (d.size - keptEntries : Nat) then
        match d.keyed.find? fun (k, _, _) => !k.startsWith "!" with
        | some (k, _, _) => d.remove k
        | none => d
      else d
    | _ => d

def keptState (r : Running) (id : Nat) : Eval Value := do
  let d ← dictAt id
  let at_ (key : String) : Value := (d.get? key).getD .nothing
  let parts := [at_ Modules.hitsKey, at_ Modules.missesKey, at_ Modules.mostKey, .int (d.size - keptEntries : Nat)]
  match ← Members.moduleMember? "functools" "_CacheInfo" with
  | some f => r.call f parts []
  | none => return .tuple parts

def forgetKept (id : Nat) : Eval Unit := do
  let d ← dictAt id
  let fresh : Dict := (({} : Dict).set Modules.hitsKey .nothing (.int 0)).set Modules.missesKey .nothing (.int 0)
  changeDict id fun _ => fresh.set Modules.mostKey .nothing ((d.get? Modules.mostKey).getD .nothing)

def streamCall (r : Running) (id : Nat) (name : String) (args : List Value) : Eval Value := do
  let ended : Eval Value := do
    match (← get).streams[id]? with
    | some (.finished v) => stop v
    | _ => stop .nothing
  match name with
  | "send" =>
    match ← r.resume id (.send (args.headD .nothing)) with
    | some v => return v
    | none => ended
  | "throw" =>
    let v ← errorOf r (match args with
      | [.kind _, .error k a] => .error k a
      | v :: _ => v
      | [] => .nothing)
    match ← r.resume id (.raise (.of v (← get).frames.reverse (← get).handled.head? false)) with
    | some v => return v
    | none => ended
  | "close" =>
    match (← get).streams[id]? with
    | some (.suspended _ rest _ _) =>
      if !Suspension.isStarted rest then
        setStream id (.finished .nothing)
        return .nothing
      let e := Raised.of (.error "GeneratorExit" []) (← get).frames.reverse none false
      let v ← try r.resume id (.raise e)
        catch
          | .raised e => do
            match ← Kinds.errorKind? e.value with
            | some "GeneratorExit" | some "StopIteration" => return .nothing
            | _ => throw (.raised e)
          | l => throw l
      match v with
      | some _ => fail "RuntimeError" "generator ignored GeneratorExit"
      | none => return .nothing
    | _ =>
      setStream id (.finished .nothing)
      return .nothing
  | "__iter__" => return .stream id
  | _ =>
    match ← r.next id with
    | some v => return v
    | none => ended

def own (r : Running) (isPlain : Bool) (v : Value) : Eval String := do
  let asked (name : String) (f : Value) : Eval String := do
    let w ← r.call f [] []
    match ← core w with
    | .text s => return s
    | _ => typeError (name ++ " returned non-string (type " ++ (← kindName w) ++ ")")
  if isPlain then
    match ← special? v "__str__" with
    | some f => return ← asked "__str__" f
    | none =>
      if ← Members.isPrintedPlain v then return ← Members.text r true v
  match ← special? v "__repr__" with
  | some f => asked "__repr__" f
  | none => Members.text r false v

def runText (r : Running) (source : Value) (spaces : List Value) (isScript : Bool) : Eval Value := do
  let source ← match source with
    | .marked "code" (.tuple (s :: _)) => pure s
    | s => pure s
  let text ← match ← core source with
    | .text s => pure s
    | .bytes s => pure (toUtf8 s)
    | _ => typeError ((if isScript then "exec" else "eval") ++ "() arg 1 must be a string, bytes or code object")
  let dicts ← spaces.filterMapM fun v => do
    match ← core v with
    | .dict id => return some id
    | _ => return none
  let namesIn (id : Nat) : Eval (List (String × Value)) := do
    return (← dictAt id).all.filterMap fun (k, v) => match k with
      | .text s => some (s, v)
      | _ => none
  let scopeOf (parent : Option Nat) (id : Nat) : Eval Nat := do
    if let some scope := (← get).mirrors.lookup id then return scope
    let names ← namesIn id
    newScope {
      names := names.foldl (fun all (k, v) => all.insert k v) {}, parent
      order := (names.map (·.1)).reverse }
  let scope ← match dicts with
    | [] => do pure (← get).scope
    | [g] => scopeOf none g
    | g :: l :: _ => do scopeOf (some (← scopeOf none g)) l
  let text := if isScript then text else String.ofList (text.toList.dropWhile Numbers.isSpace)
  let v ← match Reader.script text with
    | .error f => fail f.kind (f.message ++ " (<string>, line " ++ toString f.line ++ ")")
    | .ok all =>
      inFrame "<module>" (← isInner) <| inScope scope do
        match isScript, all with
        | false, [.at _ (.expr e)] => evaluate r e
        | false, _ => fail "SyntaxError" "invalid syntax (<string>, line 1)"
        | true, all =>
          runAll r all
          return .nothing
  match isScript, dicts.getLast? with
  | true, some id =>
    if ((← get).mirrors.lookup id).isSome then return v
    let names ← namesOf scope
    changeDict id fun d => names.foldl (fun d (s, v) => d.setName s v) d
  | _, _ => pure ()
  return v

def callFunction (r : Running) (id : Nat) (args : List Value) (named : List (String × Value)) : Eval Value := do
  let f ← functionAt id
  let given ← parameters f args named
  let scope ← newScope {
    names := given.foldl (fun all (k, v) => all.insert k v) {}
    order := given.map (·.1)
    parent := some f.scope
    own := f.own
    function := some id
    lead := f.path ++ ".<locals>." }
  match f.body with
  | .expr e => inFrame f.name f.isInner (inScope scope (evaluate r e))
  | .statements all =>
    if f.isStream then return .stream (← newStream (.suspended f.name [.statements all] scope f.isInner))
    else
      inFrame f.name f.isInner <| inScope scope do
        try
          runAll r all
          return .nothing
        catch
          | .return v => return v
          | l => throw l

def plainCall (r : Running) (self : Value) (name : String) (args : List Value) (named : List (String × Value)) :
    Eval Value := do
  if name.startsWith "__" then
    match name with
    | "__setattr__" =>
      match args with
      | [.text s, v] => Members.set r self s v
      | _ => pure ()
      return .nothing
    | "__getattribute__" =>
      match args with
      | [.text s] => Members.member r self s
      | _ => return .nothing
    | "__dir__" => newList ((← Members.names self).map .text)
    | _ =>
      match ← Specials.call? r self name args with
      | some v => return v
      | none => return .declined
  else Methods.call r self name args named

def callKind (r : Running) (kind : String) (args : List Value) (named : List (String × Value)) : Eval Value := do
  match kind, args with
  | "type", [v] => Kinds.of v
  | "type", args =>
    match ← Creation.aboveOf none (match args with
      | [_, .tuple bases, _] => bases
      | _ => []) with
    | some above => r.call (.ownKind above) args named
    | none => Creation.kindOf r none args named
  | "object", [] => newObject bareKind [] none
  | "object", _ => typeError "object() takes no arguments"
  | "super", [] =>
    match ← homeOf maxScopes (← get).scope, ← selfOf maxScopes (← get).scope with
    | some kind, some self => return .above kind self
    | _, _ => fail "RuntimeError" "super(): no arguments"
  | "super", .ownKind id :: self :: _ => return .above id self
  | kind, args => Making.value r kind args named

def callBound (r : Running) (self : Value) (name : String) (args : List Value) (named : List (String × Value)) :
    Eval Value := do
  match self, name with
  | .tuple [v, f], "!lead" => r.call f (v :: args) named
  | .stream id, name =>
    if ["send", "throw", "close", "__next__", "__iter__"].contains name then streamCall r id name args
    else plainCall r self name args named
  | .object id, name => Members.objectCall r id name args named
  | .property _ put remove, "getter" => return .property (args.headD .nothing) put remove
  | .property get _ remove, "setter" => return .property get (args.headD .nothing) remove
  | .property get put _, "deleter" => return .property get put (args.headD .nothing)
  | most, "lru_cache" => Modules.kept (args.headD .nothing) most
  | .kept _ id, "cache_info" => keptState r id
  | .kept _ id, "cache_clear" =>
    forgetKept id
    return .nothing
  | .kept _ id, "cache_parameters" =>
    newNames [("maxsize", ((← dictAt id).get? Modules.mostKey).getD .nothing), ("typed", .bool false)]
  | .ownKind id, "__call__" => Creation.value r id args named
  | .ownKind id, "mro" => newList (← kindAt id).order
  | .ownKind id, "__subclasses__" =>
    let kinds := (← get).kinds.toList.mapIdx fun i k => (i, k)
    newList ((kinds.filter fun (_, k) => Kinds.isIn (.ownKind id) k.bases).map fun (i, _) => .ownKind i)
  | .ownKind _, "__init__" | .ownKind _, "__init_subclass__" => return .nothing
  | .ownKind _, "__prepare__" => newNames []
  | .ownKind _, "__instancecheck__" =>
    return .bool (← Kinds.isPartOf (← Kinds.of (args.headD .nothing)) self)
  | .ownKind _, "__subclasscheck__" => return .bool (← Kinds.isPartOf (args.headD .nothing) self)
  | .ownKind _, "__repr__" | .ownKind _, "__str__" => return .text (← Members.text r false self)
  | .ownKind id, "__setattr__" =>
    match args with
    | [.text s, v] =>
      changeDict (← kindAt id).members (·.setName s v)
      return .nothing
    | _ => return .nothing
  | .ownKind id, "__getattribute__" =>
    match args with
    | [.text s] => Members.ownKindMember r id s
    | _ => return .nothing
  | .kind k, "__call__" => callKind r k args named
  | .kind k, "mro" => newList ((Kinds.chain k).map .kind)
  | .kind k, "__subclasses__" =>
    let all := (errorKinds.filter fun (_, base) => base == k).map fun (s, _) => Value.kind s
    let kinds := (← get).kinds.toList.mapIdx fun i c => (i, c)
    newList (all ++ (kinds.filter fun (_, c) => Kinds.isIn self c.bases).map fun (i, _) => .ownKind i)
  | .function _, "__call__" | .method _ _, "__call__" | .bound _ _, "__call__" | .builtin _, "__call__"
  | .kept _ _, "__call__" => r.call self args named
  | self, name => plainCall r self name args named

/-- Does with the first argument what a kind that is always there says. -/
def unboundCall (r : Running) (kind method : String) (args : List Value) (named : List (String × Value)) :
    Eval Value := do
  match kind, method, args with
  | "dict", "fromkeys", v :: rest =>
    let vs ← r.items v
    newDict r (vs.map fun k => (k, rest.headD .nothing))
  | "int", "from_bytes", args => Methods.fromBytes r args named
  | "str", "maketrans", args => Texts.table r args
  | "bytes", "maketrans", args => Texts.table r args
  | "bytes", "fromhex", .text s :: _ =>
    let ds := s.toList.filter (!Numbers.isSpace ·)
    if ds.length % 2 = 1 || !ds.all fun c => c.isDigit || ('a' ≤ c.toLower && c.toLower ≤ 'f') then
      let place := (s.toList.takeWhile fun c => Numbers.isSpace c || c.isDigit || ('a' ≤ c.toLower && c.toLower ≤ 'f')).length
      valueError ("non-hexadecimal number found in fromhex() arg at position " ++ toString place)
    let pairs := (List.range (ds.length / 2)).map fun i => (ds.drop (2 * i)).take 2
    return .bytes (String.ofList (pairs.map fun p => Char.ofNat (Tokens.hexOf p)))
  | "fractions.Fraction", "from_float", args | "fractions.Fraction", "from_decimal", args
  | "decimal.Decimal", "from_float", args => Making.value r kind args named
  | "type", "__call__", .ownKind id :: rest => Creation.value r id rest named
  | _, "__init_subclass__", _ => return .nothing
  | _, _, self :: rest => callBound r self method rest named
  | kind, method, [] => typeError ("unbound method " ++ kind ++ "." ++ method ++ "() needs an argument")

/-- Functions of kinds that are always there, and those that work on names. -/
def callNamed (r : Running) (name : String) (args : List Value) (named : List (String × Value)) : Eval Value := do
  let nameOf (v : Value) : Eval String := do
    match ← core v with
    | .text s => return s
    | w => typeError ("attribute name must be string, not '" ++ (← kindName w) ++ "'")
  match name, args with
  | "eval", source :: spaces => runText r source spaces false
  | "exec", source :: spaces => runText r source spaces true
  | "compile", source :: _ :: mode :: _ =>
    if let .text s := source then
      if let .error f := Reader.script s then fail f.kind f.message
    return .marked "code" (.tuple [source, mode])
  | "getattr", [v, s] => do Members.member r v (← nameOf s)
  | "getattr", [v, s, missing] =>
    let s ← nameOf s
    try Members.member r v s
    catch
      | .raised e => do
        let isLack := ((← Kinds.errorKind? e.value).map fun k => isErrorOf k "AttributeError").getD false
        if isLack then return missing else throw (.raised e)
      | l => throw l
  | "hasattr", [v, s] =>
    let s ← nameOf s
    try
      let _ ← Members.member r v s
      return .bool true
    catch
      | .raised e => do
        let isLack := ((← Kinds.errorKind? e.value).map fun k => isErrorOf k "AttributeError").getD false
        if isLack then return .bool false else throw (.raised e)
      | l => throw l
  | "setattr", [v, s, w] =>
    Members.set r v (← nameOf s) w
    return .nothing
  | "delattr", [v, s] =>
    Members.remove r v (← nameOf s)
    return .nothing
  | "dir", [] =>
    let names := (← namesOf (← get).scope).map (·.1)
    newList ((Members.sortedNames names).map .text)
  | "dir", v :: _ =>
    match ← special? v "__dir__" with
    | some f => newList (← Containers.sorted r (← r.items (← r.call f [] [])) [])
    | none => newList ((← Members.names v).map .text)
  | "vars", [v] =>
    match v with
    | .object _ | .ownKind _ | .module _ | .function _ => Members.member r v "__dict__"
    | _ => typeError "vars() argument must have __dict__ attribute"
  | "vars", [] | "locals", _ =>
    let id := (← get).scope
    if (← scopeAt id).parent.isNone then return .dict (← namesAsDict id) else newNames (← namesOf id)
  | "globals", _ =>
    return .dict (← namesAsDict (← outermost maxScopes (← get).scope))
  | "__import__", .text path :: _ =>
    let _ ← moduleAt (runAll r) maxPath path
    return .module ((path.splitOn ".").headD path)
  | "importlib.import_module", .text path :: _ => moduleAt (runAll r) maxPath path
  | name, args =>
    let parts := name.splitOn "."
    let method := parts.getLast?.getD name
    let kind := String.intercalate "." parts.dropLast
    if kind.isEmpty then Builtins.function r name args named
    else if method == "__new__" then
      match args with
      | .ownKind id :: rest => Creation.allocate r id rest named
      | .kind k :: rest => callKind r k rest named
      | _ => typeError (name ++ "(): not enough arguments")
    else if (Methods.sample? kind).isSome || Kinds.names.contains kind then unboundCall r kind method args named
    else Modules.function r name args named

def callKept (r : Running) (f : Value) (id : Nat) (args : List Value) (named : List (String × Value)) : Eval Value := do
  let all := args ++ (if named.isEmpty then [] else .declined :: named.flatMap fun (s, v) => [.text s, v])
  let key ← keyOf r (.tuple all)
  match (← dictAt id).get? key with
  | some v =>
    countUp id Modules.hitsKey
    if ((← dictAt id).get? Modules.mostKey).bind Value.whole? |>.isSome then
      changeDict id fun d => (d.remove key).set key (.tuple args) v
    return v
  | none =>
    let v ← r.call f args named
    countUp id Modules.missesKey
    keep id key args v
    return v

def call (r : Running) (f : Value) (args : List Value) (named : List (String × Value)) : Eval Value := do
  match f with
  | .function id => callFunction r id args named
  | .method self id => callFunction r id (self :: args) named
  | .bound self name => callBound r self name args named
  | .builtin name => callNamed r name args named
  | .kind k => callKind r k args named
  | .generic k _ => r.call k args named
  | .kept g id => callKept r g id args named
  | .marked "staticmethod" g => r.call g args named
  | .ownKind id =>
    let byAbove ← match (← kindAt id).above with
      | some a => do pure ((← kindMember? a "__call__").map fun g => boundTo f (.ownKind a) g)
      | none => pure none
    match byAbove with
    | some g => r.call g args named
    | none => Creation.value r id args named
  | v =>
    match ← special? v "__call__" with
    | some g => r.call g args named
    | none => typeError ("'" ++ (← kindName v) ++ "' object is not callable")

end PartitionTest.Shell.Objects.Invocation
