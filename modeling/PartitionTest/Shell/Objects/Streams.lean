import PartitionTest.Shell.Objects.Expressions

/-! Items that are handed out one by one. -/
namespace PartitionTest.Shell.Objects.Streams

open Memory Shown Calls Names Expressions

/-- The first entry of a dictionary from a place on, with its place. -/
def entryFrom (d : Dict) : Nat → Nat → Option (Nat × Value × Value)
  | 0, _ => none
  | n + 1, i => match d.entries[i]? with
    | some (some (_, key, v)) => some (i, key, v)
    | some none => entryFrom d n (i + 1)
    | none => none

def cursor? (r : Running) (v : Value) : Eval (Option Nat) := do
  match v with
  | .stream id => return some id
  | .list id => some <$> newStream (.list id 0)
  | .range a b c => some <$> newStream (.counting a (some b) c)
  | .channel k isBinary => some <$> newStream (.lines k isBinary)
  | .dict id => do some <$> newStream (.entries id .keys 0 (← dictAt id).size)
  | .view id side => do some <$> newStream (.entries id side 0 (← dictAt id).size)
  | .object _ | .ownKind _ =>
    match ← special? v "__iter__" with
    | some .nothing => return none
    | some f =>
      match ← r.call f [] [] with
      | .stream id => return some id
      | w =>
        if (← special? w "__next__").isSome then some <$> newStream (.object w)
        else match w with
        | .channel _ _ => r.cursor? w
        | w => typeError ("iter() returned non-iterator of type '" ++ (← kindName w) ++ "'")
    | none =>
      match ← core v with
      | .object _ | .ownKind _ =>
        if (← special? v "__getitem__").isSome then some <$> newStream (.places v 0) else return none
      | c => r.cursor? c
  | v =>
    match ← Operations.heldItems? v with
    | some items => some <$> newStream (.items items)
    | none => return none

/-- What a call gives, unless it says that there are no more items. -/
def unlessStopped (r : Running) (f : Value) (args : List Value) (kinds : List String) : Eval (Option Value) := do
  try some <$> r.call f args []
  catch
    | .raised e => do
      let isEnd := ((← Kinds.errorKind? e.value).map fun k => kinds.any (isErrorOf k)).getD false
      if isEnd then return none else throw (.raised e)
    | l => throw l

/-- The next items of several streams, or which of them has no more. -/
def nextOfAll (r : Running) : List Nat → Eval (Except Nat (List Value))
  | [] => return .ok []
  | id :: rest => do
    match ← r.next id with
    | none => return .error 0
    | some v =>
      match ← nextOfAll r rest with
      | .ok vs => return .ok (v :: vs)
      | .error i => return .error (i + 1)

def gathered (r : Running) (id : Nat) : Nat → Eval (Option Value)
  | 0 => return none
  | n + 1 => do
    match ((← get).streams[id]?).getD (.items []) with
    | .gathered item clauses (source :: outer) scope isStream =>
      match ← r.next source with
      | none =>
        setStream id (.gathered item clauses outer scope isStream)
        gathered r id n
      | some v =>
        let depth := outer.length + 1
        let (target, _, tests) := (clauses[outer.length]?).getD (.tuple [], .tuple [], [])
        let passes ← inScope scope do
          put r target v
          tests.allM fun e => do r.truth (← evaluate r e)
        if !passes then gathered r id n
        else match clauses[depth]? with
        | some (_, e, _) =>
          let inner ← inScope scope do r.cursor (← evaluate r e)
          setStream id (.gathered item clauses (inner :: source :: outer) scope isStream)
          gathered r id n
        | none => some <$> inScope scope (evaluate r item)
    | _ => return none

def next (r : Running) (id : Nat) : Eval (Option Value) := do
  match ((← get).streams[id]?).getD (.items []) with
  | .items [] | .finished _ => return none
  | .items (v :: rest) =>
    setStream id (.items rest)
    return some v
  | .list l i =>
    match (← listAt l)[i]? with
    | some v =>
      setStream id (.list l (i + 1))
      return some v
    | none =>
      setStream id (.items [])
      return none
  | .turned l i =>
    let items ← listAt l
    match if i < 0 then none else items[i.toNat]? with
    | some v =>
      setStream id (.turned l (i - 1))
      return some v
    | none =>
      setStream id (.items [])
      return none
  | .entries dict side i size =>
    let d ← dictAt dict
    if d.size != size then
      setStream id (.items [])
      fail "RuntimeError" "dictionary changed size during iteration"
    match entryFrom d (d.entries.size + 1) i with
    | some (i, key, v) =>
      setStream id (.entries dict side (i + 1) size)
      return some (match side with
        | .keys => key
        | .values => v
        | .entries => .tuple [key, v])
    | none =>
      setStream id (.items [])
      return none
  | .counting k stop step =>
    let isPast : Bool := match stop with
      | some stop => if 0 < step then stop ≤ k else k ≤ stop
      | none => false
    if isPast then return none
    else
      setStream id (.counting (k + step) stop step)
      return some (.int k)
  | .lines k isBinary =>
    let line ← readLine k maxRounds
    if line.isEmpty then return none else return some (Channels.readWrap isBinary line)
  | .found [] => return none
  | .found (m :: rest) =>
    setStream id (.found rest)
    return some (.found m)
  | .mapped f inner =>
    match ← nextOfAll r inner with
    | .ok vs => some <$> r.call f vs []
    | .error _ => return none
  | .filtered f inner =>
    match ← r.next inner with
    | none => return none
    | some v =>
      let test ← match f with
        | .nothing => pure v
        | f => r.call f [v] []
      if ← r.truth test then return some v else r.next id
  | .zipped [] _ => return none
  | .zipped inner isStrict =>
    match ← nextOfAll r inner with
    | .ok vs => return some (.tuple vs)
    | .error i =>
      if !isStrict then return none
      let fronts (k : Nat) : String :=
        if k = 1 then " argument 1" else " arguments 1-" ++ toString k
      if 0 < i then
        valueError ("zip() argument " ++ toString (i + 1) ++ " is shorter than" ++ fronts i)
      let longer ← (inner.tail.mapIdx fun k s => (k + 1, s)).findSomeM? fun (k, s) => do
        return (← r.next s).map fun _ => k
      match longer with
      | some k => valueError ("zip() argument " ++ toString (k + 1) ++ " is longer than" ++ fronts k)
      | none => return none
  | .numbered k inner =>
    match ← r.next inner with
    | none => return none
    | some v =>
      setStream id (.numbered (k + 1) inner)
      return some (.tuple [.int k, v])
  | .object v =>
    match ← special? v "__next__" with
    | none => typeError ("'" ++ (← kindName v) ++ "' object is not an iterator")
    | some f => unlessStopped r f [] ["StopIteration"]
  | .places v i =>
    match ← special? v "__getitem__" with
    | none => return none
    | some f =>
      setStream id (.places v (i + 1))
      match ← unlessStopped r f [.int i] ["IndexError", "StopIteration"] with
      | some w => return some w
      | none =>
        setStream id (.items [])
        return none
  | .calls f last =>
    match ← unlessStopped r f [] ["StopIteration"] with
    | none => return none
    | some v =>
      if ← Operations.matchesItem r v last then
        setStream id (.items [])
        return none
      else return some v
  | .suspended _ _ _ _ => r.resume id (.send .nothing)
  | .gathered _ _ _ _ isStream =>
    if isStream then inFrame "<genexpr>" (← isInner) (gathered r id maxRounds) else gathered r id maxRounds

def notIterable (v : Value) : Eval α := do typeError ("'" ++ (← kindName v) ++ "' object is not iterable")

def cursor (r : Running) (v : Value) : Eval Nat := do
  match ← r.cursor? v with
  | some id => return id
  | none => notIterable v

end PartitionTest.Shell.Objects.Streams
