import PartitionTest.Shell.Objects.Operations

/-! What can be done with lists, dictionaries and sets, by names. -/
namespace PartitionTest.Shell.Objects.Containers

open Memory Shown
open Operations (intArgument)

/-- Two lists in order as one; of items that are equal, those of the first come
first. -/
def merge (less : Value → Value → Eval Bool) :
    Nat → List (Value × Value) → List (Value × Value) → List (Value × Value) → Eval (List (Value × Value))
  | 0, read, xs, ys => return read.reverse ++ xs ++ ys
  | _, read, [], ys => return read.reverse ++ ys
  | _, read, xs, [] => return read.reverse ++ xs
  | n + 1, read, x :: xs, y :: ys => do
    if ← less y.1 x.1 then merge less n (y :: read) (x :: xs) ys else merge less n (x :: read) xs (y :: ys)

def mergeSort (less : Value → Value → Eval Bool) : Nat → List (Value × Value) → Eval (List (Value × Value))
  | 0, xs => return xs
  | n + 1, xs => do
    if xs.length ≤ 1 then return xs
    let (left, right) := xs.splitAt (xs.length / 2)
    let left ← mergeSort less n left
    let right ← mergeSort less n right
    merge less (xs.length + 1) [] left right

def keyedBy (r : Running) (f : Option Value) (vs : List Value) : Eval (List (Value × Value)) := do
  match f with
  | none | some .nothing => return vs.map fun v => (v, v)
  | some f => vs.mapM fun v => do return (← r.call f [v] [], v)

def sorted (r : Running) (vs : List Value) (named : List (String × Value)) : Eval (List Value) := do
  let keyed ← keyedBy r (named.lookup "key") vs
  let turned ← ((named.lookup "reverse").map r.truth).getD (pure false)
  /- Items that are equal keep their order in both directions. -/
  let keyed := if turned then keyed.reverse else keyed
  let all := (← mergeSort (Operations.related r .less) (vs.length + 1) keyed).map (·.2)
  return if turned then all.reverse else all

def listNames : List String := [
  "append", "extend", "insert", "remove", "pop", "clear", "index", "count", "sort", "reverse", "copy"]

def positionOf (r : Running) (v : Value) : Nat → List Value → Eval (Option Nat)
  | _, [] => return none
  | i, w :: rest => do if ← Operations.matchesItem r w v then return some i else positionOf r v (i + 1) rest

def positionWithin (r : Running) (args : List Value) (items : List Value) : Eval (Option Nat) := do
  let bound (i : Nat) : Eval (Option Int) := ((args[i]?).map (Operations.boundOf r)).getD (pure none)
  let b ← Operations.bounds (← bound 1) (← bound 2) none items.length
  let start := b.start.toNat
  positionOf r (args.headD .nothing) start ((items.take b.stop.toNat).drop start)

def list (r : Running) (id : Nat) (name : String) (args : List Value) (named : List (String × Value)) :
    Eval Value := do
  let arg (i : Nat) : Value := (args[i]?).getD .nothing
  match name with
  | "append" =>
    changeList id (·.push (arg 0))
    return .nothing
  | "extend" =>
    let vs ← r.items (arg 0)
    changeList id (· ++ vs.toArray)
    return .nothing
  | "insert" =>
    let i ← intArgument r (arg 0)
    let size := (← listAt id).size
    let i := if i < 0 then max 0 (i + size) else min i size
    changeList id fun vs => vs.take i.toNat ++ #[arg 1] ++ vs.drop i.toNat
    return .nothing
  | "remove" =>
    match ← positionOf r (arg 0) 0 (← listAt id).toList with
    | some i =>
      changeList id (·.eraseIdxIfInBounds i)
      return .nothing
    | none => valueError "list.remove(x): x not in list"
  | "pop" =>
    let vs ← listAt id
    let given ← args[0]?.mapM (intArgument r)
    if vs.isEmpty then fail "IndexError" "pop from empty list"
    let i ← match given with
      | some i => Operations.place "pop" i vs.size
      | none => pure (vs.size - 1)
    changeList id fun all => if i + 1 = all.size then all.pop else all.eraseIdxIfInBounds i
    return (vs[i]?).getD .nothing
  | "clear" =>
    changeList id fun _ => #[]
    return .nothing
  | "index" =>
    match ← positionWithin r args (← listAt id).toList with
    | some i => return .int i
    | none => valueError ((← shown r.own Shown.maxDepth (arg 0)) ++ " is not in list")
  | "count" =>
    return .int (← (← listAt id).toList.filterM fun v => Operations.matchesItem r v (arg 0)).length
  | "sort" =>
    unless args.isEmpty do typeError "sort() takes no positional arguments"
    let vs ← sorted r (← listAt id).toList named
    changeList id fun _ => vs.toArray
    return .nothing
  | "reverse" =>
    changeList id (·.reverse)
    return .nothing
  | _ => newList (← listAt id).toList

def dictNames : List String := [
  "keys", "values", "items", "get", "pop", "popitem", "setdefault", "update", "clear", "copy", "fromkeys"]

/-- The entries that a value offers: those of a dictionary, or pairs. -/
def entriesOf (r : Running) (v : Value) : Eval (List (Value × Value)) := do
  match ← core v with
  | .dict id => return (← dictAt id).all
  | _ =>
    let keys ← match v with
      | .object _ => special? v "keys"
      | _ => pure none
    match keys with
    | some f =>
      (← r.items (← r.call f [] [])).mapM fun k => do return (k, ← Operations.item r v k)
    | none =>
      let items ← r.items v
      (items.mapIdx fun i pair => (i, pair)).mapM fun (i, pair) => do
        let parts ← try r.items pair
          catch
            | .raised _ => typeError ("cannot convert dictionary update sequence element #" ++ toString i ++
                " to a sequence")
            | l => throw l
        match parts with
        | [k, v] => return (k, v)
        | vs => valueError ("dictionary update sequence element #" ++ toString i ++ " has length " ++
            toString vs.length ++ "; 2 is required")

def dict (r : Running) (id : Nat) (name : String) (args : List Value) (named : List (String × Value)) :
    Eval Value := do
  let arg (i : Nat) : Value := (args[i]?).getD .nothing
  let key : Eval String := do keyIn r (← dictAt id) (arg 0)
  match name with
  | "keys" => return .view id .keys
  | "values" => return .view id .values
  | "items" => return .view id .entries
  | "get" =>
    let k ← key
    return ((← dictAt id).get? k).getD (arg 1)
  | "pop" =>
    let k ← key
    match (← dictAt id).get? k, args[1]? with
    | some v, _ =>
      changeDict id (·.remove k)
      return v
    | none, some v => return v
    | none, none => raise (.error "KeyError" [arg 0])
  | "popitem" =>
    match (← dictAt id).keyed.getLast? with
    | some (key, k, v) =>
      changeDict id (·.remove key)
      return .tuple [k, v]
    | none => raise (.error "KeyError" [.text "popitem(): dictionary is empty"])
  | "setdefault" =>
    let k ← key
    match (← dictAt id).get? k with
    | some v => return v
    | none =>
      changeDict id (·.set k (arg 0) (arg 1))
      return arg 1
  | "update" =>
    let entries : List (Value × Value) ← ((args.head?).map (entriesOf r)).getD (pure [])
    let all : List (Value × Value) := entries ++ named.map fun (k, v) => (Value.text k, v)
    all.forM fun (k, v) => do
      let key ← keyIn r (← dictAt id) k
      changeDict id (·.set key k v)
    return .nothing
  | "clear" =>
    changeDict id fun _ => {}
    return .nothing
  | "fromkeys" => newDict r ((← r.items (arg 0)).map fun k => (k, arg 1))
  | _ => return .dict (← putDict (← dictAt id))

def frozenNames : List String := [
  "copy", "union", "intersection", "difference", "symmetric_difference", "issubset", "issuperset", "isdisjoint"]

def setNames : List String := frozenNames ++ [
  "add", "remove", "discard", "pop", "clear", "update", "intersection_update", "difference_update",
  "symmetric_difference_update"]

/-- A key as it is looked for in a set: a set among items stands for one that does not change. -/
def itemKey (r : Running) (d : Dict) (v : Value) : Eval String := do
  match v with
  | .set s => keyOf r (.frozen s)
  | v => keyIn r d v

def set (r : Running) (id : Nat) (isFrozen : Bool) (name : String) (args : List Value) : Eval Value := do
  let arg (i : Nat) : Value := (args[i]?).getD .nothing
  let made (d : Dict) : Eval Value := do
    let id ← putDict d
    return if isFrozen then .frozen id else .set id
  let dictOf (v : Value) : Eval Dict := do
    match v with
    | .set o | .frozen o => dictAt o
    | v => setOf r (← r.items v)
  let operation (op : Arithmetic) (d : Dict) (v : Value) : Eval Dict := do
    let e ← dictOf v
    return (Operations.setOperation? op d e).getD d
  let across (op : Arithmetic) : Eval Dict := do args.foldlM (operation op) (← dictAt id)
  match name with
  | "add" =>
    let k ← keyIn r (← dictAt id) (arg 0)
    changeDict id (·.add k (arg 0) .nothing)
    return .nothing
  | "remove" | "discard" =>
    let d ← dictAt id
    let k ← itemKey r d (arg 0)
    if name == "remove" && !d.has k then raise (.error "KeyError" [arg 0])
    changeDict id (·.remove k)
    return .nothing
  | "pop" =>
    let d ← dictAt id
    match Sets.items d with
    | v :: _ =>
      let k ← keyIn r d v
      changeDict id (·.remove k)
      return v
    | [] => raise (.error "KeyError" [.text "pop from an empty set"])
  | "clear" =>
    changeDict id fun _ => {}
    return .nothing
  | "update" =>
    let d ← across .bitOr
    changeDict id fun _ => d
    return .nothing
  | "intersection_update" =>
    let d ← across .bitAnd
    changeDict id fun _ => d
    return .nothing
  | "difference_update" =>
    let d ← across .subtract
    changeDict id fun _ => d
    return .nothing
  | "symmetric_difference_update" =>
    let d ← across .bitXor
    changeDict id fun _ => d
    return .nothing
  | "union" => made (← across .bitOr)
  | "intersection" => made (← across .bitAnd)
  | "difference" => made (← across .subtract)
  | "symmetric_difference" => made (← across .bitXor)
  | "issubset" =>
    let e ← dictOf (arg 0)
    return .bool ((← dictAt id).keyed.all fun (k, _) => e.has k)
  | "issuperset" =>
    let d ← dictAt id
    return .bool ((← dictOf (arg 0)).keyed.all fun (k, _) => d.has k)
  | "isdisjoint" =>
    let e ← dictOf (arg 0)
    return .bool !((← dictAt id).keyed.any fun (k, _) => e.has k)
  | _ => made (← dictAt id)

end PartitionTest.Shell.Objects.Containers
