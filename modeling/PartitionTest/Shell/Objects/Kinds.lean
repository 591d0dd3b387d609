import PartitionTest.Shell.Objects.Shown

/-! Kinds of values: what each is part of, and in which order members are looked up. -/
namespace PartitionTest.Shell.Objects.Kinds

open Memory Shown

/-- The names of kinds that have no other ones above them but that of all values. -/
def names : List String := [
  "int", "float", "complex", "str", "bytes", "bool", "list", "tuple", "dict", "set", "frozenset", "range",
  "type", "object", "enumerate", "zip", "map", "filter", "reversed", "slice", "property", "super",
  "staticmethod", "classmethod"]

def chain (kind : String) : List String :=
  if kind == "object" then ["object"]
  else if kind == "bool" then ["bool", "int", "object"]
  else if isErrorKind kind then ancestors errorKinds.length kind ++ ["object"]
  else [kind, "object"]

def kindText (v : Value) : Eval String := do
  match v with
  | .fraction _ _ => return "fractions.Fraction"
  | .stream id =>
    match (← get).streams[id]? with
    | some (.counting _ none _) => return "itertools.count"
    | _ => kindName v
  | v => kindName v

def of (v : Value) : Eval Value := do
  match v with
  | .object id =>
    let kind := (← objectAt id).kind
    return if kind = bareKind then .kind "object" else .ownKind kind
  | .ownKind id => return ((← kindAt id).above.map Value.ownKind).getD (.kind "type")
  | v => return .kind (← kindText v)

def order (v : Value) : Eval (List Value) := do
  match v with
  | .ownKind id => return (← kindAt id).order
  | .kind s => return (chain s).map Value.kind
  | _ => return []

def isSame (a b : Value) : Bool := a.identity == b.identity

def isIn (v : Value) (vs : List Value) : Bool := vs.any (isSame v)

def goodHead? (lists : List (List Value)) : Option Value :=
  (lists.filterMap List.head?).find? fun v => !lists.any fun vs => isIn v vs.tail

def merged : Nat → List (List Value) → Option (List Value)
  | 0, _ => none
  | n + 1, lists =>
    let lists := lists.filter (!·.isEmpty)
    if lists.isEmpty then some []
    else do
      let v ← goodHead? lists
      let rest ← merged n (lists.map fun vs => if (vs.head?.map (isSame v)).getD false then vs.tail else vs)
      return v :: rest

def maxKinds : Nat := 1000

def orderOf (self : Value) (bases : List Value) : Eval (List Value) := do
  let orders ← bases.mapM order
  match merged maxKinds (orders ++ [bases]) with
  | some vs => return self :: vs
  | none =>
    let names ← bases.mapM fun b => do
      match b with
      | .ownKind id => return (← kindAt id).name
      | .kind s => return s
      | _ => return ""
    typeError ("Cannot create a consistent method resolution\norder (MRO) for bases " ++
      String.intercalate ", " names)

def isPartOf (kind ancestor : Value) : Eval Bool := do return isIn ancestor (← order kind)

/-- The kind that is always there and that a kind of the script extends. -/
def base? (id : Nat) : Eval (Option String) := do
  return (← kindAt id).order.findSome? fun k => match k with
    | .kind s => if s == "object" then none else some s
    | _ => none

def errorKind? (v : Value) : Eval (Option String) := do
  match v with
  | .error kind _ => return some kind
  | .object id =>
    return (← kindAt (← objectAt id).kind).order.findSome? fun k => match k with
      | .kind s => if isErrorKind s then some s else none
      | _ => none
  | _ => return none

end PartitionTest.Shell.Objects.Kinds
