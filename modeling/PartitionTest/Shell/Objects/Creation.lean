import PartitionTest.Shell.Objects.Specials

/-! Making kinds of the script's own, and values of these kinds. -/
namespace PartitionTest.Shell.Objects.Creation

open Memory Shown

def maxMarks : Nat := 100

def isMissing : Nat → Value → Eval Bool
  | 0, _ => return false
  | n + 1, v => do
    match v with
    | .function id =>
      match (← functionAt id).members with
      | some d => return match (← dictAt d).named? "__isabstractmethod__" with
          | some (.bool b) => b
          | _ => false
      | none => return false
    | .marked _ f | .kept f _ => isMissing n f
    | .property get put remove => [get, put, remove].anyM (isMissing n)
    | _ => return false

/-- The name of the kind of kinds whose values can leave members to those below. -/
def openKind : String := "ABCMeta"

def missingNames (id : Nat) : Eval (List String) := do
  match (← kindAt id).above with
  | none => return []
  | some above =>
    let isOpen ← (← kindAt above).order.anyM fun k => do
      match k with
      | .ownKind k => return (← kindAt k).name == openKind
      | _ => return false
    if !isOpen then return []
    let names ← (← kindAt id).order.mapM fun k => do
      match k with
      | .ownKind k => return (← dictAt (← kindAt k).members).names
      | _ => return []
    names.flatten.eraseDups.filterM fun s => do
      match ← kindMember? id s with
      | some v => isMissing maxMarks v
      | none => return false

def closed : List String := ["bool", "NoneType", "range", "slice", "function", "generator", "ellipsis"]

def checkBase (b : Value) : Eval Unit := do
  match b with
  | .ownKind _ => pure ()
  | .kind s => if closed.contains s then typeError ("type '" ++ s ++ "' is not an acceptable base type")
  | v => typeError ("bases must be types, not '" ++ (← kindName v) ++ "'")

/-- The kind that a new kind is of: the most special of those of its bases and of the one asked for. -/
def aboveOf (asked : Option Nat) (bases : List Value) : Eval (Option Nat) := do
  bases.foldlM (fun best b => do
    match b with
    | .ownKind id =>
      match (← kindAt id).above, best with
      | none, best => return best
      | some a, none => return some a
      | some a, some c =>
        if ← Kinds.isPartOf (.ownKind c) (.ownKind a) then return some c
        else if ← Kinds.isPartOf (.ownKind a) (.ownKind c) then return some a
        else typeError ("metaclass conflict: the metaclass of a derived class must be a (non-strict) subclass of the " ++
          "metaclasses of all its bases")
    | _ => return best) asked

def currentModule : Eval String := do return (← get).module.getD "__main__"

def reserve (name path : String) : Eval Nat := do
  let id := (← get).kinds.size
  let module ← currentModule
  modify fun m => { m with kinds := m.kinds.push { name, path, module, bases := [], order := [], members := 0 } }
  return id

/-- Members that are functions of the kind even if nothing says so. -/
def marks : List (String × String) := [
  ("__new__", "staticmethod"), ("__init_subclass__", "classmethod"), ("__class_getitem__", "classmethod")]

def kind (r : Running) (asked : Option Nat) (name : String) (given : List Value) (names : Nat)
    (named : List (String × Value)) : Eval Value := do
  let bases := if given.isEmpty then [.kind "object"] else given
  bases.forM checkBase
  let above ← aboveOf asked bases
  let place := (← get).kinds.findIdx? fun k => k.order.isEmpty && k.members = names
  let id ← match place with
    | some id => pure id
    | none => do
      let id ← reserve name name
      let members ← putDict (← dictAt names)
      modify fun m => { m with kinds := m.kinds.modify id fun k => { k with members := members } }
      pure id
  let self := Value.ownKind id
  let members := (← kindAt id).members
  for (s, mark) in marks do
    match (← dictAt members).named? s with
    | some (.function f) => changeDict members (·.setName s (.marked mark (.function f)))
    | _ => pure ()
  let d ← dictAt members
  if (d.named? "__eq__").isSome && (d.named? "__hash__").isNone then
    changeDict members (·.setName "__hash__" .nothing)
  let order ← Kinds.orderOf self bases
  modify fun m => { m with kinds := m.kinds.modify id fun k => { k with name, bases, order, above } }
  let missing ← missingNames id
  modify fun m => { m with kinds := m.kinds.modify id fun k => { k with missing := missing } }
  for (s, v) in (← dictAt members).all do
    let _ ← r.special? v "__set_name__" [self, s]
  let start ← order.tail.findSomeM? fun k => do
    match k with
    | .ownKind k => return (← dictAt (← kindAt k).members).named? "__init_subclass__"
    | _ => return none
  match start with
  | some f =>
    let _ ← r.call (boundTo self self f) [] named
  | none => unless named.isEmpty do typeError (name ++ ".__init_subclass__() takes no keyword arguments")
  return self

def kindOf (r : Running) (asked : Option Nat) (args : List Value) (named : List (String × Value)) : Eval Value := do
  match args with
  | [.text name, .tuple bases, .dict names] => kind r asked name bases names named
  | [.text _, .tuple _, v] => typeError ("type.__new__() argument 3 must be dict, not " ++ (← kindName v))
  | [.text _, v, _] => typeError ("type.__new__() argument 2 must be tuple, not " ++ (← kindName v))
  | [v, _, _] => typeError ("type.__new__() argument 1 must be str, not " ++ (← kindName v))
  | _ => typeError "type() takes 1 or 3 arguments"

def allocate (r : Running) (id : Nat) (args : List Value) (named : List (String × Value)) : Eval Value := do
  match ← Kinds.base? id with
  | none => newObject id args none
  | some "type" => kindOf r (some id) args named
  | some "list" => do newObject id args (some (← newList []))
  | some "dict" => do newObject id args (some (← newNames []))
  | some "set" => do newObject id args (some (.set (← putDict {})))
  | some base =>
    if isErrorKind base then newObject id args none
    else newObject id args (some (← Making.value r base args named))

/-- What a value of a kind is told if its kind says nothing about it. -/
def start (r : Running) (id : Nat) (args : List Value) (named : List (String × Value)) : Eval Unit := do
  let v := Value.object id
  match ← Kinds.errorKind? v, (← objectAt id).core with
  | some _, _ => changeObject id fun o => { o with args := args }
  | none, some (.list l) =>
    let items ← ((args.head?).map r.items).getD (pure [])
    changeList l fun _ => items.toArray
  | none, some (.dict d) =>
    match ← Making.value r "dict" args named with
    | .dict e =>
      let new ← dictAt e
      changeDict d fun old => old.union new
    | _ => pure ()
  | none, some (.set s) =>
    let new ← setOf r (← ((args.head?).map r.items).getD (pure []))
    changeDict s fun _ => new
  | none, some _ => pure ()
  | none, none =>
    unless args.isEmpty && named.isEmpty do
      typeError "object.__init__() takes exactly one argument (the instance to initialize)"

def value (r : Running) (id : Nat) (args : List Value) (named : List (String × Value)) : Eval Value := do
  let k ← kindAt id
  unless k.missing.isEmpty do
    let names := k.missing.mergeSort fun a b => decide (a ≤ b)
    typeError ("Can't instantiate abstract class " ++ k.name ++ " with abstract method" ++
      (if names.length = 1 then " " else "s ") ++ String.intercalate ", " names)
  let self := Value.ownKind id
  let maker ← kindMember? id "__new__"
  let init ← kindMember? id "__init__"
  let v ← match maker with
    | some f => r.call (boundTo .nothing self f) (self :: args) named
    | none => do
      match init, ← Kinds.base? id with
      | none, none =>
        unless args.isEmpty && named.isEmpty do typeError (k.name ++ "() takes no arguments")
      | none, some base =>
        if isErrorKind base && !named.isEmpty then typeError (k.name ++ "() takes no keyword arguments")
      | some _, _ => pure ()
      allocate r id args named
  if !(← Kinds.isPartOf (← Kinds.of v) self) then return v
  match init, v with
  | some f, v =>
    match ← r.call (boundTo v self f) args named with
    | .nothing => return v
    | w => typeError ("__init__() should return None, not '" ++ (← kindName w) ++ "'")
  | none, .object o =>
    match (← objectAt o).core with
    | some (.list _) | some (.dict _) | some (.set _) => start r o args named
    | _ => pure ()
    return v
  | none, v => return v

end PartitionTest.Shell.Objects.Creation
