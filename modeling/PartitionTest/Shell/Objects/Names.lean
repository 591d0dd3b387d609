import PartitionTest.Shell.Objects.Members

/-! What names stand for in a running script, and how they come to do so. -/
namespace PartitionTest.Shell.Objects.Names

open Memory Shown

def literal : Literal → Value
  | .nothing => .nothing
  | .bool b => .bool b
  | .int n => .int n
  | .float x => .float x
  | .imaginary x => .complex 0.0 x
  | .text s => .text s
  | .bytes s => .bytes s
  | .ellipsis => .ellipsis

def isInner : Eval Bool := do return (((← get).frames.head?).map (·.isInner)).getD false

/-- The kind that a scope belongs to, directly or through a function. -/
def homeOf : Nat → Nat → Eval (Option Nat)
  | 0, _ => return none
  | n + 1, id => do
    let scope ← scopeAt id
    let byFunction ← match scope.function with
      | some f => do pure (← functionAt f).home
      | none => pure none
    match scope.home, byFunction, scope.parent with
    | some k, _, _ | none, some k, _ => return some k
    | none, none, some p => homeOf n p
    | none, none, none => return none

def selfOf : Nat → Nat → Eval (Option Value)
  | 0, _ => return none
  | n + 1, id => do
    let scope ← scopeAt id
    match scope.function, scope.parent with
    | some f, _ =>
      match (← functionAt f).params with
      | (s, .rest, _) :: _ =>
        return match scope.names[s]? with
          | some (.tuple (v :: _)) => some v
          | _ => none
      | (s, _, _) :: _ => return scope.names[s]?
      | [] => return none
    | none, some p => selfOf n p
    | none, none => return none

/-- A name that only one kind is meant to know, with that of the kind. -/
def mangled (s : String) : Eval String := do
  if !s.startsWith "__" || s.endsWith "__" || s.contains '.' then return s
  match ← homeOf maxScopes (← get).scope with
  | some k =>
    let name := String.ofList ((← kindAt k).name.toList.dropWhile (· = '_'))
    return if name.isEmpty then s else "_" ++ name ++ s
  | none => return s

def isFree (s : String) : Nat → Nat → Eval Bool
  | 0, _ => return false
  | n + 1, id => do
    let scope ← scopeAt id
    if scope.whole.contains s then return false
    else if scope.own.contains s && scope.parent.isSome then return true
    else match scope.parent with
    | some p => isFree s n p
    | none => return false

def noName (s : String) : Eval α := do
  let id := (← get).scope
  let scope ← scopeAt id
  let own := if scope.function.isSome then scope.own else []
  let whole := (← namesOf (← outermost maxScopes id)).map (·.1)
  let groups : List (List String) := [own, whole, Builtins.allNames]
  let near := groups.find? fun names => (Builtins.alike? s names).isSome
  Members.failNear "NameError" ("name '" ++ s ++ "' is not defined") s (near.getD [])

def nameValue (name : String) : Eval Value := do
  let s ← mangled name
  let id := (← get).scope
  match ← lookUp s maxScopes id with
  | some v => return v
  | none =>
    if ← isOwn s then
      fail "UnboundLocalError" ("cannot access local variable '" ++ s ++
        "' where it is not associated with a value")
    else if ← isFree s maxScopes id then
      fail "NameError" ("cannot access free variable '" ++ s ++
        "' where it is not associated with a value in enclosing scope")
    else match Builtins.named? s with
    | some v => return v
    | none =>
      if s == "__class__" then
        if let some k ← homeOf maxScopes id then return .ownKind k
      noName s

def bindingScope : Nat → Nat → Eval Nat
  | 0, id => return id
  | n + 1, id => do
    let scope ← scopeAt id
    match scope.function, scope.isKind, scope.parent with
    | none, false, some p => bindingScope n p
    | _, _, _ => return id

def removeName (name : String) : Eval Unit := do
  let s ← mangled name
  let id := (← get).scope
  let scope ← scopeAt id
  let id ← if scope.whole.contains s then outermost maxScopes id else pure id
  if ((← scopeAt id).names[s]?).isNone then
    if ← isOwn s then
      fail "UnboundLocalError" ("cannot access local variable '" ++ s ++
        "' where it is not associated with a value")
    else noName s
  inScope id (forget s)

/-- Assigns a name, which may be one that only one kind is meant to know. -/
def assignName (name : String) (v : Value) : Eval Unit := do assign (← mangled name) v

def scopeAround : Eval Nat := do
  let id := (← get).scope
  let scope ← scopeAt id
  return if scope.isKind then scope.parent.getD id else id

def docOf (body : List Statement) : Value :=
  match body with
  | .at _ (.expr (.constant (.text s))) :: _ => .text s
  | _ => .nothing

end PartitionTest.Shell.Objects.Names
