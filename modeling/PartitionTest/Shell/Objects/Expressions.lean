import PartitionTest.Shell.Objects.Grammar
import PartitionTest.Shell.Objects.Names

/-! The values of expressions, and assigning values to them. -/
namespace PartitionTest.Shell.Objects.Expressions

open Memory Shown Calls Names

def calledName (f : Value) : Eval String := do
  match f with
  | .function id | .method _ id => return "__main__." ++ (← functionAt id).path ++ "()"
  | .ownKind id => return "__main__." ++ (← kindAt id).path ++ "()"
  | .kind s | .builtin s | .bound _ s => return s ++ "()"
  | .object id => return "__main__." ++ (← kindAt (← objectAt id).kind).name ++ " object"
  | v => return (← kindName v) ++ " object"

/-- All items of a value; what is done if it has none is a parameter. -/
def itemsOf (r : Running) (v : Value) (refuse : Value → Eval (List Value)) : Eval (List Value) := do
  match ← Operations.heldItems? v with
  | some items => return items
  | none =>
    match ← r.cursor? v with
    | some id => collect (r.next id) maxRounds #[]
    | none => refuse v

/-- The entries of a dictionary, or of something that offers keys. -/
def mapping (r : Running) (v : Value) (refuse : Value → Eval (List (Value × Value))) :
    Eval (List (Value × Value)) := do
  match ← core v, v with
  | .dict id, _ => return (← dictAt id).all
  | _, .object _ =>
    match ← special? v "keys" with
    | some f =>
      let keys ← r.items (← r.call f [] [])
      keys.mapM fun k => do return (k, ← Operations.item r v k)
    | none => refuse v
  | _, v => refuse v

mutual

def eval (r : Running) : Nat → Expr → Eval Value
  | 0, _ => fail "RecursionError" "maximum recursion depth exceeded"
  | n + 1, e => do
    match e with
    | .constant l => return literal l
    | .name s => nameValue s
    | .joined parts => return .text (String.join (← parts.mapM fun p => do
        match ← eval r n p with
        | .text s => return s
        | v => plain r.own v))
    | .shown e conversion layout =>
      let v ← Layouts.converted r conversion (← eval r n e)
      let l ← match layout with
        | some l => plain r.own (← eval r n l)
        | none => pure ""
      return .text (← Layouts.formatted r v l)
    | .tuple items => return .tuple (← evalItems r n items)
    | .list items => newList (← evalItems r n items)
    | .set items => newSet r (← evalItems r n items)
    | .dict entries =>
      let all ← entries.mapM fun (k, v) => do
        match k with
        | some k =>
          let k ← eval r n k
          return [(k, ← eval r n v)]
        | none => mapping r (← eval r n v) fun v => do typeError ("'" ++ (← kindName v) ++ "' object is not a mapping")
      newDict r all.flatten
    | .gather kind item clauses =>
      let id ← gathering r n (kind = .stream) item clauses
      match kind with
      | .stream => return .stream id
      | .list => newList (← inFrame "<listcomp>" (← isInner) (collect (r.next id) maxRounds #[]))
      | .set => newSet r (← inFrame "<setcomp>" (← isInner) (collect (r.next id) maxRounds #[]))
    | .gatherDict key value clauses =>
      let id ← gathering r n false (.tuple [key, value]) clauses
      let pairs ← inFrame "<dictcomp>" (← isInner) (collect (r.next id) maxRounds #[])
      newDict r (pairs.filterMap fun v => match v with
        | .tuple [k, v] => some (k, v)
        | _ => none)
    | .signed s e => Operations.signed r s (← eval r n e)
    | .not e => return .bool !(← r.truth (← eval r n e))
    | .arith op a b =>
      let x ← eval r n a
      let y ← eval r n b
      Operations.arith r op false x y
    | .both a b =>
      let v ← eval r n a
      if ← r.truth v then eval r n b else return v
    | .either a b =>
      let v ← eval r n a
      if ← r.truth v then return v else eval r n b
    | .compare first rest =>
      let v ← eval r n first
      relations r n v rest
    | .choice test yes no => if ← r.truth (← eval r n test) then eval r n yes else eval r n no
    | .lambda params body =>
      let params ← defaults r n params
      let scope ← scopeAt (← get).scope
      newFunction {
        name := "<lambda>", params := params, body := .expr body, scope := ← scopeAround
        path := scope.lead ++ "<lambda>", own := params.map (·.1), isInner := ← isInner
        home := if scope.isKind then scope.home else none }
    | .call f args =>
      let f ← eval r n f
      let (args, named) ← arguments r n f args
      r.call f args named
    | .member e name =>
      let v ← eval r n e
      Members.member r v (← mangled name)
    | .item e index =>
      let v ← eval r n e
      let i ← eval r n index
      match v with
      | .kind s =>
        if ["list", "dict", "tuple", "set", "frozenset", "type"].contains s then
          return .generic v (match i with
            | .tuple ks => ks
            | k => [k])
        else typeError ("type '" ++ s ++ "' is not subscriptable")
      | v => Operations.item r v i
    | .slice start stop step =>
      let bound (e : Option Expr) : Eval Value := match e with
        | some e => eval r n e
        | none => return .nothing
      return .slice (← bound start) (← bound stop) (← bound step)
    | .spread _ => fail "SyntaxError" "can't use starred expression here"
    | .bind s e =>
      let v ← eval r n e
      let id ← bindingScope maxScopes (← get).scope
      inScope id (assignName s v)
      return v
    | .yield _ => fail "SyntaxError" "'yield' outside function"

def evalItems (r : Running) : Nat → List Expr → Eval (List Value)
  | 0, _ | _, [] => return []
  | n + 1, .spread e :: rest => do
    let v ← eval r n e
    let vs ← itemsOf r v fun v => do typeError ("Value after * must be an iterable, not " ++ (← kindName v))
    return vs ++ (← evalItems r n rest)
  | n + 1, e :: rest => do
    let v ← eval r n e
    return v :: (← evalItems r n rest)

def relations (r : Running) : Nat → Value → List (Relation × Expr) → Eval Value
  | 0, v, _ | _, v, [] => return v
  | n + 1, v, [(rel, e)] => do Operations.relation r rel v (← eval r n e)
  | n + 1, v, (rel, e) :: rest => do
    let w ← eval r n e
    let holds ← Operations.relation r rel v w
    if ← r.truth holds then relations r n w rest else return holds

/-- The arguments of a call: those by position, and those by name. -/
def arguments (r : Running) : Nat → Value → List (Giving × Expr) → Eval (List Value × List (String × Value))
  | 0, _, _ | _, _, [] => return ([], [])
  | n + 1, f, (giving, e) :: rest => do
    let v ← eval r n e
    let repeated (s : String) : Eval (List Value × List (String × Value)) := do
      typeError ((← calledName f) ++ " got multiple values for keyword argument '" ++ s ++ "'")
    match giving with
    | .plain =>
      let (args, named) ← arguments r n f rest
      return (v :: args, named)
    | .named s =>
      let (args, named) ← arguments r n f rest
      if (named.lookup s).isSome then repeated s else return (args, (s, v) :: named)
    | .spread =>
      let vs ← itemsOf r v fun v => do
        typeError ((← calledName f) ++ " argument after * must be an iterable, not " ++ (← kindName v))
      let (args, named) ← arguments r n f rest
      return (vs ++ args, named)
    | .spreadNamed =>
      let all ← mapping r v fun v => do
        typeError ((← calledName f) ++ " argument after ** must be a mapping, not " ++ (← kindName v))
      let given ← all.mapM fun (k, v) => do
        match ← core k with
        | .text s => return (s, v)
        | _ => typeError "keywords must be strings"
      let (args, named) ← arguments r n f rest
      match given.find? fun (s, _) => (named.lookup s).isSome with
      | some (s, _) => repeated s
      | none => return (args, given ++ named)

def defaults (r : Running) : Nat → List (String × Taking × Option Expr) → Eval (List (String × Taking × Option Value))
  | 0, _ => return []
  | n + 1, params => params.mapM fun (s, taking, default) => do
    match default with
    | some e => return (s, taking, some (← eval r n e))
    | none => return (s, taking, none)

def gathering (r : Running) : Nat → Bool → Expr → List (Expr × Expr × List Expr) → Eval Nat
  | 0, _, _, _ => return 0
  | n + 1, isStream, item, clauses => do
    let source ← match clauses with
      | (_, e, _) :: _ => do r.cursor (← eval r n e)
      | [] => newStream (.items [])
    let scope ← newScope {
      parent := some (← scopeAround)
      own := clauses.flatMap fun (target, _, _) => Reader.targetNames target
      lead := (← scopeAt (← get).scope).lead ++ (if isStream then "<genexpr>" else "<listcomp>") ++ ".<locals>." }
    newStream (.gathered item clauses [source] scope isStream)

end

mutual

def assignTo (r : Running) : Nat → Expr → Value → Eval Unit
  | 0, _, _ => pure ()
  | n + 1, target, v => do
    match target with
    | .name s => assignName s v
    | .member e name =>
      let w ← eval r n e
      Members.set r w (← mangled name) v
    | .item e index =>
      let w ← eval r n e
      let i ← eval r n index
      Operations.setItem r w i v
    | .tuple targets | .list targets =>
      let isSpread (e : Expr) : Bool := match e with
        | .spread _ => true
        | _ => false
      let refuse (v : Value) : Eval (List Value) := do
        typeError ("cannot unpack non-iterable " ++ (← kindName v) ++ " object")
      let items ← if targets.any isSpread then itemsOf r v refuse
        else do
          match ← Operations.heldItems? v with
          | some items => pure items
          | none =>
            match ← r.cursor? v with
            | some id => collect (r.next id) (targets.length + 1) #[]
            | none => refuse v
      assignAll r n targets items
    | _ => pure ()

def assignAll (r : Running) : Nat → List Expr → List Value → Eval Unit
  | 0, _, _ => pure ()
  | n + 1, targets, items => do
    let isSpread (e : Expr) : Bool := match e with
      | .spread _ => true
      | _ => false
    let before := targets.takeWhile fun e => !isSpread e
    match targets.drop before.length with
    | .spread e :: after =>
      let least := before.length + after.length
      if items.length < least then
        valueError ("not enough values to unpack (expected at least " ++ toString least ++ ", got " ++
          toString items.length ++ ")")
      let count := items.length - least
      assignPairs r n before items
      assignTo r n e (← newList ((items.drop before.length).take count))
      assignPairs r n after (items.drop (before.length + count))
    | _ =>
      if items.length < targets.length then
        valueError ("not enough values to unpack (expected " ++ toString targets.length ++ ", got " ++
          toString items.length ++ ")")
      if targets.length < items.length then
        valueError ("too many values to unpack (expected " ++ toString targets.length ++ ")")
      assignPairs r n targets items

def assignPairs (r : Running) : Nat → List Expr → List Value → Eval Unit
  | 0, _, _ => pure ()
  | n + 1, target :: targets, v :: vs => do
    assignTo r n target v
    assignPairs r n targets vs
  | _, _, _ => pure ()

end

def deleteFrom (r : Running) : Nat → Expr → Eval Unit
  | 0, _ => pure ()
  | n + 1, target => do
    match target with
    | .name s => removeName s
    | .member e name =>
      let v ← eval r n e
      Members.remove r v (← mangled name)
    | .item e index =>
      let v ← eval r n e
      Operations.removeItem r v (← eval r n index)
    | .tuple targets | .list targets => targets.forM (deleteFrom r n)
    | _ => pure ()

def maxNesting : Nat := 1000000000

def evaluate (r : Running) (e : Expr) : Eval Value := eval r maxNesting e

def put (r : Running) (target : Expr) (v : Value) : Eval Unit := assignTo r maxNesting target v

end PartitionTest.Shell.Objects.Expressions
