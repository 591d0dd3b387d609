import PartitionTest.Shell.Objects.Kinds

/-! What operators do with values: those that are always there, and those of the
script's own kinds, which say so themselves. -/
namespace PartitionTest.Shell.Objects.Operations

open Memory Shown

def rangeLength (start stop step : Int) : Nat :=
  (if 0 < step then (stop - start + step - 1) / step else (start - stop - step - 1) / (-step)).toNat

def rangeItems (start stop step : Int) : List Value :=
  (List.range (rangeLength start stop step)).map fun (i : Nat) => .int (start + step * i)

def index? (r : Running) (v : Value) : Eval (Option Int) := do
  match v.whole?, v with
  | some n, _ => return some n
  | none, .object _ =>
    match ← r.special? v "__index__" [] with
    | some w => return w.whole?
    | none => return (← core v).whole?
  | none, _ => return none

def intArgument (r : Running) (v : Value) : Eval Int := do
  match ← index? r v with
  | some n => return n
  | none => typeError ("'" ++ (← kindName v) ++ "' object cannot be interpreted as an integer")

def num? (v : Value) : Eval (Option Numbers.Num) := do return (← core v).num?

def length? (r : Running) (v : Value) : Eval (Option Nat) := do
  match ← core v with
  | .text s | .bytes s => return some s.length
  | .tuple vs => return some vs.length
  | .list id => return some (← listAt id).size
  | .dict id | .set id | .frozen id | .view id _ => return some (← dictAt id).size
  | .range a b c => return some (rangeLength a b c)
  | _ =>
    let _ := r
    return none

def truth (r : Running) (v : Value) : Eval Bool := do
  let plain (v : Value) : Eval Bool := do
    match v with
    | .nothing => return false
    | .bool b => return b
    | .int n => return n != 0
    | .float x => return x != 0.0
    | .complex x y => return x != 0.0 || y != 0.0
    | .fraction n _ => return n != 0
    | .decimal d => return !d.isZero
    | v => return ((← length? r v).map (· != 0)).getD true
  match v with
  | .object _ | .ownKind _ =>
    match ← r.special? v "__bool__" [] with
    | some (.bool b) => return b
    | some w => typeError ("__bool__ should return bool, returned " ++ (← kindName w))
    | none =>
      match ← r.special? v "__len__" [] with
      | some w => return (w.whole?.map (· != 0)).getD true
      | none => plain (← core v)
  | v => plain v

def same (a b : Value) : Bool :=
  match a, b with
  | .bool x, .bool y => x == y
  | .bool _, _ | _, .bool _ => false
  | .int _, .int _ => a.identity == b.identity
  | .float x, .float y => x.toBits == y.toBits
  | .int _, _ | _, .int _ | .float _, _ | _, .float _ => false
  | .complex _ _, .complex _ _ | .fraction _ _, .fraction _ _ | .decimal _, .decimal _ => a.identity == b.identity
  | .complex _ _, _ | _, .complex _ _ | .fraction _ _, _ | _, .fraction _ _ | .decimal _, _ | _, .decimal _ => false
  | a, b => a.identity == b.identity

def asSet? (r : Running) (v : Value) : Eval (Option Dict) := do
  match v with
  | .set id | .frozen id | .view id .keys => return some (← dictAt id)
  | .view id .entries =>
    return some (← setOf r ((← dictAt id).all.map fun (k, v) => .tuple [k, v]))
  | _ => return none

/-- Whether the second value's kind is part of the first one's, but another one. -/
def isMoreSpecial (a b : Value) : Eval Bool := do
  let x ← Kinds.of a
  let y ← Kinds.of b
  if Kinds.isSame x y then return false else Kinds.isPartOf y x

/-- What the values themselves say about a relation: the first one, or the second
one with the relation turned around. -/
def asked (r : Running) (a b : Value) (name turned : String) : Eval (Option Value) := do
  let first : Eval (Option Value) := do
    match ← r.special? a name [b] with
    | some .declined => return none
    | w => return w
  let second : Eval (Option Value) := do
    match ← r.special? b turned [a] with
    | some .declined => return none
    | w => return w
  match a, b with
  | .object _, _ | _, .object _ | .ownKind _, _ | _, .ownKind _ =>
    if ← isMoreSpecial a b then
      match ← second with
      | some w => return some w
      | none => first
    else
      match ← first with
      | some w => return some w
      | none => second
  | _, _ => return none

mutual

def equal (r : Running) : Nat → Value → Value → Eval Bool
  | 0, _, _ => return false
  | n + 1, a, b => do
    if let some w ← asked r a b "__eq__" "__eq__" then
      return ← truth r w
    match ← core a, ← core b with
    | .list x, .list y =>
      if x = y then return true else allEqual r n (← listAt x).toList (← listAt y).toList
    | .tuple xs, .tuple ys => allEqual r n xs ys
    | .range a b c, .range x y z =>
      let size := rangeLength a b c
      return size == rangeLength x y z && (size = 0 || (a == x && (size = 1 || c == z)))
    | .slice a b c, .slice x y z => allEqual r n [a, b, c] [x, y, z]
    | .dict x, .dict y =>
      let d ← dictAt x
      let e ← dictAt y
      if d.size != e.size then return false
      d.all.allM fun (k, v) => do
        match e.get? (← keyIn r e k) with
        | some w => alike r n v w
        | none => return false
    | .view x .values, .view y .values => return x == y
    | a, b =>
      match ← asSet? r a, ← asSet? r b with
      | some d, some e => return d.size == e.size && d.keyed.all fun (k, _) => e.has k
      | _, _ =>
        match a.num?, b.num? with
        | some x, some y => return Numbers.order? x y == some .eq
        | some _, none | none, some _ => return false
        | none, none => return a.identity == b.identity

def alike (r : Running) : Nat → Value → Value → Eval Bool
  | 0, _, _ => return false
  | n + 1, a, b => do if same a b then return true else equal r n a b

def allEqual (r : Running) : Nat → List Value → List Value → Eval Bool
  | 0, _, _ => return false
  | _, [], [] => return true
  | n + 1, a :: as, b :: bs => do
    if as.length != bs.length then return false
    else if ← alike r n a b then allEqual r (n + 1) as bs
    else return false
  | _, _, _ => return false

end

def maxDepth : Nat := 1000

/-- Whether a value is equal to another one where items are looked for. -/
def matchesItem (r : Running) (a b : Value) : Eval Bool := alike r maxDepth a b

def relationSign : Relation → String
  | .less => "<"
  | .lessEqual => "<="
  | .greater => ">"
  | .greaterEqual => ">="
  | _ => "=="

/-- Names under which values have relations, and those of the relations turned around. -/
def relationNames : Relation → String × String
  | .less => ("__lt__", "__gt__")
  | .lessEqual => ("__le__", "__ge__")
  | .greater => ("__gt__", "__lt__")
  | .greaterEqual => ("__ge__", "__le__")
  | .unequal => ("__ne__", "__ne__")
  | _ => ("__eq__", "__eq__")

def holds (r : Relation) (o : Ordering) : Bool :=
  match r with
  | .less => o == .lt
  | .lessEqual => o != .gt
  | .greater => o == .gt
  | .greaterEqual => o != .lt
  | _ => false

def textOrder (a b : String) : Ordering := compare (a.toList.map Char.toNat) (b.toList.map Char.toNat)

mutual

def compared (r : Running) (rel : Relation) : Nat → Value → Value → Eval Value
  | 0, _, _ => return .bool false
  | n + 1, a, b => do
    let (name, turned) := relationNames rel
    if let some w ← asked r a b name turned then return w
    let unordered : Eval Value := do
      typeError ("'" ++ relationSign rel ++ "' not supported between instances of '" ++
        (← kindName a) ++ "' and '" ++ (← kindName b) ++ "'")
    match ← core a, ← core b with
    | .text s, .text t | .bytes s, .bytes t => return .bool (holds rel (textOrder s t))
    | .tuple xs, .tuple ys => .bool <$> allRelated r rel n xs ys
    | .list x, .list y => .bool <$> allRelated r rel n (← listAt x).toList (← listAt y).toList
    | x, y =>
      match x.num?, y.num? with
      | some (.complex _ _), some _ | some _, some (.complex _ _) => unordered
      | some x, some y =>
        if let .decimal d := x then
          if d.isNan then raise (.error "decimal.InvalidOperation" [.text "[<class 'decimal.InvalidOperation'>]"])
        return .bool (((Numbers.order? x y).map (holds rel)).getD false)
      | _, _ =>
        match ← asSet? r x, ← asSet? r y with
        | some d, some e =>
          let within (d e : Dict) : Bool := d.keyed.all fun (k, _) => e.has k
          return .bool (match rel with
            | .less => within d e && d.size != e.size
            | .lessEqual => within d e
            | .greater => within e d && d.size != e.size
            | _ => within e d)
        | _, _ => unordered

def allRelated (r : Running) (rel : Relation) : Nat → List Value → List Value → Eval Bool
  | 0, _, _ => return false
  | n + 1, a :: as, b :: bs => do
    if ← matchesItem r a b then allRelated r rel (n + 1) as bs else truth r (← compared r rel n a b)
  | _, as, bs => return holds rel (compare as.length bs.length)

end

def related (r : Running) (rel : Relation) (a b : Value) : Eval Bool := do
  truth r (← compared r rel maxDepth a b)

def heldItems? (v : Value) : Eval (Option (List Value)) := do
  let v ← match v with
    | .object _ => do
      match ← special? v "__iter__" with
      | some _ => pure Value.nothing
      | none => core v
    | v => pure v
  match v with
  | .tuple items => return some items
  | .list id => return some (← listAt id).toList
  | .text s => return some (s.toList.map fun c => .text (String.singleton c))
  | .bytes s => return some (s.toList.map fun c => .int c.toNat)
  | .range a b c => return some (rangeItems a b c)
  | .set id | .frozen id => return some (Sets.items (← dictAt id))
  | .dict id => return some (← dictAt id).firsts
  | .view id side => return some ((← dictAt id).all.map fun (k, v) => match side with
      | .keys => k
      | .values => v
      | .entries => .tuple [k, v])
  | _ => return none

structure Bounds where
  start : Int
  stop : Int
  step : Int

/-- Bounds that are missing or lie outside are those of the whole. -/
def bounds (start stop step : Option Int) (length : Nat) : Eval Bounds := do
  let step := step.getD 1
  if step = 0 then valueError "slice step cannot be zero"
  let n : Int := length
  let clip (low high : Int) (i : Int) : Int :=
    let i := if i < 0 then i + n else i
    max low (min high i)
  if 0 < step then
    return ⟨(start.map (clip 0 n)).getD 0, (stop.map (clip 0 n)).getD n, step⟩
  else
    return ⟨(start.map (clip (-1) (n - 1))).getD (n - 1), (stop.map (clip (-1) (n - 1))).getD (-1), step⟩

def Bounds.places (b : Bounds) : List Nat :=
  (rangeItems b.start b.stop b.step).filterMap fun v => v.whole?.map Int.toNat

def place (what : String) (i : Int) (length : Nat) : Eval Nat := do
  let k := if i < 0 then i + length else i
  if k < 0 || (length : Int) ≤ k then fail "IndexError" (what ++ " index out of range")
  return k.toNat

def boundOf (r : Running) (v : Value) : Eval (Option Int) := do
  match v with
  | .nothing => return none
  | v =>
    match ← index? r v with
    | some n => return some n
    | none => typeError "slice indices must be integers or None or have an __index__ method"

def boundsOf (r : Running) (a b c : Value) (length : Nat) : Eval Bounds := do
  bounds (← boundOf r a) (← boundOf r b) (← boundOf r c) length

def notIndexed (v : Value) : Eval α := do
  typeError ("'" ++ (← kindName v) ++ "' object is not subscriptable")

def slice (r : Running) (v a b c : Value) : Eval Value := do
  let pick {α : Type} (items : List α) : Eval (List α) := do
    let all := items.toArray
    return (← boundsOf r a b c all.size).places.filterMap fun i => all[i]?
  match v with
  | .text s => return .text (String.ofList (← pick s.toList))
  | .bytes s => return .bytes (String.ofList (← pick s.toList))
  | .tuple items => return .tuple (← pick items)
  | .list id => newList (← pick (← listAt id).toList)
  | .range x y z =>
    let bs ← boundsOf r a b c (rangeLength x y z)
    return .range (x + z * bs.start) (x + z * bs.stop) (z * bs.step)
  | .dict _ => unhashable "slice"
  | v => notIndexed v

def plainItem (r : Running) (v index : Value) : Eval Value := do
  let among (what : String) (size : Nat) (get : Nat → Value) : Eval Value := do
    match ← index? r index with
    | some i => return get (← place what i size)
    | none =>
      let given ← kindName index
      if what == "string" then typeError ("string indices must be integers, not '" ++ given ++ "'")
      else typeError ((← kindName v) ++ " indices must be integers or slices, not " ++ given)
  match v, index with
  | v, .slice a b c => slice r v a b c
  | .text s, _ =>
    let cs := s.toList.toArray
    among "string" cs.size fun i => .text (((cs[i]?).map String.singleton).getD "")
  | .bytes s, _ =>
    let cs := s.toList.toArray
    among "index" cs.size fun i => .int ((cs[i]?).getD '\x00').toNat
  | .tuple items, _ => among "tuple" items.length fun i => (items[i]?).getD .nothing
  | .list id, _ =>
    let items ← listAt id
    among "list" items.size fun i => (items[i]?).getD .nothing
  | .range a b c, _ => among "range object" (rangeLength a b c) fun i => .int (a + c * i)
  | .dict id, _ =>
    let d ← dictAt id
    match d.get? (← keyIn r d index) with
    | some v => return v
    | none => raise (.error "KeyError" [index])
  | v, _ => notIndexed v

def item (r : Running) (v index : Value) : Eval Value := do
  match v with
  | .object _ | .ownKind _ =>
    match ← r.special? v "__getitem__" [index] with
    | some w => return w
    | none =>
      match ← core v, v with
      | .dict id, _ =>
        let d ← dictAt id
        match d.get? (← keyIn r d index) with
        | some w => return w
        | none =>
          match ← r.special? v "__missing__" [index] with
          | some w => return w
          | none => raise (.error "KeyError" [index])
      | .object _, v => notIndexed v
      | .ownKind k, v =>
        match ← kindMember? k "__class_getitem__" with
        | some f => r.call (boundTo v v f) [index] []
        | none => typeError ("type '" ++ (← kindAt k).name ++ "' is not subscriptable")
      | w, _ => plainItem r w index
  | v => plainItem r v index

def notSettable (v : Value) : Eval α := do
  typeError ("'" ++ (← kindName v) ++ "' object does not support item assignment")

def setItem (r : Running) (v index new : Value) : Eval Unit := do
  if let some _ ← r.special? v "__setitem__" [index, new] then return
  match ← core v, index with
  | .list id, .slice a b c =>
    let new ← try r.items new catch _ => typeError "can only assign an iterable"
    let all ← listAt id
    let bs ← boundsOf r a b c all.size
    if bs.step = 1 then
      let low := bs.start.toNat
      let high := (max bs.start bs.stop).toNat
      changeList id fun all => all.take low ++ new.toArray ++ all.drop high
    else
      let places := bs.places
      if places.length != new.length then
        valueError ("attempt to assign sequence of size " ++ toString new.length ++ " to extended slice of size " ++
          toString places.length)
      changeList id fun all => (places.zip new).foldl (fun all (i, v) => all.setIfInBounds i v) all
  | .list id, index =>
    match ← index? r index with
    | some i =>
      let k ← place "list assignment" i (← listAt id).size
      changeList id (·.setIfInBounds k new)
    | none => typeError ("list indices must be integers or slices, not " ++ (← kindName index))
  | .dict id, index =>
    let k ← keyIn r (← dictAt id) index
    changeDict id (·.set k index new)
  | _, _ => notSettable v

def removeItem (r : Running) (v index : Value) : Eval Unit := do
  if let some _ ← r.special? v "__delitem__" [index] then return
  match ← core v, index with
  | .list id, .slice a b c =>
    let all ← listAt id
    let places := (← boundsOf r a b c all.size).places
    let rest := (all.toList.mapIdx fun i w => (i, w)).filter fun (i, _) => !places.contains i
    changeList id fun _ => (rest.map (·.2)).toArray
  | .list id, index =>
    match ← index? r index with
    | some i =>
      let k ← place "list assignment" i (← listAt id).size
      changeList id (·.eraseIdxIfInBounds k)
    | none => typeError ("list indices must be integers or slices, not " ++ (← kindName index))
  | .dict id, index =>
    let d ← dictAt id
    let k ← keyIn r d index
    if !d.has k then raise (.error "KeyError" [index])
    changeDict id (·.remove k)
  | _, _ => typeError ("'" ++ (← kindName v) ++ "' object doesn't support item deletion")

def isPart (part whole : List Char) : Bool :=
  part.isPrefixOf whole || match whole with
  | [] => false
  | _ :: rest => isPart part rest

def contains? (r : Running) (v whole : Value) : Eval (Option Bool) := do
  if let some w ← r.special? whole "__contains__" [v] then
    return some (← truth r w)
  if let some _ ← special? whole "__iter__" then return none
  match ← core v, ← core whole with
  | .text s, .text t => return some (isPart s.toList t.toList)
  | v, .text _ =>
    typeError ("'in <string>' requires string as left operand, not " ++ (← kindName v))
  | .bytes s, .bytes t => return some (isPart s.toList t.toList)
  | .int n, .bytes t =>
    if n < 0 || 256 ≤ n then valueError "byte must be in range(0, 256)"
    return some (t.toList.any fun c => c.toNat = n.toNat)
  | v, .bytes _ => typeError ("a bytes-like object is required, not '" ++ (← kindName v) ++ "'")
  | .int n, .range a b c =>
    let isBetween := if 0 < c then a ≤ n && n < b else n ≤ a && b < n
    return some (isBetween && (n - a) % c == 0)
  | _, .dict id | _, .set id | _, .frozen id | _, .view id .keys =>
    let d ← dictAt id
    match v with
    | .set s => return some (d.has (← keyOf r (.frozen s)))
    | v => return some (d.has (← keyIn r d v))
  | .tuple [k, x], .view id .entries =>
    let d ← dictAt id
    match d.get? (← keyIn r d k) with
    | some w => return some (← matchesItem r x w)
    | none => return some false
  | _, whole =>
    match ← heldItems? whole with
    | some items => return some (← items.anyM fun w => matchesItem r v w)
    | none => return none

def maxItems : Nat := 1000000000

def isAmong (r : Running) (v : Value) (stream : Nat) : Nat → Eval Bool
  | 0 => return false
  | n + 1 => do
    match ← r.next stream with
    | none => return false
    | some w => if ← matchesItem r w v then return true else isAmong r v stream n

def isIn (r : Running) (v whole : Value) : Eval Bool := do
  match ← contains? r v whole with
  | some b => return b
  | none =>
    let isIterable ← match whole with
      | .stream _ | .channel _ _ => pure true
      | w => do pure ((← special? w "__iter__").isSome || (← special? w "__getitem__").isSome)
    if !isIterable then typeError ("argument of type '" ++ (← kindName whole) ++ "' is not iterable")
    isAmong r v (← r.cursor whole) maxItems

def relation (r : Running) (rel : Relation) (a b : Value) : Eval Value := do
  let isEqual : Eval Value := do
    match ← asked r a b "__eq__" "__eq__" with
    | some w => return w
    | none =>
      match ← core a, ← core b with
      | .object x, .object y => return .bool (x = y)
      | .object _, _ | _, .object _ => return .bool false
      | x, y => .bool <$> equal r maxDepth x y
  match rel with
  | .same => return .bool (same a b)
  | .notSame => return .bool !(same a b)
  | .isIn => .bool <$> isIn r a b
  | .notIn => return .bool !(← isIn r a b)
  | .equal => isEqual
  | .unequal =>
    match ← asked r a b "__ne__" "__ne__" with
    | some w => return w
    | none => return .bool !(← truth r (← isEqual))
  | rel => compared r rel maxDepth a b

def sign : Arithmetic → String
  | .add => "+"
  | .subtract => "-"
  | .multiply => "*"
  | .matrix => "@"
  | .divide => "/"
  | .quotient => "//"
  | .remainder => "%"
  | .power => "** or pow()"
  | .shiftLeft => "<<"
  | .shiftRight => ">>"
  | .bitAnd => "&"
  | .bitOr => "|"
  | .bitXor => "^"

def operatorName : Arithmetic → String
  | .add => "add"
  | .subtract => "sub"
  | .multiply => "mul"
  | .matrix => "matmul"
  | .divide => "truediv"
  | .quotient => "floordiv"
  | .remainder => "mod"
  | .power => "pow"
  | .shiftLeft => "lshift"
  | .shiftRight => "rshift"
  | .bitAnd => "and"
  | .bitOr => "or"
  | .bitXor => "xor"

def times (n : Int) (xs : List α) : List α := (List.replicate n.toNat xs).flatten

def unsupported (op : Arithmetic) (changes : Bool) (a b : Value) : Eval α := do
  let shown := if !changes then sign op else if op = .power then "**=" else sign op ++ "="
  typeError ("unsupported operand type(s) for " ++ shown ++ ": '" ++ (← kindName a) ++ "' and '" ++
    (← kindName b) ++ "'")

def setOperation? (op : Arithmetic) (d e : Dict) : Option Dict :=
  match op with
  | .bitOr => some (e.keyed.foldl (fun d (key, k, v) => d.add key k v) d)
  | .bitAnd => some (d.filter e.has)
  | .subtract => some (d.filter (!e.has ·))
  | .bitXor => some ((d.filter (!e.has ·)).union (e.filter (!d.has ·)))
  | _ => none

/-- Whether a value can be one of several kinds that are taken as one. -/
def isTerm : Value → Bool
  | .kind _ | .ownKind _ | .generic _ _ | .either _ | .nothing => true
  | _ => false

def termsOf : Value → List Value
  | .either ks => ks
  | v => [v]

def plainArith (r : Running) (op : Arithmetic) (changes : Bool) (a b : Value) : Eval Value := do
  match op, a, b with
  | .remainder, .text s, v => return .text (← r.percent s v)
  | .remainder, .bytes s, v => return .bytes (← r.percent s v)
  | .add, .text s, .text t => return .text (s ++ t)
  | .add, .bytes s, .bytes t => return .bytes (s ++ t)
  | .add, .tuple xs, .tuple ys => return .tuple (xs ++ ys)
  | .add, .list x, .list y =>
    if changes then
      let ys ← listAt y
      changeList x (· ++ ys)
      return a
    else newList ((← listAt x).toList ++ (← listAt y).toList)
  | .add, .text _, v => typeError ("can only concatenate str (not \"" ++ (← kindName v) ++ "\") to str")
  | .add, .bytes _, v => typeError ("can't concat " ++ (← kindName v) ++ " to bytes")
  | .add, .tuple _, v => typeError ("can only concatenate tuple (not \"" ++ (← kindName v) ++ "\") to tuple")
  | .add, .list x, v =>
    if changes then
      let vs ← r.items v
      changeList x (· ++ vs.toArray)
      return a
    else typeError ("can only concatenate list (not \"" ++ (← kindName v) ++ "\") to list")
  | .bitOr, .dict x, .dict y =>
    let d ← dictAt x
    let e ← dictAt y
    if changes then
      changeDict x fun _ => d.union e
      return a
    else return .dict (← putDict (d.union e))
  | op, a, b =>
    if op = .bitOr && isTerm a && isTerm b && !(a matches .nothing && b matches .nothing) then
      return .either (termsOf a ++ termsOf b |>.foldl (fun ks k => if Kinds.isIn k ks then ks else ks ++ [k]) [])
    let isSet (v : Value) : Bool := match v with
      | .set _ | .frozen _ => true
      | _ => false
    let isView (v : Value) : Bool := match v with
      | .view _ .values => false
      | .view _ _ => true
      | _ => false
    let sets ← if (isSet a && (isSet b || isView b)) || isView a || (isView b && isSet a) then do
        let d ← asSet? r a
        let e ← match ← asSet? r b with
          | some e => pure (some e)
          | none => do if isView a then some <$> (do setOf r (← r.items b)) else pure none
        pure (d.bind fun d => e.bind fun e => setOperation? op d e)
      else pure none
    if let some d := sets then
      match a with
      | .set id =>
        if changes then
          changeDict id fun _ => d
          return a
        else return .set (← putDict d)
      | .frozen _ => return .frozen (← putDict d)
      | _ => return .set (← putDict d)
    let repeated (v : Value) (n : Int) (inPlace : Bool) : Eval (Option Value) := do
      match v with
      | .text s => return some (.text (String.ofList (times n s.toList)))
      | .bytes s => return some (.bytes (String.ofList (times n s.toList)))
      | .tuple xs => return some (.tuple (times n xs))
      | .list id =>
        let all := times n (← listAt id).toList
        if inPlace then
          changeList id fun _ => all.toArray
          return some v
        else some <$> newList all
      | _ => return none
    let isHeld (v : Value) : Bool := match v with
      | .text _ | .bytes _ | .tuple _ | .list _ => true
      | _ => false
    let product ← if op != .multiply then pure none
      else if isHeld a then do
        match ← index? r b with
        | some n => repeated a n changes
        | none => typeError ("can't multiply sequence by non-int of type '" ++ (← kindName b) ++ "'")
      else if isHeld b then do
        match ← index? r a with
        | some n => repeated b n false
        | none => typeError ("can't multiply sequence by non-int of type '" ++ (← kindName a) ++ "'")
      else pure none
    match product, op, a, b with
    | some v, _, _, _ => return v
    | none, .bitAnd, .bool x, .bool y => return .bool (x && y)
    | none, .bitOr, .bool x, .bool y => return .bool (x || y)
    | none, .bitXor, .bool x, .bool y => return .bool (x != y)
    | none, op, a, b =>
      match a.num?, b.num? with
      | some x, some y =>
        match Numbers.operation? (← get).decimals op x y with
        | some result => return .ofNum (← checked result)
        | none => unsupported op changes a b
      | _, _ => unsupported op changes a b

/-- An operator between values; `changes` says that the result takes the place of the first. -/
def arith (r : Running) (op : Arithmetic) (changes : Bool) (a b : Value) : Eval Value := do
  match a, b with
  | .object _, _ | _, .object _ | .ownKind _, _ | _, .ownKind _ =>
    let name := operatorName op
    if changes then
      match ← r.special? a ("__i" ++ name ++ "__") [b] with
      | some .declined | none => pure ()
      | some w => return w
    match ← asked r a b ("__" ++ name ++ "__") ("__r" ++ name ++ "__") with
    | some w => return w
    | none =>
      let x ← core a
      let y ← core b
      match x, y with
      | .object _, .text _ | .object _, _ => unsupported op changes a b
      | .text _, .object _ =>
        if op = .remainder then plainArith r op changes x y
        else if op = .add then plainArith r op changes x b
        else unsupported op changes a b
      | .tuple _, .object _ | .list _, .object _ => plainArith r op changes x b
      | _, .object _ => unsupported op changes a b
      | x, y => plainArith r op changes x y
  | a, b => plainArith r op changes a b

def signed (r : Running) (s : Sign) (v : Value) : Eval Value := do
  let (name, mark) := match s with
    | .plus => ("__pos__", "+")
    | .minus => ("__neg__", "-")
    | .invert => ("__invert__", "~")
  match ← r.special? v name [] with
  | some w => return w
  | none =>
    let c := (← get).decimals
    match s, ← num? v with
    | .plus, some (.decimal d) => return .decimal (← checked (Numbers.ofDecimal (d.plus c)))
    | .plus, some n => return .ofNum n
    | .minus, some (.int n) => return .int (-n)
    | .minus, some (.float x) => return .float (-x)
    | .minus, some (.complex x y) => return .complex (-x) (-y)
    | .minus, some (.fraction n d) => return .fraction (-n) d
    | .minus, some (.decimal d) => return .decimal (← checked (Numbers.ofDecimal (d.negated.plus c)))
    | .invert, some (.int n) => return .int (-n - 1)
    | _, _ => typeError ("bad operand type for unary " ++ mark ++ ": '" ++ (← kindName v) ++ "'")

end PartitionTest.Shell.Objects.Operations
