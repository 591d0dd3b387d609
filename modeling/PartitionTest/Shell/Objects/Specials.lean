import PartitionTest.Shell.Objects.Modules

/-! What operators and the language itself ask of values that are always there,
under the names that these questions have. -/
namespace PartitionTest.Shell.Objects.Specials

open Memory Shown

def common : List String := [
  "__repr__", "__str__", "__eq__", "__ne__", "__lt__", "__le__", "__gt__", "__ge__", "__hash__", "__format__",
  "__init__", "__new__", "__setattr__", "__getattribute__", "__delattr__", "__dir__", "__sizeof__", "__reduce__",
  "__reduce_ex__", "__getstate__", "__init_subclass__", "__subclasshook__"]

/-- Names of operators, as asked of the first value and of the second one. -/
def operators (all : List Arithmetic) : List String :=
  all.flatMap fun op => ["__" ++ Operations.operatorName op ++ "__", "__r" ++ Operations.operatorName op ++ "__"]

def ownNames (kind : String) : List String :=
  let held := ["__len__", "__contains__", "__iter__"]
  let sequence := held ++ ["__getitem__", "__add__", "__mul__", "__rmul__"]
  let number := operators [.add, .subtract, .multiply, .divide, .quotient, .remainder, .power] ++
    ["__bool__", "__int__", "__float__", "__abs__", "__neg__", "__pos__", "__divmod__", "__rdivmod__"]
  let whole := ["__round__", "__floor__", "__ceil__", "__trunc__"]
  let sets := operators [.bitAnd, .bitOr, .bitXor, .subtract]
  match kind with
  | "str" | "bytes" => sequence ++ ["__mod__", "__rmod__"]
  | "tuple" => sequence
  | "range" => held ++ ["__getitem__", "__reversed__", "__bool__"]
  | "list" => sequence ++ ["__setitem__", "__delitem__", "__iadd__", "__imul__", "__reversed__"]
  | "dict" => held ++ ["__getitem__", "__setitem__", "__delitem__", "__or__", "__ror__", "__ior__", "__reversed__"]
  | "set" => held ++ sets ++ ["__iand__", "__ior__", "__ixor__", "__isub__"]
  | "frozenset" | "dict_keys" | "dict_items" => held ++ sets
  | "dict_values" => ["__len__", "__iter__"]
  | "int" | "bool" => number ++ whole ++ operators [.shiftLeft, .shiftRight, .bitAnd, .bitOr, .bitXor] ++
      ["__invert__", "__index__"]
  | "float" | "fractions.Fraction" | "Fraction" | "decimal.Decimal" => number ++ whole
  | "complex" => number
  | "NoneType" => ["__bool__"]
  | "function" | "method" | "builtin_function_or_method" => ["__call__", "__get__"]
  | "type" | "functools._lru_cache_wrapper" => ["__call__"]
  | "property" | "classmethod" | "staticmethod" => ["__get__"]
  | "_io.TextIOWrapper" | "_io.BufferedReader" => ["__enter__", "__exit__", "__iter__", "__next__"]
  | "generator" | "map" | "filter" | "zip" | "enumerate" | "reversed" => ["__iter__", "__next__"]
  | k => if k.endsWith "iterator" then ["__iter__", "__next__"] else []

def names (v : Value) : Eval (List String) := do return ownNames (← kindName v)

def relations : List (String × Relation) := [
  ("__eq__", .equal), ("__ne__", .unequal), ("__lt__", .less), ("__le__", .lessEqual), ("__gt__", .greater),
  ("__ge__", .greaterEqual)]

def allOperators : List Arithmetic := [
  .add, .subtract, .multiply, .matrix, .divide, .quotient, .remainder, .power, .shiftLeft, .shiftRight, .bitAnd,
  .bitOr, .bitXor]

def operated? (r : Running) (v : Value) (name : String) (args : List Value) : Eval (Option Value) := do
  let w := args.headD .nothing
  let called? (lead : String) : Option Arithmetic :=
    allOperators.find? fun op => name == lead ++ Operations.operatorName op ++ "__"
  let answer (body : Eval Value) : Eval (Option Value) := do
    try some <$> body
    catch
      | .raised e =>
        match e.value, v with
        | .error "TypeError" _, .text _ | .error "TypeError" _, .bytes _ | .error "TypeError" _, .tuple _
        | .error "TypeError" _, .list _ => throw (.raised e)
        | .error "TypeError" _, _ => return some .declined
        | _, _ => throw (.raised e)
      | l => throw l
  match called? "__", called? "__r", called? "__i" with
  | some op, _, _ => answer (Operations.plainArith r op false v w)
  | none, some op, _ => answer (Operations.plainArith r op false w v)
  | none, none, some op => answer (Operations.plainArith r op true v w)
  | none, none, none => return none

def areComparable (v w : Value) : Eval Bool := do
  match v.num?, w.num? with
  | some _, some _ => return true
  | _, _ =>
    let a ← kindName v
    let b ← kindName w
    let sets := ["set", "frozenset", "dict_keys", "dict_items"]
    return a == b || (sets.contains a && sets.contains b)

def related (r : Running) (rel : Relation) (v w : Value) : Eval Value := do
  let w ← core w
  match rel with
  | .equal | .unequal =>
    if Operations.same v w then return .bool (rel = .equal)
    else if ← areComparable v w then
      let isEqual ← Operations.equal r Operations.maxDepth v w
      return .bool (isEqual == (rel = .equal))
    else return .declined
  | rel =>
    if ← areComparable v w then
      try .bool <$> Operations.related r rel v w
      catch
        | .raised e => match e.value with
          | .error "TypeError" _ => return .declined
          | _ => throw (.raised e)
        | l => throw l
    else return .declined

def call? (r : Running) (v : Value) (name : String) (args : List Value) : Eval (Option Value) := do
  let arg (i : Nat) : Value := (args[i]?).getD .nothing
  match name with
  | "__len__" => some <$> Builtins.length r v
  | "__getitem__" => some <$> Operations.plainItem r v (arg 0)
  | "__setitem__" =>
    Operations.setItem r v (arg 0) (arg 1)
    return some .nothing
  | "__delitem__" =>
    Operations.removeItem r v (arg 0)
    return some .nothing
  | "__contains__" => return (← Operations.contains? r (arg 0) v).map .bool
  | "__iter__" => return some (.stream (← r.cursor v))
  | "__next__" => some <$> Builtins.function r "next" [v] []
  | "__reversed__" => some <$> Making.reversed r v
  | "__bool__" => return some (.bool (← Operations.truth r v))
  | "__repr__" => return some (.text (← shown r.own Shown.maxDepth v))
  | "__str__" => return some (.text (← plain r.own v))
  | "__format__" => some <$> Builtins.function r "format" (v :: args) []
  | "__hash__" => some <$> Builtins.hashed r v
  | "__int__" | "__trunc__" => some <$> Making.int r [v] []
  | "__index__" => return v.whole?.map .int
  | "__float__" => some <$> Making.float r [v]
  | "__abs__" => some <$> Builtins.absolute r v
  | "__round__" => some <$> Builtins.rounded r (v :: args) []
  | "__floor__" => some <$> Mathematics.function r "floor" [v] []
  | "__ceil__" => some <$> Mathematics.function r "ceil" [v] []
  | "__neg__" => some <$> Operations.signed r .minus v
  | "__pos__" => some <$> Operations.signed r .plus v
  | "__invert__" => some <$> Operations.signed r .invert v
  | "__divmod__" => some <$> Builtins.divided r v (arg 0)
  | "__rdivmod__" => some <$> Builtins.divided r (arg 0) v
  | "__sizeof__" => return some (.int 64)
  | "__init__" | "__init_subclass__" => return some .nothing
  | "__subclasshook__" => return some .declined
  | "__enter__" => return some v
  | "__exit__" =>
    if let .channel n _ := v then Channels.close n
    return some .nothing
  | "__get__" =>
    match v, arg 0 with
    | v, .nothing => return some v
    | v, self => return some (boundTo self (arg 1) v)
  | name =>
    match relations.lookup name with
    | some rel => some <$> related r rel v (arg 0)
    | none => operated? r v name args

end PartitionTest.Shell.Objects.Specials
