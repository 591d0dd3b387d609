import PartitionTest.Domain
import PartitionTest.Expr.Eval

/-! Predicates select the members of a class from its domain. -/
namespace PartitionTest

inductive Predicate where
  /-- Both ends belong to it. -/
  | range (min max : Int64)
  | oneOf (values : List Scalar)
  | expr (e : Expr)
deriving Inhabited

namespace Predicate

/-- Whether a value is selected. A predicate for values of another kind errs,
an enumeration on the first value of a kind unlike the one at hand. -/
def holds (p : Predicate) (v : Scalar) : Except EvalError Bool :=
  match p with
  | .range min max =>
    match v with
    | .int n => .ok (min ≤ n && n ≤ max)
    | v => .error (.wrongKind .int v)
  | .oneOf values =>
    match values.find? (·.kind != v.kind) with
    | some bad => .error (.wrongKind v.kind bad)
    | none => .ok (values.contains v)
  | .expr e => do (← e.eval v).asBool

def toJson : Predicate → Json.Value
  | .range min max =>
    .object [("kind", .string "range"), ("min", .int min.toInt), ("max", .int max.toInt)]
  | .oneOf values => .object [("kind", .string "one_of"), ("values", .list Scalar.toJson values)]
  | .expr e => .object [("kind", .string "expr"), ("expr", e.toJson)]

open Json in
def decoder : Decoder Predicate :=
  .tagged "Predicate" "kind" [
    ("range", Record.decoder "struct variant Predicate::Range"
      (Predicate.range <$> Record.required "min" Decoder.int64 <*>
        Record.required "max" Decoder.int64)),
    ("one_of", Record.decoder "struct variant Predicate::OneOf"
      (Predicate.oneOf <$> Record.required "values" (Decoder.list Scalar.decoder))),
    ("expr", Record.decoder "struct variant Predicate::Expr"
      (Predicate.expr <$> Record.required "expr" Expr.decoder))]

end Predicate

end PartitionTest
