import PartitionTest.Expr

/-! Evaluation of an expression at a value: left to right, stopping at the
first argument that decides. -/
namespace PartitionTest

inductive EvalError where
  | wrongKind (expected : Kind) (actual : Scalar)
  /-- Order is defined between two integers or two characters. -/
  | unordered (left right : Scalar)
  | wrongCount (op : Op) (takes got : Nat)
deriving DecidableEq

def EvalError.message : EvalError → String
  | .wrongKind expected actual =>
    "Type error: expected " ++ expected.name ++ ", got " ++ actual.kind.name ++
      " (" ++ actual.text ++ ")"
  | .unordered left right =>
    "Type error: expected matching int or char operands, got " ++ left.spelled ++ ", " ++
      right.spelled
  | .wrongCount op takes got =>
    "Malformed expression: " ++ op.title ++ " takes " ++ toString takes ++
      " argument(s), got " ++ toString got

namespace Scalar

def asBool : Scalar → Except EvalError Bool
  | .bool b => .ok b
  | s => .error (.wrongKind .bool s)

def order (left right : Scalar) : Except EvalError Ordering :=
  match left, right with
  | .int a, .int b => .ok (compare a b)
  | .char a, .char b => .ok (compare a b)
  | _, _ => .error (.unordered left right)

def same (left right : Scalar) : Except EvalError Bool :=
  if left.kind = right.kind then .ok (left == right)
  else .error (.wrongKind left.kind right)

end Scalar

/-- What a binary operator says of two evaluated arguments. The connectives
are not among these, since they look at one argument at a time. -/
def Op.relation? : Op → Option (Scalar → Scalar → Except EvalError Bool)
  | .eq => some Scalar.same
  | .neq => some fun a b => (a.same b).map (!·)
  | .lt => some fun a b => (a.order b).map (·.isLT)
  | .lte => some fun a b => (a.order b).map (·.isLE)
  | .gt => some fun a b => (a.order b).map (·.isGT)
  | .gte => some fun a b => (a.order b).map (·.isGE)
  | .and | .or | .not | .implies => none

namespace Expr

mutual

def eval (v : Scalar) : Expr → Except EvalError Scalar
  | .literal s => .ok s
  | .value => .ok v
  | .apply .and args => do return .bool (← evalAnd v args)
  | .apply .or args => do return .bool (← evalOr v args)
  | .apply .not [a] => do return .bool (!(← (← eval v a).asBool))
  | .apply .implies [a, b] => do
    if ← (← eval v a).asBool then
      return .bool (← (← eval v b).asBool)
    else return .bool true
  | .apply op args =>
    match op.relation?, args with
    | some relation, [a, b] => do
      let left ← eval v a
      let right ← eval v b
      return .bool (← relation left right)
    | _, _ => .error (.wrongCount op (op.arity.getD 0) args.length)

def evalAnd (v : Scalar) : List Expr → Except EvalError Bool
  | [] => .ok true
  | e :: es => do
    if ← (← eval v e).asBool then evalAnd v es else return false

def evalOr (v : Scalar) : List Expr → Except EvalError Bool
  | [] => .ok false
  | e :: es => do
    if ← (← eval v e).asBool then return true else evalOr v es

end

end Expr

end PartitionTest
