import PartitionTest.Scalar

/-! Expressions over one value. They are written as arrays that start with an
operator, and shown in a form of their own. -/
namespace PartitionTest

inductive Op where
  | eq
  | neq
  | and
  | or
  | not
  | implies
  | lt
  | lte
  | gt
  | gte
deriving DecidableEq, Repr, Inhabited

namespace Op

def name : Op → String
  | .eq => "eq"
  | .neq => "neq"
  | .and => "and"
  | .or => "or"
  | .not => "not"
  | .implies => "implies"
  | .lt => "lt"
  | .lte => "lte"
  | .gt => "gt"
  | .gte => "gte"

def title : Op → String
  | .eq => "Eq"
  | .neq => "Neq"
  | .and => "And"
  | .or => "Or"
  | .not => "Not"
  | .implies => "Implies"
  | .lt => "Lt"
  | .lte => "Lte"
  | .gt => "Gt"
  | .gte => "Gte"

def all : List Op := [.eq, .neq, .and, .or, .not, .implies, .lt, .lte, .gt, .gte]

def ofName? (name : String) : Option Op :=
  all.find? (·.name == name)

/-- How many arguments an operator takes; conjunction and disjunction take any
number. -/
def arity : Op → Option Nat
  | .and | .or => none
  | .not => some 1
  | _ => some 2

def decoder : Json.Decoder Op :=
  .choice (all.map fun op => (op.name, op))

end Op

inductive Expr where
  | literal (s : Scalar)
  /-- The value under test. -/
  | value
  | apply (op : Op) (args : List Expr)
deriving Inhabited

namespace Expr

mutual

def toJson : Expr → Json.Value
  | .literal s => .object [("Literal", s.toJson)]
  | .value => .string "Value"
  | .apply op args =>
    .object [("Op", .object [("op", .string op.name), ("args", .array (toJsonList args))])]

def toJsonList : List Expr → List Json.Value
  | [] => []
  | e :: es => e.toJson :: toJsonList es

end

def literalDecoder : Json.Decoder Scalar :=
  Scalar.decoderAs "Literal"

inductive ReadError where
  | number (n : Json.Number)
  | string (s : String)
  | emptyArray
  | operatorNotString (v : Json.Value)
  | valueWithArguments (count : Nat)
  | unknownOperator (name : String)
  | wrongCount (op : Op) (count : Nat)
  | unsupported (v : Json.Value)
deriving Inhabited

def ReadError.message : ReadError → String
  | .number n => "unsupported number: " ++ String.ofList n.chars
  | .string s => "string literal must be a single character, got " ++ Text.quote s
  | .emptyArray => "empty expression array"
  | .operatorNotString v =>
    "first element of expression array must be a string, got: " ++ v.spelled
  | .valueWithArguments count =>
    "value expression takes no arguments, got " ++ toString count
  | .unknownOperator name => "unknown expression operator: " ++ name
  | .wrongCount op count =>
    match op.arity with
    | some n =>
      op.name ++ " expression requires " ++ toString n ++ " argument(s), got " ++ toString count
    | none => op.name ++ " expression requires at least one argument"
  | .unsupported v => "unsupported expression value: " ++ v.compact

def countFits (op : Op) (count : Nat) : Bool :=
  match op.arity with
  | some n => count == n
  | none => count != 0

mutual

/-- Reads an expression. Arguments are read before they are counted. -/
def ofJson : Json.Value → Except ReadError Expr
  | .bool b => .ok (.literal (.bool b))
  | .number n =>
    match n with
    | .int i =>
      match Scalar.ofInt? i with
      | some i => .ok (.literal (.int i))
      | none => .error (.number n)
    | .float _ => .error (.number n)
  | .string s =>
    match Scalar.ofString? s with
    | some c => .ok (.literal (.char c))
    | none => .error (.string s)
  | .array [] => .error .emptyArray
  | .array (.string name :: args) =>
    if name = "value" then
      if args.isEmpty then .ok .value else .error (.valueWithArguments args.length)
    else
      match Op.ofName? name with
      | none => .error (.unknownOperator name)
      | some op =>
        match ofJsonList args with
        | .error e => .error e
        | .ok es =>
          if countFits op es.length then .ok (.apply op es)
          else .error (.wrongCount op es.length)
  | .array (v :: _) => .error (.operatorNotString v)
  | v => .error (.unsupported v)

def ofJsonList : List Json.Value → Except ReadError (List Expr)
  | [] => .ok []
  | v :: vs =>
    match ofJson v with
    | .error e => .error e
    | .ok e =>
      match ofJsonList vs with
      | .error e => .error e
      | .ok es => .ok (e :: es)

end

def decoder : Json.Decoder Expr :=
  .ofValue fun v => (ofJson v).mapError ReadError.message

end Expr

end PartitionTest
