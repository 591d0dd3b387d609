import PartitionTest.Json.Record

/-! Scalars: the values a variable can take. -/
namespace PartitionTest

inductive Kind where
  | bool
  | int
  | char
deriving DecidableEq, Repr, Inhabited

def Kind.name : Kind → String
  | .bool => "bool"
  | .int => "int"
  | .char => "char"

inductive Scalar where
  | bool (b : Bool)
  | int (n : Int64)
  | char (c : Char)
deriving DecidableEq, Inhabited

instance : Hashable Scalar where
  hash
    | .bool b => mixHash 0 (hash b)
    | .int n => mixHash 1 (hash n)
    | .char c => mixHash 2 (hash c.val)

namespace Scalar

def kind : Scalar → Kind
  | .bool _ => .bool
  | .int _ => .int
  | .char _ => .char

def text : Scalar → String
  | .bool b => toString b
  | .int n => String.ofList (Json.intChars n.toInt)
  | .char c => String.singleton c

def spelled : Scalar → String
  | .bool b => "Bool(" ++ toString b ++ ")"
  | .int n => "Int(" ++ String.ofList (Json.intChars n.toInt) ++ ")"
  | .char c => "Char(" ++ Text.quoteChar c ++ ")"

def toJson : Scalar → Json.Value
  | .bool b => .bool b
  | .int n => .int n.toInt
  | .char c => .string (String.singleton c)

def ofInt? (n : Int) : Option Int64 :=
  if Int64.minValue.toInt ≤ n ∧ n ≤ Int64.maxValue.toInt then some (Int64.ofInt n) else none

def ofString? (s : String) : Option Char :=
  match s.toList with
  | [c] => some c
  | _ => none

/-- Booleans, integers written as such, and strings of one character. -/
def ofJson? : Json.Value → Option Scalar
  | .bool b => some (.bool b)
  | .number (.int n) => (ofInt? n).map .int
  | .string s => (ofString? s).map .char
  | _ => none

/-- A scalar where the name of its type is `type`. -/
def decoderAs (type : String) : Json.Decoder Scalar :=
  .untagged type ofJson?

def decoder : Json.Decoder Scalar :=
  decoderAs "DomainValue"

end Scalar

end PartitionTest
