import PartitionTest.Scalar

/-! Domains: the finite set of values of one variable, as an interval, an
enumeration of characters, or the booleans. -/
namespace PartitionTest

inductive Domain where
  /-- Both ends belong to it. -/
  | int (min max : Int64)
  | char (values : List Char)
  | bool
deriving DecidableEq, Inhabited

namespace Domain

def kind : Domain → Kind
  | .int _ _ => .int
  | .char _ => .char
  | .bool => .bool

def size : Domain → Nat
  | .int min max => Nat.min (max.toInt - min.toInt + 1).toNat (UInt64.size - 1)
  | .char values => values.length
  | .bool => 2

def contains : Domain → Scalar → Bool
  | .int min max, .int n => min ≤ n && n ≤ max
  | .char values, .char c => values.contains c
  | .bool, .bool _ => true
  | _, _ => false

/-- Every value: integers ascending, characters as declared, false before true. -/
def values : Domain → List Scalar
  | .int min max =>
    (List.range (max.toInt - min.toInt + 1).toNat).map fun (i : Nat) =>
      .int (Int64.ofInt (min.toInt + i))
  | .char values => values.map .char
  | .bool => [.bool false, .bool true]

def position? : Domain → Scalar → Option Nat
  | .int min max, .int n =>
    if min ≤ n && n ≤ max then some (n.toInt - min.toInt).toNat else none
  | .char values, .char c => values.findIdx? (· == c)
  | .bool, .bool b => some (if b then 1 else 0)
  | _, _ => none

def toJson : Domain → Json.Value
  | .int min max =>
    .object [("type", .string "int"), ("min", .int min.toInt), ("max", .int max.toInt)]
  | .char values =>
    .object [("type", .string "char"), ("values", .list (.string ∘ String.singleton) values)]
  | .bool => .object [("type", .string "bool")]

open Json in
def decoder : Decoder Domain :=
  .tagged "DomainType" "type" [
    ("int", Record.decoder "struct variant DomainType::Int"
      (Domain.int <$> Record.required "min" Decoder.int64 <*>
        Record.required "max" Decoder.int64)),
    ("char", Record.decoder "struct variant DomainType::Char"
      (Domain.char <$> Record.required "values" (Decoder.list Decoder.char))),
    ("bool", Decoder.noFields .bool)]

end Domain

end PartitionTest
