import PartitionTest.Json.Fault
import PartitionTest.Json.Value

/-! Numerals: the digits of a number as written, and the number they stand for. -/
namespace PartitionTest.Json

structure Numeral where
  negative : Bool := false
  whole : List Nat := []
  fraction : Option (List Nat) := none
  exponent : Option (Bool × List Nat) := none
deriving Repr, Inhabited

namespace Numeral

def maxSignificand : Nat := UInt64.size - 1

/-- Digits are taken while the significand fits 64 bits: the significand and
how many digits are left. -/
def take (significand : Nat) : List Nat → Nat × Nat
  | [] => (significand, 0)
  | d :: ds =>
    if significand * 10 + d ≤ maxSignificand then take (significand * 10 + d) ds
    else (significand, ds.length + 1)

def digitsValue (ds : List Nat) : Nat :=
  ds.foldl (fun n d => n * 10 + d) 0

def int? (n : Numeral) : Option Int :=
  match n.fraction, n.exponent with
  | none, none =>
    let v := digitsValue n.whole.reverse
    if n.negative then if 0 < v && v ≤ Int64.minValue.toInt.natAbs then some (-(v : Int)) else none
    else if v ≤ maxSignificand then some v else none
  | _, _ => none

/-- Digits beyond the significand count as zeros before the point and are
dropped after it. -/
def float? (n : Numeral) : Option Binary64 :=
  let (s, skipped) := take 0 n.whole.reverse
  let decimals := (n.fraction.getD []).reverse
  let (s, unread) := take s decimals
  let shift : Int := match n.exponent with
    | none => 0
    | some (negative, ds) =>
      let e : Int := digitsValue ds.reverse
      if negative then -e else e
  Binary64.ofDecimal n.negative s (skipped - (decimals.length - unread : Nat) + shift)

def number (n : Numeral) : Except Fault Number :=
  match n.int? with
  | some i => .ok (.int i)
  | none =>
    match n.float? with
    | some x => .ok (.float x)
    | none => .error .numberOutOfRange

end Numeral

end PartitionTest.Json
