import PartitionTest.Shell.Format

/-! Machine numbers of programs: how they are read and written, exactly. -/
namespace PartitionTest.Shell.Number

open Json (Binary64)

def signBit : Nat := 1 <<< 63

def ofBinary64 (x : Binary64) : Float :=
  let sign := if x.negative then signBit else 0
  let body := if x.mantissa < Binary64.leastFull then x.mantissa
    else ((x.exponent + 1075).toNat <<< 52) + (x.mantissa - Binary64.leastFull)
  Float.ofBits (UInt64.ofNat (sign + body))

def toBinary64? (x : Float) : Option Binary64 :=
  let bits := x.toBits.toNat
  let power := bits >>> 52 % 2048
  let fraction := bits % Binary64.leastFull
  let negative := signBit ≤ bits
  if power = 2047 then none
  else if power = 0 then some ⟨negative, fraction, Binary64.minExponent⟩
  else some ⟨negative, fraction + Binary64.leastFull, (power : Int) - 1075⟩

def infinity (negative : Bool) : Float := if negative then -1.0 / 0.0 else 1.0 / 0.0

def ofFraction (negative : Bool) (num den : Nat) : Float :=
  match Binary64.round negative num den with
  | some x => ofBinary64 x
  | none => infinity negative

def ofInt (n : Int) : Float := ofFraction (n < 0) n.natAbs 1

def toInt? (x : Float) : Option Int := do
  let b ← toBinary64? x
  let (num, den) := b.fraction
  let n : Int := (num / den : Nat)
  return if b.negative then -n else n

def isNegative (x : Float) : Bool := signBit ≤ x.toBits.toNat

/-- The rest of a division whose quotient is cut towards zero; it has the sign
of what is divided. -/
def remainder (x y : Float) : Float :=
  match toBinary64? x, toBinary64? y with
  | some a, some b =>
    let (n, d) := a.fraction
    let (m, e) := b.fraction
    if m = 0 then 0.0 / 0.0 else ofFraction a.negative (n * e % (m * d)) (d * e)
  | some _, none => if y.isNaN then y else x
  | none, _ => 0.0 / 0.0

def read (cs : List Char) : Option (Float × List Char) :=
  let (negative, rest) := Format.signed cs
  let word (name : String) (x : Float) : Option (Float × List Char) :=
    if (rest.take name.length).map Char.toLower = name.toList then some (x, rest.drop name.length) else none
  match Format.fraction? rest with
  | some ((num, den), rest) => some (ofFraction negative num den, rest)
  | none =>
    (word "infinity" (infinity negative)).orElse fun _ =>
      (word "inf" (infinity negative)).orElse fun _ => word "nan" (0.0 / 0.0)

def format (l : Format.Layout) (conversion : Char) (x : Float) : String :=
  match toBinary64? x with
  | some b => l.real conversion b
  | none =>
    let word := if x.isNaN then "nan" else "inf"
    l.padded (l.sign (x < 0.0) ++ (if conversion.isUpper then word.toUpper else word).toList)

def general (digits : Nat) (x : Float) : String := format ⟨[], 0, some digits⟩ 'g' x

end PartitionTest.Shell.Number
