/-! Finite binary64 numbers in exact arithmetic: rounding to nearest, reading
a decimal, and the shortest decimal that reads back. -/
namespace PartitionTest.Json

/-- `mantissa * 2 ^ exponent` with a sign. Values made by `Binary64.round` have
a mantissa below `2 ^ 53` and an exponent of at least `-1074`. -/
structure Binary64 where
  negative : Bool
  mantissa : Nat
  exponent : Int
deriving DecidableEq, Repr, Inhabited

namespace Binary64

def minExponent : Int := -1074
def maxExponent : Int := 971

def leastFull : Nat := 1 <<< 52

def scaled (n : Nat) (e : Int) : Nat × Nat :=
  if 0 ≤ e then (n <<< e.toNat, 1) else (n, 1 <<< (-e).toNat)

def divNearest (num den : Nat) : Nat :=
  let q := num / den
  let r := num % den
  if den < 2 * r || (den == 2 * r && q % 2 == 1) then q + 1 else q

def divPow (num den : Nat) (e : Int) : Nat :=
  let (d, k) := scaled den e
  divNearest (num * k) d

/-- The nearest finite value to `num / den`, ties to the even mantissa, or
`none` from half a unit above the largest. -/
def round (negative : Bool) (num den : Nat) : Option Binary64 :=
  if num = 0 then some ⟨negative, 0, minExponent⟩ else
    let e := (Nat.log2 num : Int) - Nat.log2 den - 53
    let e := if divPow num den (e + 1) < leastFull then e else e + 1
    let e := if 2 * leastFull ≤ divPow num den e then e + 1 else e
    let e := if e < minExponent then minExponent else e
    let m := divPow num den e
    let (m, e) := if m = 2 * leastFull then (leastFull, e + 1) else (m, e)
    if maxExponent < e then none else some ⟨negative, m, e⟩

def fraction (x : Binary64) : Nat × Nat :=
  scaled x.mantissa x.exponent

def scaleUp (x : Binary64) (power : Binary64) : Option Binary64 :=
  let (a, b) := x.fraction
  let (c, d) := power.fraction
  round x.negative (a * c) (b * d)

def scaleDown (x : Binary64) (power : Binary64) : Option Binary64 :=
  let (a, b) := x.fraction
  let (c, d) := power.fraction
  round x.negative (a * d) (b * c)

def powerOfTen (n : Nat) : Binary64 :=
  (round false (Nat.pow 10 n) 1).getD ⟨false, 0, minExponent⟩

def maxDecades : Nat := 308

def shrink : Nat → Binary64 → Option Binary64
  | 0, x => some x
  | n + 1, x =>
    if x.mantissa = 0 then some x
    else (x.scaleDown (powerOfTen maxDecades)).bind (shrink n)

/-- A rounded significand scaled by a rounded power of ten: one rounding for
each of the two and one for the product, in steps of at most 308 decades.
`none` when the magnitude exceeds every finite value. -/
def scale (x : Binary64) (exponent : Int) : Option Binary64 :=
  if x.mantissa = 0 then some x
  else if 0 ≤ exponent then
    if exponent.toNat ≤ maxDecades then x.scaleUp (powerOfTen exponent.toNat) else none
  else
    let steps := (exponent.natAbs - 1) / maxDecades
    (x.shrink steps).bind fun y => y.scaleDown (powerOfTen (exponent.natAbs - steps * maxDecades))

def ofDecimal (negative : Bool) (significand : Nat) (exponent : Int) : Option Binary64 :=
  (round negative significand 1).bind fun x => x.scale exponent

/-- The reals that round to a value lie within half a unit of it, except that
below a power of two the unit is half as large. Bounds are quarter units. -/
structure Neighbourhood where
  low : Nat
  high : Nat
  closed : Bool

def neighbourhood (x : Binary64) : Neighbourhood :=
  let below := if x.mantissa = leastFull && x.exponent ≠ minExponent then 1 else 2
  ⟨4 * x.mantissa - below, 4 * x.mantissa + 2, x.mantissa % 2 == 0⟩

def reads (x : Binary64) (digits : Nat) (power : Int) : Bool :=
  let n := x.neighbourhood
  let (u, v) := scaled 1 (x.exponent - 2)
  let (a, b) := if 0 ≤ power then (digits * Nat.pow 10 power.toNat, 1)
    else (digits, Nat.pow 10 (-power).toNat)
  let left := a * v
  let low := n.low * u * b
  let high := n.high * u * b
  if n.closed then low ≤ left && left ≤ high else low < left && left < high

def neighbours (x : Binary64) (top : Int) (count : Nat) : List (Nat × Int) :=
  let power := top + 1 - count
  let (a, b) := x.fraction
  let (num, den) := if 0 ≤ power then (a, b * Nat.pow 10 power.toNat)
    else (a * Nat.pow 10 (-power).toNat, b)
  let nearer := divNearest num den
  let other := if nearer = num / den then nearer + 1 else nearer - 1
  [(nearer, power), (other, power)]

def leadingPower (x : Binary64) : Int :=
  let (a, b) := x.fraction
  if b ≤ a then ((Nat.toDigits 10 (a / b)).length : Int) - 1
  else
    let zeros := (Nat.toDigits 10 (b / a)).length
    if a * Nat.pow 10 (zeros - 1) = b then -((zeros : Int) - 1) else -(zeros : Int)

def shortest (x : Binary64) : Nat × Int :=
  let top := x.leadingPower
  ((List.range 17).findSome? fun i =>
    (x.neighbours top (i + 1)).find? fun (digits, power) => x.reads digits power).getD (0, 0)

def stripZeros (digits : Nat) (power : Int) : Nat × Int :=
  let zeros := ((Nat.toDigits 10 digits).reverse.takeWhile (· == '0')).length
  (digits / Nat.pow 10 zeros, power + zeros)

/-- Positional from `1e-5` up to `1e16`, with a fraction part always; outside
that one digit before the point, and a signed exponent. -/
def chars (x : Binary64) : List Char :=
  let sign := if x.negative then ['-'] else []
  if x.mantissa = 0 then sign ++ ['0', '.', '0'] else
    let (digits, power) := x.shortest
    let (digits, power) := stripZeros digits power
    let ds := Nat.toDigits 10 digits
    let top := power + ds.length - 1
    let body :=
      if 0 ≤ power && top < 16 then ds ++ List.replicate power.toNat '0' ++ ['.', '0']
      else if 0 ≤ top && top < 16 then ds.take (top + 1).toNat ++ '.' :: ds.drop (top + 1).toNat
      else if -5 ≤ top && top < 0 then '0' :: '.' :: List.replicate (-top - 1).toNat '0' ++ ds
      else
        let fractional := if ds.length = 1 then [] else '.' :: ds.drop 1
        let sign := if 0 ≤ top then '+' else '-'
        ds.take 1 ++ fractional ++ 'e' :: sign :: Nat.toDigits 10 top.natAbs
    sign ++ body

end Binary64

end PartitionTest.Json
