import PartitionTest.Shell.Number
import PartitionTest.Shell.Objects.Decimals
import PartitionTest.Shell.Objects.Script

/-! Arithmetic of whole numbers without bounds, of machine numbers, and of
fractions and decimal numbers beside them. What cannot be computed has a kind of
error and a message. -/
namespace PartitionTest.Shell.Objects.Numbers

open Json (Binary64)

abbrev Result (α : Type) := Except (String × String) α

inductive Num where
  | int (n : Int)
  | float (x : Float)
  /-- In lowest terms. -/
  | fraction (num : Int) (den : Nat)
  | decimal (d : Decimal)
  | complex (re im : Float)
deriving Inhabited

def toFloat (n : Int) : Result Float :=
  match Binary64.round (n < 0) n.natAbs 1 with
  | some b => .ok (Number.ofBinary64 b)
  | none => .error ("OverflowError", "int too large to convert to float")

def ofRatio (num : Int) (den : Nat) : Result Float :=
  match Binary64.round (num < 0) num.natAbs den with
  | some b => .ok (Number.ofBinary64 b)
  | none => .error ("OverflowError", "integer division result too large for a float")

def Num.toFloat : Num → Result Float
  | .int n => Numbers.toFloat n
  | .float x => .ok x
  | .fraction num den => ofRatio num den
  | .decimal (.infinite s) => .ok (Number.infinity s)
  | .decimal (.nan true) => .error ("ValueError", "cannot convert signaling NaN to float")
  | .decimal (.nan false) => .ok (0.0 / 0.0)
  | .decimal d =>
    match d.fraction? with
    | some (num, den) =>
      if num = 0 then .ok (if d.isMinus then -0.0 else 0.0)
      else .ok (Number.ofFraction d.isMinus num.natAbs den)
    | none => .ok 0.0
  | .complex _ _ => .error ("TypeError", "float() argument must be a string or a real number, not 'complex'")

def zeroDivision (message : String) : Result α := .error ("ZeroDivisionError", message)

/-- Operates on all bits; negative numbers have infinitely many ones in front. -/
def bitwise (op : Nat → Nat → Nat) (a b : Int) : Int :=
  let width := Nat.max a.natAbs.log2 b.natAbs.log2 + 2
  let size := 1 <<< width
  let bits (n : Int) : Nat := (n % (size : Int)).toNat
  let c := op (bits a) (bits b)
  if 2 * c < size then c else (c : Int) - size

def ratio (a b : Int) : Result Float :=
  if b = 0 then zeroDivision "division by zero"
  else match Binary64.round ((a < 0) != (b < 0)) a.natAbs b.natAbs with
  | some x => .ok (Number.ofBinary64 x)
  | none => .error ("OverflowError", "integer division result too large for a float")

def floatRemainder (x y : Float) : Float :=
  let r := Number.remainder x y
  if r == 0.0 then (if Number.isNegative y then -0.0 else 0.0)
  else if (r < 0.0) != (y < 0.0) then r + y else r

def floatQuotient (x y : Float) : Float :=
  let r := Number.remainder x y
  let q := (x - r) / y
  let q := if r != 0.0 && (r < 0.0) != (y < 0.0) then q - 1.0 else q
  if q == 0.0 then (if (x < 0.0) != (y < 0.0) then -0.0 else 0.0)
  else
    let f := q.floor
    if 0.5 < q - f then f + 1.0 else f

def isFinite (x : Float) : Bool := !x.isNaN && !x.isInf

def floatPower (x y : Float) : Result Float :=
  if x == 0.0 && y < 0.0 then zeroDivision "0.0 cannot be raised to a negative power"
  else
    let r := Float.pow x y
    if r.isInf && isFinite x && isFinite y then
      .error ("OverflowError", "(34, 'Numerical result out of range')")
    else .ok r

def intOperation (op : Arithmetic) (a b : Int) : Result Num :=
  match op with
  | .matrix => .error ("TypeError", "unsupported operand type(s) for @: 'int' and 'int'")
  | .add => .ok (.int (a + b))
  | .subtract => .ok (.int (a - b))
  | .multiply => .ok (.int (a * b))
  | .divide => .float <$> ratio a b
  | .quotient =>
    if b = 0 then zeroDivision "integer division or modulo by zero" else .ok (.int (a.fdiv b))
  | .remainder => if b = 0 then zeroDivision "integer modulo by zero" else .ok (.int (a.fmod b))
  | .power =>
    if 0 ≤ b then .ok (.int (Int.pow a b.toNat))
    else if a = 0 then zeroDivision "0.0 cannot be raised to a negative power"
    else do return .float (← floatPower (← toFloat a) (← toFloat b))
  | .shiftLeft =>
    if b < 0 then .error ("ValueError", "negative shift count") else .ok (.int (a * (Nat.pow 2 b.toNat : Nat)))
  | .shiftRight =>
    if b < 0 then .error ("ValueError", "negative shift count") else .ok (.int (a.fdiv (Nat.pow 2 b.toNat : Nat)))
  | .bitAnd => .ok (.int (bitwise (· &&& ·) a b))
  | .bitOr => .ok (.int (bitwise (· ||| ·) a b))
  | .bitXor => .ok (.int (bitwise (· ^^^ ·) a b))

def floatOperation? (op : Arithmetic) (x y : Float) : Option (Result Float) :=
  match op with
  | .add => some (.ok (x + y))
  | .subtract => some (.ok (x - y))
  | .multiply => some (.ok (x * y))
  | .divide => some (if y == 0.0 then zeroDivision "float division by zero" else .ok (x / y))
  | .quotient =>
    some (if y == 0.0 then zeroDivision "float floor division by zero" else .ok (floatQuotient x y))
  | .remainder => some (if y == 0.0 then zeroDivision "float modulo" else .ok (floatRemainder x y))
  | .power => some (floatPower x y)
  | _ => none

def reduced (num den : Int) : Num :=
  let g := Int.gcd num den
  let g := if g = 0 then 1 else g
  let num := num / (g : Int)
  let den := den / (g : Int)
  if den < 0 then .fraction (-num) den.natAbs else .fraction num den.natAbs

def fractionOf (num den : Int) : Result Num :=
  if den = 0 then zeroDivision ("Fraction(" ++ toString num ++ ", 0)") else .ok (reduced num den)

def fractionPower (num : Int) (den : Nat) (n : Int) : Result Num :=
  if 0 ≤ n then .ok (reduced (Int.pow num n.toNat) (Nat.pow den n.toNat))
  else fractionOf (Int.pow den n.natAbs) (Int.pow num n.natAbs)

def fractionOperation? (op : Arithmetic) (a : Int) (b : Nat) (c : Int) (d : Nat) : Option (Result Num) :=
  match op with
  | .add => some (.ok (reduced (a * d + c * b) (b * d : Nat)))
  | .subtract => some (.ok (reduced (a * d - c * b) (b * d : Nat)))
  | .multiply => some (.ok (reduced (a * c) (b * d : Nat)))
  | .divide => some (if c = 0 then fractionOf a.sign 0 else fractionOf (a * d) (b * c))
  | .quotient =>
    some (if c = 0 then zeroDivision "integer division or modulo by zero" else .ok (.int ((a * d).fdiv (b * c))))
  | .remainder =>
    some (if c = 0 then zeroDivision "integer modulo by zero"
      else .ok (reduced ((a * d).fmod (c * b)) (b * d : Nat)))
  | .power =>
    some (if d = 1 then fractionPower a b c
      else do return .float (← floatPower (← ofRatio a b) (← ofRatio c d)))
  | _ => none

def troubled (t : Decimal.Trouble) : String × String :=
  ("decimal." ++ t.kind, "[<class 'decimal." ++ t.condition ++ "'>]")

def ofDecimal (r : Decimal.Result) : Result Decimal :=
  match r with
  | .ok d => .ok d
  | .error t => .error (troubled t)

def decimalOperation? (c : Decimal.Context) (op : Arithmetic) (x y : Decimal) : Option (Result Num) :=
  let f : Option (Decimal.Context → Decimal → Decimal → Decimal.Result) := match op with
    | .add => some Decimal.add
    | .subtract => some Decimal.subtract
    | .multiply => some Decimal.multiply
    | .divide => some Decimal.divide
    | .quotient => some Decimal.quotient
    | .remainder => some Decimal.remainder
    | .power => some Decimal.power
    | _ => none
  f.map fun f => .decimal <$> ofDecimal (f c x y)

abbrev Plane := Float × Float

def planeProduct (x y : Plane) : Plane := (x.1 * y.1 - x.2 * y.2, x.1 * y.2 + x.2 * y.1)

def planeQuotient (x y : Plane) : Result Plane :=
  let (a, b) := x
  let (c, d) := y
  if d.abs ≤ c.abs then
    if c == 0.0 then zeroDivision "complex division by zero"
    else
      let ratio := d / c
      let below := c + d * ratio
      .ok ((a + b * ratio) / below, (b - a * ratio) / below)
  else
    let ratio := c / d
    let below := c * ratio + d
    .ok ((a * ratio + b) / below, (b * ratio - a) / below)

def planePower (x y : Plane) : Result Plane :=
  let n := y.1.floor
  if y.2 == 0.0 && n == y.1 && n.abs ≤ 100.0 then
    let k := n.abs.toUInt64.toNat
    let rec go : Nat → Nat → Plane → Plane → Plane
      | 0, _, _, acc => acc
      | m + 1, k, base, acc =>
        if k = 0 then acc
        else go m (k / 2) (planeProduct base base) (if k % 2 = 1 then planeProduct acc base else acc)
    let r := go (k.log2 + 2) k x (1.0, 0.0)
    if n < 0.0 then planeQuotient (1.0, 0.0) r else .ok r
  else if x.1 == 0.0 && x.2 == 0.0 then
    if y.1 == 0.0 && y.2 == 0.0 then .ok (1.0, 0.0)
    else if y.2 != 0.0 || y.1 < 0.0 then zeroDivision "0.0 to a negative or complex power" else .ok (0.0, 0.0)
  else
    let size := (x.1 * x.1 + x.2 * x.2).sqrt
    let angle := Float.atan2 x.2 x.1
    let len := Float.pow size y.1
    let turn := angle * y.1
    let len := if y.2 == 0.0 then len else len / (angle * y.2).exp
    let turn := if y.2 == 0.0 then turn else turn + y.2 * size.log
    .ok (len * turn.cos, len * turn.sin)

def planeOperation? (op : Arithmetic) (x y : Plane) : Option (Result Num) :=
  let wrap (r : Result Plane) : Result Num := (fun p => .complex p.1 p.2) <$> r
  match op with
  | .add => some (wrap (.ok (x.1 + y.1, x.2 + y.2)))
  | .subtract => some (wrap (.ok (x.1 - y.1, x.2 - y.2)))
  | .multiply => some (wrap (.ok (planeProduct x y)))
  | .divide => some (wrap (planeQuotient x y))
  | .power => some (wrap (planePower x y))
  | _ => none

def operation? (c : Decimal.Context) (op : Arithmetic) (a b : Num) : Option (Result Num) :=
  match a, b with
  | .int a, .int b => if op = .matrix then none else some (intOperation op a b)
  | .int n, .decimal d => decimalOperation? c op (.ofInt n) d
  | .decimal d, .int n => decimalOperation? c op d (.ofInt n)
  | .decimal d, .decimal e => decimalOperation? c op d e
  | .decimal _, _ | _, .decimal _ => none
  | .int n, .fraction p q => fractionOperation? op n 1 p q
  | .fraction p q, .int n => fractionOperation? op p q n 1
  | .fraction p q, .fraction r s => fractionOperation? op p q r s
  | .complex x y, .complex z w => planeOperation? op (x, y) (z, w)
  | .complex x y, b =>
    match b.toFloat with
    | .ok z => planeOperation? op (x, y) (z, 0.0)
    | .error e => some (.error e)
  | a, .complex z w =>
    match a.toFloat with
    | .ok x => planeOperation? op (x, 0.0) (z, w)
    | .error e => some (.error e)
  | a, b =>
    match a.toFloat, b.toFloat with
    | .ok x, .ok y =>
      /- A power of a negative number lies in the plane. -/
      if op = .power && x < 0.0 && isFinite x && isFinite y && y.floor != y then
        planeOperation? op (x, 0.0) (y, 0.0)
      else (floatOperation? op x y).map fun r => .float <$> r
    | .error e, _ | _, .error e => some (.error e)

def fraction? (x : Float) : Option (Int × Nat) := do
  let b ← Number.toBinary64? x
  let (num, den) := b.fraction
  return (if b.negative then -(num : Int) else num, den)

def Num.fraction? : Num → Option (Int × Nat)
  | .int n => some (n, 1)
  | .float x => Numbers.fraction? x
  | .fraction num den => some (num, den)
  | .decimal d => d.fraction?
  | .complex re im => if im == 0.0 then Numbers.fraction? re else none

/-- Compares numbers exactly; there is no order if one is not a number. -/
def order? (a b : Num) : Option Ordering :=
  match a, b with
  | .int a, .int b => some (compare a b)
  | .float x, .float y => if x < y then some .lt else if x == y then some .eq else if y < x then some .gt else none
  | .decimal x, .decimal y => x.order? y
  | .complex x y, .complex z w => if x == z && y == w then some .eq else none
  | .complex _ y, b => if y == 0.0 then exact a b else none
  | a, .complex _ w => if w == 0.0 then exact a b else none
  | a, b => exact a b
where
  /-- Which way a number lies that is not finite. -/
  endless : Num → Option Ordering
    | .float x => if x.isNaN then none else some (if x < 0.0 then .lt else .gt)
    | .decimal (.infinite s) => some (if s then .lt else .gt)
    | _ => none
  exact (a b : Num) : Option Ordering :=
    match a.fraction?, b.fraction? with
    | some (p, q), some (r, s) => some (compare (p * s) (r * q))
    | none, some _ => endless a
    | some _, none => (endless b).map Ordering.swap
    | none, none => do
      let x ← endless a
      let y ← endless b
      return if x == y then .eq else x

def nearest (num : Int) (den : Nat) : Int :=
  let q : Int := Binary64.divNearest num.natAbs den
  if num < 0 then -q else q

def truncated (x : Float) : Result Int :=
  match Number.toInt? x with
  | some n => .ok n
  | none =>
    if x.isNaN then .error ("ValueError", "cannot convert float NaN to integer")
    else .error ("OverflowError", "cannot convert float infinity to integer")

def roundedTo (digits : Int) (x : Float) : Float :=
  match fraction? x with
  | none => x
  | some (num, den) =>
    if 400 < digits then x
    else if digits < -400 then (if Number.isNegative x then -0.0 else 0.0)
    else
      let up := Nat.pow 10 digits.toNat
      let down := Nat.pow 10 (-digits).toNat
      let q := Binary64.divNearest (num.natAbs * up) (den * down)
      Number.ofFraction (Number.isNegative x) (q * down) up

def intRoundedTo (digits : Int) (n : Int) : Int :=
  if 0 ≤ digits then n
  else
    let unit := Nat.pow 10 (-digits).toNat
    nearest n unit * unit

def inBase (base : Nat) (n : Int) : String :=
  (if n < 0 then "-" else "") ++ String.ofList (Nat.toDigits base n.natAbs)

def maxDigits : Nat := 4300

def tooLong : String × String := ("ValueError", "Exceeds the limit (" ++ toString maxDigits ++
  " digits) for integer string conversion; use sys.set_int_max_str_digits() to increase the limit")

def intText (n : Int) : Result String :=
  if n.natAbs.log2 < 14000 then .ok (toString n)
  else
    let s := toString n
    if maxDigits < n.natAbs.log2 / 4 || maxDigits + (if n < 0 then 1 else 0) < s.length then
      .error tooLong
    else .ok s

def floatText (x : Float) : String :=
  match Number.toBinary64? x with
  | none => if x.isNaN then "nan" else if x < 0.0 then "-inf" else "inf"
  | some b =>
    let sign := if b.negative then "-" else ""
    if b.mantissa = 0 then sign ++ "0.0"
    else
      let (digits, power) := b.shortest
      let (digits, power) := Binary64.stripZeros digits power
      let ds := Nat.toDigits 10 digits
      let top := power + ds.length - 1
      let body :=
        if top < -4 || 16 ≤ top then Format.scientific ds top false
        else if 0 ≤ power then ds ++ List.replicate power.toNat '0' ++ ['.', '0']
        else if 0 ≤ top then ds.take (top + 1).toNat ++ '.' :: ds.drop (top + 1).toNat
        else '0' :: '.' :: List.replicate (-top - 1).toNat '0' ++ ds
      sign ++ String.ofList body

def isSpace (c : Char) : Bool :=
  c = ' ' || (9 ≤ c.toNat && c.toNat ≤ 13) || (28 ≤ c.toNat && c.toNat ≤ 31) || c.toNat = 0x85 ||
    c.toNat = 0xA0 || c.toNat = 0x1680 || (0x2000 ≤ c.toNat && c.toNat ≤ 0x200A) || c.toNat = 0x2028 ||
    c.toNat = 0x2029 || c.toNat = 0x202F || c.toNat = 0x205F || c.toNat = 0x3000

def trimmed (cs : List Char) : List Char :=
  ((cs.dropWhile isSpace).reverse.dropWhile isSpace).reverse

def hasGoodLowLines : List Char → Bool
  | '_' :: '_' :: _ => false
  | ['_'] => false
  | _ :: rest => hasGoodLowLines rest
  | [] => true

def digitOf (c : Char) : Nat :=
  if c.isDigit then c.toNat - 48 else if c.isAlpha then c.toLower.toNat - 87 else 99

/-- A whole number in a base; the base zero stands for that of its mark. -/
def readInt (base : Nat) (s : String) : Option Int :=
  let cs := trimmed s.toList
  let (negative, cs) := match cs with
    | '-' :: rest => (true, rest)
    | '+' :: rest => (false, rest)
    | _ => (false, cs)
  let marked : List (Char × Nat) := [('x', 16), ('o', 8), ('b', 2)]
  let (base, cs) := match cs with
    | '0' :: c :: rest =>
      match marked.lookup c.toLower with
      | some b => if base = b || base = 0 then (b, if rest.head? == some '_' then rest.tail else rest) else (base, cs)
      | none => (if base = 0 then 10 else base, cs)
    | _ => (if base = 0 then 10 else base, cs)
  let digits := cs.filter (· != '_')
  if digits.isEmpty || cs.head? == some '_' || !hasGoodLowLines cs || digits.any (base ≤ digitOf ·) then none
  else
    let n := digits.foldl (fun (n : Nat) c => n * base + digitOf c) 0
    some (if negative then -(n : Int) else n)

def readFloat (s : String) : Option Float :=
  let cs := trimmed s.toList
  if !hasGoodLowLines cs then none
  else
    let plain := cs.filter (· != '_')
    let isHex := plain.any fun c => c = 'x' || c = 'X'
    if isHex then none
    else match Number.read plain with
    | some (x, []) => some x
    | _ => none

end PartitionTest.Shell.Objects.Numbers
