/-! Decimal numbers with a sign, digits and a power of ten. Results are rounded to
a number of digits; what cannot be computed has a condition. -/
namespace PartitionTest.Shell.Objects

inductive Decimal where
  | finite (isNegative : Bool) (digits : Nat) (power : Int)
  | infinite (isNegative : Bool)
  | nan (isSignalling : Bool)
deriving DecidableEq, Repr, Inhabited

namespace Decimal

inductive Rounding where
  | up
  | down
  | ceiling
  | floor
  | halfUp
  | halfDown
  | halfEven
  /-- Away from zero only behind a zero or a five. -/
  | zeroFiveUp
deriving DecidableEq, Repr, Inhabited

def Rounding.all : List (String × Rounding) := [
  ("ROUND_UP", .up), ("ROUND_DOWN", .down), ("ROUND_CEILING", .ceiling), ("ROUND_FLOOR", .floor),
  ("ROUND_HALF_UP", .halfUp), ("ROUND_HALF_DOWN", .halfDown), ("ROUND_HALF_EVEN", .halfEven),
  ("ROUND_05UP", .zeroFiveUp)]

def Rounding.name (r : Rounding) : String := ((all.find? (·.2 = r)).map (·.1)).getD ""

structure Context where
  precision : Nat := 28
  rounding : Rounding := .halfEven
deriving DecidableEq, Repr, Inhabited

/-- What stands in the way of a result: a kind of error, and the condition. -/
structure Trouble where
  kind : String
  condition : String := kind
deriving DecidableEq, Repr, Inhabited

abbrev Result := Except Trouble Decimal

def invalid : Trouble := ⟨"InvalidOperation", "InvalidOperation"⟩

def overflow : Trouble := ⟨"Overflow", "Overflow"⟩

def maxPower : Int := 999999

def minPower : Int := -999999

def digitCount (n : Nat) : Nat := (toString n).length

def roundedQuotient (r : Rounding) (isNegative : Bool) (num den : Nat) : Nat :=
  let q := num / den
  let rest := num % den
  let goesUp : Bool := rest != 0 && match r with
    | .up => true
    | .down => false
    | .ceiling => !isNegative
    | .floor => isNegative
    | .halfUp => den ≤ 2 * rest
    | .halfDown => den < 2 * rest
    | .halfEven => den < 2 * rest || (2 * rest == den && q % 2 == 1)
    | .zeroFiveUp => q % 5 == 0
  if goesUp then q + 1 else q

def rescaled (r : Rounding) (isNegative : Bool) (digits : Nat) (power newPower : Int) : Nat :=
  if newPower ≤ power then digits * Nat.pow 10 (power - newPower).toNat
  else
    let cut := (newPower - power).toNat
    /- What lies far below the last digit is only a trace. -/
    if digitCount digits + 1 < cut then roundedQuotient r isNegative (if digits = 0 then 0 else 1) 10000
    else roundedQuotient r isNegative digits (Nat.pow 10 cut)

def top (digits : Nat) (power : Int) : Int := power + digitCount digits - 1

def fit (c : Context) (isNegative : Bool) (digits : Nat) (power : Int) : Result :=
  let least := minPower - c.precision + 1
  let most := maxPower - c.precision + 1
  if digits = 0 then .ok (.finite isNegative 0 (max least (min maxPower power)))
  else
    let wanted := max least (top digits power - c.precision + 1)
    if maxPower < top digits power then .error overflow
    else if wanted ≤ power then .ok (.finite isNegative digits power)
    else
      let ds := rescaled c.rounding isNegative digits power wanted
      let (ds, p) := if c.precision < digitCount ds then (ds / 10, wanted + 1) else (ds, wanted)
      if most < p && maxPower < top ds p then .error overflow else .ok (.finite isNegative ds p)

def fitted (c : Context) : Decimal → Result
  | .finite s d p => fit c s d p
  | .nan true => .error invalid
  | x => .ok x

def plus (c : Context) : Decimal → Result
  | .finite s d p => if d = 0 then fit c (s && c.rounding = .floor) d p else fit c s d p
  | .nan true => .error invalid
  | x => .ok x

def negated : Decimal → Decimal
  | .finite s d p => .finite (!s) d p
  | .infinite s => .infinite !s
  | x => x

def absolute : Decimal → Decimal
  | .finite _ d p => .finite false d p
  | .infinite _ => .infinite false
  | x => x

def isNan : Decimal → Bool
  | .nan _ => true
  | _ => false

def isZero : Decimal → Bool
  | .finite _ d _ => d = 0
  | _ => false

def isMinus : Decimal → Bool
  | .finite s _ _ | .infinite s => s
  | .nan _ => false

def ofInt (n : Int) : Decimal := .finite (n < 0) n.natAbs 0

def fraction? : Decimal → Option (Int × Nat)
  | .finite s d p =>
    let n : Int := if s then -(d : Int) else d
    some (if 0 ≤ p then (n * Nat.pow 10 p.toNat, 1) else (n, Nat.pow 10 (-p).toNat))
  | _ => none

/-- The number that a fraction with a power of two below is, with all its digits. -/
def ofBinary (isNegative : Bool) (num den : Nat) : Decimal :=
  let places := den.log2
  .finite isNegative (num * Nat.pow 5 places) (-places)

def unclear (xs : List Decimal) : Option Result :=
  if xs.any fun x => x == .nan true then some (.error invalid)
  else if xs.any isNan then some (.ok (.nan false))
  else none

def add (c : Context) (x y : Decimal) : Result :=
  match unclear [x, y], x, y with
  | some r, _, _ => r
  | none, .infinite s, .infinite t => if s == t then .ok x else .error invalid
  | none, .infinite _, _ => .ok x
  | none, _, .infinite _ => .ok y
  | none, .finite s d p, .finite t e q =>
    let low := min p q
    let sum (s : Bool) (d : Nat) (p : Int) (t : Bool) (e : Nat) (q : Int) : Result :=
      let low := min p q
      let a : Int := d * Nat.pow 10 (p - low).toNat
      let b : Int := e * Nat.pow 10 (q - low).toNat
      let n := (if s then -a else a) + (if t then -b else b)
      if n = 0 then fit c (c.rounding = .floor) 0 low else fit c (n < 0) n.natAbs low
    /- A number that lies far below the last digit of the other one is only a trace. -/
    let traced (e : Nat) (q : Int) (d : Nat) (p : Int) : Nat × Int :=
      let floor := q + min (-1) ((digitCount e : Int) - c.precision - 2)
      if p < q && digitCount d + p - 1 < floor then (1, floor) else (d, p)
    let moved (s : Bool) (d : Nat) (p : Int) : Result :=
      let power := max low (p - c.precision - 1)
      fit c s (rescaled c.rounding s d p power) power
    if d = 0 && e = 0 then fit c (if s == t then s else c.rounding = .floor) 0 low
    else if d = 0 then moved t e q
    else if e = 0 then moved s d p
    else
      let (dd, pp) := traced e q d p
      let (ee, qq) := traced d p e q
      sum s dd pp t ee qq
  | none, _, _ => .error invalid

def subtract (c : Context) (x y : Decimal) : Result := add c x (negated y)

def multiply (c : Context) (x y : Decimal) : Result :=
  let s := isMinus x != isMinus y
  match unclear [x, y], x, y with
  | some r, _, _ => r
  | none, .finite _ d p, .finite _ e q => fit c s (d * e) (p + q)
  | none, x, y => if isZero x || isZero y then .error invalid else .ok (.infinite s)

/-- Without zeros at the end, as far as the power stays below a bound. -/
def stripped : Nat → Nat → Int → Int → Nat × Int
  | 0, d, p, _ => (d, p)
  | n + 1, d, p, most => if d ≠ 0 && p < most && d % 10 = 0 then stripped n (d / 10) (p + 1) most else (d, p)

def divide (c : Context) (x y : Decimal) : Result :=
  let s := isMinus x != isMinus y
  match unclear [x, y], x, y with
  | some r, _, _ => r
  | none, .infinite _, .infinite _ => .error invalid
  | none, .infinite _, _ => .ok (.infinite s)
  | none, _, .infinite _ => .ok (.finite s 0 (minPower - c.precision + 1))
  | none, .finite _ d p, .finite _ e q =>
    if e = 0 then .error (if d = 0 then ⟨"InvalidOperation", "DivisionUndefined"⟩ else ⟨"DivisionByZero", "DivisionByZero"⟩)
    else if d = 0 then fit c s 0 (p - q)
    else
      let shift : Int := (digitCount e : Int) - digitCount d + c.precision + 1
      let num := if 0 ≤ shift then d * Nat.pow 10 shift.toNat else d
      let den := if 0 ≤ shift then e else e * Nat.pow 10 (-shift).toNat
      let quotient := num / den
      let power := p - q - shift
      /- A rest is kept as a last digit that breaks ties. -/
      if num % den = 0 then
        let (ds, power) := stripped (digitCount quotient) quotient power (p - q)
        fit c s ds power
      else fit c s (if quotient % 5 = 0 then quotient + 1 else quotient) power
  | none, _, _ => .error invalid

/-- The whole quotient and the rest, which has the sign of the first number. -/
def wholeDivision (c : Context) (x y : Decimal) : Except Trouble (Decimal × Decimal) :=
  let s := isMinus x != isMinus y
  match x, y with
  | .finite sx d p, .finite _ e q =>
    if e = 0 then .error (if d = 0 then ⟨"InvalidOperation", "DivisionUndefined"⟩
      else ⟨"DivisionByZero", "DivisionByZero"⟩)
    else
      let low := min p q
      let a := d * Nat.pow 10 (p - low).toNat
      let b := e * Nat.pow 10 (q - low).toNat
      let quotient := a / b
      if c.precision < digitCount quotient then .error ⟨"InvalidOperation", "DivisionImpossible"⟩
      else do
        let rest ← fit c sx (a % b) low
        return (.finite s quotient 0, rest)
  | .infinite _, .infinite _ => .error invalid
  | .infinite _, _ => .error invalid
  | x, .infinite _ => do return (.finite s 0 0, ← fitted c x)
  | _, _ => .error invalid

def quotient (c : Context) (x y : Decimal) : Result :=
  match unclear [x, y], x, y with
  | some r, _, _ => r
  | none, .infinite s, .finite t _ _ => .ok (.infinite (s != t))
  | none, x, y => (·.1) <$> wholeDivision c x y

def remainder (c : Context) (x y : Decimal) : Result :=
  match unclear [x, y] with
  | some r => r
  | none =>
    match x, y with
    | .finite _ d _, .finite _ 0 _ => .error (if d = 0 then ⟨"InvalidOperation", "DivisionUndefined"⟩ else invalid)
    | x, y => (·.2) <$> wholeDivision c x y

def whole? : Decimal → Option Int
  | .finite s d p =>
    if 0 ≤ p then some (let n : Int := d * Nat.pow 10 p.toNat; if s then -n else n)
    else
      let unit := Nat.pow 10 (-p).toNat
      if d % unit = 0 then some (let n : Int := (d / unit : Nat); if s then -n else n) else none
  | _ => none

def rootBelow (n : Nat) : Nat := search (n.log2 / 2 + 1) 0
where
  search : Nat → Nat → Nat
    | 0, r => if (r + 1) * (r + 1) ≤ n then r + 1 else r
    | k + 1, r =>
      let next := r + Nat.pow 2 (k + 1)
      search k (if next * next ≤ n then next else r)

def root (c : Context) (x : Decimal) : Result :=
  match unclear [x], x with
  | some r, _ => r
  | none, .finite s d p =>
    let ideal := p.fdiv 2
    if d = 0 then fit c s 0 ideal
    else if s then .error invalid
    else
      let wanted : Int := 2 * c.precision + 2 - digitCount d
      let shift := if (wanted + p) % 2 = 0 then wanted else wanted + 1
      let shift := max shift (if p % 2 = 0 then 0 else 1)
      let n := d * Nat.pow 10 shift.toNat
      let r := rootBelow n
      let power := (p - shift) / 2
      if r * r = n then
        let (ds, power) := stripped (digitCount r) r power ideal
        fit c false ds power
      else fit { c with rounding := .halfEven } false (if r % 5 = 0 then r + 1 else r) power
  | none, .infinite false => .ok x
  | none, _ => .error invalid

/-- Sums of a series of fractions with a common unit, until its terms vanish. -/
def expSeries (unit x : Nat) : Nat → Nat → Nat → Nat → Nat
  | 0, _, _, sum => sum
  | n + 1, k, term, sum =>
    let term := term * x / (unit * k)
    if term = 0 then sum else expSeries unit x n (k + 1) term (sum + term)

/-- The exponential of a fraction that is not negative, in units: the argument is
halved until it is small, and the result squared as often. -/
def expUnits (unit x : Nat) : Nat :=
  let halvings := (x / unit).log2 + 8
  let guard := Nat.pow 2 (halvings + 16)
  let fine := unit * guard
  let small := x * guard / Nat.pow 2 halvings
  let e := expSeries fine small (fine.log2 + 10) 1 fine fine
  let e := (List.range halvings).foldl (fun e _ => e * e / fine) e
  e / guard

/-- The logarithm of a fraction near one, in units, from that of its inverse tangent. -/
def logSeries (unit square : Nat) : Nat → Nat → Nat → Nat → Nat
  | 0, _, _, sum => sum
  | n + 1, k, term, sum =>
    if term = 0 then sum else logSeries unit square n (k + 2) (term * square / unit) (sum + term / k)

/-- The natural logarithm of a fraction, which is at least one, in units: roots
bring it close to one. -/
def logUnits (unit num den : Nat) : Nat :=
  let roots := 12 + (num.log2 - den.log2 + 1).log2
  let guard := Nat.pow 2 (48 + 2 * roots)
  let fine := unit * guard
  let x := (List.range roots).foldl (fun x _ => rootBelow (x * fine)) (num * fine / den)
  let z := (x - fine) * fine / (x + fine)
  2 * logSeries fine (z * z / fine) (fine.log2 + 10) 1 z 0 * Nat.pow 2 roots / guard

/-- A signed number of units as a result with all digits of the context. -/
def ofUnits (c : Context) (isNegative : Bool) (n : Nat) (places : Nat) : Result :=
  fit { c with rounding := .halfEven } isNegative (if n % 5 = 0 then n + 1 else n) (-places)

def extraPlaces : Nat := 12

def log (c : Context) (x : Decimal) : Result :=
  match unclear [x], x with
  | some r, _ => r
  | none, .infinite false => .ok x
  | none, .finite s d p =>
    if d = 0 then .ok (.infinite true)
    else if s then .error invalid
    else
      let (num, den) := ((Decimal.finite false d p).fraction?).getD (1, 1)
      let num := num.natAbs
      if num = den then .ok (.finite false 0 0)
      else
        let places := c.precision + extraPlaces + digitCount d
        let unit := Nat.pow 10 places
        let isSmall := num < den
        ofUnits c isSmall (if isSmall then logUnits unit den num else logUnits unit num den) places
  | none, _ => .error invalid

def logTen (c : Context) (x : Decimal) : Result :=
  match unclear [x], x with
  | some r, _ => r
  | none, .infinite false => .ok x
  | none, .finite s d p =>
    if d = 0 then .ok (.infinite true)
    else if s then .error invalid
    else
      let (ds, power) := stripped (digitCount d) d p maxPower
      if ds = 1 then .ok (ofInt power)
      else
        let (num, den) := ((Decimal.finite false d p).fraction?).getD (1, 1)
        let num := num.natAbs
        let places := c.precision + extraPlaces + digitCount d
        let unit := Nat.pow 10 places
        let isSmall := num < den
        let n := if isSmall then logUnits unit den num else logUnits unit num den
        ofUnits c isSmall (n * unit / logUnits unit 10 1) places
  | none, _ => .error invalid

/-- The exponential of a fraction, with all digits of the context. -/
def expOf (c : Context) (num : Int) (den : Nat) : Result :=
  if 3000000 < num.natAbs / den then
    if num < 0 then .ok (.finite false 0 (minPower - c.precision + 1)) else .error overflow
  else
    let growth := num.natAbs / den
    let places := c.precision + extraPlaces + (if num < 0 then growth else 0)
    let unit := Nat.pow 10 places
    let e := expUnits unit (num.natAbs * unit / den)
    if num < 0 then ofUnits c false (unit * unit / e) places else ofUnits c false e places

def exponential (c : Context) (x : Decimal) : Result :=
  match unclear [x], x with
  | some r, _ => r
  | none, .infinite false => .ok x
  | none, .infinite true => .ok (.finite false 0 0)
  | none, x =>
    match x.fraction? with
    | some (num, den) => if num = 0 then .ok (ofInt 1) else expOf c num den
    | none => .error invalid

def padded (c : Context) : Decimal → Decimal
  | .finite s d p =>
    let missing := c.precision - digitCount d
    .finite s (d * Nat.pow 10 missing) (p - missing)
  | x => x

def power (c : Context) (x y : Decimal) : Result :=
  match unclear [x, y] with
  | some r => if x == ofInt 1 && !isNan x then .ok x else if isZero y && y == y then r else r
  | none =>
    let exponent := y.whole?
    let isOdd := (exponent.map fun n => n % 2 = 1 || n % 2 = -1).getD false
    let s := isMinus x && isOdd
    match x, y with
    | .finite sx d p, .finite sy e _ =>
      if e = 0 then (if d = 0 then .error invalid else .ok (ofInt 1))
      else if d = 0 then
        if sy then .ok (.infinite s)
        else .ok (.finite s 0 0)
      else match exponent with
      | some n =>
        let k := n.natAbs
        /- Powers that have far too many digits are rounded on the way. -/
        let wide : Context := { c with precision := c.precision + 20 + digitCount k, rounding := .halfEven }
        let rec go : Nat → Nat → Decimal → Decimal → Result
          | 0, _, _, acc => .ok acc
          | m + 1, k, base, acc =>
            if k = 0 then .ok acc
            else do
              let acc ← if k % 2 = 1 then multiply wide acc base else pure acc
              let base ← if k / 2 = 0 then pure base else multiply wide base base
              go m (k / 2) base acc
        let positive : Result := go (k.log2 + 2) k (.finite false d p) (ofInt 1)
        do
          let r ← positive
          let r ← if n < 0 then divide c (ofInt 1) r else plus c r
          return if s then negated r else r
      | none =>
        if sx then .error invalid
        else do
          let wide : Context := { c with precision := c.precision + 24 }
          let r ← exponential wide (← multiply wide y (← log wide (.finite false d p)))
          /- A result that is whole up to the last places is exact. -/
          return padded c (← plus { c with rounding := .halfEven } r)
    | .infinite sx, .finite sy e _ =>
      if e = 0 then .ok (ofInt 1)
      else if sx && exponent.isNone then .error invalid
      else .ok (if sy then .finite s 0 0 else .infinite s)
    | .finite sx d p, .infinite sy =>
      if sx && d ≠ 0 then .error invalid
      else
        let isLarge : Bool := match (Decimal.finite false d p).fraction? with
          | some (num, den) => den < num.natAbs
          | none => false
        if x.fraction? == some (1, 1) then .ok (padded c (ofInt 1))
        else .ok (if isLarge != sy then .infinite false else .finite false 0 0)
    | _, _ => .error invalid

def quantize (c : Context) (r : Rounding) (x y : Decimal) : Result :=
  match unclear [x, y], x, y with
  | some t, _, _ => t
  | none, .finite s d p, .finite _ _ q =>
    let ds := rescaled r s d p q
    if c.precision < digitCount ds || maxPower < top ds q then .error invalid else .ok (.finite s ds q)
  | none, .infinite _, .infinite _ => .ok x
  | none, _, _ => .error invalid

def integral (r : Rounding) : Decimal → Decimal
  | .finite s d p => if 0 ≤ p then .finite s d p else .finite s (rescaled r s d p 0) 0
  | x => x

def normalized (c : Context) (x : Decimal) : Result := do
  match ← fitted c x with
  | .finite s d p =>
    if d = 0 then return .finite s 0 0
    else
      let (d, p) := stripped (digitCount d) d p maxPower
      return .finite s d p
  | x => return x

def ofText? (s : String) : Option Decimal :=
  let cs := s.toList.filter (· != '_')
  let (isNegative, cs) := match cs with
    | '-' :: rest => (true, rest)
    | '+' :: rest => (false, rest)
    | _ => (false, cs)
  let word := String.ofList (cs.map Char.toLower)
  if word == "inf" || word == "infinity" then some (.infinite isNegative)
  else if word == "nan" then some (.nan false)
  else if word == "snan" then some (.nan true)
  else
    let whole := cs.takeWhile Char.isDigit
    let rest := cs.drop whole.length
    let (places, rest) := match rest with
      | '.' :: rest =>
        let ds := rest.takeWhile Char.isDigit
        (ds, rest.drop ds.length)
      | _ => ([], rest)
    let valueOf (ds : List Char) : Nat := ds.foldl (fun n c => n * 10 + (c.toNat - 48)) 0
    let power : Option Int := match rest with
      | [] => some 0
      | e :: rest =>
        if e != 'e' && e != 'E' then none
        else
          let (isMinus, ds) := match rest with
            | '-' :: rest => (true, rest)
            | '+' :: rest => (false, rest)
            | _ => (false, rest)
          if ds.isEmpty || !ds.all Char.isDigit then none
          else some (let n : Int := valueOf ds; if isMinus then -n else n)
    if whole.isEmpty && places.isEmpty then none
    else power.map fun p => .finite isNegative (valueOf (whole ++ places)) (p - places.length)

def signedText (n : Int) : String := if n < 0 then toString n else "+" ++ toString n

def pointed (ds : List Char) (place : Int) : List Char × List Char :=
  if place < 0 then (['0'], List.replicate (-place).toNat '0' ++ ds)
  else if ds.length < place then (ds ++ List.replicate (place - ds.length).toNat '0', [])
  else
    let whole := ds.take place.toNat
    (if whole.isEmpty then ['0'] else whole, ds.drop place.toNat)

def text : Decimal → String
  | .infinite s => (if s then "-" else "") ++ "Infinity"
  | .nan s => if s then "sNaN" else "NaN"
  | .finite s d p =>
    let ds := (toString d).toList
    let left := p + ds.length
    let place := if p ≤ 0 && -6 < left then left else 1
    let (whole, rest) := pointed ds place
    (if s then "-" else "") ++ String.ofList whole ++
      (if rest.isEmpty then "" else "." ++ String.ofList rest) ++
      (if left = place then "" else "E" ++ signedText (left - place))

/-- Compares two numbers; there is no order if one is not a number. -/
def order? (x y : Decimal) : Option Ordering :=
  match x, y with
  | .nan _, _ | _, .nan _ => none
  | .infinite s, .infinite t => some (compare t.toNat s.toNat)
  | .infinite s, _ => some (if s then .lt else .gt)
  | _, .infinite t => some (if t then .gt else .lt)
  | .finite s d p, .finite t e q =>
    let low := min p q
    let a : Int := d * Nat.pow 10 (p - low).toNat
    let b : Int := e * Nat.pow 10 (q - low).toNat
    some (compare (if s then -a else a) (if t then -b else b))

end Decimal

end PartitionTest.Shell.Objects
