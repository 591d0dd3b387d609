import PartitionTest.Shell.Objects.Layouts

/-! Functions of numbers. -/
namespace PartitionTest.Shell.Objects.Mathematics

open Memory Shown
open Operations (intArgument)

def names : List String := [
  "sqrt", "floor", "ceil", "trunc", "exp", "log", "log2", "log10", "sin", "cos", "tan", "atan", "atan2",
  "asin", "acos", "sinh", "cosh", "tanh", "pow", "fabs", "fmod", "gcd", "lcm", "factorial", "isqrt", "isnan",
  "isinf", "isfinite", "comb", "perm", "prod", "hypot", "degrees", "radians", "copysign", "fsum", "dist",
  "ldexp", "frexp", "modf", "log1p", "expm1", "cbrt", "exp2", "isclose", "remainder", "asinh", "acosh", "atanh",
  "nextafter", "ulp", "gamma", "lgamma", "erf", "erfc", "sumprod"]

def realArgument (r : Running) (v : Value) : Eval Float := do
  match ← Layouts.numberOf? r v with
  | some (.complex _ _) | none => typeError ("must be real number, not " ++ (← kindName v))
  | some n => checked n.toFloat

def factorial : Nat → Nat → Nat
  | 0, acc => acc
  | n + 1, acc => factorial n (acc * (n + 1))

def exactSum (xs : List Float) : Float :=
  let (num, den) := xs.foldl (fun (acc : Int × Nat) x =>
    match Numbers.fraction? x with
    | some (p, q) =>
      /- All numbers below are powers of two. -/
      let den := Nat.max acc.2 q
      (acc.1 * (den / acc.2 : Nat) + p * (den / q : Nat), den)
    | none => acc) (0, 1)
  match xs.find? fun x => !Numbers.isFinite x with
  | some x => x
  | none => Number.ofFraction (num < 0) num.natAbs den

def neighbour (x y : Float) : Float :=
  if x.isNaN || y.isNaN then 0.0 / 0.0
  else if x == y then y
  else if x == 0.0 then (if y < 0.0 then Float.ofBits 0x8000000000000001 else Float.ofBits 1)
  else
    let bits := x.toBits
    let outward := (x < y) == (0.0 < x)
    Float.ofBits (if outward then bits + 1 else bits - 1)

def gammaSeries : List Float := [
  0.99999999999980993, 676.5203681218851, -1259.1392167224028, 771.32342877765313, -176.61502916214059,
  12.507343278686905, -0.13857109526572012, 9.9843695780195716e-6, 1.5056327351493116e-7]

def gamma (x : Float) : Float :=
  let body (x : Float) : Float :=
    let x := x - 1.0
    let t := x + 7.5
    let (s, _) := gammaSeries.tail.foldl (fun (s, i) c => (s + c / (x + i), i + 1.0)) (gammaSeries.headD 1.0, 1.0)
    2.5066282746310002 * Float.pow t (x + 0.5) * (-t).exp * s
  if x.floor == x && 0.0 < x && x < 24.0 then Number.ofInt (factorial (x.toUInt64.toNat - 1) 1)
  else if x < 0.5 then 3.141592653589793 / ((3.141592653589793 * x).sin * body (1.0 - x))
  else body x

def rootBelow (n : Nat) : Nat := Decimal.rootBelow n

def isClose (x y relative least : Float) : Bool :=
  x == y || (Numbers.isFinite x && Numbers.isFinite y &&
    ((x - y).abs ≤ relative * x.abs || (x - y).abs ≤ relative * y.abs || (x - y).abs ≤ least))

/-- The part of a number below one and the power of two that it is multiplied by. -/
def parted (x : Float) : Float × Int :=
  if x == 0.0 || !Numbers.isFinite x then (x, 0)
  else match Numbers.fraction? x with
  | some (num, den) =>
    let e : Int := (num.natAbs.log2 : Int) - den.log2 + 1
    let up := Nat.pow 2 (-e).toNat
    let down := Nat.pow 2 e.toNat
    (Number.ofFraction (num < 0) (num.natAbs * up) (den * down), e)
  | none => (x, 0)

def function (r : Running) (name : String) (args : List Value) (named : List (String × Value)) : Eval Value := do
  let arg (i : Nat) : Value := (args[i]?).getD .nothing
  let number (i : Nat) : Eval Float := realArgument r (arg i)
  let real (f : Float → Float) : Eval Value := do
    let x ← number 0
    let y := f x
    if y.isNaN && !x.isNaN then valueError "math domain error"
    if y.isInf && Numbers.isFinite x then fail "OverflowError" "math range error"
    return .float y
  let domain (isIn : Float → Bool) (f : Float → Float) : Eval Value := do
    let x ← number 0
    if !x.isNaN && !isIn x then valueError "math domain error"
    real f
  let whole (special : String) (f : Float → Float) (ratio : Int → Int → Int) : Eval Value := do
    match ← r.special? (arg 0) special [] with
    | some w => return w
    | none =>
      match ← Operations.num? (arg 0) with
      | some (.int n) => return .int n
      | some (.fraction n d) => return .int (ratio n d)
      | some (.decimal d) =>
        match d.fraction? with
        | some (n, m) => return .int (ratio n m)
        | none => return .int (← checked (Numbers.truncated (f (← number 0))))
      | _ => return .int (← checked (Numbers.truncated (f (← number 0))))
  /- Logarithms of whole numbers that are too large for machine numbers. -/
  let logarithm (v : Value) (f : Float → Float) (ofTwo : Float) : Eval Float := do
    match ← Operations.index? r v with
    | some n =>
      if n ≤ 0 then valueError "math domain error"
      let e := n.toNat.log2
      if 1000 < e then
        let top := Number.ofFraction false n.toNat (Nat.pow 2 e)
        return f top + ofTwo * Number.ofInt e
      else return f (Number.ofInt n)
    | none =>
      let x ← realArgument r v
      if x ≤ 0.0 then valueError "math domain error"
      return f x
  let natural (i : Nat) : Eval Nat := do
    let v := arg i
    let n ← match v with
      | .float _ => typeError "'float' object cannot be interpreted as an integer"
      | v => intArgument r v
    if n < 0 then valueError (if name == "isqrt" then "isqrt() argument must be nonnegative"
      else if name == "factorial" then "factorial() not defined for negative values"
      else (if i = 0 then "n" else "k") ++ " must be a non-negative integer")
    return n.toNat
  let option (key : String) (missing : Float) : Eval Float :=
    ((named.lookup key).map (realArgument r)).getD (pure missing)
  match name with
  | "sqrt" => domain (0.0 ≤ ·) Float.sqrt
  | "floor" => whole "__floor__" Float.floor Int.fdiv
  | "ceil" => whole "__ceil__" Float.ceil fun a b => -(Int.fdiv (-a) b)
  | "trunc" => whole "__trunc__" (fun x => x) Int.tdiv
  | "exp" => real Float.exp
  | "exp2" => real fun x => Float.pow 2.0 x
  | "expm1" => real fun x => if x.abs < 1e-5 then x + x * x / 2.0 + x * x * x / 6.0 else x.exp - 1.0
  | "log" =>
    let x ← logarithm (arg 0) Float.log 0.6931471805599453
    match args[1]? with
    | none => return .float x
    | some b =>
      let y ← logarithm b Float.log 0.6931471805599453
      if y == 0.0 then fail "ZeroDivisionError" "float division by zero"
      return .float (x / y)
  | "log1p" =>
    domain (-1.0 < ·) fun x =>
      let u := 1.0 + x
      if u == 1.0 then x else u.log * x / (u - 1.0)
  | "log2" => return .float (← logarithm (arg 0) Float.log2 1.0)
  | "log10" => return .float (← logarithm (arg 0) Float.log10 0.3010299956639812)
  | "sin" => real Float.sin
  | "cos" => real Float.cos
  | "tan" => real Float.tan
  | "asin" => domain (fun x => x.abs ≤ 1.0) Float.asin
  | "acos" => domain (fun x => x.abs ≤ 1.0) Float.acos
  | "atan" => real Float.atan
  | "sinh" => real Float.sinh
  | "cosh" => real Float.cosh
  | "tanh" => real Float.tanh
  | "asinh" => real Float.asinh
  | "acosh" => domain (1.0 ≤ ·) Float.acosh
  | "atanh" => domain (fun x => x.abs < 1.0) Float.atanh
  | "cbrt" => real Float.cbrt
  | "fabs" => real Float.abs
  | "gamma" => domain (fun x => 0.0 < x || x.floor != x) gamma
  | "lgamma" => real fun x => (gamma x).abs.log
  | "degrees" => real fun x => x * (180.0 / 3.141592653589793)
  | "radians" => real fun x => x * (3.141592653589793 / 180.0)
  | "atan2" => return .float (Float.atan2 (← number 0) (← number 1))
  | "pow" =>
    let x ← number 0
    let y ← number 1
    if x < 0.0 && Numbers.isFinite x && Numbers.isFinite y && y.floor != y then valueError "math domain error"
    if x == 0.0 && y < 0.0 && Numbers.isFinite y then valueError "math domain error"
    let z := Float.pow x y
    if z.isInf && Numbers.isFinite x && Numbers.isFinite y then fail "OverflowError" "math range error"
    return .float z
  | "fmod" =>
    let x ← number 0
    let y ← number 1
    if (y == 0.0 && !x.isNaN) || (x.isInf && !y.isNaN) then valueError "math domain error"
    return .float (Number.remainder x y)
  | "remainder" =>
    let x ← number 0
    let y ← number 1
    match Numbers.fraction? x, Numbers.fraction? y with
    | some (a, b), some (c, d) =>
      if c = 0 then valueError "math domain error"
      let n := Numbers.nearest (a * d * c.sign) (b * c.natAbs)
      let p := a * d - n * c * b
      return .float (Number.ofFraction (p < 0 || (p = 0 && Number.isNegative x)) p.natAbs (b * d))
    | _, _ => return .float (if y.isInf && !x.isNaN && !x.isInf then x else 0.0 / 0.0)
  | "hypot" | "dist" =>
    let xs ← if name == "hypot" then args.mapM (realArgument r)
      else do
        let p ← (← r.items (arg 0)).mapM (realArgument r)
        let q ← (← r.items (arg 1)).mapM (realArgument r)
        if p.length != q.length then valueError "both points must have the same number of dimensions"
        pure ((p.zip q).map fun (x, y) => x - y)
    /- The root of the exact sum of squares. -/
    match xs.mapM Numbers.fraction? with
    | some fs =>
      let (num, den) := fs.foldl (fun (acc : Nat × Nat) (p, q) =>
        let den := Nat.max acc.2 (q * q)
        (acc.1 * (den / acc.2) + p.natAbs * p.natAbs * (den / (q * q)), den)) (0, 1)
      let scale := Nat.pow 2 130
      return .float (Number.ofFraction false (rootBelow (num * den * scale * scale)) (den * scale))
    | none => return .float (if xs.any Float.isInf then 1.0 / 0.0 else 0.0 / 0.0)
  | "copysign" =>
    let x := (← number 0).abs
    return .float (if Number.isNegative (← number 1) then -x else x)
  | "nextafter" => return .float (neighbour (← number 0) (← number 1))
  | "ulp" =>
    let x := (← number 0).abs
    return .float (if Numbers.isFinite x then neighbour x (1.0 / 0.0) - x else x)
  | "isnan" => return .bool (← number 0).isNaN
  | "isinf" => return .bool (← number 0).isInf
  | "isfinite" => return .bool (Numbers.isFinite (← number 0))
  | "isclose" =>
    return .bool (isClose (← number 0) (← number 1) (← option "rel_tol" 1e-9) (← option "abs_tol" 0.0))
  | "gcd" => return .int ((← args.mapM (intArgument r)).foldl (fun g n => Nat.gcd g n.natAbs) 0 : Nat)
  | "lcm" => return .int ((← args.mapM (intArgument r)).foldl (fun g n => Nat.lcm g n.natAbs) 1 : Nat)
  | "factorial" => return .int (factorial (← natural 0) 1)
  | "isqrt" => return .int (rootBelow (← natural 0))
  | "comb" | "perm" =>
    let n ← natural 0
    let k ← match arg 1 with
      | .nothing => if name == "perm" then pure n else natural 1
      | _ => natural 1
    if n < k then return .int 0
    let k := if name == "comb" then min k (n - k) else k
    let falling := (List.range k).foldl (fun p i => p * (n - i)) 1
    return .int (if name == "perm" then falling else falling / factorial k 1 : Nat)
  | "prod" =>
    (← r.items (arg 0)).foldlM (Operations.arith r .multiply false) ((named.lookup "start").getD (.int 1))
  | "fsum" => return .float (exactSum (← (← r.items (arg 0)).mapM (realArgument r)))
  | "ldexp" =>
    let e ← intArgument r (arg 1)
    match Numbers.fraction? (← number 0) with
    | some (num, den) =>
      if num = 0 || e < -5000 then return .float (if num < 0 then -0.0 else 0.0)
      let y := Number.ofFraction (num < 0) (num.natAbs * Nat.pow 2 e.toNat) (den * Nat.pow 2 (-e).toNat)
      if y.isInf then fail "OverflowError" "math range error"
      return .float y
    | none => return .float (← number 0)
  | "frexp" =>
    let (m, e) := parted (← number 0)
    return .tuple [.float m, .int e]
  | "modf" =>
    let x ← number 0
    if x.isInf then return .tuple [.float (if x < 0.0 then -0.0 else 0.0), .float x]
    let t := if x < 0.0 then x.ceil else x.floor
    let rest := x - t
    return .tuple [.float (if rest == 0.0 && Number.isNegative x then -0.0 else rest), .float t]
  | _ => return .nothing

def planeFunction (name : String) (args : List Value) : Eval Value := do
  let plane (v : Value) : Eval (Float × Float) := do
    match ← Operations.num? v with
    | some (.complex x y) => return (x, y)
    | some n => return (← checked n.toFloat, 0.0)
    | none => typeError ("must be complex number, not " ++ (← kindName v))
  let (x, y) ← plane ((args[0]?).getD .nothing)
  let size := (x * x + y * y).sqrt
  match name with
  | "phase" => return .float (Float.atan2 y x)
  | "polar" => return .tuple [.float size, .float (Float.atan2 y x)]
  | "rect" =>
    let (angle, _) ← plane ((args[1]?).getD .nothing)
    return .complex (x * angle.cos) (x * angle.sin)
  | "exp" => return .complex (x.exp * y.cos) (x.exp * y.sin)
  | _ =>
    /- The root whose first part is not negative. -/
    if x == 0.0 && y == 0.0 then return .complex 0.0 y
    let s := ((x.abs + size) / 2.0).sqrt
    let d := y.abs / (2.0 * s)
    return if 0.0 ≤ x then .complex s (if Number.isNegative y then -d else d)
      else .complex d (if Number.isNegative y then -s else s)

end PartitionTest.Shell.Objects.Mathematics
