import PartitionTest.Shell.Objects.Channels
import PartitionTest.Shell.Objects.Containers
import PartitionTest.Shell.Objects.Matching

/-! What can be done with values that are always there, by names. -/
namespace PartitionTest.Shell.Objects.Methods

open Memory Shown
open Operations (intArgument)

def intNames : List String := ["bit_length", "to_bytes", "bit_count", "conjugate", "as_integer_ratio", "from_bytes"]

def toBytes (n : Int) (size : Nat) (isLittle isSigned : Bool) : Eval Value := do
  let limit : Int := (Nat.pow 256 size : Nat)
  if n < 0 && !isSigned then fail "OverflowError" "can't convert negative int to unsigned"
  let fits := if isSigned then -limit ≤ 2 * n && 2 * n < limit else n < limit
  if !fits then fail "OverflowError" "int too big to convert"
  let m := (n % limit).toNat
  let little := (List.range size).map fun i => Char.ofNat (m / Nat.pow 256 i % 256)
  return .bytes (String.ofList (if isLittle then little else little.reverse))

def isLittle (order : Option Value) : Eval Bool := do
  match order with
  | none => return false
  | some (.text "little") => return true
  | some (.text "big") => return false
  | some _ => valueError "byteorder must be either 'little' or 'big'"

def fromBytes (r : Running) (args : List Value) (named : List (String × Value)) : Eval Value := do
  let little ← isLittle ((args[1]?).orElse fun _ => named.lookup "byteorder")
  let isSigned ← ((named.lookup "signed").map r.truth).getD (pure false)
  let digits := (← r.items (args.headD .nothing)).filterMap Value.whole?
  let n := (if little then digits.reverse else digits).foldl (fun a d => a * 256 + d) 0
  let limit : Int := (Nat.pow 256 digits.length : Nat)
  return .int (if isSigned && limit ≤ 2 * n then n - limit else n)

def int (r : Running) (n : Int) (name : String) (args : List Value) (named : List (String × Value)) :
    Eval Value := do
  match name with
  | "bit_length" => return .int (if n = 0 then 0 else n.natAbs.log2 + 1)
  | "bit_count" => return .int ((Nat.toDigits 2 n.natAbs).count '1')
  | "conjugate" => return .int n
  | "as_integer_ratio" => return .tuple [.int n, .int 1]
  | "from_bytes" => fromBytes r args named
  | _ =>
    let size := ((args[0]?).orElse fun _ => named.lookup "length").bind Value.whole?
    let little ← isLittle ((args[1]?).orElse fun _ => named.lookup "byteorder")
    let isSigned ← ((named.lookup "signed").map r.truth).getD (pure false)
    toBytes n (size.getD 1).toNat little isSigned

def floatNames : List String := ["is_integer", "as_integer_ratio", "hex", "conjugate", "fromhex"]

def hexFloat (x : Float) : String :=
  match Number.toBinary64? x with
  | none => Numbers.floatText x
  | some b =>
    let sign := if b.negative then "-" else ""
    if b.mantissa = 0 then sign ++ "0x0.0p+0"
    else
      let isFull := Json.Binary64.leastFull ≤ b.mantissa
      let rest := if isFull then b.mantissa - Json.Binary64.leastFull else b.mantissa
      sign ++ (if isFull then "0x1." else "0x0.") ++ String.ofList (hexText 13 rest) ++ "p" ++
        Decimal.signedText (if isFull then b.exponent + 52 else -1022)

def ratioOf (num : Int) (den : Nat) : Value :=
  let g := Nat.gcd num.natAbs den
  .tuple [.int (num / (g : Int)), .int (den / g : Nat)]

def float (x : Float) (name : String) : Eval Value := do
  match name with
  | "is_integer" => return .bool (Numbers.isFinite x && x.floor == x)
  | "hex" => return .text (hexFloat x)
  | "conjugate" => return .float x
  | _ =>
    match Numbers.fraction? x with
    | some (num, den) => return ratioOf num den
    | none =>
      if x.isNaN then valueError "cannot convert NaN to integer ratio"
      else fail "OverflowError" "cannot convert Infinity to integer ratio"

def fractionNames : List String := ["limit_denominator", "as_integer_ratio", "conjugate"]

def limited (num : Int) (den most : Nat) : Int × Nat :=
  if den ≤ most then (num, den) else go den num den 0 1 1 0
where
  go : Nat → Int → Nat → Int → Nat → Int → Nat → Int × Nat
    | 0, _, _, p0, q0, _, _ => (p0, q0)
    | f + 1, n, d, p0, q0, p1, q1 =>
      let a := n.fdiv d
      let q2 := q0 + a.toNat * q1
      if most < q2 || d = 0 then
        let k : Nat := (most - q0) / q1
        let (x, y) := (p0 + k * p1, q0 + k * q1)
        /- The one of two bounds that lies nearer. -/
        let distance (p : Int) (q : Nat) : Int × Nat := ((p * den - num * q).natAbs, q * den)
        let (a, b) := distance p1 q1
        let (c, e) := distance x y
        if a * e ≤ c * b then (p1, q1) else (x, y)
      else go f d (n - a * d).toNat p1 q1 (p0 + a * p1) q2

def fraction (r : Running) (num : Int) (den : Nat) (name : String) (args : List Value) : Eval Value := do
  match name with
  | "limit_denominator" =>
    let most ← ((args[0]?).map (intArgument r)).getD (pure 1000000)
    if most < 1 then valueError "max_denominator should be at least 1"
    let (p, q) := limited num den most.toNat
    return .ofNum (Numbers.reduced p q)
  | "as_integer_ratio" => return .tuple [.int num, .int den]
  | _ => return .fraction num den

def decimalNames : List String := [
  "quantize", "sqrt", "exp", "ln", "log10", "normalize", "to_integral_value", "to_integral", "to_integral_exact",
  "as_tuple", "as_integer_ratio", "is_zero", "is_nan", "is_infinite", "is_finite", "is_signed", "is_normal",
  "is_qnan", "is_snan", "copy_abs", "copy_negate", "copy_sign", "compare", "max", "min", "adjusted", "fma",
  "conjugate", "to_eng_string", "scaleb", "canonical", "remainder_near", "from_float"]

def decimalOf (v : Value) : Eval Decimal := do
  match v with
  | .decimal d => return d
  | v =>
    match v.whole? with
    | some n => return .ofInt n
    | none => typeError ("conversion from " ++ (← kindName v) ++ " to Decimal is not supported")

def roundingOf (v : Option Value) : Eval Decimal.Rounding := do
  match v with
  | none | some .nothing => return (← get).decimals.rounding
  | some (.text s) =>
    match Decimal.Rounding.all.lookup s with
    | some r => return r
    | none => typeError ("valid values for rounding are:\n  [ROUND_CEILING, ROUND_FLOOR, ROUND_UP, ROUND_DOWN,\n" ++
        "   ROUND_HALF_UP, ROUND_HALF_DOWN, ROUND_HALF_EVEN,\n   ROUND_05UP]")
  | some _ => typeError "valid values for rounding are strings"

def decimal (d : Decimal) (name : String) (args : List Value) (named : List (String × Value)) : Eval Value := do
  let c := (← get).decimals
  let arg (i : Nat) (key : String) : Option Value := (args[i]?).orElse fun _ => named.lookup key
  let other : Eval Decimal := decimalOf ((args[0]?).getD .nothing)
  let made (r : Decimal.Result) : Eval Value := Value.decimal <$> checked (Numbers.ofDecimal r)
  match name with
  | "quantize" => made (d.quantize c (← roundingOf (arg 1 "rounding")) (← decimalOf ((arg 0 "exp").getD .nothing)))
  | "sqrt" => made (d.root c)
  | "exp" => made (d.exponential c)
  | "ln" => made (d.log c)
  | "log10" => made (d.logTen c)
  | "normalize" => made (d.normalized c)
  | "to_integral_value" | "to_integral" | "to_integral_exact" =>
    return .decimal (d.integral (← roundingOf (arg 0 "rounding")))
  | "as_integer_ratio" =>
    match d.fraction? with
    | some (num, den) => return ratioOf num den
    | none =>
      if d.isNan then valueError "cannot convert NaN to integer ratio"
      else fail "OverflowError" "cannot convert Infinity to integer ratio"
  | "is_zero" => return .bool d.isZero
  | "is_nan" => return .bool d.isNan
  | "is_qnan" => return .bool (d == .nan false)
  | "is_snan" => return .bool (d == .nan true)
  | "is_infinite" => return .bool (match d with
      | .infinite _ => true
      | _ => false)
  | "is_finite" => return .bool d.fraction?.isSome
  | "is_normal" => return .bool (d.fraction?.isSome && !d.isZero)
  | "is_signed" => return .bool d.isMinus
  | "copy_abs" => return .decimal d.absolute
  | "copy_negate" => return .decimal d.negated
  | "copy_sign" => return .decimal (if d.isMinus == (← other).isMinus then d else d.negated)
  | "compare" =>
    return .decimal (match d.order? (← other) with
      | some .lt => .ofInt (-1)
      | some .eq => .ofInt 0
      | some .gt => .ofInt 1
      | none => .nan false)
  | "max" =>
    let e ← other
    return .decimal (if d.order? e == some .lt then e else d)
  | "min" =>
    let e ← other
    return .decimal (if d.order? e == some .gt then e else d)
  | "adjusted" => return .int (match d with
      | .finite _ n p => Decimal.top n p
      | _ => 0)
  | "fma" =>
    let wide := { c with precision := 2 * c.precision + 100 }
    let product ← checked (Numbers.ofDecimal (d.multiply wide (← other)))
    made (product.add c (← decimalOf ((args[1]?).getD .nothing)))
  | "scaleb" =>
    let n := ((args[0]?).bind Value.whole?).getD 0
    match d with
    | .finite s k p => made ((Decimal.finite s k (p + n)).plus c)
    | d => return .decimal d
  | "remainder_near" =>
    let e ← other
    match d.fraction?, e.fraction? with
    | some (a, b), some (p, q) =>
      if p = 0 then checked (.error (Numbers.troubled Decimal.invalid))
      let n := Numbers.nearest (a * q * p.sign) (b * p.natAbs)
      let wide := { c with precision := 2 * c.precision + 100 }
      let product ← checked (Numbers.ofDecimal ((Decimal.ofInt n).multiply wide e))
      made (d.subtract c product)
    | _, _ => checked (.error (Numbers.troubled Decimal.invalid))
  | "to_eng_string" => return .text d.text
  | "as_tuple" =>
    match d with
    | .finite s n p =>
      return .tuple [.int s.toNat, .tuple ((toString n).toList.map fun c => .int (c.toNat - 48 : Nat)), .int p]
    | d => return .tuple [.int d.isMinus.toNat, .tuple [.int 0], .text (if d.isNan then "n" else "F")]
  | _ => return .decimal d

inductive Arity where
  | none
  | one
  | between (least most : Nat)
deriving Repr, Inhabited

/-- Names of methods with how many arguments they take, where this is checked. -/
def arities (kind : String) : List (String × Arity) :=
  let noText : List String := ["upper", "lower", "casefold", "isdigit", "isdecimal", "isnumeric", "isalpha", "isalnum",
    "isspace", "isupper", "islower", "isidentifier", "istitle", "isascii", "isprintable", "title", "capitalize",
    "swapcase"]
  let oneText : List String := ["join", "removeprefix", "removesuffix", "zfill", "partition", "rpartition", "translate",
    "format_map"]
  match kind with
  | "str" | "bytes" =>
    noText.map (·, .none) ++ oneText.map (·, .one) ++ [("replace", .between 2 3), ("center", .between 1 2),
      ("ljust", .between 1 2), ("rjust", .between 1 2), ("strip", .between 0 1), ("lstrip", .between 0 1),
      ("rstrip", .between 0 1)]
  | "list" => [("append", .one), ("extend", .one), ("insert", .between 2 2), ("remove", .one),
      ("pop", .between 0 1), ("clear", .none), ("index", .between 1 3), ("count", .one), ("reverse", .none),
      ("copy", .none)]
  | "tuple" => [("index", .between 1 3), ("count", .one)]
  | "dict" => [("get", .between 1 2), ("pop", .between 1 2), ("setdefault", .between 1 2), ("popitem", .none),
      ("clear", .none), ("copy", .none), ("keys", .none), ("values", .none), ("items", .none),
      ("update", .between 0 1)]
  | "set" | "frozenset" => [("add", .one), ("remove", .one), ("discard", .one), ("pop", .none), ("clear", .none),
      ("copy", .none), ("issubset", .one), ("issuperset", .one), ("isdisjoint", .one),
      ("symmetric_difference", .one)]
  | _ => []

def checkArity (kind name : String) (count : Nat) : Eval Unit := do
  let plural (n : Nat) : String := if n = 1 then " argument" else " arguments"
  match (arities kind).lookup name with
  | some .none =>
    if count != 0 then typeError (kind ++ "." ++ name ++ "() takes no arguments (" ++ toString count ++ " given)")
  | some .one =>
    if count != 1 then
      typeError (kind ++ "." ++ name ++ "() takes exactly one argument (" ++ toString count ++ " given)")
  | some (.between least most) =>
    if count < least then
      typeError (name ++ " expected " ++ (if least = most then "" else "at least ") ++ toString least ++
        plural least ++ ", got " ++ toString count)
    if most < count then
      typeError (name ++ " expected " ++ (if least = most then "" else "at most ") ++ toString most ++ plural most ++
        ", got " ++ toString count)
  | none => pure ()

def names : Value → List String
  | .text _ => (Texts.names.filter fun s => s != "decode" && s != "hex") ++ ["maketrans"]
  | .bytes _ => (Texts.names.filter fun s => !(["encode", "format", "format_map", "casefold", "isnumeric", "isdecimal",
      "isidentifier", "isprintable"].contains s)) ++ ["fromhex", "maketrans"]
  | .list _ => Containers.listNames
  | .dict _ => Containers.dictNames
  | .set _ => Containers.setNames
  | .frozen _ => Containers.frozenNames
  | .view _ .values => []
  | .view _ _ => ["isdisjoint"]
  | .tuple _ | .range _ _ _ => ["index", "count"]
  | .int _ | .bool _ => intNames
  | .float _ => floatNames
  | .complex _ _ => ["conjugate"]
  | .fraction _ _ => fractionNames
  | .decimal _ => decimalNames
  | .slice _ _ _ => ["indices"]
  | .channel _ _ => Channels.names
  | .pattern _ => Matching.patternNames
  | .found _ => Matching.foundNames
  | .error _ _ => ["with_traceback", "add_note"]
  | _ => []

def sample? : String → Option Value
  | "str" => some (.text "")
  | "bytes" => some (.bytes "")
  | "list" => some (.list 0)
  | "dict" => some (.dict 0)
  | "set" => some (.set 0)
  | "frozenset" => some (.frozen 0)
  | "tuple" => some (.tuple [])
  | "range" => some (.range 0 0 1)
  | "int" => some (.int 0)
  | "bool" => some (.bool false)
  | "float" => some (.float 0.0)
  | "complex" => some (.complex 0.0 0.0)
  | "fractions.Fraction" => some (.fraction 0 1)
  | "decimal.Decimal" => some (.decimal default)
  | s => if isErrorKind s then some (.error s []) else none

def call (r : Running) (self : Value) (name : String) (args : List Value) (named : List (String × Value)) :
    Eval Value := do
  let v ← core self
  checkArity (← kindName v) name args.length
  match v with
  | .text s => if name == "maketrans" then Texts.table r args else Texts.call r false s name args named
  | .bytes s => Texts.call r true s name args named
  | .list id => Containers.list r id name args named
  | .dict id => Containers.dict r id name args named
  | .set id => Containers.set r id false name args
  | .frozen id => Containers.set r id true name args
  | .view id side =>
    let d ← (← Operations.asSet? r (.view id side)).getDM (pure {})
    Containers.set r (← putDict d) false name args
  | .channel n isBinary => Channels.call r n isBinary name args
  | .tuple _ | .range _ _ _ =>
    let vs := ((← Operations.heldItems? v).getD [])
    let w := (args[0]?).getD .nothing
    if name == "count" then return .int (← vs.filterM fun u => Operations.matchesItem r u w).length
    else match ← Containers.positionWithin r args vs with
    | some i => return .int i
    | none =>
      match v with
      | .tuple _ => valueError "tuple.index(x): x not in tuple"
      | _ => valueError ((← shown r.own Shown.maxDepth w) ++ " is not in range")
  | .float x => float x name
  | .complex x y => return .complex x (-y)
  | .fraction n d => fraction r n d name args
  | .decimal d => decimal d name args named
  | .slice a b c =>
    let size ← intArgument r ((args[0]?).getD .nothing)
    let bs ← Operations.boundsOf r a b c size.toNat
    return .tuple [.int bs.start, .int bs.stop, .int bs.step]
  | .pattern p => Matching.call r p name args named
  | .found m => Matching.foundCall r m name args named
  | .error _ _ => return self
  | v => int r (v.whole?.getD 0) name args named

end PartitionTest.Shell.Objects.Methods
