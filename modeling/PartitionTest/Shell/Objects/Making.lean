import PartitionTest.Shell.Objects.Methods

/-! Making values of kinds that are always there. -/
namespace PartitionTest.Shell.Objects.Making

open Memory Shown
open Operations (intArgument)

def byName (r : Running) (v : Value) (names : List String) : Eval (Option Value) := do
  match v with
  | .object _ => names.findSomeM? fun name => r.special? v name []
  | _ => return none

def int (r : Running) (args : List Value) (named : List (String × Value)) : Eval Value := do
  let base ← ((args[1]?).orElse fun _ => named.lookup "base").mapM (intArgument r)
  let read (s shownText : String) : Eval Value := do
    let b := base.getD 10
    let digits := s.toList.filter Char.isDigit
    if b != 0 && (b < 2 || 36 < b) then valueError "int() base must be >= 2 and <= 36, or 0"
    if Numbers.maxDigits < digits.length && b == 10 then
      valueError ("Exceeds the limit (" ++ toString Numbers.maxDigits ++ " digits) for integer string conversion: " ++
        "value has " ++ toString digits.length ++ " digits; use sys.set_int_max_str_digits() to increase the limit")
    match Numbers.readInt b.toNat s with
    | some n => return .int n
    | none => valueError ("invalid literal for int() with base " ++ toString b ++ ": " ++ shownText)
  match args with
  | [] => return .int 0
  | v :: _ =>
    if let some w ← byName r v ["__int__", "__index__", "__trunc__"] then
      match w.whole? with
      | some n => return .int n
      | none => typeError ("__int__ returned non-int (type " ++ (← kindName w) ++ ")")
    match ← core v with
    | .text s => read s (quoted false s)
    | .bytes s => read s ("b" ++ quoted true s)
    | w =>
      if base.isSome then typeError "int() can't convert non-string with explicit base"
      match w with
      | .float x => return .int (← checked (Numbers.truncated x))
      | .fraction n d => return .int (n.tdiv d)
      | .decimal d =>
        match d, d.fraction? with
        | _, some (n, m) => return .int (n.tdiv m)
        | .infinite _, none => fail "OverflowError" "cannot convert Infinity to integer"
        | _, none => valueError "cannot convert NaN to integer"
      | w =>
        match w.whole? with
        | some n => return .int n
        | none =>
          typeError ("int() argument must be a string, a bytes-like object or a real number, not '" ++
            (← kindName v) ++ "'")

def float (r : Running) (args : List Value) : Eval Value := do
  match args with
  | [] => return .float 0.0
  | v :: _ =>
    if let some w ← byName r v ["__float__", "__index__"] then
      match w with
      | .float x => return .float x
      | .int n => return .float (← checked (Numbers.toFloat n))
      | w => typeError ((← kindName v) ++ ".__float__ returned non-float (type " ++ (← kindName w) ++ ")")
    match ← core v with
    | .text s | .bytes s =>
      match Numbers.readFloat s with
      | some x => return .float x
      | none => valueError ("could not convert string to float: " ++ (← shown r.own maxDepth v))
    | w =>
      match w.num? with
      | some (.complex _ _) | none =>
        typeError ("float() argument must be a string or a real number, not '" ++ (← kindName v) ++ "'")
      | some n => return .float (← checked n.toFloat)

def readPlane? (s : String) : Option (Float × Float) :=
  let cs := Numbers.trimmed s.toList
  let cs := match cs with
    | '(' :: rest => Numbers.trimmed (rest.take (rest.length - 1))
    | _ => cs
  let number (cs : List Char) : Option Float :=
    match cs with
    | [] | ['+'] => some 1.0
    | ['-'] => some (-1.0)
    | cs => Numbers.readFloat (String.ofList cs)
  match cs.getLast? with
  | some j =>
    if j != 'j' && j != 'J' then (Numbers.readFloat (String.ofList cs)).map fun x => (x, 0.0)
    else
      let body := cs.dropLast
      /- The last sign that does not belong to a power divides the parts. -/
      let places := (List.range body.length).filter fun i =>
        i != 0 && (body[i]? == some '+' || body[i]? == some '-') && body[i - 1]? != some 'e' && body[i - 1]? != some 'E'
      match places.getLast? with
      | some i => do
        let x ← Numbers.readFloat (String.ofList (body.take i))
        let y ← number (body.drop i)
        return (x, y)
      | none => (number body).map fun y => (0.0, y)
  | none => none

def complex (r : Running) (args : List Value) (named : List (String × Value)) : Eval Value := do
  let arg (i : Nat) (key : String) : Value := ((args[i]?).orElse fun _ => named.lookup key).getD (.int 0)
  match arg 0 "real" with
  | .text s =>
    match readPlane? s with
    | some (x, y) => return .complex x y
    | none => valueError "complex() arg is a malformed string"
  | a =>
    let part (v : Value) : Eval (Float × Float) := do
      match ← Operations.num? v with
      | some (.complex x y) => return (x, y)
      | some n => return (← checked n.toFloat, 0.0)
      | none =>
        match ← byName r v ["__complex__", "__float__"] with
        | some (.complex x y) => return (x, y)
        | some (.float x) => return (x, 0.0)
        | _ => typeError ("complex() first argument must be a string or a number, not '" ++ (← kindName v) ++ "'")
    let (x, y) ← part a
    let (z, w) ← part (arg 1 "imag")
    return .complex (x - w) (y + z)

/-- A text as a fraction: two numbers, or one with a point and a power. -/
def readFraction? (s : String) : Option (Int × Int) :=
  let cs := Numbers.trimmed s.toList
  match (String.ofList cs).splitOn "/" with
  | [a, b] =>
    let isPlain (cs : List Char) : Bool := !cs.isEmpty && cs.all Char.isDigit
    let digits := match a.toList with
      | '-' :: rest | '+' :: rest => rest
      | rest => rest
    if isPlain digits && isPlain b.toList then do return (← Numbers.readInt 10 a, ← Numbers.readInt 10 b)
    else none
  | [a] =>
    match Decimal.ofText? a with
    | some d => d.fraction?.map fun (n, m) => (n, (m : Int))
    | none => none
  | _ => none

def fraction (r : Running) (args : List Value) (named : List (String × Value)) : Eval Value := do
  let arg (i : Nat) (key : String) : Option Value := (args[i]?).orElse fun _ => named.lookup key
  let exactly (n : Numbers.Num) : Eval (Int × Int) := do
    match n.fraction?, n with
    | some (p, q), _ => return (p, (q : Int))
    | none, .float x =>
      if x.isNaN then valueError "cannot convert NaN to integer ratio"
      else fail "OverflowError" "cannot convert Infinity to integer ratio"
    | none, _ => valueError "cannot convert NaN to integer ratio"
  let reduced (p q : Int) : Eval Value := Value.ofNum <$> checked (Numbers.fractionOf p q)
  match arg 0 "numerator", arg 1 "denominator" with
  | none, _ => return .fraction 0 1
  | some v, none | some v, some .nothing =>
    match ← core v with
    | .text s =>
      match readFraction? s with
      | some (p, q) => reduced p q
      | none => valueError ("Invalid literal for Fraction: " ++ quoted false s)
    | w =>
      match w.num? with
      | some n =>
        let (p, q) ← exactly n
        reduced p q
      | none => typeError "argument should be a string or a Rational instance"
  | some v, some w =>
    let isRational (n : Numbers.Num) : Bool := match n with
      | .int _ | .fraction _ _ => true
      | _ => false
    match ← Operations.num? v, ← Operations.num? w with
    | some a, some b =>
      if !isRational a || !isRational b then typeError "both arguments should be Rational instances"
      let (p, q) ← exactly a
      let (s, t) ← exactly b
      reduced (p * t) (q * s)
    | _, _ =>
      let _ := r
      typeError "both arguments should be Rational instances"

def decimal (r : Running) (args : List Value) (named : List (String × Value)) : Eval Value := do
  match (args[0]?).orElse fun _ => named.lookup "value" with
  | none => return .decimal (.ofInt 0)
  | some v =>
    match ← core v with
    | .text s =>
      match Decimal.ofText? (String.ofList (Numbers.trimmed s.toList)) with
      | some d => return .decimal d
      | none => checked (.error (Numbers.troubled ⟨"InvalidOperation", "ConversionSyntax"⟩))
    | .decimal d => return .decimal d
    | .float x =>
      match Numbers.fraction? x with
      | some (num, den) => return .decimal (.ofBinary (Number.isNegative x) num.natAbs den)
      | none => return .decimal (if x.isNaN then .nan false else .infinite (x < 0.0))
    | .tuple [s, ds, .int p] =>
      let digits ← (← r.items ds).mapM (intArgument r)
      return .decimal (.finite (s.whole? == some 1) (digits.foldl (fun n d => n * 10 + d.toNat) 0) p)
    | w =>
      match w.whole? with
      | some n => return .decimal (.ofInt n)
      | none => typeError ("conversion from " ++ (← kindName v) ++ " to Decimal is not supported")

def bytes (r : Running) (args : List Value) (named : List (String × Value)) : Eval Value := do
  let code := (args[1]?).orElse fun _ => named.lookup "encoding"
  match args with
  | [] => return .bytes ""
  | v :: _ =>
    match ← core v, code with
    | .bytes s, _ => return .bytes s
    | .text s, some (.text code) => return .bytes (← checked (Codes.encoded code "strict" s))
    | .text _, _ => typeError "string argument without an encoding"
    | w, _ =>
      match w.whole? with
      | some n =>
        if n < 0 then valueError "negative count"
        return .bytes (String.ofList (List.replicate n.toNat (Char.ofNat 0)))
      | none =>
        let items ← try r.items v
          catch
            | .raised e => match e.value with
              | .error "TypeError" _ => typeError ("cannot convert '" ++ (← kindName v) ++ "' object to bytes")
              | _ => throw (.raised e)
            | l => throw l
        let cs ← items.mapM fun v => do
          let n ← intArgument r v
          if n < 0 || 256 ≤ n then valueError "bytes must be in range(0, 256)"
          return Char.ofNat n.toNat
        return .bytes (String.ofList cs)

def range (r : Running) (args : List Value) : Eval Value := do
  let ns ← args.mapM (intArgument r)
  match ns with
  | [stop] => return .range 0 stop 1
  | [start, stop] => return .range start stop 1
  | [start, stop, step] =>
    if step = 0 then valueError "range() arg 3 must not be zero"
    return .range start stop step
  | _ => typeError ("range expected at " ++ (if ns.isEmpty then "least 1" else "most 3") ++ " argument" ++
      (if ns.isEmpty then "" else "s") ++ ", got " ++ toString ns.length)

def text (r : Running) (args : List Value) (named : List (String × Value)) : Eval Value := do
  let code := (args[1]?).orElse fun _ => named.lookup "encoding"
  let errors := (args[2]?).orElse fun _ => named.lookup "errors"
  match args, code with
  | [], _ => return .text ""
  | .bytes s :: _, some (.text code) =>
    let errors := match errors with
      | some (.text e) => e
      | _ => "strict"
    return .text (← checked (Codes.decoded code errors s))
  | [v], none => return .text (← plain r.own v)
  | _, _ => typeError "decoding str is not supported"

def reversed (r : Running) (v : Value) : Eval Value := do
  match ← r.special? v "__reversed__" [] with
  | some w => return w
  | none =>
    match ← core v with
    | .list id => return .stream (← newStream (.turned id ((← listAt id).size - 1)))
    | .set _ | .frozen _ | .stream _ => typeError ("'" ++ (← kindName v) ++ "' object is not reversible")
    | .object _ =>
      match ← special? v "__len__", ← special? v "__getitem__" with
      | some len, some get =>
        let n ← intArgument r (← r.call len [] [])
        let items ← (List.range n.toNat).reverse.mapM fun (i : Nat) => r.call get [.int i] []
        return .stream (← newStream (.items items))
      | _, _ => typeError ("'" ++ (← kindName v) ++ "' object is not reversible")
    | w =>
      match ← Operations.heldItems? w with
      | some items => return .stream (← newStream (.items items.reverse))
      | none => typeError ("'" ++ (← kindName v) ++ "' object is not reversible")

def mostArguments : List (String × Nat) := [
  ("float", 1), ("bool", 1), ("list", 1), ("tuple", 1), ("set", 1), ("frozenset", 1), ("dict", 1)]

def value (r : Running) (kind : String) (args : List Value)
    (named : List (String × Value)) : Eval Value := do
  let first : Eval (List Value) := ((args.head?).map r.items).getD (pure [])
  let arg (i : Nat) : Value := (args[i]?).getD .nothing
  if let some most := mostArguments.lookup kind then
    if most < args.length then
      typeError (kind ++ " expected at most " ++ toString most ++ " argument" ++ (if most = 1 then "" else "s") ++
        ", got " ++ toString args.length)
  match kind with
  | "int" => int r args named
  | "float" => float r args
  | "complex" => complex r args named
  | "fractions.Fraction" => fraction r args named
  | "decimal.Decimal" => decimal r args named
  | "str" => text r args named
  | "bool" => return .bool (← ((args.head?).map r.truth).getD (pure false))
  | "list" => newList (← first)
  | "tuple" => return .tuple (← first)
  | "set" =>
    match args.head? with
    | some (.set id) | some (.frozen id) => return .set (← putDict (← dictAt id))
    | _ => newSet r (← first)
  | "frozenset" =>
    match args.head? with
    | some (.set id) => return .frozen (← putDict (← dictAt id))
    | some (.frozen id) => return .frozen id
    | _ => return .frozen (← putDict (← setOf r (← first)))
  | "dict" =>
    let entries : List (Value × Value) ← ((args.head?).map (Containers.entriesOf r)).getD (pure [])
    newDict r (entries ++ named.map fun (k, v) => (Value.text k, v))
  | "bytes" => bytes r args named
  | "range" => range r args
  | "slice" =>
    match args with
    | [stop] => return .slice .nothing stop .nothing
    | _ => return .slice (arg 0) (arg 1) (arg 2)
  | "type" => Kinds.of (arg 0)
  | "enumerate" =>
    let start ← (((args[1]?).orElse fun _ => named.lookup "start").map (intArgument r)).getD (pure 0)
    return .stream (← newStream (.numbered start (← r.cursor (arg 0))))
  | "zip" =>
    let strict ← ((named.lookup "strict").map r.truth).getD (pure false)
    return .stream (← newStream (.zipped (← args.mapM r.cursor) strict))
  | "map" => return .stream (← newStream (.mapped (arg 0) (← args.tail.mapM r.cursor)))
  | "filter" => return .stream (← newStream (.filtered (arg 0) (← r.cursor (arg 1))))
  | "reversed" => reversed r (arg 0)
  | "property" =>
    let part (i : Nat) (key : String) : Value := ((args[i]?).orElse fun _ => named.lookup key).getD .nothing
    return .property (part 0 "fget") (part 1 "fset") (part 2 "fdel")
  | "staticmethod" | "classmethod" => return .marked kind (arg 0)
  | k => if isErrorKind k then return .error k args else typeError ("cannot create '" ++ k ++ "' instances")

end PartitionTest.Shell.Objects.Making
