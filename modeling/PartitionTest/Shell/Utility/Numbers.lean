import PartitionTest.Shell.Regex.Posix
import PartitionTest.Shell.Utility.Lines

/-! Programs that compute. -/
namespace PartitionTest.Shell.Utility

open Machine Quotation

/-- A decimal number: its digits as a whole number, and how many of them stand
behind the point. -/
structure Decimal where
  digits : Int
  places : Nat

namespace Decimal

def ofText? (text : String) : Option Decimal :=
  let (negative, cs) := match text.toList with
    | '-' :: cs => (true, cs)
    | '+' :: cs | cs => (false, cs)
  let whole := cs.takeWhile Char.isDigit
  let (fraction, rest) := match cs.drop whole.length with
    | '.' :: rest => (rest.takeWhile Char.isDigit, rest.dropWhile Char.isDigit)
    | rest => ([], rest)
  let n : Int := Format.naturalOf (whole ++ fraction)
  let n := if negative then -n else n
  let power? : Option Int := match rest with
    | [] => some 0
    | e :: rest => if e = 'e' || e = 'E' then (String.ofList (if rest.head? == some '+' then
        rest.tail else rest)).toInt? else none
  match power? with
  | none => none
  | some power =>
    if whole.isEmpty && fraction.isEmpty then none
    else if power ≤ fraction.length then some ⟨n, (fraction.length - power).toNat⟩
    else some ⟨n * Nat.pow 10 (Int.toNat (power - fraction.length)), 0⟩

def widen (d : Decimal) (places : Nat) : Decimal :=
  ⟨d.digits * Nat.pow 10 (places - d.places), Nat.max d.places places⟩

def toText (d : Decimal) (places : Nat) : String :=
  let cs := Nat.toDigits 10 d.digits.natAbs
  let cs := List.replicate (places + 1 - cs.length) '0' ++ cs
  let front := cs.length - places
  String.ofList ((if d.digits < 0 then ['-'] else []) ++ cs.take front ++
    (if places = 0 then [] else '.' :: cs.drop front))

def padded (d : Decimal) (places width : Nat) : String :=
  let cs := (d.toText places).toList
  let (sign, cs) := if d.digits < 0 then (['-'], cs.drop 1) else ([], cs)
  String.ofList (sign ++ List.replicate (width - sign.length - cs.length) '0' ++ cs)

end Decimal

def protectNumbers : List String → List String
  | [] => []
  | arg :: rest =>
    match arg.toList with
    | '-' :: c :: _ =>
      if arg == "--" then arg :: rest
      else if c.isDigit || c = '.' then "--" :: arg :: rest
      else if arg == "-s" || arg == "-f" then
        match rest with
        | value :: rest => arg :: value :: protectNumbers rest
        | [] => [arg]
      else arg :: protectNumbers rest
    | _ => arg :: rest

def seqValues (first step last : Int) : List Int :=
  if step = 0 then []
  else
    let count := ((last - first) / step + 1).toNat
    (List.range count).map fun (i : Nat) => first + step * i

def maxListed : Nat := 2000000

def seq : Program := fun name args =>
  withOptions { flags := "w", valued := "sf", strict := true, long := [("separator", 's'),
    ("equal-width", 'w'), ("format", 'f')] } 1 (fun name o => do
    let wrong (text : String) := misused name ("invalid floating point argument: " ++ quoted text) 1
    match o.operands with
    | [] => misused name "missing operand" 1
    | _ :: _ :: _ :: extra :: _ => misused name ("extra operand " ++ quoted extra) 1
    | texts =>
      match texts.find? fun text => (Decimal.ofText? text).isNone with
      | some bad => wrong bad
      | none =>
        let given := texts.filterMap Decimal.ofText?
        let (first, step, last) : Decimal × Decimal × Decimal := match given with
          | [last] => (⟨1, 0⟩, ⟨1, 0⟩, last)
          | [first, last] => (first, ⟨1, 0⟩, last)
          | first :: step :: last :: _ => (first, step, last)
          | [] => (⟨1, 0⟩, ⟨1, 0⟩, ⟨0, 0⟩)
        if step.digits = 0 then
          misused name ("invalid Zero increment value: " ++ quoted ((texts[1]?).getD "")) 1
        else
          let places := Nat.max first.places step.places
          let scale := Nat.max places last.places
          let value (d : Decimal) := (d.widen scale).digits
          let count := (value last - value first) / value step + 1
          let glue := (o.value? 's').getD "\n"
          if maxListed < count.toNat then
            /- So long a sequence is only ever read in part. -/
            putForever name (String.intercalate glue
              ((List.range 1000).map fun (i : Nat) => toString (first.digits + step.digits * i)) ++ glue)
            return 0
          else
            let lowest := Int.toNat (Int.pow 10 (scale - places))
            let values := (seqValues (value first) (value step) (value last)).map fun n =>
              Decimal.mk (n / lowest) places
            let width := (values.map fun d => (d.toText places).length).foldl Nat.max 0
            let width := Nat.max width (((last.widen places).toText (Nat.max places last.places)).length
              - (last.places - places) - (if places = 0 && 0 < last.places then 1 else 0))
            let text (d : Decimal) : String := match o.value? 'f' with
              | some format => (Format.print .bare format [d.toText places]).text
              | none => if o.has 'w' then d.padded places width else d.toText places
            put name (if values.isEmpty then "" else String.intercalate glue (values.map text) ++ "\n")
            return 0) name (protectNumbers args)

inductive ExprFault where
  | missing
  | missingAfter (arg : String)
  | unexpected (arg : String)
  | unclosed (before : String)
  | expectedInstead (found : String)
  | notInteger
  | divisionByZero
  | pattern (reason : String)

def ExprFault.message : ExprFault → String
  | .missing => "syntax error: missing argument"
  | .missingAfter arg => "syntax error: missing argument after " ++ quoted arg
  | .unexpected arg => "syntax error: unexpected argument " ++ quoted arg
  | .unclosed before => "syntax error: expecting ')' after " ++ quoted before
  | .expectedInstead found => "syntax error: expecting ')' instead of " ++ quoted found
  | .notInteger => "non-integer argument"
  | .divisionByZero => "division by zero"
  | .pattern reason => reason

abbrev ExprRead := StateT (List String × List String) (Except ExprFault)

namespace ExprRead

def next? : ExprRead (Option String) := do return (← get).2.head?

def take : ExprRead String := do
  match ← get with
  | (seen, arg :: rest) =>
    set (arg :: seen, rest)
    return arg
  | (last :: _, []) => throw (.missingAfter last)
  | ([], []) => throw .missing

def integer (s : String) : ExprRead Int :=
  let (negative, cs) := match s.toList with
    | '-' :: cs => (true, cs)
    | cs => (false, cs)
  if cs.isEmpty || !cs.all Char.isDigit then throw .notInteger
  else
    let n : Int := Format.naturalOf cs
    return if negative then -n else n

def isInteger (s : String) : Bool :=
  let cs := if s.startsWith "-" then s.toList.drop 1 else s.toList
  !cs.isEmpty && cs.all Char.isDigit

def isFalse (s : String) : Bool :=
  s.isEmpty || (isInteger s && s.toList.all fun c => c = '-' || c = '0')

def matched (text pattern : String) : ExprRead String := do
  match Regex.parse { extended := false, emptyRanges := true } (Wide.wide pattern.toList) with
  | .error fault => throw (.pattern fault.message)
  | .ok (r, parts) =>
    match r.longestAt? false (fun _ => true) (.ofText (Wide.wide text.toList)) with
    | none => return if parts = 0 then "0" else ""
    | some m =>
      return if parts = 0 then toString m.text.length
        else String.ofList (Wide.narrow ((m.part? 1).getD []))

def compared (op a b : String) : Bool :=
  let order := match isInteger a && isInteger b, a.toInt?, b.toInt? with
    | true, some a, some b => compare a b
    | _, _, _ => compare a b
  match op with
  | "<" => order == .lt
  | "<=" => order != .gt
  | "=" | "==" => order == .eq
  | "!=" => order != .eq
  | ">=" => order != .lt
  | _ => order == .gt

def combine (op a b : String) : ExprRead String := do
  match op with
  | "|" => return if !isFalse a then a else if !isFalse b then b else "0"
  | "&" => return if isFalse a || isFalse b then "0" else a
  | "+" => return toString ((← integer a) + (← integer b))
  | "-" => return toString ((← integer a) - (← integer b))
  | "*" => return toString ((← integer a) * (← integer b))
  | "/" | "%" =>
    let a ← integer a
    let b ← integer b
    if b = 0 then throw .divisionByZero
    return toString (if op == "/" then Int.tdiv a b else Int.tmod a b)
  | ":" => matched a b
  | _ => return if compared op a b then "1" else "0"

def ranks : List (List String) :=
  [["|"], ["&"], ["<", "<=", "=", "==", "!=", ">=", ">"], ["+", "-"], ["*", "/", "%"], [":"]]

def primary (whole : ExprRead String) : Nat → ExprRead String
  | 0 => throw .missing
  | n + 1 => do
    let arg ← take
    match arg with
    | "+" => take
    | "(" =>
      let value ← whole
      match ← get with
      | (seen, ")" :: rest) =>
        set (")" :: seen, rest)
        return value
      | (_, found :: _) => throw (.expectedInstead found)
      | (seen, []) => throw (.unclosed (seen.headD ""))
    | ")" => throw (.unexpected ")")
    | "length" =>
      let s ← primary whole n
      return toString (Wide.wide s.toList).length
    | "match" =>
      let text ← primary whole n
      matched text (← primary whole n)
    | "index" =>
      let text ← primary whole n
      let set ← primary whole n
      return toString (((Wide.wide text.toList).findIdx? (Wide.wide set.toList).contains).map (· + 1) |>.getD 0)
    | "substr" =>
      let text ← primary whole n
      let first ← primary whole n
      let length ← primary whole n
      match first.toInt?, length.toInt? with
      | some i, some l =>
        return if i ≤ 0 || l ≤ 0 then ""
          else String.ofList (Wide.narrow (((Wide.wide text.toList).drop (i.toNat - 1)).take l.toNat))
      | _, _ => return ""
    | _ => return arg

def chain (ops : List String) (operand : ExprRead String) : Nat → String → ExprRead String
  | 0, a => return a
  | n + 1, a => do
    match ← next? with
    | some op =>
      if ops.contains op then
        let _ ← take
        let b ← operand
        chain ops operand n (← combine op a b)
      else return a
    | none => return a

def level (whole : ExprRead String) (size : Nat) : List (List String) → ExprRead String
  | [] => primary whole size
  | ops :: stronger => do
    let a ← level whole size stronger
    chain ops (level whole size stronger) size a

def expression (size : Nat) : Nat → ExprRead String
  | 0 => throw .missing
  | n + 1 => level (expression size n) size ranks

end ExprRead

def exprValue (args : List String) : Except ExprFault String := do
  let size := args.length + 1
  let (value, _, rest) ← (ExprRead.expression size size).run ([], args)
  match rest with
  | [] => return value
  | arg :: _ => throw (.unexpected arg)

def expr : Program := fun name args => do
  let args := if args.head? == some "--" then args.tail else args
  if args.isEmpty then misused name "missing operand" 2
  else match exprValue args with
  | .error e => fail name e.message 2
  | .ok value =>
    if let some e ← write 1 (value ++ "\n") then fail name ("write error: " ++ e.reason) 3
    else return if ExprRead.isFalse value then 1 else 0

/-- Divisors from one on that are tried one after the other, and what is left. -/
def smallFactors : Nat → Nat → Nat → List Nat × Nat
  | 0, _, n => ([], n)
  | fuel + 1, d, n =>
    if n < d * d then ([], n)
    else if n % d = 0 then
      let (found, left) := smallFactors fuel d (n / d)
      (d :: found, left)
    else smallFactors fuel (d + 1) n

def powerModulo (m : Nat) : Nat → Nat → Nat → Nat → Nat
  | 0, _, _, found => found
  | fuel + 1, base, exponent, found =>
    if exponent = 0 then found
    else powerModulo m fuel (base * base % m) (exponent / 2) (if exponent % 2 = 1 then found * base % m else found)

def reachesMinusOne (n : Nat) : Nat → Nat → Bool
  | 0, _ => false
  | k + 1, x => x = n - 1 || reachesMinusOne n k (x * x % n)

/-- Whether a number passes as a prime for one base: `d` is odd and times a
power of two one less than the number. -/
def passes (n d twos base : Nat) : Bool :=
  let x := powerModulo n (Nat.log2 n + 1) (base % n) d 1
  base % n = 0 || x = 1 || reachesMinusOne n twos x

def halved : Nat → Nat → Nat × Nat
  | 0, n => (n, 0)
  | fuel + 1, n =>
    if n % 2 = 0 then
      let (d, k) := halved fuel (n / 2)
      (d, k + 1)
    else (n, 0)

/-- Whether an odd number beyond the small ones is prime. The bases decide it
for all numbers of a machine word. -/
def isPrime (n : Nat) : Bool :=
  let (d, twos) := halved (Nat.log2 n + 1) (n - 1)
  [2, 3, 5, 7, 11, 13, 17, 19, 23, 29, 31, 37, 41, 43, 47, 53].all (passes n d twos)

/-- Follows a sequence modulo a number at one speed and at twice the speed,
until their difference shares a divisor with the number. -/
def cycleDivisor (n c : Nat) : Nat → Nat → Nat → Nat
  | 0, _, _ => n
  | fuel + 1, x, y =>
    let step (x : Nat) : Nat := (x * x + c) % n
    let x := step x
    let y := step (step y)
    let d := Nat.gcd (if x < y then y - x else x - y) n
    if d = 1 then cycleDivisor n c fuel x y else d

/-- A divisor of a number that is no prime, trying sequences one after the other. -/
def someDivisor (n : Nat) : Nat → Nat → Nat
  | 0, _ => n
  | fuel + 1, c =>
    let d := cycleDivisor n c 2000000 2 2
    if d = n then someDivisor n fuel (c + 1) else d

def largeFactors : Nat → Nat → List Nat
  | 0, n => [n]
  | fuel + 1, n =>
    if n ≤ 1 then []
    else if isPrime n then [n]
    else
      let d := someDivisor n 20 1
      if d = n then [n] else largeFactors fuel d ++ largeFactors fuel (n / d)

def factors (n : Nat) : List Nat :=
  let (small, left) := smallFactors 5000 2 n
  small ++ (if left < 5000 * 5000 then (if 1 < left then [left] else [])
    else (largeFactors (Nat.log2 left + 1) left).mergeSort)

/-- A number as an operand: blanks and a sign may stand before its digits. -/
def natural? (arg : String) : Option Nat :=
  let cs := arg.toList.dropWhile (· = ' ')
  let cs := if cs.head? == some '+' then cs.drop 1 else cs
  if !cs.isEmpty && cs.all Char.isDigit then some (Format.naturalOf cs) else none

def factor : Program :=
  withOptions {} 1 fun name o => do
    let given ← if o.operands.isEmpty then
        match ← readAll (← channel 0) with
        | .ok cs => pure (((Text.split isBlank cs).filter fun w => !w.isEmpty).map String.ofList)
        | .error _ => pure []
      else pure o.operands
    given.foldlM (fun status arg => do
      match natural? arg with
      | some n =>
        put name (toString n ++ ":" ++ String.join ((if n = 0 then [] else factors n).map fun p =>
          " " ++ toString p) ++ "\n")
        return status
      | none => fail name (quoted arg ++ " is not a valid positive integer") 1) 0

end PartitionTest.Shell.Utility
