import PartitionTest.Shell.Number
import PartitionTest.Shell.Records.Script

/-! Values of the language and how they turn into each other. -/
namespace PartitionTest.Shell.Records

inductive Value where
  /-- Nothing was assigned; it counts as zero and as the empty text. -/
  | nothing
  | number (x : Float)
  | text (s : String)
  /-- A text from outside, which counts as a number where it looks like one. -/
  | input (s : String)
deriving Inhabited

namespace Value

def leadingNumber (s : String) : Float := ((Number.read s.toList).map (·.1)).getD 0.0

def isBlank (c : Char) : Bool := c = ' ' || ('\t' ≤ c && c ≤ '\x0d')

def numeric? (s : String) : Option Float :=
  let cs := ((s.toList.dropWhile isBlank).reverse.dropWhile isBlank).reverse
  match cs.head?, cs.getLast? with
  | some first, some last =>
    if (last.isDigit || last = '.') && (first.isDigit || "+-.".toList.contains first) then
      match Number.read cs with
      | some (x, []) => some x
      | _ => none
    else none
  | _, _ => none

def toNumber : Value → Float
  | nothing => 0.0
  | number x => x
  | text s | input s => leadingNumber s

def maxWord : Int := Int64.maxValue.toInt

/-- A machine word with a sign; what does not fit stops at the bounds. -/
def toWord (x : Float) : Int :=
  match Number.toInt? x with
  | some n => if maxWord ≤ n then maxWord else if n < -maxWord - 1 then -maxWord else n
  | none => if x.isNaN then -maxWord - 1 else if x < 0.0 then -maxWord else maxWord

def toUnsigned (x : Float) : Nat :=
  if x < 0.0 || x.isNaN then ((toWord x) % (UInt64.size : Int)).toNat
  else match Number.toInt? x with
  | some n => Nat.min n.toNat (UInt64.size - 1)
  | none => UInt64.size - 1

def toHalf (x : Float) : Int :=
  let most : Int := Int32.maxValue.toInt
  match Number.toInt? x with
  | some n => if most ≤ n then most else if -most < n then n else -most
  | none => if x.isNaN || x < 0.0 then -most else most

def toUnsignedHalf (x : Float) : Nat :=
  let most : Int := UInt32.size - 1
  match Number.toInt? x with
  | some n => if most ≤ n then most.toNat else if -most < n then (n % (UInt32.size : Int)).toNat else 1
  | none => if x.isNaN || x < 0.0 then 1 else most.toNat

def wholeText? (x : Float) : Option String :=
  if 0.0 ≤ x then
    let n := toUnsigned x
    if Number.ofInt n == x then some (toString n) else none
  else
    let n := toWord x
    if Number.ofInt n == x then some (toString n) else none

def isTrue : Value → Bool
  | nothing => false
  | number x => x != 0.0
  | text s => !s.isEmpty
  | input s => match numeric? s with
    | some x => x != 0.0
    | none => !s.isEmpty

def asNumber? : Value → Option Float
  | nothing => some 0.0
  | number x => some x
  | text _ => none
  | input s => numeric? s

def ofBool (b : Bool) : Value := number (if b then 1.0 else 0.0)

def compareTexts (a b : String) : Ordering := compareOfLessAndEq a b

def compare (op : Comparison) (format : Float → String) (a b : Value) : Bool :=
  match asNumber? a, asNumber? b with
  | some x, some y =>
    match op with
    | .equal => x == y
    | .unequal => x != y
    | .less => x < y
    | .lessEqual => x ≤ y
    | .greater => x > y
    | .greaterEqual => x ≥ y
  | _, _ =>
    let words (v : Value) : String := match v with
      | nothing => ""
      | number x => format x
      | text s | input s => s
    let order := compareTexts (words a) (words b)
    match op with
    | .equal => order == .eq
    | .unequal => order != .eq
    | .less => order == .lt
    | .lessEqual => order != .gt
    | .greater => order == .gt
    | .greaterEqual => order != .lt

def arith (op : Arithmetic) (x y : Float) : Float :=
  match op with
  | .add => x + y
  | .subtract => x - y
  | .multiply => x * y
  | .divide => x / y
  | .remainder => Number.remainder x y
  | .power => Float.pow x y

end Value

end PartitionTest.Shell.Records
