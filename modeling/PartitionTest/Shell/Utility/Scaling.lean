import PartitionTest.Shell.Number
import PartitionTest.Shell.Utility.Characters

/-! Numbers with letters for large units: `1.5K` and the like. Values have 64
binary digits, as many as a wide machine number, and each step rounds to them. -/
namespace PartitionTest.Shell.Utility.Scaling

open Machine Quotation
open Json (Binary64)

structure Value where
  num : Int
  den : Nat
deriving DecidableEq, Repr, Inhabited

namespace Value

def precision : Nat := 64

/-- The nearest value to a fraction; of two that are equally near the even one. -/
def ofFraction (num : Int) (den : Nat) : Value :=
  let a := num.natAbs
  if a = 0 then ⟨0, 1⟩
  else
    let shift : Int := (a.log2 : Int) - (den.log2 : Int) - precision
    /- One digit more than needed is cut off behind the last one, if there is one. -/
    let digits (shift : Int) : Nat :=
      if 0 ≤ shift then Binary64.divNearest a (den <<< shift.toNat)
      else Binary64.divNearest (a <<< (-shift).toNat) den
    let shift := if 1 <<< precision ≤ digits shift then shift + 1 else shift
    let n : Int := digits shift
    let n := if num < 0 then -n else n
    if 0 ≤ shift then ⟨n * (1 <<< shift.toNat : Nat), 1⟩ else ⟨n, 1 <<< (-shift).toNat⟩

def ofInt (n : Int) : Value := ofFraction n 1

def times (v : Value) (n : Nat) : Value := ofFraction (v.num * n) v.den

def dividedBy (v : Value) (n : Nat) : Value := ofFraction v.num (v.den * n)

def add (v w : Value) : Value := ofFraction (v.num * w.den + w.num * v.den) (v.den * w.den)

def negate (v : Value) : Value := { v with num := -v.num }

def reaches (v : Value) (n : Nat) : Bool := n * v.den ≤ v.num.natAbs

/-- Divides by a base until the value is less than it, and counts. -/
def reduced (base : Nat) : Nat → Value → Nat → Value × Nat
  | 0, v, power => (v, power)
  | n + 1, v, power => if v.reaches base then reduced base n (v.dividedBy base) (power + 1) else (v, power)

def maxPower : Nat := 5000

def text (places : Nat) (v : Value) : String :=
  let ds := Nat.toDigits 10 (Binary64.divNearest (v.num.natAbs * Nat.pow 10 places) v.den)
  let ds := List.replicate (places + 1 - ds.length) '0' ++ ds
  let front := ds.length - places
  (if v.num < 0 then "-" else "") ++ String.ofList (ds.take front ++ if places = 0 then [] else '.' :: ds.drop front)

def brief (v : Value) : String := Number.general 6 (Number.ofFraction (v.num < 0) v.num.natAbs v.den)

end Value

inductive Rounding where
  | up
  | down
  | fromZero
  | towardsZero
  | nearest
deriving DecidableEq, Repr, Inhabited

def Rounding.apply (r : Rounding) (v : Value) : Value :=
  let floor := Int.fdiv v.num v.den
  let ceiling := -Int.fdiv (-v.num) v.den
  let isNegative := v.num < 0
  .ofInt (match r with
    | .up => ceiling
    | .down => floor
    | .fromZero => if isNegative then floor else ceiling
    | .towardsZero => if isNegative then ceiling else floor
    | .nearest =>
      let n : Int := (2 * v.num.natAbs + v.den) / (2 * v.den)
      if isNegative then -n else n)

inductive Scale where
  | none
  | auto
  | si
  | iec
  | iecMarked
deriving DecidableEq, Repr, Inhabited

def Scale.base : Scale → Nat
  | .iec | .iecMarked => 1024
  | _ => 1000

/-- The letters of units; each is as many times the one before as the base. -/
def letters : List Char := ['K', 'M', 'G', 'T', 'P', 'E', 'Z', 'Y']

inductive Fault where
  | overflow
  | number
  | forbidden
  | suffix
  | unmarked
  /-- Something behind the unit. -/
  | behind (rest : List Char)
deriving DecidableEq, Repr, Inhabited

def Fault.message (text : String) : Fault → String
  | overflow => "value too large to be converted: " ++ quoted text
  | number => "invalid number: " ++ quoted text
  | forbidden => "rejecting suffix in input: " ++ quoted text ++ " (consider using --from)"
  | suffix => "invalid suffix in input: " ++ quoted text
  | unmarked => "missing 'i' suffix in input: " ++ quoted text ++ " (e.g Ki/Mi/Gi)"
  | behind rest => "invalid suffix in input " ++ quoted text ++ ": " ++ quoted (String.ofList rest)

def maxDigits : Nat := 27

def readWhole (cs : List Char) : Except Fault (Bool × Value × List Char) :=
  let (isNegative, cs) := match cs with
    | '-' :: rest => (true, rest)
    | _ => (false, cs)
  let digits := cs.takeWhile Char.isDigit
  let rest := cs.drop digits.length
  if maxDigits < (digits.dropWhile (· == '0')).length then .error .overflow
  else if digits.isEmpty && rest.head? != some '.' then .error .number
  else
    let v := digits.foldl (fun (v : Value) c => (v.times 10).add (.ofInt (c.toNat - '0'.toNat : Nat))) (.ofInt 0)
    .ok (isNegative, if isNegative then v.negate else v, rest)

/-- A number with a point perhaps, how many digits are behind it, and what follows. -/
def readNumber (cs : List Char) : Except Fault (Value × Nat × List Char) := do
  let (isNegative, v, rest) ← readWhole cs
  match rest with
  | '.' :: behind =>
    let (fractionNegative, fraction, rest) ← readWhole behind
    if fractionNegative then throw .number
    let places := behind.length - rest.length
    let fraction := fraction.dividedBy (Nat.pow 10 places)
    return (v.add (if isNegative then fraction.negate else fraction), places, rest)
  | _ => return (v, 0, rest)

/-- A number with its unit, and how many digits are behind the point if it has none. -/
def read (source : Scale) (cs : List Char) : Except Fault (Value × Nat) := do
  let (v, places, rest) ← readNumber cs
  if rest.isEmpty then
    if source = .iecMarked then throw .unmarked
    return (v, places)
  else
    let rest := rest.dropWhile isBlank
    match rest with
    | [] => throw .suffix
    | c :: rest =>
      match letters.findIdx? (· == c) with
      | none => throw .suffix
      | some i =>
        if source = .none then throw .forbidden
        let isMarked := rest.head? == some 'i'
        let base := if source = .auto && isMarked then 1024 else source.base
        if source = .iecMarked && !isMarked then throw .unmarked
        let rest := if isMarked && (source = .auto || source = .iecMarked) then rest.drop 1 else rest
        if !rest.isEmpty then throw (.behind rest)
        return (v.times (Nat.pow base (i + 1)), 0)

structure Layout where
  scale : Scale := .none
  rounding : Rounding := .fromZero
  /-- How many digits are behind the point, if that is said. -/
  places : Option Nat := none
  zeros : Nat := 0
  lead : String := ""
  tail : String := ""
  suffix : String := ""
  unit : Nat := 1

def Layout.rounded (l : Layout) (places : Nat) (v : Value) : Value :=
  (l.rounding.apply (v.times (Nat.pow 10 places))).dividedBy (Nat.pow 10 places)

def Layout.filled (l : Layout) (tail text : String) : String :=
  let cs := text.toList
  let (sign, cs) := if cs.head? == some '-' then (['-'], cs.drop 1) else ([], cs)
  String.ofList (sign ++ List.replicate (l.zeros - sign.length - cs.length) '0' ++ cs) ++ tail

def Layout.text (l : Layout) (places : Nat) (v : Value) : String :=
  if l.scale = .none then l.filled "" ((l.rounded places v).text places)
  else
    let base := l.scale.base
    let (v, power) := Value.reduced base Value.maxPower v 0
    let own := match l.places with
      | some places => Nat.min (power * 3) places
      | none => if v.reaches 10 then 0 else 1
    let v := l.rounded own v
    let (v, power) := if v.reaches base then (v.dividedBy base, power + 1) else (v, power)
    let shown := l.places.getD (if v.num != 0 && !v.reaches 10 && 0 < power then 1 else 0)
    let letter := if power = 0 then "" else ((letters[power - 1]?).map String.singleton).getD "(error)"
    l.filled (letter ++ if l.scale = .iecMarked && 0 < power then "i" else "") (v.text shown)

def maxPlain : Nat := 18

def Layout.write (l : Layout) (places : Nat) (v : Value) : Except String String :=
  let places := l.places.getD places
  let (_, digits) := Value.reduced 10 Value.maxPower v 0
  if l.scale = .none && maxPlain < digits + places then
    .error (if places = 0 then "value too large to be printed: '" ++ v.brief ++ "' (consider using --to)"
      else "value/precision too large to be printed: '" ++ v.brief ++ "/" ++ toString places ++
        "' (consider using --to)")
  else if maxDigits - 1 < digits then
    .error ("value too large to be printed: '" ++ v.brief ++ "' (cannot handle values > 999Y)")
  else .ok (l.text places v ++ l.suffix)

def signedNumber (cs : List Char) : Option Int × List Char :=
  let lead := cs.takeWhile isBlank
  let rest := cs.drop lead.length
  let (isNegative, body) := match rest with
    | '-' :: more => (true, more)
    | '+' :: more => (false, more)
    | _ => (false, rest)
  let digits := body.takeWhile Char.isDigit
  if digits.isEmpty then (none, cs)
  else
    let n : Int := Format.naturalOf digits
    (some (if isNegative then -n else n), body.drop digits.length)

/-- Blanks, zeros and quotes in front of a width; whether there was a zero and a quote. -/
def formatFlags : Nat → Bool × Bool → List Char → (Bool × Bool) × List Char
  | 0, found, cs => (found, cs)
  | n + 1, (zero, grouped), cs =>
    let rest := cs.dropWhile (· == ' ')
    match rest with
    | '\'' :: more => formatFlags n (zero, true) more
    | '0' :: more => formatFlags n (true, grouped) more
    | _ => if rest.length < cs.length then formatFlags n (zero, grouped) rest else ((zero, grouped), rest)

/-- The place of the first directive, and how many signs are in front of it. -/
def directive : List Char → Option (Nat × List Char)
  | [] => none
  | '%' :: '%' :: rest => (directive rest).map fun (n, rest) => (n + 1, rest)
  | '%' :: rest => some (0, rest)
  | _ :: rest => (directive rest).map fun (n, rest) => (n + 1, rest)

def readFormat (text : String) (l : Layout) : Except String (Layout × Option Int × Bool) := do
  let shown := quoted text
  match directive text.toList with
  | none => throw ("format " ++ shown ++ " has no % directive")
  | some (size, rest) =>
    let ((zero, grouped), rest) := formatFlags (rest.length + 1) (false, false) rest
    let (pad, rest) := signedNumber rest
    let pad := pad.filter (· != 0)
    if rest.isEmpty then throw ("format " ++ shown ++ " ends in %")
    let (places, rest) ← match rest with
      | '.' :: more =>
        let bad := more.head?.any fun c => isBlank c || c = '+'
        match signedNumber more with
        | (some n, rest) =>
          if n < 0 || bad then throw ("invalid precision in format " ++ shown)
          pure (some n.toNat, rest)
        | (none, rest) =>
          if bad then throw ("invalid precision in format " ++ shown)
          pure (some 0, rest)
      | _ => pure (none, rest)
    match rest with
    | 'f' :: tail =>
      if (directive tail).isSome then throw ("format " ++ shown ++ " has too many % directives")
      let isZeros := zero && pad.any (0 < ·)
      return ({ l with
        places, zeros := if isZeros then (pad.getD 0).toNat else 0
        lead := String.ofList (text.toList.take size), tail := String.ofList tail },
        if isZeros then none else pad, grouped)
    | _ => throw ("invalid format " ++ shown ++ ", directive must be %[0]['][-][N][.][N]f")

inductive Strictness where
  | abort
  | fail
  | warn
  | ignore
deriving DecidableEq, Repr, Inhabited

structure Task where
  name : String
  source : Scale
  sourceUnit : Nat
  layout : Layout
  /-- The width of numbers; to the left if it is negative. -/
  width : Option Int
  fields : List Span
  delimiter : Option Char
  mark : Char
  strictness : Strictness

def aligned (width : Int) (text : String) : String :=
  let space := String.ofList (List.replicate (width.natAbs - text.length) ' ')
  if width < 0 then text ++ space else space ++ text

def fieldsOf (delimiter : Option Char) : Nat → List Char → List (List Char)
  | 0, cs => [cs]
  | n + 1, cs =>
    let own := match delimiter with
      | some d => cs.takeWhile (· != d)
      | none =>
        let lead := cs.takeWhile isBlank
        lead ++ (cs.drop lead.length).takeWhile (!isBlank ·)
    match cs.drop own.length with
    | [] => [own]
    | _ :: rest => own :: fieldsOf delimiter n rest

def Task.field (t : Task) (number : Nat) (text : List Char) : Except String String :=
  let suffix := t.layout.suffix.toList
  let text :=
    if !suffix.isEmpty && suffix.length < text.length && suffix.reverse.isPrefixOf text.reverse then
      text.take (text.length - suffix.length)
    else text
  let bare := text.dropWhile isBlank
  let width : Int :=
    match t.width, t.delimiter with
    | some w, _ => w
    | none, none => if bare.length < text.length || 1 < number then text.length else 0
    | none, some _ => 0
  match read t.source bare with
  | .error f => .error (f.message (String.ofList bare))
  | .ok (v, places) =>
    let v := if t.sourceUnit = 1 && t.layout.unit = 1 then v else (v.times t.sourceUnit).dividedBy t.layout.unit
    (t.layout.write places v).map fun s => t.layout.lead ++ aligned width s ++ t.layout.tail

def Task.line (t : Task) (text : List Char) (isEnded : Bool) : Run Bool := do
  let between := String.singleton (t.delimiter.getD ' ')
  let fields := fieldsOf t.delimiter (text.length + 1) text
  let good ← (fields.mapIdx fun i f => (i + 1, f)).mapM fun (number, f) => do
    if 1 < number then put t.name between
    if t.fields.any (·.contains number) then
      match t.field number f with
      | .ok s =>
        put t.name s
        return true
      | .error reason =>
        if t.strictness != .ignore then say t.name reason
        if t.strictness = .abort then throw (.exit 2)
        put t.name (String.ofList f)
        return false
    else
      put t.name (String.ofList f)
      return true
  if isEnded then put t.name (String.singleton t.mark)
  return good.all id

def usage : Usage :=
  { flags := "zĀā", valued := "dĂăĄąĆćĈĉĊċ", optional := "Č",
    long := [("from", 'Ă'), ("from-unit", 'ă'), ("to", 'Ą'), ("to-unit", 'ą'), ("round", 'Ć'),
      ("padding", 'ć'), ("suffix", 'Ĉ'), ("grouping", 'Ā'), ("delimiter", 'd'), ("field", 'ĉ'),
      ("debug", 'ā'), ("header", 'Č'), ("format", 'Ċ'), ("invalid", 'ċ'), ("zero-terminated", 'z')] }

def scales : List (String × Scale) :=
  [("none", .none), ("auto", .auto), ("si", .si), ("iec", .iec), ("iec-i", .iecMarked)]

def roundings : List (String × Rounding) :=
  [("up", .up), ("down", .down), ("from-zero", .fromZero), ("towards-zero", .towardsZero), ("nearest", .nearest)]

def strictnesses : List (String × Strictness) :=
  [("abort", .abort), ("fail", .fail), ("warn", .warn), ("ignore", .ignore)]

/-- The word of an option, which may be cut short, or what is said about it. -/
def choice (option : String) (words : List (String × α)) (given : Option String) (missing : α) : Except String α :=
  match given with
  | none => .ok missing
  | some s =>
    match words.lookup s, words.filter fun w => w.1.startsWith s with
    | some a, _ => .ok a
    | none, [(_, a)] => .ok a
    | none, found => .error ((if found.isEmpty then "invalid argument " else "ambiguous argument ") ++ quoted s ++
        " for " ++ quoted ("--" ++ option) ++ "\nValid arguments are:" ++
        String.join (words.map fun w => "\n  - " ++ quoted w.1))

def unitSize? (s : String) : Option Nat :=
  let cs := s.toList
  let digits := cs.takeWhile Char.isDigit
  let n := Format.naturalOf digits
  let factor : Option Nat := match cs.drop digits.length with
    | [] => some 1
    | c :: rest => (letters.findIdx? (· == c)).bind fun i => match rest with
        | [] => some (Nat.pow 1000 (i + 1))
        | ['i'] => some (Nat.pow 1024 (i + 1))
        | _ => none
  match factor with
  | some k => if digits.isEmpty || n = 0 || Nat.pow 2 64 ≤ n * k then none else some (n * k)
  | none => none

/-- What is wrong with the options, and whether it is told how the program is used. -/
structure Complaint where
  reason : String
  isMisuse : Bool := false

def taskOf (name : String) (o : Options) : Except Complaint (Task × Nat) := do
  let word {α : Type} (option : String) (words : List (String × α)) (letter : Char) (missing : α) :
      Except Complaint α := (choice option words (o.value? letter) missing).mapError (⟨·, true⟩)
  let plain {α : Type} (reason : String) : Except Complaint α := .error { reason }
  let source ← word "from" scales 'Ă' .none
  let scale ← word "to" (scales.filter (·.2 != .auto)) 'Ą' .none
  let rounding ← word "round" roundings 'Ć' .fromZero
  let strictness ← word "invalid" strictnesses 'ċ' .abort
  let unit (letter : Char) : Except Complaint Nat :=
    match o.value? letter with
    | none => .ok 1
    | some s => match unitSize? s with
      | some n => .ok n
      | none => plain ("invalid unit size: " ++ quoted s)
  let sourceUnit ← unit 'ă'
  let unit ← unit 'ą'
  let width : Option Int ← match o.value? 'ć' with
    | none => pure none
    | some s => match signedNumber s.toList with
      | (some n, []) => if n = 0 then plain ("invalid padding value " ++ quoted s) else pure (some n)
      | _ => plain ("invalid padding value " ++ quoted s)
  if 1 < (o.values 'ĉ').length then throw ⟨"multiple field specifications", false⟩
  let fields ← match o.value? 'ĉ' with
    | none => pure [⟨1, some 1⟩]
    | some "-" => pure [⟨1, none⟩]
    | some s => (spans true s).mapError (⟨·, true⟩)
  let delimiter ← match (o.value? 'd').map String.toList with
    | none => pure none
    | some [] => pure (some (Char.ofNat 0))
    | some [c] => pure (some c)
    | some _ => plain "the delimiter must be a single character"
  let header ← match o.value? 'Č' with
    | none => pure 0
    | some "" => pure 1
    | some s =>
      let n := Format.naturalOf s.toList
      if s.toList.all Char.isDigit && n != 0 then pure n else plain ("invalid header value " ++ quoted s)
  let layout : Layout := { scale, rounding, suffix := (o.value? 'Ĉ').getD "", unit }
  if (o.value? 'Ċ').isSome && o.has 'Ā' then plain "--grouping cannot be combined with --format"
  let (layout, width, grouped) ← match o.value? 'Ċ' with
    | none => pure (layout, width, o.has 'Ā')
    | some f => do
      let (layout, own, grouped) ← (readFormat f layout).mapError fun reason => { reason }
      pure (layout, own.orElse fun _ => width, grouped)
  if grouped && scale != .none then plain "grouping cannot be combined with --to"
  return ({
    name, source, sourceUnit, layout, width, fields, delimiter, strictness
    mark := if o.has 'z' then Char.ofNat 0 else '\n' }, header)

end Scaling

open Machine Scaling

def numfmt : Program :=
  withOptions usage 1 fun name o => do
    match taskOf name o with
    | .error c => if c.isMisuse then misused name c.reason 1 else fail name c.reason 1
    | .ok (task, header) =>
      if o.has 'ā' && task.source = .none && task.layout.scale = .none && task.width.isNone &&
          (o.value? 'Ċ').isNone && !o.has 'Ā' then
        say name "no conversion option specified"
      let lines ← if o.operands.isEmpty then do
          let cs := ((← contents "-").toOption).getD []
          let (texts, isEnded) := linesWith task.mark cs
          let last := texts.length - 1
          let all := if cs.isEmpty then [] else texts.mapIdx fun i text => (text, i < last || isEnded)
          (all.take header).forM fun (text, ended) =>
            put name (String.ofList (if ended then text ++ [task.mark] else text))
          pure (all.drop header)
        else pure (o.operands.map fun arg => (arg.toList, true))
      let good ← lines.mapM fun (text, ended) => task.line text ended
      if good.all id then return 0
      if o.has 'ā' then say name "failed to convert some of the input numbers"
      return if task.strictness = .warn || task.strictness = .ignore then 0 else 2

end PartitionTest.Shell.Utility
