import PartitionTest.Json.Binary64
import PartitionTest.Shell.Arithmetic
import PartitionTest.Shell.Condition
import PartitionTest.Shell.Quotation

/-! Printing in scripts: escapes and formats. -/
namespace PartitionTest.Shell.Format

open Json (Binary64)

def escape? : Char → Option Char
  | 'a' => some '\x07'
  | 'b' => some '\x08'
  | 'e' => some '\x1b'
  | 'f' => some '\x0c'
  | 'n' => some '\n'
  | 'r' => some '\r'
  | 't' => some '\t'
  | 'v' => some '\x0b'
  | '\\' => some '\\'
  | _ => none

def isOctal (c : Char) : Bool := Arithmetic.isOctalDigit c

def octal (most : Nat) (cs : List Char) : Char × List Char :=
  let digits := (cs.take most).takeWhile isOctal
  (Char.ofNat (Arithmetic.magnitude 8 digits % 256), cs.drop digits.length)

inductive Dialect where
  /-- The shell in its own commands. -/
  | shell
  /-- The program that prints its arguments. -/
  | echo
  /-- The program that prints in a format. -/
  | printf
  /-- A program whose formats have no escapes. -/
  | bare
deriving DecidableEq, Repr, Inhabited

inductive Escape where
  | char (c : Char)
  /-- Characters that mean themselves. -/
  | text (cs : List Char)
  /-- The end of all output. -/
  | halt
  /-- Digits are missing. -/
  | unfinished

def hexDigits (most : Nat) (cs : List Char) : List Char :=
  (cs.take most).takeWhile Arithmetic.isHexDigit

/-- A code point that is written as a number; it has no bytes of its own here. -/
def codePoint (letter : Char) (size : Nat) (rest : List Char) : Escape × List Char :=
  let ds := hexDigits size rest
  if ds.length < size then (.unfinished, rest)
  else (.text ('\\' :: letter :: ds.map Char.toUpper), rest.drop size)

/-- The escape behind a backslash. In an argument a zero may stand in front of
three octal digits. -/
def escape (d : Dialect) (inArgument : Bool) (c : Char) (rest : List Char) : Escape × List Char :=
  let halts := inArgument || d = .printf
  if c = 'c' && halts then (.halt, rest)
  else match escape? c with
  | some e => (.char e, rest)
  | none =>
    if isOctal c then
      let (e, rest) := if c = '0' && inArgument then octal 3 rest else octal 3 (c :: rest)
      (.char e, rest)
    else if c = 'x' && (d = .echo || d = .printf) then
      let ds := hexDigits 2 rest
      if ds.isEmpty then (if d = .printf then (.unfinished, rest) else (.text ['\\', c], rest))
      else (.char (Char.ofNat (Arithmetic.magnitude 16 ds)), rest.drop ds.length)
    else if c = '"' && d = .printf then (.char c, rest)
    else if c = 'u' && d = .printf then codePoint c 4 rest
    else if c = 'U' && d = .printf then codePoint c 8 rest
    else (.text ['\\', c], rest)

inductive Halt where
  | asked
  | unfinished
deriving DecidableEq, Repr, Inhabited

def unescape (d : Dialect) : Nat → List Char → List Char × Option Halt
  | 0, _ | _, [] => ([], none)
  | n + 1, '\\' :: c :: rest =>
    match escape d true c rest with
    | (.halt, _) => ([], some .asked)
    | (.unfinished, _) => ([], some .unfinished)
    | (.char e, rest) =>
      let (cs, halt) := unescape d n rest
      (e :: cs, halt)
    | (.text start, rest) =>
      let (cs, halt) := unescape d n rest
      (start ++ cs, halt)
  | n + 1, c :: rest =>
    let (cs, halt) := unescape d n rest
    (c :: cs, halt)

def plainText (d : Dialect) (s : String) : String × Option Halt :=
  let (cs, halt) := unescape d (s.length + 1) s.toList
  (String.ofList cs, halt)

inductive Size where
  | absent
  | given (n : Nat)
  | argument
deriving DecidableEq, Repr, Inhabited

structure Spec where
  flags : List Char := []
  width : Size := .absent
  precision : Size := .absent
  conversion : Char
deriving Inhabited

inductive Part where
  | text (c : Char)
  | argument (s : Spec)
  /-- A specification that has no meaning. -/
  | invalid (source : String)
  /-- An escape that ends all. -/
  | halt (why : Halt)

def naturalOf (cs : List Char) : Nat := Arithmetic.magnitude 10 cs

/-- A size in front of characters, and what it is if none is written. -/
def size (cs : List Char) (missing : Size) : Size × List Char :=
  match cs with
  | '*' :: rest => (.argument, rest)
  | _ =>
    let digits := cs.takeWhile Char.isDigit
    (if digits.isEmpty then missing else .given (naturalOf digits), cs.drop digits.length)

def conversions : Dialect → List Char
  | .shell => "diouxXcsbfFeEgG".toList
  | .bare => "fFeEgGaA".toList
  | .echo | .printf => "diouxXcsbfFeEgGaAq".toList

def spec (d : Dialect) (cs : List Char) : Part × List Char :=
  let flags := cs.takeWhile "-0+ #".toList.contains
  let (width, rest) := size (cs.drop flags.length) .absent
  let (precision, rest) := match rest with
    | '.' :: rest => size rest (.given 0)
    | _ => (.absent, rest)
  let rest := if d = .shell then rest else rest.dropWhile "hlLjzt".toList.contains
  match rest with
  | [] => (.invalid (String.ofList ('%' :: cs)), [])
  | c :: rest =>
    let isBare := flags.isEmpty && width = .absent && precision = .absent
    if (conversions d).contains c && (c != 'q' || isBare) then
      (.argument ⟨flags, width, precision, c⟩, rest)
    else (.invalid (String.ofList ('%' :: cs.take (cs.length - rest.length))), [])

def parts (d : Dialect) : Nat → List Char → List Part
  | 0, _ | _, [] => []
  | n + 1, '%' :: '%' :: rest => .text '%' :: parts d n rest
  | n + 1, '%' :: rest =>
    let (part, rest) := spec d rest
    part :: parts d n rest
  | n + 1, '\\' :: c :: rest =>
    if d = .bare then .text '\\' :: parts d n (c :: rest)
    else match escape d false c rest with
    | (.char e, rest) => .text e :: parts d n rest
    | (.text cs, rest) => cs.map .text ++ parts d n rest
    | (.halt, _) => [.halt .asked]
    | (.unfinished, _) => [.halt .unfinished]
  | n + 1, c :: rest => .text c :: parts d n rest

structure Reading (α : Type) where
  value : α
  rest : List Char
  /-- Whether the number was too large. -/
  clipped : Bool := false

def skipBlanks (cs : List Char) : List Char :=
  cs.dropWhile fun c => c = ' ' || ('\t' ≤ c && c ≤ '\x0d')

def signed (cs : List Char) : Bool × List Char :=
  match skipBlanks cs with
  | '-' :: cs => (true, cs)
  | '+' :: cs | cs => (false, cs)

def digits (cs : List Char) : Option Nat × List Char :=
  match Arithmetic.numeral cs with
  | ([], _, rest) => (none, rest)
  | (ds, base, rest) => (some (Arithmetic.magnitude base ds), rest)

def whole? (low high : Int) (arg : String) : Option (Reading Int) :=
  let (negative, cs) := signed arg.toList
  match digits cs with
  | (none, _) => none
  | (some n, rest) =>
    let n : Int := if negative then -n else n
    some { value := max low (min high n), rest := rest, clipped := n < low || high < n }

/-- A number in two parts with a point between them, and how many digits the
second part has. -/
def pointed (isDigit : Char → Bool) (cs : List Char) : Option (List Char × Nat × List Char) :=
  let whole := cs.takeWhile isDigit
  let cs := cs.drop whole.length
  let (fraction, cs) := match cs with
    | '.' :: rest =>
      let ds := rest.takeWhile isDigit
      if whole.isEmpty && ds.isEmpty then ([], cs) else (ds, rest.drop ds.length)
    | _ => ([], cs)
  if whole.isEmpty && fraction.isEmpty then none
  else some (whole ++ fraction, fraction.length, cs)

def exponent (letter : Char) (cs : List Char) : Int × List Char :=
  match cs with
  | e :: rest =>
    let (down, ds) : Bool × List Char := match rest with
      | '-' :: ds => (true, ds)
      | '+' :: ds | ds => (false, ds)
    let number := ds.takeWhile Char.isDigit
    if e.toLower = letter && !number.isEmpty then
      let n : Int := naturalOf number
      (if down then -n else n, ds.drop number.length)
    else (0, cs)
  | [] => (0, [])

/-- A number as a fraction, decimal or hexadecimal, with a point and an
exponent perhaps, and what follows it. -/
def fraction? (cs : List Char) : Option ((Nat × Nat) × List Char) :=
  let read (base step : Nat) (isDigit : Char → Bool) (letter : Char) (cs : List Char) :
      Option ((Nat × Nat) × List Char) := do
    let (ds, places, cs) ← pointed isDigit cs
    let (power, cs) := exponent letter cs
    let n := Arithmetic.magnitude base ds
    let most := 6000
    let up (k : Int) : Nat := Nat.pow step (min k most).toNat
    let places := Nat.pow base places
    return (if 0 ≤ power then (n * up power, places) else (n, places * up (-power)), cs)
  match cs with
  | '0' :: x :: rest =>
    if (x = 'x' || x = 'X') then (read 16 2 Arithmetic.isHexDigit 'p' rest).orElse fun _ => some ((0, 1), x :: rest)
    else read 10 10 Char.isDigit 'e' cs
  | _ => read 10 10 Char.isDigit 'e' cs

def roundWide (negative : Bool) (num den : Nat) : Binary64 :=
  if num = 0 then ⟨negative, 0, 0⟩
  else
    let full := 1 <<< 64
    let e := (Nat.log2 num : Int) - Nat.log2 den - 64
    let e := if Binary64.divPow (num) den (e + 1) < full / 2 then e else e + 1
    let e := if full ≤ Binary64.divPow num den e then e + 1 else e
    ⟨negative, Binary64.divPow num den e, e⟩

/-- A number of a dialect: programs keep more bits than the shell. -/
def Dialect.round (d : Dialect) (negative : Bool) (num den : Nat) : Option Binary64 :=
  if d = .shell then Binary64.round negative num den else some (roundWide negative num den)

def decimal? (d : Dialect) (arg : String) : Option (Reading Binary64) := do
  let (negative, cs) := signed arg.toList
  let ((num, den), rest) ← fraction? cs
  let x ← d.round negative num den
  return { value := x, rest := rest }

def fixed (x : Binary64) (places : Nat) (point : Bool) : List Char :=
  let (num, den) := x.fraction
  let ds := Nat.toDigits 10 (Binary64.divNearest (num * Nat.pow 10 places) den)
  let ds := List.replicate (places + 1 - ds.length) '0' ++ ds
  let front := ds.length - places
  ds.take front ++ (if places = 0 && !point then [] else '.' :: ds.drop front)

/-- The first digits of a number, and the power of ten of the first one. -/
def leading (x : Binary64) (count : Nat) : List Char × Int :=
  if x.mantissa = 0 then (List.replicate count '0', 0)
  else
    let (num, den) := x.fraction
    let top := x.leadingPower
    let shift := count - 1 - top
    let n := if 0 ≤ shift then Binary64.divNearest (num * Nat.pow 10 shift.toNat) den
      else Binary64.divNearest num (den * Nat.pow 10 (-shift).toNat)
    let ds := Nat.toDigits 10 n
    if ds.length = count then (ds, top) else (ds.take count, top + 1)

def scientific (ds : List Char) (top : Int) (point : Bool) : List Char :=
  let exponent := Nat.toDigits 10 top.natAbs
  ds.take 1 ++ (if ds.length = 1 && !point then [] else '.' :: ds.drop 1) ++
    'e' :: (if top < 0 then '-' else '+') ::
    (List.replicate (2 - exponent.length) '0' ++ exponent)

def trimZeros (cs : List Char) : List Char :=
  if cs.contains '.' then
    (((cs.reverse.dropWhile (· == '0')).dropWhile (· == '.')).reverse)
  else cs

/-- A number in hexadecimal digits and an exponent of two; four bits stand
before the point. -/
def hexadecimal (x : Binary64) : List Char :=
  if x.mantissa = 0 then "0x0p+0".toList
  else
    let shift := 63 - Nat.log2 x.mantissa
    let ds := Nat.toDigits 16 (x.mantissa <<< shift)
    let power := x.exponent - shift + 60
    let more := ((ds.drop 1).reverse.dropWhile (· == '0')).reverse
    "0x".toList ++ ds.take 1 ++ (if more.isEmpty then [] else '.' :: more) ++
      'p' :: (if power < 0 then '-' else '+') :: Nat.toDigits 10 power.natAbs

def general (x : Binary64) (count : Nat) (keep : Bool) : List Char :=
  let (ds, top) := leading x count
  if -4 ≤ top && top < count then
    let cs := fixed x (count - 1 - top).toNat keep
    if keep then cs else trimZeros cs
  else
    let digits := if keep then ds else match (ds.drop 1).reverse.dropWhile (· == '0') with
      | more => ds.take 1 ++ more.reverse
    scientific digits top keep

structure Layout where
  flags : List Char
  width : Nat
  precision : Option Nat

namespace Layout

def has (l : Layout) (flag : Char) : Bool := l.flags.contains flag

def padded (l : Layout) (text : List Char) : String :=
  let fill := List.replicate (l.width - text.length) ' '
  String.ofList (if l.has '-' then text ++ fill else fill ++ text)

/-- A sign or mark and digits, perhaps with zeros between them to fill the width. -/
def number (l : Layout) (mark digits : List Char) (zeros : Bool) : String :=
  let fill := if zeros && l.has '0' && !l.has '-' then
    l.width - mark.length - digits.length else 0
  l.padded (mark ++ List.replicate fill '0' ++ digits)

def sign (l : Layout) (negative : Bool) : List Char :=
  if negative then ['-'] else if l.has '+' then ['+'] else if l.has ' ' then [' '] else []

/-- Digits of a whole number, at least as many as the precision asks for. -/
def whole (l : Layout) (mark digits : List Char) : String :=
  let least := l.precision.getD 1
  let digits := if digits == ['0'] && least = 0 then [] else digits
  l.number mark (List.replicate (least - digits.length) '0' ++ digits) l.precision.isNone

def real (l : Layout) (conversion : Char) (x : Binary64) : String :=
  let p := l.precision.getD 6
  let digits := match conversion.toLower with
    | 'f' => fixed x p (l.has '#')
    | 'e' =>
      let (ds, top) := leading x (p + 1)
      scientific ds top (l.has '#')
    | 'a' => hexadecimal x
    | _ => general x (max p 1) (l.has '#')
  let digits := if conversion.isUpper then digits.map Char.toUpper else digits
  l.number (l.sign x.negative) digits true

end Layout

inductive Flaw where
  | notNumber (arg : String)
  | incomplete (arg : String)
  | outOfRange (arg : String)
  | invalid (source : String)
  /-- An escape without its digits. -/
  | unfinished
deriving DecidableEq, Repr, Inhabited

def Flaw.message : Flaw → String
  | .invalid "%" => "missing format character"
  | .notNumber arg => arg ++ ": expected numeric value"
  | .incomplete arg => arg ++ ": not completely converted"
  | .outOfRange arg => arg ++ ": Numerical result out of range"
  | .invalid source => source ++ ": invalid directive"
  | .unfinished => "missing hexadecimal number in escape"

structure Printed where
  text : String := ""
  flaws : List Flaw := []
  /-- Whether a specification without meaning ended the printing. -/
  broken : Bool := false
  /-- Whether an escape ended it. -/
  halted : Bool := false

def Printed.complain (p : Printed) (flaw : Flaw) : Printed :=
  { p with flaws := p.flaws ++ [flaw] }

def Printed.add (p : Printed) (text : String) : Printed := { p with text := p.text ++ text }

def Printed.halt (p : Printed) : Halt → Printed
  | .asked => { p with halted := true }
  | .unfinished => { p.complain .unfinished with halted := true }

def flaw? (arg : String) (r : Option (Reading α)) : Option Flaw :=
  match r with
  | none => if arg.isEmpty then none else some (.notNumber arg)
  | some r =>
    if r.clipped then some (.outOfRange arg)
    else if r.rest.isEmpty then none else some (.incomplete arg)

def Printed.check (p : Printed) (flaw : Option Flaw) : Printed :=
  match flaw with
  | some flaw => p.complain flaw
  | none => p

def special? (arg : String) : Option (Bool × String) :=
  let (negative, cs) := signed arg.toList
  let word := String.ofList (cs.map Char.toLower)
  if word == "inf" || word == "infinity" then some (negative, "inf")
  else if word == "nan" then some (negative, "nan") else none

def argument (d : Dialect) (l : Layout) (conversion : Char) (arg : String) (p : Printed) : Printed :=
  let quoted? := match arg.toList with
    | '\'' :: c :: _ | '"' :: c :: _ => some c.toNat
    | _ => none
  match conversion with
  | 's' => p.add (l.padded (match l.precision with
    | some n => arg.toList.take n
    | none => arg.toList))
  | 'q' => p.add (if Quotation.isRisky arg then Quotation.shellQuoted arg else arg)
  | 'b' =>
    let (text, halt) := plainText d arg
    let p := p.add (l.padded text.toList)
    match halt with
    | some why => p.halt why
    | none => p
  | 'c' => p.add (l.padded (if arg.isEmpty then [Char.ofNat 0] else arg.toList.take 1))
  | 'd' | 'i' =>
    let reading : Option (Reading Int) := match quoted? with
      | some n => some { value := n, rest := [] }
      | none => whole? Int64.minValue.toInt Int64.maxValue.toInt arg
    let n := (reading.map (·.value)).getD 0
    (p.check (flaw? arg reading)).add (l.whole (l.sign (n < 0)) (Nat.toDigits 10 n.natAbs))
  | 'u' | 'o' | 'x' | 'X' =>
    let reading : Option (Reading Int) := match quoted? with
      | some n => some { value := n, rest := [] }
      | none => whole? (-UInt64.size) (UInt64.size - 1) arg
    let n := (Int.emod ((reading.map (·.value)).getD 0) UInt64.size).toNat
    let text := match conversion with
      | 'u' => l.whole [] (Nat.toDigits 10 n)
      | 'o' =>
        let ds := Nat.toDigits 8 n
        l.whole [] (if l.has '#' && ds.head? != some '0' then '0' :: ds else ds)
      | _ =>
        let text := l.whole (if l.has '#' && n != 0 then ['0', 'x'] else []) (Nat.toDigits 16 n)
        if conversion = 'X' then text.toUpper else text
    (p.check (flaw? arg reading)).add text
  | _ =>
    match special? arg with
    | some (negative, word) =>
      p.add (l.padded (l.sign negative ++
        (if conversion.isUpper then word.toUpper else word).toList))
    | none =>
      let reading := match quoted? with
        | some n => (d.round false n 1).map fun x => { value := x, rest := [] }
        | none => decimal? d arg
      let x := (reading.map (·.value)).getD ⟨false, 0, 0⟩
      (p.check (flaw? arg reading)).add (l.real conversion x)

/-- A size with the arguments left; a negative width asks for the left side. -/
def resolve (s : Size) (args : List String) : Option Int × List String :=
  match s, args with
  | .absent, _ => (none, args)
  | .given n, _ => (some n, args)
  | .argument, arg :: rest =>
    (some (((whole? Int64.minValue.toInt Int64.maxValue.toInt arg).map (·.value)).getD 0), rest)
  | .argument, [] => (some 0, [])

def round (d : Dialect) : List Part → List String → Printed → Printed × List String
  | [], args, p => (p, args)
  | .halt why :: _, args, p => (p.halt why, args)
  | .text c :: rest, args, p => round d rest args (p.add (String.singleton c))
  | .invalid source :: _, args, p =>
    ({ p.complain (.invalid source) with broken := true }, args)
  | .argument s :: rest, args, p =>
    let (width, args) := resolve s.width args
    let (precision, args) := resolve s.precision args
    let w := width.getD 0
    let l : Layout := {
      flags := if w < 0 then '-' :: s.flags else s.flags
      width := w.natAbs
      precision := precision.bind fun n => if n < 0 then none else some n.toNat }
    let p := if s.conversion = 'q' && args.isEmpty then p
      else argument d l s.conversion (args.headD "") p
    if p.halted then (p, args.tail) else round d rest args.tail p

def rounds (d : Dialect) (ps : List Part) : Nat → List String → Printed → Printed
  | 0, _, p => p
  | n + 1, args, p =>
    let (p, rest) := round d ps args p
    if p.broken || p.halted || rest.isEmpty || rest.length = args.length then p
    else rounds d ps n rest p

def print (d : Dialect) (format : String) (args : List String) : Printed :=
  rounds d (parts d (format.length + 1) format.toList) (args.length + 1) args {}

end PartitionTest.Shell.Format
