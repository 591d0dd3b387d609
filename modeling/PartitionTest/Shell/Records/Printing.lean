import PartitionTest.Shell.Records.Value

/-! Formats of the language. Each specification must have its argument. -/
namespace PartitionTest.Shell.Records.Printing

structure Printed where
  text : String := ""
  fault : Option String := none

structure Spec where
  flags : List Char := []
  width : Option Int := none
  precision : Option Int := none

def Spec.layout (s : Spec) : Format.Layout where
  flags := if (s.width.getD 0) < 0 then '-' :: s.flags else s.flags
  width := (s.width.getD 0).natAbs
  precision := s.precision.bind fun n => if n < 0 then none else some n.toNat

def plainWords (v : Value) (words : Float → String) : String :=
  match v with
  | .nothing => ""
  | .number x => words x
  | .text s | .input s => s

def missing (caller format : String) : String :=
  "not enough arguments passed to " ++ caller ++ "(\"" ++ format ++ "\")"

def improper (caller format : String) (count : Nat) : String :=
  "improper conversion(number " ++ toString count ++ ") in " ++ caller ++ "(\"" ++ format ++ "\")"

def size (cs : List Char) (args : List Value) : Option (Option Int × List Char × List Value) :=
  match cs with
  | '*' :: rest =>
    match args with
    | v :: args => some (some (Value.toWord v.toNumber), rest, args)
    | [] => none
  | _ =>
    let digits := cs.takeWhile Char.isDigit
    some (if digits.isEmpty then none else some (Format.naturalOf digits), cs.drop digits.length, args)

/-- One argument as its conversion shows it; `none` if there is no such conversion. -/
def converted (s : Spec) (conversion : Char) (v : Value) (words : Float → String) : Option String :=
  let l := s.layout
  match conversion with
  | 'c' =>
    let c : List Char := match Value.asNumber? v, v with
      | _, .nothing => [Char.ofNat 0]
      | some x, _ => [Char.ofNat ((Value.toWord x) % 256).toNat]
      | none, v => [(plainWords v words).toList.headD (Char.ofNat 0)]
    some (l.padded c)
  | 's' =>
    let cs := (plainWords v words).toList
    some (l.padded (match l.precision with
      | some n => cs.take n
      | none => cs))
  | 'd' | 'i' =>
    let n := Value.toHalf v.toNumber
    some (l.whole (l.sign (n < 0)) (Nat.toDigits 10 n.natAbs))
  | 'u' => some (l.whole [] (Nat.toDigits 10 (Value.toUnsignedHalf v.toNumber)))
  | 'o' =>
    let ds := Nat.toDigits 8 (Value.toUnsignedHalf v.toNumber)
    some (l.whole [] (if l.has '#' && ds.head? != some '0' then '0' :: ds else ds))
  | 'x' | 'X' =>
    let n := Value.toUnsignedHalf v.toNumber
    let text := l.whole (if l.has '#' && n != 0 then ['0', 'x'] else []) (Nat.toDigits 16 n)
    some (if conversion = 'X' then text.toUpper else text)
  | 'e' | 'E' | 'f' | 'F' | 'g' | 'G' => some (Number.format l conversion v.toNumber)
  | _ => none

def go (caller format : String) (words : Float → String) :
    Nat → Nat → List Char → List Value → List Char → Printed
  | 0, _, _, _, out | _, _, [], _, out => { text := String.ofList out.reverse }
  | n + 1, count, '%' :: '%' :: rest, args, out => go caller format words n count rest args ('%' :: out)
  | n + 1, count, '%' :: rest, args, out =>
    let stop (reason : String) : Printed := ⟨String.ofList out.reverse, some reason⟩
    let flags := rest.takeWhile "-+ #0".toList.contains
    match size (rest.drop flags.length) args with
    | none => stop (missing caller format)
    | some (width, rest, args) =>
      let precise : Option (Option Int × List Char × List Value) := match rest with
        | '.' :: rest => (size rest args).map fun (p, rest, args) => (some (p.getD 0), rest, args)
        | _ => some (none, rest, args)
      match precise with
      | none => stop (missing caller format)
      | some (precision, rest, args) =>
        match args with
        | [] => stop (missing caller format)
        | v :: args =>
          match rest.dropWhile "hlL".toList.contains with
          | [] => stop (improper caller format (count + 1))
          | c :: rest =>
            match converted ⟨flags, width, precision⟩ c v words with
            | some text => go caller format words n (count + 1) rest args (text.toList.reverse ++ out)
            | none => stop (improper caller format (count + 1))
  | n + 1, count, c :: rest, args, out => go caller format words n count rest args (c :: out)

def print (caller format : String) (args : List Value) (words : Float → String) : Printed :=
  go caller format words (format.length + 1) 0 format.toList args []

def words (format : String) (x : Float) : String :=
  match Value.wholeText? x with
  | some text => text
  | none =>
    if x.isNaN then "-nan"
    else (print "" format [.number x] fun _ => "").text

def text (format : String) (v : Value) : String := plainWords v (words format)

end PartitionTest.Shell.Records.Printing
