import PartitionTest.Shell.Utility.Lines

/-! Bytes as texts of few characters, and back. -/
namespace PartitionTest.Shell.Utility.Encoding

open Machine Quotation

structure Alphabet where
  characters : List Char
  bits : Nat
  /-- How many characters make a whole number of bytes. -/
  group : Nat

def letters : List Char := "ABCDEFGHIJKLMNOPQRSTUVWXYZ".toList

def digits64 : Alphabet :=
  ⟨letters ++ letters.map Char.toLower ++ "0123456789+/".toList, 6, 4⟩

def digits32 : Alphabet := ⟨letters ++ "234567".toList, 5, 8⟩

namespace Alphabet

def pad : Char := '='

def bytes (a : Alphabet) : Nat := a.group * a.bits / 8

def encodeGroup (a : Alphabet) (group : List Nat) : List Char :=
  let n := (group ++ List.replicate (a.bytes - group.length) 0).foldl (fun n b => n * 256 + b) 0
  let count := (group.length * 8 + a.bits - 1) / a.bits
  (List.range a.group).map fun i =>
    if i < count then
      let index := n / Nat.pow 2 (a.bits * (a.group - 1 - i)) % Nat.pow 2 a.bits
      (a.characters[index]?).getD pad
    else pad

def encode (a : Alphabet) : Nat → List Nat → List Char
  | 0, _ | _, [] => []
  | n + 1, bytes => a.encodeGroup (bytes.take a.bytes) ++ a.encode n (bytes.drop a.bytes)

def decodeGroup (a : Alphabet) (cs : List Char) : Option (List Nat) := do
  let digits := (cs.reverse.dropWhile (· == pad)).reverse
  let values ← digits.mapM fun c => a.characters.findIdx? (· == c)
  let count := digits.length * a.bits / 8
  if cs.length != a.group || digits.isEmpty || count = 0 ||
      (count * 8 + a.bits - 1) / a.bits != digits.length then none
  else
    let n := (values ++ List.replicate (a.group - values.length) 0).foldl
      (fun n v => n * Nat.pow 2 a.bits + v) 0
    some ((List.range count).map fun i => n / Nat.pow 256 (a.bytes - 1 - i) % 256)

/-- The bytes that the first characters of a broken group stand for. -/
def decodePart (a : Alphabet) (cs : List Char) : List Nat :=
  if a.bits = 5 then []
  else
    let values := (cs.takeWhile a.characters.contains).filterMap fun c =>
      a.characters.findIdx? (· == c)
    let n := (values ++ List.replicate (a.group - values.length) 0).foldl
      (fun n v => n * Nat.pow 2 a.bits + v) 0
    (List.range (values.length * a.bits / 8)).map fun i => n / Nat.pow 256 (a.bytes - 1 - i) % 256

def decode (a : Alphabet) : Nat → List Char → List Nat × Bool
  | 0, _ | _, [] => ([], true)
  | n + 1, cs =>
    match a.decodeGroup (cs.take a.group) with
    | some bytes =>
      let (more, sound) := a.decode n (cs.drop a.group)
      (bytes ++ more, sound)
    | none => (a.decodePart (cs.take a.group), false)

end Alphabet

def wrapped (width : Nat) : Nat → List Char → List Char
  | 0, _ | _, [] => []
  | n + 1, cs => cs.take width ++ '\n' :: wrapped width n (cs.drop width)

def program (a : Alphabet) : Program :=
  withOptions { flags := "di", valued := "w", long := [("decode", 'd'), ("ignore-garbage", 'i'),
    ("wrap", 'w')] } 1 fun name o => do
    let width := (o.value? 'w').getD "76"
    match width.toNat?, o.operands with
    | none, _ => fail name ("invalid wrap size: " ++ quoted width) 1
    | _, _ :: extra :: _ => misused name ("extra operand " ++ quoted extra) 1
    | some width, paths =>
      eachInput name plainComplaint 1 paths fun _ cs => do
        if o.has 'd' then
          let cs := cs.filter fun c => c != '\n' &&
            (!o.has 'i' || c == Alphabet.pad || a.characters.contains c)
          let (bytes, sound) := a.decode (cs.length + 1) cs
          put name (String.ofList (bytes.map Char.ofNat))
          if !sound then
            say name "invalid input"
            throw (.exit 1)
        else
          let text := a.encode (cs.length + 1) (cs.map Char.toNat)
          put name (String.ofList (if width = 0 then text else wrapped width text.length text))

def base64 : Program := program digits64

def base32 : Program := program digits32

end PartitionTest.Shell.Utility.Encoding
