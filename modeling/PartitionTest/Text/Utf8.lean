/-! UTF-8 read leniently. Each maximal prefix of bytes that no character
starts with becomes one replacement character, so reading never fails. -/
namespace PartitionTest.Text.Utf8

structure Partial where
  left : Nat
  low : Nat
  high : Nat
  bits : Nat

inductive Lead where
  | ascii (c : Char)
  | begins (p : Partial)
  | invalid

/-- What a first byte promises. Its bounds on the second byte exclude overlong
forms, surrogates and code points past the last plane. -/
def lead (b : UInt8) : Lead :=
  let n := b.toNat
  if n < 0x80 then .ascii (Char.ofNat n)
  else if 0xC2 ≤ n && n ≤ 0xDF then .begins ⟨1, 0x80, 0xBF, n - 0xC0⟩
  else if n == 0xE0 then .begins ⟨2, 0xA0, 0xBF, 0⟩
  else if n == 0xED then .begins ⟨2, 0x80, 0x9F, 0xD⟩
  else if 0xE1 ≤ n && n ≤ 0xEF then .begins ⟨2, 0x80, 0xBF, n - 0xE0⟩
  else if n == 0xF0 then .begins ⟨3, 0x90, 0xBF, 0⟩
  else if 0xF1 ≤ n && n ≤ 0xF3 then .begins ⟨3, 0x80, 0xBF, n - 0xF0⟩
  else if n == 0xF4 then .begins ⟨3, 0x80, 0x8F, 4⟩
  else .invalid

def replacement : Char := '\uFFFD'

/-- The text so far, last character first, and a character begun. -/
structure Decoder where
  text : List Char := []
  pending : Option Partial := none

def Decoder.start (d : Decoder) (b : UInt8) : Decoder :=
  match lead b with
  | .ascii c => { text := c :: d.text }
  | .begins p => { text := d.text, pending := some p }
  | .invalid => { text := replacement :: d.text }

def Decoder.push (d : Decoder) (b : UInt8) : Decoder :=
  match d.pending with
  | none => d.start b
  | some p =>
    if p.low ≤ b.toNat && b.toNat ≤ p.high then
      let bits := p.bits * 64 + b.toNat % 64
      if p.left ≤ 1 then { text := Char.ofNat bits :: d.text }
      else { d with pending := some ⟨p.left - 1, 0x80, 0xBF, bits⟩ }
    else
      Decoder.start { text := replacement :: d.text } b

def Decoder.finish (d : Decoder) : List Char :=
  match d.pending with
  | none => d.text.reverse
  | some _ => (replacement :: d.text).reverse

def decode (bytes : List UInt8) : List Char :=
  (bytes.foldl Decoder.push {}).finish

def encode (s : List Char) : List UInt8 :=
  s.flatMap String.utf8EncodeChar

def first? (bytes : List UInt8) : Option (Char × Nat) :=
  match bytes with
  | [] => none
  | b :: rest =>
    match lead b with
    | .ascii c => some (c, 1)
    | .invalid => none
    | .begins p => go 1 p rest
where
  go (size : Nat) (p : Partial) : List UInt8 → Option (Char × Nat)
    | [] => none
    | b :: rest =>
      if p.low ≤ b.toNat && b.toNat ≤ p.high then
        let bits := p.bits * 64 + b.toNat % 64
        if p.left ≤ 1 then some (Char.ofNat bits, size + 1)
        else go (size + 1) ⟨p.left - 1, 0x80, 0xBF, bits⟩ rest
      else none

end PartitionTest.Text.Utf8
