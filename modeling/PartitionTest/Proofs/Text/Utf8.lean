import PartitionTest.Text.Utf8

/-! Lenient reading of UTF-8 keeps what is well formed. Every text is read back
from its encoding, and bytes are lost only where the replacement character
appears. -/
namespace PartitionTest.Text.Utf8

variable {p : Partial} {b : UInt8} {bytes : List UInt8}

def decodeFrom (pending : Option Partial) (bytes : List UInt8) : List Char :=
  (bytes.foldl Decoder.push { pending }).finish

/-- What is done with a byte does not depend on the text so far. -/
theorem push_eq (d : Decoder) (b : UInt8) :
    d.push b = { text := (Decoder.push { pending := d.pending } b).text ++ d.text
                 pending := (Decoder.push { pending := d.pending } b).pending } := by
  obtain ⟨text, pending⟩ := d
  cases pending with
  | none => simp only [Decoder.push, Decoder.start]; cases lead b <;> rfl
  | some p =>
    simp only [Decoder.push, Decoder.start]
    split
    · split <;> rfl
    · cases lead b <;> rfl

theorem finish_foldl_push (d : Decoder) (bytes : List UInt8) :
    (bytes.foldl Decoder.push d).finish = d.text.reverse ++ decodeFrom d.pending bytes := by
  induction bytes generalizing d with
  | nil =>
    obtain ⟨text, pending⟩ := d
    cases pending <;> simp [decodeFrom, Decoder.finish]
  | cons b bytes ih =>
    rw [decodeFrom, List.foldl_cons, List.foldl_cons, ih, ih, push_eq d, List.reverse_append,
      List.append_assoc]

theorem decode_eq (bytes : List UInt8) : decode bytes = decodeFrom none bytes := rfl

theorem decodeFrom_ascii {c : Char} (h : lead b = .ascii c) :
    decodeFrom none (b :: bytes) = c :: decodeFrom none bytes := by
  rw [decodeFrom, List.foldl_cons, finish_foldl_push]
  simp [Decoder.push, Decoder.start, h]

theorem decodeFrom_begins (h : lead b = .begins p) :
    decodeFrom none (b :: bytes) = decodeFrom (some p) bytes := by
  rw [decodeFrom, List.foldl_cons, finish_foldl_push]
  simp [Decoder.push, Decoder.start, h]

theorem decodeFrom_invalid (h : lead b = .invalid) :
    decodeFrom none (b :: bytes) = replacement :: decodeFrom none bytes := by
  rw [decodeFrom, List.foldl_cons, finish_foldl_push]
  simp [Decoder.push, Decoder.start, h]

def Partial.Admits (p : Partial) (b : UInt8) : Prop := p.low ≤ b.toNat ∧ b.toNat ≤ p.high

def Partial.extended (p : Partial) (b : UInt8) : Nat := p.bits * 64 + b.toNat % 64

def Partial.next (p : Partial) (b : UInt8) : Partial := ⟨p.left - 1, 0x80, 0xBF, p.extended b⟩

theorem decodeFrom_last (h : p.Admits b) (last : p.left ≤ 1) :
    decodeFrom (some p) (b :: bytes) = Char.ofNat (p.extended b) :: decodeFrom none bytes := by
  rw [decodeFrom, List.foldl_cons, finish_foldl_push]
  obtain ⟨low, high⟩ := h
  simp [Decoder.push, low, high, last, Partial.extended]

theorem decodeFrom_more (h : p.Admits b) (more : 1 < p.left) :
    decodeFrom (some p) (b :: bytes) = decodeFrom (some (p.next b)) bytes := by
  rw [decodeFrom, List.foldl_cons, finish_foldl_push]
  obtain ⟨low, high⟩ := h
  simp [Decoder.push, low, high, Nat.not_le.mpr more, Partial.next, Partial.extended]

theorem decodeFrom_broken (h : ¬ p.Admits b) :
    decodeFrom (some p) (b :: bytes) = replacement :: decodeFrom none (b :: bytes) := by
  have out : ¬ (p.low ≤ b.toNat ∧ b.toNat ≤ p.high) := h
  have pushed : Decoder.push { pending := some p } b =
      Decoder.start { text := [replacement] } b := by
    simp [Decoder.push, out]
  calc decodeFrom (some p) (b :: bytes)
      = ((b :: bytes).foldl Decoder.push { text := [replacement] }).finish := by
        rw [decodeFrom, List.foldl_cons, pushed]
        rfl
    _ = replacement :: decodeFrom none (b :: bytes) := finish_foldl_push _ _

theorem decodeFrom_further {n : Nat} (low : p.low ≤ n % 64 + 128)
    (high : n % 64 + 128 ≤ p.high) :
    decodeFrom (some p) (UInt8.ofNat (n % 64 + 128) :: bytes) =
      if p.left ≤ 1 then Char.ofNat (p.bits * 64 + n % 64) :: decodeFrom none bytes
      else decodeFrom (some ⟨p.left - 1, 0x80, 0xBF, p.bits * 64 + n % 64⟩) bytes := by
  have value : (UInt8.ofNat (n % 64 + 128)).toNat = n % 64 + 128 := by
    rw [UInt8.toNat_ofNat']
    omega
  have admits : p.Admits (UInt8.ofNat (n % 64 + 128)) := by
    rw [Partial.Admits, value]
    exact ⟨low, high⟩
  have extended : p.extended (UInt8.ofNat (n % 64 + 128)) = p.bits * 64 + n % 64 := by
    rw [Partial.extended, value]
    omega
  split
  next last => rw [decodeFrom_last admits last, extended]
  next more => rw [decodeFrom_more admits (Nat.not_le.mp more), Partial.next, extended]

section Leads

variable {n : Nat}

theorem lead_one (h : n ≤ 127) : lead (UInt8.ofNat n) = .ascii (Char.ofNat n) := by
  have value : n % 2 ^ 8 = n := by omega
  simp only [lead, UInt8.toNat_ofNat', value]
  grind

theorem lead_two (low : 2 ≤ n) (high : n < 32) :
    lead (UInt8.ofNat (n + 192)) = .begins ⟨1, 0x80, 0xBF, n⟩ := by
  have value : (n + 192) % 2 ^ 8 = n + 192 := by omega
  simp only [lead, UInt8.toNat_ofNat', value]
  grind

/-- The first of three bytes keeps the second from overlong forms and surrogates. -/
theorem lead_three (h : n < 16) :
    lead (UInt8.ofNat (n + 224)) =
      .begins ⟨2, if n = 0 then 0xA0 else 0x80, if n = 13 then 0x9F else 0xBF, n⟩ := by
  have value : (n + 224) % 2 ^ 8 = n + 224 := by omega
  simp only [lead, UInt8.toNat_ofNat', value]
  grind

theorem lead_four (h : n < 5) :
    lead (UInt8.ofNat (n + 240)) =
      .begins ⟨3, if n = 0 then 0x90 else 0x80, if n = 4 then 0x8F else 0xBF, n⟩ := by
  have value : (n + 240) % 2 ^ 8 = n + 240 := by omega
  simp only [lead, UInt8.toNat_ofNat', value]
  grind

end Leads

theorem decodeFrom_utf8EncodeChar (c : Char) (bytes : List UInt8) :
    decodeFrom none (String.utf8EncodeChar c ++ bytes) = c :: decodeFrom none bytes := by
  have valid : c.toNat.isValidChar := c.valid
  have back : Char.ofNat c.toNat = c := Char.ofNat_toNat c
  unfold String.utf8EncodeChar
  simp only [show c.val.toNat = c.toNat from rfl]
  generalize c.toNat = v at valid back
  obtain rfl := back
  split
  next one => exact decodeFrom_ascii (lead_one one)
  split
  next two =>
    have first : v / 64 % 32 = v / 64 := by omega
    have whole : v / 64 * 64 + v % 64 = v := by omega
    rw [first]
    simp only [List.cons_append, List.nil_append]
    rw [decodeFrom_begins (lead_two (by omega) (by omega)),
      decodeFrom_further (by simp) (by simp; omega), if_pos (by simp), whole]
  split
  next three =>
    have first : v / 4096 % 16 = v / 4096 := by omega
    have whole : (v / 4096 * 64 + v / 64 % 64) * 64 + v % 64 = v := by omega
    rw [first]
    simp only [List.cons_append, List.nil_append]
    rw [decodeFrom_begins (lead_three (by omega)), decodeFrom_further (by grind) (by grind),
      if_neg (by simp), decodeFrom_further (by simp) (by simp; omega), if_pos (by simp), whole]
  next four =>
    have first : v / 262144 % 8 = v / 262144 := by omega
    have whole : ((v / 262144 * 64 + v / 4096 % 64) * 64 + v / 64 % 64) * 64 + v % 64 = v := by
      omega
    rw [first]
    simp only [List.cons_append, List.nil_append]
    rw [decodeFrom_begins (lead_four (by omega)), decodeFrom_further (by grind) (by grind),
      if_neg (by simp), decodeFrom_further (by simp) (by simp; omega), if_neg (by simp),
      decodeFrom_further (by simp) (by simp; omega), if_pos (by simp), whole]

theorem toNat_val_ofNat {n : Nat} (h : n.isValidChar) : (Char.ofNat n).val.toNat = n := by
  rw [Char.ofNat, dif_pos h]
  rfl

theorem lead_eq_ascii {c : Char} (h : lead b = .ascii c) : String.utf8EncodeChar c = [b] := by
  have size := b.toNat_lt
  simp only [lead] at h
  split at h
  next small =>
    obtain rfl := Lead.ascii.inj h
    have valid : b.toNat.isValidChar := .inl (by omega)
    rw [String.utf8EncodeChar, toNat_val_ofNat valid]
    simp only [if_pos (show b.toNat ≤ 127 by omega), UInt8.ofNat_toNat]
  next => grind

theorem lead_eq_begins (h : lead b = .begins p) :
    (p = ⟨1, 0x80, 0xBF, b.toNat - 192⟩ ∧ 194 ≤ b.toNat ∧ b.toNat < 224) ∨
    (p = ⟨2, if b.toNat = 224 then 0xA0 else 0x80, if b.toNat = 237 then 0x9F else 0xBF,
        b.toNat - 224⟩ ∧ 224 ≤ b.toNat ∧ b.toNat < 240) ∨
    (p = ⟨3, if b.toNat = 240 then 0x90 else 0x80, if b.toNat = 244 then 0x8F else 0xBF,
        b.toNat - 240⟩ ∧ 240 ≤ b.toNat ∧ b.toNat < 245) := by
  simp only [lead] at h
  grind

section Forms

variable {a b c d : UInt8}

theorem utf8EncodeChar_two (ha : 194 ≤ a.toNat ∧ a.toNat < 224)
    (hb : 0x80 ≤ b.toNat ∧ b.toNat ≤ 0xBF) :
    String.utf8EncodeChar (Char.ofNat ((a.toNat - 192) * 64 + b.toNat % 64)) = [a, b] := by
  have valid : ((a.toNat - 192) * 64 + b.toNat % 64).isValidChar := .inl (by omega)
  simp only [String.utf8EncodeChar, toNat_val_ofNat valid]
  rw [if_neg (by omega), if_pos (by omega)]
  simp only [List.cons.injEq, UInt8.ofNat_eq_iff_mod_eq_toNat, and_true]
  omega

theorem utf8EncodeChar_three (ha : 224 ≤ a.toNat ∧ a.toNat < 240)
    (hb : 0x80 ≤ b.toNat ∧ b.toNat ≤ 0xBF) (hc : 0x80 ≤ c.toNat ∧ c.toNat ≤ 0xBF)
    (long : a.toNat = 224 → 0xA0 ≤ b.toNat) (scalar : a.toNat = 237 → b.toNat ≤ 0x9F) :
    String.utf8EncodeChar
      (Char.ofNat (((a.toNat - 224) * 64 + b.toNat % 64) * 64 + c.toNat % 64)) = [a, b, c] := by
  have valid : (((a.toNat - 224) * 64 + b.toNat % 64) * 64 + c.toNat % 64).isValidChar := by
    unfold Nat.isValidChar
    omega
  simp only [String.utf8EncodeChar, toNat_val_ofNat valid]
  rw [if_neg (by omega), if_neg (by omega), if_pos (by omega)]
  simp only [List.cons.injEq, UInt8.ofNat_eq_iff_mod_eq_toNat, and_true]
  omega

theorem utf8EncodeChar_four (ha : 240 ≤ a.toNat ∧ a.toNat < 245)
    (hb : 0x80 ≤ b.toNat ∧ b.toNat ≤ 0xBF) (hc : 0x80 ≤ c.toNat ∧ c.toNat ≤ 0xBF)
    (hd : 0x80 ≤ d.toNat ∧ d.toNat ≤ 0xBF)
    (long : a.toNat = 240 → 0x90 ≤ b.toNat) (plane : a.toNat = 244 → b.toNat ≤ 0x8F) :
    String.utf8EncodeChar (Char.ofNat
      ((((a.toNat - 240) * 64 + b.toNat % 64) * 64 + c.toNat % 64) * 64 + d.toNat % 64)) =
        [a, b, c, d] := by
  have valid : ((((a.toNat - 240) * 64 + b.toNat % 64) * 64 + c.toNat % 64) * 64 +
      d.toNat % 64).isValidChar := by
    unfold Nat.isValidChar
    omega
  simp only [String.utf8EncodeChar, toNat_val_ofNat valid]
  rw [if_neg (by omega), if_neg (by omega), if_neg (by omega)]
  simp only [List.cons.injEq, UInt8.ofNat_eq_iff_mod_eq_toNat, and_true]
  omega

end Forms

/-- The bytes read of a character that is begun but not finished. -/
inductive Begun : Option Partial → List UInt8 → Prop where
  | nothing : Begun none []
  | lead {p : Partial} {b : UInt8} (h : lead b = .begins p) : Begun (some p) [b]
  | more {p : Partial} {read : List UInt8} {b : UInt8} (before : Begun (some p) read)
      (h : p.Admits b) (more : 1 < p.left) : Begun (some (p.next b)) (read ++ [b])

theorem Begun.left_le {read : List UInt8} (h : Begun (some p) read) : p.left ≤ 3 := by
  generalize pending : some p = o at h
  induction h generalizing p with
  | nothing => contradiction
  | lead h =>
    obtain rfl := Option.some.inj pending
    obtain ⟨rfl, -⟩ | ⟨rfl, -⟩ | ⟨rfl, -⟩ := lead_eq_begins h <;> simp
  | more _ _ _ ih =>
    obtain rfl := Option.some.inj pending
    have := ih rfl
    show _ - 1 ≤ 3
    omega

theorem Begun.utf8EncodeChar_extended {read : List UInt8} (h : Begun (some p) read)
    (hb : p.Admits b) (last : p.left ≤ 1) :
    String.utf8EncodeChar (Char.ofNat (p.extended b)) = read ++ [b] := by
  -- one, two or three bytes come before the last
  cases h with
  | lead h =>
    obtain ⟨rfl, bounds⟩ | ⟨rfl, -⟩ | ⟨rfl, -⟩ := lead_eq_begins h
    · exact utf8EncodeChar_two bounds hb
    · simp at last
    · simp at last
  | @more p read b₁ before h₁ more₁ =>
    cases before with
    | @lead _ a h =>
      obtain ⟨rfl, -⟩ | ⟨rfl, bounds⟩ | ⟨rfl, -⟩ := lead_eq_begins h
      · simp at more₁
      · unfold Partial.Admits at h₁
        exact utf8EncodeChar_three bounds (by grind) hb (by grind) (by grind)
      · simp [Partial.next] at last
    | @more p read b₂ before h₂ more₂ =>
      cases before with
      | @lead _ a h =>
        obtain ⟨rfl, -⟩ | ⟨rfl, -⟩ | ⟨rfl, bounds⟩ := lead_eq_begins h
        · simp at more₂
        · simp [Partial.next] at more₁
        · unfold Partial.Admits at h₂
          exact utf8EncodeChar_four bounds (by grind) h₁ hb (by grind) (by grind)
      | more before _ more₃ =>
        have := before.left_le
        simp only [Partial.next] at more₁ more₂
        omega

theorem encode_decodeFrom {pending : Option Partial} {read : List UInt8}
    (h : Begun pending read) (bytes : List UInt8)
    (readable : replacement ∉ decodeFrom pending bytes) :
    encode (decodeFrom pending bytes) = read ++ bytes := by
  induction bytes generalizing pending read with
  | nil =>
    cases h with
    | nothing => rfl
    | lead | more => exact absurd List.mem_cons_self readable
  | cons b bytes ih =>
    cases pending with
    | none =>
      cases h
      cases first : lead b with
      | ascii c =>
        rw [decodeFrom_ascii first] at readable ⊢
        have rest := ih .nothing fun h => readable (List.mem_cons_of_mem c h)
        rw [encode, List.flatMap_cons, lead_eq_ascii first]
        exact congrArg (b :: ·) rest
      | begins p =>
        rw [decodeFrom_begins first] at readable ⊢
        exact ih (.lead first) readable
      | invalid =>
        rw [decodeFrom_invalid first] at readable
        exact absurd List.mem_cons_self readable
    | some p =>
      by_cases hb : p.Admits b
      · by_cases last : p.left ≤ 1
        · rw [decodeFrom_last hb last] at readable ⊢
          have rest := ih .nothing fun h => readable (List.mem_cons_of_mem _ h)
          rw [encode, List.flatMap_cons, h.utf8EncodeChar_extended hb last, ← encode, rest]
          simp
        · have more : 1 < p.left := Nat.lt_of_not_le last
          rw [decodeFrom_more hb more] at readable ⊢
          rw [ih (h.more hb more) readable, List.append_assoc, List.singleton_append]
      · rw [decodeFrom_broken hb] at readable
        exact absurd List.mem_cons_self readable

theorem encode_append (s t : List Char) : encode (s ++ t) = encode s ++ encode t :=
  List.flatMap_append

theorem decode_encode_append (s : List Char) (bytes : List UInt8) :
    decode (encode s ++ bytes) = s ++ decode bytes := by
  induction s with
  | nil => rfl
  | cons c s ih =>
    rw [encode, List.flatMap_cons, List.append_assoc, decode_eq, decodeFrom_utf8EncodeChar]
    exact congrArg (c :: ·) ih

theorem decode_encode (s : List Char) : decode (encode s) = s := by
  have read := decode_encode_append s []
  rwa [List.append_nil, show decode [] = [] from rfl, List.append_nil] at read

theorem encode_decode_of_not_mem (h : replacement ∉ decode bytes) :
    encode (decode bytes) = bytes :=
  encode_decodeFrom .nothing bytes h

/-- Bytes are the only ones read as their text just when they encode a text
without the replacement character. -/
theorem eq_of_decode_eq_iff (bytes : List UInt8) :
    (∀ other, decode bytes = decode other → bytes = other) ↔
      ∃ s, replacement ∉ s ∧ bytes = encode s := by
  constructor
  · intro apart
    have own : bytes = encode (decode bytes) := apart _ (decode_encode _).symm
    refine ⟨decode bytes, fun replaced => ?_, own⟩
    obtain ⟨before, after, split⟩ := List.append_of_mem replaced
    -- a byte that begins no character is read in the same way
    have other : bytes = encode before ++ 0xFF :: encode after := by
      apply apart
      rw [decode_encode_append, decode_eq (0xFF :: _), decodeFrom_invalid rfl, ← decode_eq,
        decode_encode, split]
    rw [split, encode_append] at own
    have first := List.append_cancel_left (own.symm.trans other)
    exact absurd (List.cons.inj first).1 (by decide)
  · rintro ⟨s, readable, rfl⟩ other same
    rw [decode_encode] at same
    rw [same] at readable ⊢
    exact encode_decode_of_not_mem readable

end PartitionTest.Text.Utf8
