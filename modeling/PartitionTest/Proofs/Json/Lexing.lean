import Mathlib.Data.Nat.Digits.Defs
import Mathlib.Tactic.IntervalCases
import PartitionTest.Json.Printer
import PartitionTest.Json.Token

/-! The lexer reads printed text back: each printed piece, whatever follows it,
gives its own tokens and leaves the lexer between tokens. A numeral alone
needs to know what follows, since more digits would belong to it. Numbers are
read in every form that a text can give them, not just the printed one. -/
namespace PartitionTest.Json

namespace Lexer

def lexed (s : State) : List Char → List Token
  | [] => atEnd s
  | c :: cs => (step s c).2 ++ lexed (step s c).1 cs

theorem run_eq (s : State) (done : List Token) (text : List Char) :
    run s done text = done.reverse ++ lexed s text := by
  induction text generalizing s done with
  | nil => simp only [run, lexed, List.foldl_nil, List.reverse_append, List.reverse_reverse]
  | cons c text ih =>
    have := ih (step s c).1 ((step s c).2.reverse ++ done)
    rw [List.reverse_append, List.reverse_reverse, List.append_assoc] at this
    exact this

theorem tokens_eq (text : List Char) : tokens text = lexed .between text :=
  run_eq .between [] text

theorem lexed_space {c : Char} (h : isSpace c) (text : List Char) :
    lexed .between (c :: text) = lexed .between text := by
  rw [lexed, step, start, if_pos h]
  rfl

theorem lexed_spaces {space : List Char} (h : ∀ c ∈ space, isSpace c) (text : List Char) :
    lexed .between (space ++ text) = lexed .between text := by
  induction space with
  | nil => rfl
  | cons c space ih =>
    rw [List.cons_append, lexed_space (h c List.mem_cons_self),
      ih fun d hd => h d (List.mem_cons_of_mem c hd)]

section Marks

variable (text : List Char)

theorem lexed_openArray : lexed .between ('[' :: text) = .openArray :: lexed .between text := rfl

theorem lexed_closeArray : lexed .between (']' :: text) = .closeArray :: lexed .between text := rfl

theorem lexed_openObject :
    lexed .between ('\x7b' :: text) = .openObject :: lexed .between text := rfl

theorem lexed_closeObject :
    lexed .between ('\x7d' :: text) = .closeObject :: lexed .between text := rfl

theorem lexed_comma : lexed .between (',' :: text) = .comma :: lexed .between text := rfl

theorem lexed_colon : lexed .between (':' :: text) = .colon :: lexed .between text := rfl

theorem lexed_null :
    lexed .between (['n', 'u', 'l', 'l'] ++ text) = .null :: lexed .between text := rfl

theorem lexed_true :
    lexed .between (['t', 'r', 'u', 'e'] ++ text) = .bool true :: lexed .between text := rfl

theorem lexed_false :
    lexed .between (['f', 'a', 'l', 's', 'e'] ++ text) = .bool false :: lexed .between text := rfl

end Marks

/-- What follows a numeral cannot belong to it. -/
def Delimits (text : List Char) : Prop :=
  ∀ c ∈ text.head?, digit? c = none ∧ c ≠ '.' ∧ c ≠ 'e' ∧ c ≠ 'E'

theorem grow_ends {place : Place} (h : place.complete) (n : Numeral) {c : Char}
    (hc : digit? c = none ∧ c ≠ '.' ∧ c ≠ 'e' ∧ c ≠ 'E') : grow place n c = .ends := by
  obtain ⟨digit, point, mark, capital⟩ := hc
  cases place with
  | zero | whole | fraction | exponent => simp [grow, digit, point, mark, capital]
  | sign | point | mark | markSign => nomatch h

theorem lexed_numeral_ends {place : Place} (h : place.complete) (n : Numeral)
    {text : List Char} (ht : Delimits text) :
    lexed (.numeral place n) text = .number n.number :: lexed .between text := by
  cases text with
  | nil => exact if_pos h
  | cons c text =>
    simp only [lexed, step, grow_ends h n (ht c rfl), List.cons_append]

def opening (negative : Bool) : State :=
  if negative then .numeral .sign { negative := true } else .between

theorem step_opening (negative : Bool) {d : Nat} (pos : 0 < d) (small : d < 10) :
    step (opening negative) d.digitChar = (.numeral .whole { negative, whole := [d] }, []) := by
  cases negative <;> interval_cases d <;> rfl

theorem step_whole (n : Numeral) {d : Nat} (small : d < 10) :
    step (.numeral .whole n) d.digitChar =
      (.numeral .whole { n with whole := d :: n.whole }, []) := by
  interval_cases d <;> rfl

theorem lexed_toDigits (negative : Bool) {n : Nat} (pos : 0 < n) (text : List Char) :
    lexed (opening negative) (Nat.toDigits 10 n ++ text) =
      lexed (.numeral .whole { negative, whole := Nat.digits 10 n }) text := by
  -- The last digit stands behind those of `n / 10`, so it is part of the text that follows them.
  induction n using Nat.strongRecOn generalizing text with
  | _ n ih =>
    by_cases small : n < 10
    · rw [Nat.toDigits_of_lt_base small, Nat.digits_of_lt 10 n pos.ne' small, List.singleton_append,
        lexed, step_opening negative pos small]
      rfl
    · have lead : 0 < n / 10 := by omega
      rw [Nat.toDigits_of_base_le (by decide) (by omega), List.append_assoc,
        ih (n / 10) (by omega) lead, List.singleton_append, lexed,
        step_whole _ (Nat.mod_lt n (by decide)), Nat.digits_def' (by decide) pos]
      rfl

end Lexer

theorem Numeral.digitsValue_eq_ofDigits (ds : List Nat) :
    digitsValue ds = Nat.ofDigits 10 ds.reverse := by
  have step : (fun (n d : Nat) => n * 10 + d) = fun n d => (d : Nat) + 10 * n := by
    funext n d
    omega
  rw [digitsValue, step]
  exact ((Nat.ofDigits_eq_foldr 10 _).trans List.foldr_reverse).symm

theorem Numeral.digitsValue_reverse_digits (n : Nat) :
    digitsValue (Nat.digits 10 n).reverse = n := by
  rw [digitsValue_eq_ofDigits, List.reverse_reverse, Nat.ofDigits_digits]

theorem Numeral.number_digits {n : Nat} (h : n ≤ maxSignificand) :
    ({ whole := Nat.digits 10 n } : Numeral).number = .ok (.int n) := by
  simp only [number, int?, digitsValue_reverse_digits, if_pos h, Bool.false_eq_true, if_false]

theorem Numeral.number_negative_digits {n : Nat} (pos : 0 < n)
    (h : n ≤ Int64.minValue.toInt.natAbs) :
    ({ negative := true, whole := Nat.digits 10 n } : Numeral).number = .ok (.int (-n)) := by
  simp only [number, int?, digitsValue_reverse_digits, pos, h, decide_true, Bool.and_self, if_true]

namespace Lexer

theorem lexed_intChars {n : Int} (low : Int64.minValue.toInt ≤ n) (high : n < UInt64.size)
    {text : List Char} (ht : Delimits text) :
    lexed .between (intChars n ++ text) = .number (.ok (.int n)) :: lexed .between text := by
  have low' : -9223372036854775808 ≤ n := low
  have high' : n < 18446744073709551616 := high
  obtain negative | rfl | positive := lt_trichotomy n 0
  · have within : n.natAbs ≤ 9223372036854775808 := by omega
    have value : -(n.natAbs : Int) = n := by omega
    calc lexed .between (intChars n ++ text)
        = lexed (opening true) (Nat.toDigits 10 n.natAbs ++ text) := by
          rw [intChars, if_pos negative]
          rfl
      _ = .number (.ok (.int (-n.natAbs))) :: lexed .between text := by
          rw [lexed_toDigits true (by omega), lexed_numeral_ends rfl _ ht,
            Numeral.number_negative_digits (by omega) within]
      _ = .number (.ok (.int n)) :: lexed .between text := by rw [value]
  · exact lexed_numeral_ends rfl _ ht
  · have within : n.natAbs ≤ 18446744073709551615 := by omega
    have value : (n.natAbs : Int) = n := by omega
    calc lexed .between (intChars n ++ text)
        = lexed (opening false) (Nat.toDigits 10 n.natAbs ++ text) := by
          rw [intChars, if_neg (by omega)]
          rfl
      _ = .number (.ok (.int n.natAbs)) :: lexed .between text := by
          rw [lexed_toDigits false (by omega), lexed_numeral_ends rfl _ ht,
            Numeral.number_digits within]
      _ = .number (.ok (.int n)) :: lexed .between text := by rw [value]

end Lexer

structure Digits where
  first : Fin 10
  others : List (Fin 10)

namespace Digits

def values (ds : Digits) : List Nat := (ds.first :: ds.others).map (·.val)

def chars (ds : Digits) : List Char := ds.values.map Nat.digitChar

def value (ds : Digits) : Nat := Nat.ofDigits 10 ds.values.reverse

end Digits

structure Power where
  capital : Bool
  /-- If a sign is written, whether it is a minus. -/
  sign : Option Bool
  digits : Digits

namespace Power

def negative (p : Power) : Bool := p.sign.getD false

def signChars (p : Power) : List Char :=
  match p.sign with
  | none => []
  | some false => ['+']
  | some true => ['-']

def chars (p : Power) : List Char :=
  (if p.capital then 'E' else 'e') :: (p.signChars ++ p.digits.chars)

end Power

/-- A number as a text may write it: nothing stands behind a zero at its front
but a fraction or a power. -/
structure NumberText where
  negative : Bool
  whole : Digits
  fraction : Option Digits
  power : Option Power
  lead : whole.first = 0 → whole.others = []

namespace NumberText

def chars (t : NumberText) : List Char :=
  (if t.negative then ['-'] else []) ++ t.whole.chars ++
    t.fraction.elim [] (fun ds => '.' :: ds.chars) ++ t.power.elim [] Power.chars

def text (t : NumberText) : String := String.ofList t.chars

def integer (t : NumberText) : Int := if t.negative then -t.whole.value else t.whole.value

def wholeNumeral (t : NumberText) : Numeral where
  negative := t.negative
  whole := t.whole.values.reverse

def numeral (t : NumberText) : Numeral where
  negative := t.negative
  whole := t.whole.values.reverse
  fraction := t.fraction.map fun ds => ds.values.reverse
  exponent := t.power.map fun p => (p.negative, p.digits.values.reverse)

example : (⟨true, ⟨1, [5]⟩, none, some ⟨true, some true, ⟨0, [1]⟩⟩, nofun⟩ : NumberText).chars =
    ['-', '1', '5', 'E', '-', '0', '1'] := by decide

end NumberText

namespace Lexer

theorem digit?_digitChar (d : Fin 10) : digit? (Nat.digitChar d) = some d.val := by
  decide +revert

section Taking

variable {place : Place} (put : List Nat → Numeral)

/-- Further digits, where each of them leaves the numeral at its place. By
induction on these, with the digits already taken last first. -/
theorem lexed_others (takes : ∀ (done : List Nat) (c : Char) (d : Nat), digit? c = some d →
      grow place (put done) c = .more place (put (d :: done)))
    (ds : List (Fin 10)) (done : List Nat) (text : List Char) :
    lexed (.numeral place (put done)) ((ds.map (·.val)).map Nat.digitChar ++ text) =
      lexed (.numeral place (put ((ds.map (·.val)).reverse ++ done))) text := by
  induction ds generalizing done with
  | nil => rfl
  | cons d ds ih =>
    have taken : step (.numeral place (put done)) (Nat.digitChar d) =
        (.numeral place (put (d.val :: done)), []) := by
      rw [step, takes done _ d (digit?_digitChar d)]
    rw [List.map_cons, List.map_cons, List.cons_append, lexed, taken, List.nil_append, ih,
      List.reverse_cons, List.append_assoc, List.singleton_append]

theorem lexed_digits {start : State} {ds : Digits}
    (opens : step start (Nat.digitChar ds.first) = (.numeral place (put [ds.first.val]), []))
    (takes : ∀ (done : List Nat) (c : Char) (d : Nat), digit? c = some d →
      grow place (put done) c = .more place (put (d :: done))) (text : List Char) :
    lexed start (ds.chars ++ text) = lexed (.numeral place (put ds.values.reverse)) text := by
  rw [Digits.chars, Digits.values, List.map_cons, List.map_cons, List.cons_append, lexed, opens,
    List.nil_append, lexed_others put takes, List.reverse_cons]

end Taking

theorem step_opening_zero (negative : Bool) :
    step (opening negative) (Nat.digitChar 0) =
      (.numeral .zero { negative, whole := [0] }, []) := by
  cases negative <;> rfl

def Place.TakesPoint (place : Place) : Prop := place = .zero ∨ place = .whole

def Place.TakesPower (place : Place) : Prop := place.TakesPoint ∨ place = .fraction

theorem lexed_whole (t : NumberText) (text : List Char) :
    ∃ place : Place, place.TakesPoint ∧ lexed (opening t.negative) (t.whole.chars ++ text) =
      lexed (.numeral place t.wholeNumeral) text := by
  by_cases zero : t.whole.first = 0
  · refine ⟨.zero, .inl rfl, ?_⟩
    rw [NumberText.wholeNumeral, Digits.chars, Digits.values, zero, t.lead zero]
    show lexed _ (Nat.digitChar 0 :: text) = _
    rw [lexed, step_opening_zero]
    rfl
  · have pos : 0 < t.whole.first.val := Nat.pos_of_ne_zero fun h => zero (Fin.ext h)
    exact ⟨.whole, .inr rfl, lexed_digits (fun ds => { negative := t.negative, whole := ds })
      (step_opening t.negative pos t.whole.first.isLt)
      (fun done c d h => by simp only [grow, h]) text⟩

theorem lexed_fraction {place : Place} (h : place.TakesPoint) (n : Numeral) (ds : Digits)
    (text : List Char) : lexed (.numeral place n) ('.' :: ds.chars ++ text) =
      lexed (.numeral .fraction { n with fraction := some ds.values.reverse }) text := by
  have point : step (.numeral place n) '.' =
      (.numeral .point { n with fraction := some [] }, []) := by
    obtain rfl | rfl := h <;> rfl
  rw [List.cons_append, lexed, point]
  exact lexed_digits (fun ds => { n with fraction := some ds })
    (by simp only [step, grow, digit?_digitChar])
    (fun done c d h => by simp only [grow, h, Option.getD_some]) text

theorem lexed_power {place : Place} (h : place.TakesPower) (n : Numeral) (p : Power)
    (text : List Char) : lexed (.numeral place n) (p.chars ++ text) =
      lexed (.numeral .exponent
        { n with exponent := some (p.negative, p.digits.values.reverse) }) text := by
  have mark : step (.numeral place n) (if p.capital then 'E' else 'e') =
      (.numeral .mark { n with exponent := some (false, []) }, []) := by
    obtain (rfl | rfl) | rfl := h <;> cases p.capital <;> rfl
  have digits {place : Place} (unsigned : place = .mark ∨ place = .markSign) :
      lexed (.numeral place { n with exponent := some (p.negative, []) })
        (p.digits.chars ++ text) = lexed (.numeral .exponent
          { n with exponent := some (p.negative, p.digits.values.reverse) }) text :=
    lexed_digits (fun ds => { n with exponent := some (p.negative, ds) })
      (by obtain rfl | rfl := unsigned <;>
        simp only [step, grow, digit?_digitChar, Option.getD_some])
      (fun done c d h => by simp only [grow, h, Option.getD_some]) text
  rw [Power.chars, List.cons_append, lexed, mark, List.nil_append, List.append_assoc]
  match sign : p.sign with
  | none =>
    have plain : p.negative = false := by rw [Power.negative, sign, Option.getD_none]
    rw [Power.signChars, sign, ← plain]
    exact digits (.inl rfl)
  | some negative =>
    have signed : p.negative = negative := by rw [Power.negative, sign, Option.getD_some]
    rw [Power.signChars, sign, ← digits (.inr rfl), signed]
    cases negative <;> rfl

theorem lexed_fraction? {place : Place} (h : place.TakesPoint) (t : NumberText)
    (text : List Char) : ∃ next : Place, next.TakesPower ∧
      lexed (.numeral place t.wholeNumeral)
          (t.fraction.elim [] (fun ds => '.' :: ds.chars) ++ text) =
        lexed (.numeral next { t.numeral with exponent := none }) text := by
  cases written : t.fraction with
  | none => exact ⟨place, .inl h, by simp [NumberText.numeral, NumberText.wholeNumeral, written]⟩
  | some ds =>
    refine ⟨.fraction, .inr rfl, ?_⟩
    rw [NumberText.numeral, written]
    exact lexed_fraction h t.wholeNumeral ds text

theorem lexed_power? {place : Place} (h : place.TakesPower) (t : NumberText)
    (text : List Char) : ∃ next : Place, next.complete ∧
      lexed (.numeral place { t.numeral with exponent := none })
          (t.power.elim [] Power.chars ++ text) =
        lexed (.numeral next t.numeral) text := by
  cases written : t.power with
  | none =>
    refine ⟨place, ?_, by simp [NumberText.numeral, written]⟩
    obtain (rfl | rfl) | rfl := h <;> rfl
  | some p =>
    refine ⟨.exponent, rfl, ?_⟩
    simp only [NumberText.numeral, written]
    exact lexed_power h _ p text

/-- Each part leaves the numeral at a place where the next may follow. -/
theorem lexed_number (t : NumberText) {text : List Char} (ht : Delimits text) :
    lexed .between (t.chars ++ text) = .number t.numeral.number :: lexed .between text := by
  have opened (cs : List Char) : lexed .between ((if t.negative then ['-'] else []) ++ cs) =
      lexed (opening t.negative) cs := by
    cases t.negative <;> rfl
  obtain ⟨behindWhole, point, whole⟩ := lexed_whole t
    (t.fraction.elim [] (fun ds => '.' :: ds.chars) ++ (t.power.elim [] Power.chars ++ text))
  obtain ⟨behindFraction, power, fraction⟩ :=
    lexed_fraction? point t (t.power.elim [] Power.chars ++ text)
  obtain ⟨behindPower, complete, exponent⟩ := lexed_power? power t text
  rw [NumberText.chars]
  simp only [List.append_assoc]
  rw [opened, whole, fraction, exponent, lexed_numeral_ends complete _ ht]

end Lexer

theorem Numeral.number_eq_int_iff {n : Numeral} {i : Int} :
    n.number = .ok (.int i) ↔ n.int? = some i := by
  unfold number
  cases n.int? with
  | some j => simp
  | none => cases n.float? <;> simp

structure NumberText.Integral (t : NumberText) : Prop where
  fraction : t.fraction = none
  power : t.power = none
  signed : t.negative → t.whole.value ≠ 0

/-- A number is read as an integer just when it is written as one and has 64
bits, with or without a sign. -/
theorem NumberText.number_eq_int_iff {t : NumberText} {i : Int} :
    t.numeral.number = .ok (.int i) ↔
      t.Integral ∧ -2 ^ 63 ≤ t.integer ∧ t.integer < 2 ^ 64 ∧ i = t.integer := by
  rw [Numeral.number_eq_int_iff]
  match fraction : t.fraction, power : t.power with
  | some _, _ =>
    refine iff_of_false ?_ fun h => nomatch fraction.symm.trans h.1.fraction
    simp [Numeral.int?, numeral, fraction]
  | none, some _ =>
    refine iff_of_false ?_ fun h => nomatch power.symm.trans h.1.power
    simp [Numeral.int?, numeral, fraction, power]
  | none, none =>
    have digits : Numeral.digitsValue t.whole.values.reverse.reverse = t.whole.value := by
      rw [Numeral.digitsValue_eq_ofDigits, List.reverse_reverse]
      rfl
    have integral : t.Integral ↔ (t.negative → t.whole.value ≠ 0) :=
      ⟨fun h => h.signed, fun h => ⟨fraction, power, h⟩⟩
    have low : Int64.minValue.toInt.natAbs = 2 ^ 63 := rfl
    have high : Numeral.maxSignificand = 2 ^ 64 - 1 := rfl
    rw [integral, integer]
    simp only [Numeral.int?, numeral, fraction, power, Option.map_none, digits, low, high]
    cases t.negative with
    | true =>
      simp only [if_true, Bool.and_eq_true, decide_eq_true_eq, Option.ite_none_right_eq_some,
        Option.some.injEq, ne_eq, forall_const]
      omega
    | false =>
      simp only [Bool.false_eq_true, if_false, Option.ite_none_right_eq_some, Option.some.injEq,
        IsEmpty.forall_iff, true_and]
      omega

namespace Lexer

theorem hexDigit?_hexDigit {n : Nat} (h : n < 16) : hexDigit? (Text.hexDigit n) = some n := by
  interval_cases n <;> rfl

theorem utf8Size_hexDigit {n : Nat} (h : n < 16) : (Text.hexDigit n).utf8Size = 1 := by
  interval_cases n <;> rfl

/-- In a string whose characters so far, last first, are in order. -/
def quoted (done : List Char) : State := .quoted { text := done }

theorem lexed_unit (done : List Char) {c : Char} (small : c.toNat < 0x20) (text : List Char) :
    lexed (quoted done) (['\\', 'u', '0', '0', Text.hexDigit (c.toNat / 16),
      Text.hexDigit (c.toNat % 16)] ++ text) = lexed (quoted (c :: done)) text := by
  have high : c.toNat / 16 < 16 := by omega
  have low : c.toNat % 16 < 16 := by omega
  have third : step (.quoted { text := done, escape := .hex 2 (some 0) })
      (Text.hexDigit (c.toNat / 16)) =
      (.quoted { text := done, escape := .hex 3 (some (c.toNat / 16)) }, []) := by
    simp [step, inQuoted, hexDigit?_hexDigit high, utf8Size_hexDigit high]
  have fourth : step (.quoted { text := done, escape := .hex 3 (some (c.toNat / 16)) })
      (Text.hexDigit (c.toNat % 16)) = (quoted (c :: done), []) := by
    have value : c.toNat / 16 * 16 + c.toNat % 16 = c.toNat := by omega
    have trailing : isTrailing c.toNat = false := by simp [isTrailing]; omega
    have leading : isLeading c.toNat = false := by simp [isLeading]; omega
    simp [step, inQuoted, hexDigit?_hexDigit low, utf8Size_hexDigit low, value, Quoted.unit,
      trailing, leading, Quoted.push, quoted]
  calc lexed (quoted done) _
      = lexed (.quoted { text := done, escape := .hex 2 (some 0) })
          (Text.hexDigit (c.toNat / 16) :: Text.hexDigit (c.toNat % 16) :: text) := rfl
    _ = lexed (quoted (c :: done)) text := by
        rw [lexed, third, lexed, fourth]
        rfl

theorem lexed_escapeChar (done : List Char) (c : Char) (text : List Char) :
    lexed (quoted done) (escapeChar c ++ text) = lexed (quoted (c :: done)) text := by
  unfold escapeChar
  split_ifs with quote backslash backspace tab feed page carriage control
  · subst quote; rfl
  · subst backslash; rfl
  · subst backspace; rfl
  · subst tab; rfl
  · subst feed; rfl
  · subst page; rfl
  · subst carriage; rfl
  · exact lexed_unit done control text
  · simp [lexed, quoted, step, inQuoted, quote, backslash, control, Quoted.unpaired, Quoted.push]

theorem lexed_flatMap_escapeChar (done cs text : List Char) :
    lexed (quoted done) (cs.flatMap escapeChar ++ text) =
      lexed (quoted (cs.reverse ++ done)) text := by
  induction cs generalizing done with
  | nil => rfl
  | cons c cs ih =>
    rw [List.flatMap_cons, List.append_assoc, lexed_escapeChar, ih, List.reverse_cons,
      List.append_assoc, List.singleton_append]

theorem lexed_stringChars (s : String) (text : List Char) :
    lexed .between (stringChars s ++ text) = .string (.ok s) none :: lexed .between text := by
  calc lexed .between (stringChars s ++ text)
      = lexed (quoted []) (s.toList.flatMap escapeChar ++ '"' :: text) := by
        rw [stringChars, List.append_assoc]
        rfl
    _ = .string (.ok (String.ofList s.toList.reverse.reverse)) none :: lexed .between text := by
        rw [lexed_flatMap_escapeChar, List.append_nil]
        rfl
    _ = .string (.ok s) none :: lexed .between text := by
        rw [List.reverse_reverse, String.ofList_toList]

end Lexer

end PartitionTest.Json
