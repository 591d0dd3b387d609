import Mathlib.Logic.Function.Basic
import Mathlib.Tactic.IntervalCases
import PartitionTest.Proofs.Normalization

/-! Why two observations do not agree. The reason that is given is true: texts
that are set against each other differ, and blame falls on exactly the sides that
did not complete. What a character is quoted as can be read in one way only,
whatever follows, so no two outputs are quoted alike. -/
namespace PartitionTest

namespace Text

def digitValue (c : Char) : Nat := if c.isDigit then c.toNat - 48 else c.toNat - 87

def unhex (s : List Char) : Nat := s.foldl (fun n c => n * 16 + digitValue c) 0

theorem digitValue_digitChar {d : Nat} (h : d < 16) : digitValue d.digitChar = d := by
  interval_cases d <;> rfl

theorem hex_of_lt {n : Nat} (h : n < 16) : hex n = [n.digitChar] := Nat.toDigits_of_lt_base h

theorem hex_of_le {n : Nat} (h : 16 ≤ n) : hex n = hex (n / 16) ++ [(n % 16).digitChar] :=
  Nat.toDigits_of_base_le (by decide) h

theorem unhex_hex (n : Nat) : unhex (hex n) = n := by
  induction n using Nat.strongRecOn with
  | _ n ih =>
    by_cases small : n < 16
    · simp [hex_of_lt small, unhex, digitValue_digitChar small]
    · have lead : unhex (hex (n / 16)) = n / 16 := ih _ (by omega)
      rw [hex_of_le (by omega), unhex, List.foldl_append, ← unhex, lead, List.foldl_cons,
        List.foldl_nil, digitValue_digitChar (by omega)]
      omega

theorem exists_of_mem_hex {n : Nat} {c : Char} (h : c ∈ hex n) : ∃ d < 16, c = d.digitChar := by
  induction n using Nat.strongRecOn with
  | _ n ih =>
    by_cases small : n < 16
    · rw [hex_of_lt small, List.mem_singleton] at h
      exact ⟨n, small, h⟩
    · rw [hex_of_le (by omega), List.mem_append, List.mem_singleton] at h
      rcases h with lead | rfl
      · exact ih _ (by omega) lead
      · exact ⟨n % 16, by omega, rfl⟩

theorem not_mem_hex {c : Char} (h : ∀ d < 16, c ≠ d.digitChar) (n : Nat) : c ∉ hex n := by
  intro inside
  obtain ⟨d, small, rfl⟩ := exists_of_mem_hex inside
  exact h d small rfl

/-- The character that quoted text begins with, and what follows it. -/
def unescape : List Char → Option (Char × List Char)
  | '\\' :: '0' :: s => some ('\x00', s)
  | '\\' :: 't' :: s => some ('\t', s)
  | '\\' :: 'r' :: s => some ('\r', s)
  | '\\' :: 'n' :: s => some ('\n', s)
  | '\\' :: 'u' :: '\x7b' :: s =>
    some (Char.ofNat (unhex (s.takeWhile (· != '\x7d'))), (s.dropWhile (· != '\x7d')).tail)
  | '\\' :: c :: s => some (c, s)
  | c :: s => some (c, s)
  | [] => none

theorem unescape_cons {c : Char} (h : c ≠ '\\') (s : List Char) :
    unescape (c :: s) = some (c, s) := by
  unfold unescape
  split <;> simp_all

theorem unescape_hex (c : Char) (s : List Char) :
    unescape ('\\' :: 'u' :: '\x7b' :: hex c.toNat ++ '\x7d' :: s) = some (c, s) := by
  have digits : ∀ d ∈ hex c.toNat, (d != '\x7d') = true := by
    intro d hd
    have : d ≠ '\x7d' := fun e => not_mem_hex (by decide) _ (e ▸ hd)
    simpa using this
  simp only [List.cons_append, unescape, List.takeWhile_append_of_pos digits,
    List.dropWhile_append_of_pos digits]
  simp [unhex_hex]

theorem unescape_escapeIn (c : Char) (s : List Char) :
    unescape (escapeIn '"' c ++ s) = some (c, s) := by
  unfold escapeIn
  split_ifs with nul tab ret feed backslash quote shown
  · subst nul
    rfl
  · subst tab
    rfl
  · subst ret
    rfl
  · subst feed
    rfl
  · subst backslash
    rfl
  · subst quote
    rfl
  · exact unescape_cons backslash s
  · simpa using unescape_hex c s

theorem escapeIn_ne_nil (c : Char) : escapeIn '"' c ≠ [] := by
  unfold escapeIn
  split_ifs <;> simp

theorem flatMap_escapeIn_injective :
    Function.Injective fun s : List Char => s.flatMap (escapeIn '"') := by
  intro s
  induction s with
  | nil =>
    intro t same
    cases t with
    | nil => rfl
    | cons d t => simp [escapeIn_ne_nil] at same
  | cons c s ih =>
    intro t same
    cases t with
    | nil => simp [escapeIn_ne_nil] at same
    | cons d t =>
      simp only [List.flatMap_cons] at same
      have read := (unescape_escapeIn c _).symm.trans
        ((congrArg unescape same).trans (unescape_escapeIn d _))
      obtain ⟨rfl, rest⟩ := Prod.mk.inj (Option.some.inj read)
      rw [ih rest]

theorem quote_injective : Function.Injective quote := by
  intro s t same
  have inside := (List.append_left_inj _).mp
    (List.tail_eq_of_cons_eq (String.ofList_injective same))
  exact String.toList_inj.mp (flatMap_escapeIn_injective inside)

theorem newline_not_mem_escapeIn (c : Char) : '\n' ∉ escapeIn '"' c := by
  unfold escapeIn
  split_ifs with nul tab ret feed backslash quote shown
  · decide
  · decide
  · decide
  · decide
  · decide
  · decide
  · simpa [eq_comm] using feed
  · simp [not_mem_hex (c := '\n') (by decide)]

theorem newline_not_mem_quote (s : String) : '\n' ∉ (quote s).toList := by
  have inside : '\n' ∉ s.toList.flatMap (escapeIn '"') := by
    rw [List.mem_flatMap]
    rintro ⟨c, -, hc⟩
    exact newline_not_mem_escapeIn c hc
  simp [quote, inside]

end Text

namespace Json

theorem mem_intChars {c : Char} {n : Int} (h : c ∈ intChars n) : c = '-' ∨ c.isDigit = true := by
  have digit (inside : c ∈ Nat.toDigits 10 n.natAbs) : c.isDigit = true :=
    Nat.isDigit_of_mem_toDigits (by decide) (by decide) inside
  unfold intChars at h
  split at h
  · exact (List.mem_cons.mp h).imp_right digit
  · exact .inr (digit h)

theorem intChars_injective : Function.Injective intChars := by
  have digits {i j : Int} (same : Nat.toDigits 10 i.natAbs = Nat.toDigits 10 j.natAbs) :
      i.natAbs = j.natAbs :=
    Nat.ofDigitChars_ten_toDigits.symm.trans (same ▸ Nat.ofDigitChars_ten_toDigits)
  have unsigned (s : List Char) (i : Int) : '-' :: s ≠ Nat.toDigits 10 i.natAbs := by
    intro same
    have inside : '-' ∈ Nat.toDigits 10 i.natAbs := same ▸ List.mem_cons_self
    exact absurd (Nat.isDigit_of_mem_toDigits (by decide) (by decide) inside) (by decide)
  intro i j same
  unfold intChars at same
  split_ifs at same with hi hj hj
  · have := digits (List.tail_eq_of_cons_eq same)
    omega
  · exact absurd same (unsigned _ _)
  · exact absurd same.symm (unsigned _ _)
  · have := digits same
    omega

end Json

namespace Comparison

theorem codeText_ne_none (c : Int32) : codeText (some c) ≠ codeText none := by
  intro same
  have letters : Json.intChars c.toInt = ['n', 'o', 'n', 'e'] := String.ofList_injective same
  have letter : 'n' ∈ Json.intChars c.toInt := letters ▸ List.mem_cons_self
  exact absurd (Json.mem_intChars letter) (by decide)

theorem codeText_injective : Function.Injective codeText := by
  intro a b same
  cases a with
  | none =>
    cases b with
    | none => rfl
    | some d => exact absurd same.symm (codeText_ne_none d)
  | some c =>
    cases b with
    | none => exact absurd same (codeText_ne_none c)
    | some d =>
      rw [Int32.toInt_inj.mp (Json.intChars_injective (String.ofList_injective same))]

/-- The sides that did not complete, each with what was observed of it. -/
def failing (x : Comparison) : List (Side × Observation) :=
  [(.reference, x.reference), (.subject, x.subject)].filter fun side =>
    side.2.status ≠ .completed

/-- There is a reason unless the comparison is a match. Where both sides completed
it sets two texts against each other that differ. Else there are sides that did
not complete, and it says of each of these whether it crashed or was late, with the
detail if there is one, and nothing more. -/
structure Explained (x : Comparison) : Prop where
  silent : x.reason = none ↔ x.verdict = .agree
  difference : x.verdict = .differ →
    (x.reference.exitCode ≠ x.subject.exitCode ∧
      ∃ left right, left ≠ right ∧ x.reason = some ("exit code " ++ left ++ " vs " ++ right) ∧
        left = codeText x.reference.exitCode ∧ right = codeText x.subject.exitCode) ∨
    (x.reference.exitCode = x.subject.exitCode ∧
      ∃ left right, left ≠ right ∧ x.reason = some ("output " ++ left ++ " vs " ++ right) ∧
        left = Text.quote x.reference.output ∧ right = Text.quote x.subject.output)
  error : (∃ side, x.verdict = .error side) ↔ x.failing ≠ []
  blame : ∀ side, x.verdict = .error side →
    x.reason = some (String.intercalate ", "
      (x.failing.map fun side => side.1.name ++ " " ++ side.2.ending))
  ending : ∀ side ∈ x.failing, ∃ word,
    (side.2.status = .crashed ∧ word = "crashed" ∨
      side.2.status = .timedOut ∧ word = "timed_out") ∧
    (side.2.detail = none ∧ side.2.ending = word ∨
      ∃ detail, side.2.detail = some detail ∧ side.2.ending = word ++ " (" ++ detail ++ ")")

theorem reason_eq_none_iff {x : Comparison} : x.reason = none ↔ x.verdict = .agree := by
  unfold reason
  cases x.verdict with
  | agree => simp
  | differ =>
    dsimp only
    split <;> simp
  | error side => cases side <;> simp

theorem quote_ne_of_apply_ne {n : Normalization} {s t : String} (h : n.apply s ≠ n.apply t) :
    Text.quote s ≠ Text.quote t :=
  fun same => h (congrArg n.apply (Text.quote_injective same))

variable {a b : Observation} {n : Normalization}

theorem apply_ne_of_classify (differ : Verdict.classify a b n = .differ)
    (codes : a.exitCode = b.exitCode) : n.apply a.output ≠ n.apply b.output := by
  intro same
  unfold Verdict.classify at differ
  rw [codes, same] at differ
  cases ha : a.isCompleted <;> cases hb : b.isCompleted <;> simp [ha, hb] at differ

theorem failing_eq (x : Comparison) :
    x.failing = (if x.reference.isCompleted then [] else [(.reference, x.reference)]) ++
      if x.subject.isCompleted then [] else [(.subject, x.subject)] := by
  have ended (o : Observation) : decide (o.status ≠ .completed) = !o.isCompleted := by
    unfold Observation.isCompleted
    cases o.status <;> rfl
  simp only [failing, ended, List.filter_cons, List.filter_nil]
  cases x.reference.isCompleted <;> cases x.subject.isCompleted <;> rfl

theorem reason_of_error {x : Comparison} {side : Side} (error : x.verdict = .error side)
    (blamed : Verdict.failing? x.reference x.subject = some side) :
    x.reason = some (String.intercalate ", "
      (x.failing.map fun side => side.1.name ++ " " ++ side.2.ending)) := by
  unfold Verdict.failing? at blamed
  rw [failing_eq]
  cases ha : x.reference.isCompleted with
  | true =>
    cases hb : x.subject.isCompleted with
    | true => simp [ha, hb] at blamed
    | false =>
      obtain rfl : side = .subject := by simpa [ha, hb, eq_comm] using blamed
      simp [reason, error, Side.name]
  | false =>
    cases hb : x.subject.isCompleted with
    | true =>
      obtain rfl : side = .reference := by simpa [ha, hb, eq_comm] using blamed
      simp [reason, error, Side.name]
    | false =>
      obtain rfl : side = .both := by simpa [ha, hb, eq_comm] using blamed
      simp [reason, error, Side.name, ← String.toList_inj]

theorem exists_failing?_iff {x : Comparison} :
    (∃ side, Verdict.failing? x.reference x.subject = some side) ↔ x.failing ≠ [] := by
  rw [failing_eq, Verdict.failing?]
  cases x.reference.isCompleted <;> cases x.subject.isCompleted <;> simp

theorem ending_of_mem_failing {x : Comparison} {side : Side × Observation}
    (h : side ∈ x.failing) :
    ∃ word, (side.2.status = .crashed ∧ word = "crashed" ∨
        side.2.status = .timedOut ∧ word = "timed_out") ∧
      (side.2.detail = none ∧ side.2.ending = word ∨
        ∃ detail, side.2.detail = some detail ∧
          side.2.ending = word ++ " (" ++ detail ++ ")") := by
  have failed : side.2.status ≠ .completed := of_decide_eq_true (List.mem_filter.mp h).2
  refine ⟨side.2.status.name, ?_, ?_⟩
  · cases status : side.2.status with
    | completed => exact absurd status failed
    | crashed => exact .inl ⟨rfl, rfl⟩
    | timedOut => exact .inr ⟨rfl, rfl⟩
  · unfold Observation.ending
    cases side.2.detail with
    | none => exact .inl ⟨rfl, rfl⟩
    | some detail => exact .inr ⟨detail, rfl, rfl⟩

theorem explained_classify (c : Case) (a b : Observation) (n : Normalization) :
    Explained ⟨c, Verdict.classify a b n, a, b⟩ := by
  refine ⟨reason_eq_none_iff, fun differ => ?_, ?_, fun side error => ?_,
    fun _ => ending_of_mem_failing⟩
  · dsimp only at differ
    rw [reason, differ]
    by_cases codes : a.exitCode = b.exitCode
    · have quoted := quote_ne_of_apply_ne (apply_ne_of_classify differ codes)
      exact .inr ⟨codes, _, _, quoted, if_neg (not_not_intro codes), rfl, rfl⟩
    · exact .inl ⟨codes, _, _, codeText_injective.ne codes, if_pos codes, rfl, rfl⟩
  · rw [← exists_failing?_iff]
    exact exists_congr fun side => Verdict.classify_eq_error_iff
  · exact reason_of_error error (Verdict.classify_eq_error_iff.mp error)

example :
    let late : Observation := .timedOut (.ofMillis 100) ⟨0⟩
    let crashed : Observation := .crashed "terminated by signal 11" ⟨0⟩
    (Comparison.mk default (Verdict.classify late crashed .exact) late crashed).reason =
      some "reference timed_out (exceeded 100 ms), subject crashed (terminated by signal 11)" := by
  rfl

end Comparison

end PartitionTest
