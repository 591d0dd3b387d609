import Mathlib.Data.Set.Card
import PartitionTest.Proofs.Distinct
import PartitionTest.Proofs.Model.Edits

/-! Views of a domain that agree: the test for membership, the list of values,
the position of a value in that list, and the size. Which domains are accepted,
and what is wrong with the others. -/
namespace PartitionTest.Domain

/-- Counting up from the lower end of an interval does not leave 64 bits. -/
theorem toInt_ofInt_add {min max : Int64} {i : Nat} (h : min.toInt + i ≤ max.toInt) :
    (Int64.ofInt (min.toInt + i)).toInt = min.toInt + i :=
  Int64.toInt_ofInt_of_le (by have := min.le_toInt; omega) (by have := max.toInt_lt; omega)

theorem contains_int {min max n : Int64} :
    (Domain.int min max).contains (.int n) = true ↔
      min.toInt ≤ n.toInt ∧ n.toInt ≤ max.toInt := by
  rw [contains, Bool.and_eq_true, decide_eq_true_eq, decide_eq_true_eq, Int64.le_iff_toInt_le,
    Int64.le_iff_toInt_le]

theorem isSome_position? (d : Domain) (v : Scalar) :
    (d.position? v).isSome = d.contains v := by
  cases d <;> cases v <;> simp only [position?, contains, Option.isSome_none]
  case int.int => split <;> simp_all
  case char.char cs c => rw [List.findIdx?_isSome, List.any_beq']
  case bool.bool => rfl

/-- A position points at the value it was asked for. -/
theorem getElem?_values_of_position? {d : Domain} {v : Scalar} {i : Nat}
    (h : d.position? v = some i) : d.values[i]? = some v := by
  have member : d.contains v = true := by rw [← isSome_position?, h]; rfl
  cases d <;> cases v <;> simp only [position?, reduceCtorEq] at h
  case int.int min max n =>
    have bounds := contains_int.mp member
    rw [contains] at member
    rw [if_pos member] at h
    obtain rfl := Option.some.inj h
    have back : min.toInt + ((n.toInt - min.toInt).toNat : Nat) = n.toInt := by omega
    rw [values, List.getElem?_map, List.getElem?_range (by omega), Option.map_some, back,
      Int64.ofInt_toInt]
  case char.char cs c =>
    obtain ⟨bound, found, -⟩ := List.findIdx?_eq_some_iff_getElem.mp h
    rw [values, List.getElem?_map, List.getElem?_eq_getElem bound, eq_of_beq found,
      Option.map_some]
  case bool.bool b =>
    obtain rfl := Option.some.inj h
    cases b <;> rfl

theorem mem_values {d : Domain} {v : Scalar} : v ∈ d.values ↔ d.contains v = true := by
  constructor
  · intro h
    cases d with
    | int min max =>
      obtain ⟨i, hi, rfl⟩ := List.mem_map.mp h
      have bound := List.mem_range.mp hi
      have upper : min.toInt + i ≤ max.toInt := by omega
      rw [contains_int, toInt_ofInt_add upper]
      omega
    | char cs =>
      obtain ⟨c, hc, rfl⟩ := List.mem_map.mp h
      rwa [contains, List.contains_iff_mem]
    | bool => cases v <;> simp_all [values, contains]
  · intro h
    rw [← isSome_position?, Option.isSome_iff_exists] at h
    obtain ⟨i, hi⟩ := h
    exact List.mem_of_getElem? (getElem?_values_of_position? hi)

theorem kind_of_mem_values {d : Domain} {v : Scalar} (h : v ∈ d.values) : v.kind = d.kind := by
  rw [mem_values] at h
  cases d <;> cases v <;> first | rfl | nomatch h

theorem length_values_int (min max : Int64) :
    (Domain.int min max).values.length = (max.toInt - min.toInt + 1).toNat := by
  rw [values, List.length_map, List.length_range]

theorem values_int_eq_nil_iff {min max : Int64} :
    (Domain.int min max).values = [] ↔ max < min := by
  rw [← List.length_eq_zero_iff, length_values_int, Int64.lt_iff_toInt_lt]
  omega

theorem pairwise_values_int (min max : Int64) :
    (Domain.int min max).values.Pairwise fun v w => ∃ m n, v = .int m ∧ w = .int n ∧ m < n := by
  rw [values, List.pairwise_map]
  refine List.pairwise_lt_range.imp_of_mem fun {i j} hi hj apart => ⟨_, _, rfl, rfl, ?_⟩
  have bound := List.mem_range.mp hj
  have first : min.toInt + i ≤ max.toInt := by omega
  have second : min.toInt + j ≤ max.toInt := by omega
  rw [Int64.lt_iff_toInt_lt, toInt_ofInt_add first, toInt_ofInt_add second]
  omega

theorem nodup_values_int (min max : Int64) : (Domain.int min max).values.Nodup := by
  refine (pairwise_values_int min max).imp ?_
  rintro _ _ ⟨m, n, rfl, rfl, apart⟩ same
  exact absurd (Scalar.int.inj same ▸ apart) ((Int64.lt_irrefl))

theorem nodup_values_char {cs : List Char} : (Domain.char cs).values.Nodup ↔ cs.Nodup :=
  List.nodup_map_iff fun _ _ => Scalar.char.inj

theorem size_int_eq_min (low high : Int64) :
    (int low high).size = min (int low high).values.length (2 ^ 64 - 1) := by
  rw [length_values_int]
  rfl

theorem size_le_maxDomainSize_iff {d : Domain} :
    d.size ≤ maxDomainSize ↔ d.values.length ≤ maxDomainSize := by
  cases d with
  | int low high =>
    rw [size_int_eq_min]
    unfold maxDomainSize
    omega
  | char cs => rw [size, values, List.length_map]
  | bool => exact Iff.rfl

theorem flaw?_eq_none_iff {d : Domain} :
    d.flaw? = none ↔ d.values ≠ [] ∧ d.values.Nodup ∧ d.values.length ≤ maxDomainSize := by
  rw [← size_le_maxDomainSize_iff]
  have fits : (if maxDomainSize < d.size then some (Flaw.tooLarge d.size) else none) = none ↔
      d.size ≤ maxDomainSize := by
    split <;> simp_all
  cases d with
  | int min max =>
    rw [flaw?, ne_eq, values_int_eq_nil_iff, and_iff_right (nodup_values_int min max)]
    split
    · simp_all
    · rename_i forwards
      rw [fits, and_iff_right forwards]
  | char cs =>
    rw [nodup_values_char]
    cases cs with
    | nil => simp [flaw?, values]
    | cons c cs =>
      have distinct : firstRepeatedBy? Char.val (c :: cs) = none ↔ (c :: cs).Nodup := by
        rw [firstRepeatedBy?_eq_none_iff, List.nodup_map_iff fun _ _ => Char.ext]
      have nonempty : (Domain.char (c :: cs)).values ≠ [] := List.cons_ne_nil _ _
      rw [← distinct, and_iff_right nonempty]
      unfold flaw?
      dsimp only
      split
      · simp_all
      · rename_i once
        rw [fits, and_iff_right once]
  | bool => exact iff_of_true rfl (by decide)

theorem flaw?_eq_none_iff_wellFormed {d : Domain} : d.flaw? = none ↔
    (∀ min max, d = .int min max → min ≤ max) ∧
      (∀ cs, d = .char cs → cs ≠ [] ∧ cs.Nodup) ∧ d.values.length ≤ maxDomainSize := by
  rw [flaw?_eq_none_iff, ← and_assoc, ← and_assoc]
  refine and_congr_left fun _ => ?_
  cases d with
  | int low high =>
    rw [ne_eq, values_int_eq_nil_iff, Int64.not_lt, and_iff_left (nodup_values_int low high)]
    simp
  | char cs =>
    rw [nodup_values_char]
    simp [values]
  | bool => exact iff_of_true (by decide) ⟨nofun, nofun⟩

/-- What is wrong with a domain, and what is said of it. A domain is only called
too large if it is well-formed. -/
inductive Flawed : Domain → Flaw → Prop where
  | emptyRange {min max : Int64} (backwards : max < min) :
    Flawed (.int min max) (.emptyRange min max)
  | noCharacters : Flawed (.char []) .noCharacters
  | repeated {cs before after : List Char} {c : Char} (split : cs = before ++ c :: after)
    (once : before.Nodup) (again : c ∈ before) : Flawed (.char cs) (.repeated c)
  | tooLarge {d : Domain} (distinct : d.values.Nodup)
    (large : maxDomainSize < d.values.length) : Flawed d (.tooLarge d.size)

theorem tooLarge_eq_some_iff {d : Domain} {f : Flaw} :
    (if maxDomainSize < d.size then some (Flaw.tooLarge d.size) else none) = some f ↔
      maxDomainSize < d.values.length ∧ f = .tooLarge d.size := by
  rw [← Nat.not_le (a := d.values.length), ← size_le_maxDomainSize_iff, Nat.not_le]
  split
  · rename_i large
    rw [and_iff_right large, Option.some_inj, eq_comm]
  · rename_i small
    exact iff_of_false nofun fun h => small h.1

theorem firstRepeatedBy?_val_eq_some_iff {cs : List Char} {c : Char} :
    firstRepeatedBy? Char.val cs = some c ↔
      ∃ before after, cs = before ++ c :: after ∧ before.Nodup ∧ c ∈ before := by
  simp only [firstRepeatedBy?_eq_some_iff, List.nodup_map_iff fun _ _ => Char.ext,
    List.mem_map_of_injective fun _ _ => Char.ext]

theorem firstRepeatedBy?_val_eq_none_iff {cs : List Char} :
    firstRepeatedBy? Char.val cs = none ↔ (Domain.char cs).values.Nodup := by
  rw [firstRepeatedBy?_eq_none_iff, List.nodup_map_iff fun _ _ => Char.ext, nodup_values_char]

theorem flaw?_eq_some_iff {d : Domain} {f : Flaw} : d.flaw? = some f ↔ d.Flawed f := by
  cases d with
  | int min max =>
    unfold flaw?
    dsimp only
    split
    · rename_i backwards
      constructor
      · rintro ⟨⟩
        exact .emptyRange backwards
      · rintro (_ | _ | _ | ⟨-, large⟩)
        · rfl
        · rw [length_values_int] at large
          rw [Int64.lt_iff_toInt_lt] at backwards
          omega
    · rename_i forwards
      rw [tooLarge_eq_some_iff]
      constructor
      · rintro ⟨large, rfl⟩
        exact .tooLarge (nodup_values_int min max) large
      · rintro (backwards | _ | _ | ⟨-, large⟩)
        · exact absurd backwards forwards
        · exact ⟨large, rfl⟩
  | char cs =>
    cases cs with
    | nil =>
      constructor
      · rintro ⟨⟩
        exact .noCharacters
      · rintro (_ | _ | ⟨split, -, -⟩ | ⟨-, large⟩)
        · rfl
        · simp at split
        · simp [values] at large
    | cons c cs =>
      unfold flaw?
      dsimp only
      split
      · rename_i again found
        have occurs := firstRepeatedBy?_val_eq_some_iff.mp found
        constructor
        · rintro ⟨⟩
          obtain ⟨before, after, split, once, twice⟩ := occurs
          exact .repeated split once twice
        · rintro (_ | _ | ⟨split, once, twice⟩ | ⟨distinct, -⟩)
          · have same := firstRepeatedBy?_val_eq_some_iff.mpr ⟨_, _, split, once, twice⟩
            rw [Option.some.inj (found.symm.trans same)]
          · rw [firstRepeatedBy?_val_eq_none_iff.mpr distinct] at found
            nomatch found
      · rename_i none
        have distinct := firstRepeatedBy?_val_eq_none_iff.mp none
        rw [tooLarge_eq_some_iff]
        constructor
        · rintro ⟨large, rfl⟩
          exact .tooLarge distinct large
        · rintro (_ | _ | ⟨split, once, twice⟩ | ⟨-, large⟩)
          · rw [firstRepeatedBy?_val_eq_some_iff.mpr ⟨_, _, split, once, twice⟩] at none
            nomatch none
          · exact ⟨large, rfl⟩
  | bool => exact iff_of_false nofun (by rintro (_ | _ | _ | ⟨-, large⟩); revert large; decide)

variable {d : Domain} {min max : Int64}

def accepted (d : Domain) : Set Scalar := {v | d.contains v = true}

theorem ncard_accepted (distinct : d.values.Nodup) : d.accepted.ncard = d.values.length := by
  have listed : d.accepted = ↑d.values.toFinset := by
    ext v
    rw [List.coe_toFinset, accepted, Set.mem_ofPred_eq, Set.mem_ofPred_eq, mem_values]
  rw [listed, Set.ncard_coe_finset, List.toFinset_card_of_nodup distinct]

theorem ncard_accepted_int (min max : Int64) :
    (int min max).accepted.ncard = (max.toInt - min.toInt + 1).toNat := by
  rw [ncard_accepted (nodup_values_int min max), length_values_int]

theorem size_int (min max : Int64) :
    (int min max).size = Nat.min (int min max).accepted.ncard (2 ^ 64 - 1) := by
  rw [size_int_eq_min, ncard_accepted (nodup_values_int min max)]

theorem size_eq_length_values (h : d.values.length ≤ maxDomainSize) :
    d.size = d.values.length := by
  cases d with
  | int min max =>
    rw [size_int_eq_min]
    exact Nat.min_eq_left (h.trans (by decide))
  | char cs => rw [size, values, List.length_map]
  | bool => rfl

def wide (n : Int64) : BitVec 128 := n.toBitVec.signExtend 128

theorem toInt_wide (n : Int64) : (wide n).toInt = n.toInt := by
  rw [wide, BitVec.toInt_signExtend_of_le (by decide), Int64.toInt_toBitVec]

/-- Words of 128 bits are wide enough to count an interval, from end to end and
both ends included. -/
structure CountedWide (min max : Int64) : Prop where
  difference : (wide max).ssubOverflow (wide min) = false
  successor : (wide max - wide min).saddOverflow 1 = false
  count : min ≤ max → (wide max - wide min + 1).toInt = (int min max).accepted.ncard

theorem countedWide (min max : Int64) : CountedWide min max := by
  have lower := min.le_toInt
  have upper := max.toInt_lt
  have first := min.toInt_lt
  have last := max.le_toInt
  have difference : (wide max).ssubOverflow (wide min) = false := by
    simp only [BitVec.ssubOverflow, toInt_wide, Bool.or_eq_false_iff, decide_eq_false_iff_not]
    omega
  have steps : (wide max - wide min).toInt = max.toInt - min.toInt := by
    rw [BitVec.toInt_sub_of_not_ssubOverflow (ne_true_of_eq_false difference), toInt_wide,
      toInt_wide]
  have one : (1 : BitVec 128).toInt = 1 := rfl
  have successor : (wide max - wide min).saddOverflow 1 = false := by
    simp only [BitVec.saddOverflow, steps, one, Bool.or_eq_false_iff, decide_eq_false_iff_not]
    omega
  refine ⟨difference, successor, fun le => ?_⟩
  rw [Int64.le_iff_toInt_le] at le
  rw [BitVec.toInt_add_of_not_saddOverflow (ne_true_of_eq_false successor), steps, one,
    ncard_accepted_int]
  omega

/-- The list, the size and the test for membership describe one set of values. -/
structure Enumerated (d : Domain) : Prop where
  nodup : d.values.Nodup
  length : d.values.length = d.size
  pos : 1 ≤ d.size
  le : d.size ≤ 65536
  contains_iff : ∀ v, d.contains v = true ↔ v ∈ d.values
  ascending : ∀ min max, d = .int min max →
    d.values.Pairwise fun v w => ∃ m n, v = .int m ∧ w = .int n ∧ m < n

theorem enumerated (sound : d.flaw? = none) : d.Enumerated := by
  obtain ⟨inhabited, distinct, small⟩ := flaw?_eq_none_iff.mp sound
  have length : d.size = d.values.length := size_eq_length_values small
  refine ⟨distinct, length.symm, ?_, ?_, fun v => mem_values.symm, ?_⟩
  · rw [length]
    exact List.length_pos_iff.mpr inhabited
  · rw [length]
    exact small
  · rintro min max rfl
    exact pairwise_values_int min max

theorem flaw?_int_eq_tooLarge_iff {n : Nat} : (int min max).flaw? = some (.tooLarge n) ↔
    65536 < (int min max).accepted.ncard ∧ n = (int min max).size := by
  rw [flaw?_eq_some_iff, ncard_accepted (nodup_values_int min max)]
  constructor
  · rintro (_ | _ | _ | ⟨-, large⟩)
    exact ⟨large, rfl⟩
  · rintro ⟨large, rfl⟩
    exact .tooLarge (nodup_values_int min max) large

/-- What becomes a variable's domain lists each of its values once, as many as its
size says. The size of an interval is right for any ends, and an interval under a
new name is called too large just when more values than the limit lie in it. -/
theorem values_counted :
    (∀ (m : Model) (name : String) (d : Domain),
      ((Edit.addVariable name d).on m).1 = .ok () → d.Enumerated) ∧
    ∀ min max : Int64,
      (int min max).size = Nat.min (int min max).accepted.ncard (2 ^ 64 - 1) ∧
      CountedWide min max ∧
      ∀ (m : Model) (name : String) (n : Nat),
        ((Edit.addVariable name (int min max)).on m).1 = .error (.domain name (.tooLarge n)) ↔
          m.find? name = none ∧ 65536 < (int min max).accepted.ncard ∧
            n = (int min max).size := by
  constructor
  · intro m name d added
    rw [Edit.addVariable_on] at added
    split at added
    · nomatch added
    · split at added
      · nomatch added
      · rename_i sound
        exact enumerated sound
  · intro min max
    refine ⟨size_int min max, countedWide min max, fun m name n => ?_⟩
    rw [Edit.addVariable_on, ← flaw?_int_eq_tooLarge_iff, ← Option.not_isSome_iff_eq_none]
    split
    · rename_i known
      exact iff_of_false nofun fun new => new.1 known
    · rename_i new
      rw [and_iff_right new]
      split
      · rename_i flaw found
        simp [found]
      · rename_i sound
        simp [sound]

theorem values_counted_last :
    ((Edit.addVariable "last" (int (Int64.maxValue - 2) Int64.maxValue)).on {}).1 = .ok () ∧
      (int (Int64.maxValue - 2) Int64.maxValue).Enumerated ∧
      (int Int64.minValue Int64.maxValue).size = 2 ^ 64 - 1 ∧
      (int Int64.minValue Int64.maxValue).accepted.ncard = 2 ^ 64 :=
  have added : ((Edit.addVariable "last" (int (Int64.maxValue - 2) Int64.maxValue)).on {}).1 =
      .ok () := by rfl
  ⟨added, values_counted.1 _ _ _ added, by rfl, ncard_accepted_int _ _⟩

end PartitionTest.Domain
