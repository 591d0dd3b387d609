import Mathlib.Data.List.Nodup
import Mathlib.Logic.ExistsUnique
import PartitionTest.Model.Check
import PartitionTest.Proofs.Domain

/-! Validation decides whether the classes of every variable partition its
domain, and its tables say which class owns which value. -/
namespace PartitionTest

theorem Class.selects_iff {c : Class} {v : Scalar} :
    c.selects v = true ↔ c.predicate.holds v = .ok true := by
  unfold Class.selects
  split <;> simp_all

theorem Class.firstError?_eq_none {c : Class} {domain : List Scalar} :
    c.firstError? domain = none ↔ ∀ v ∈ domain, ∃ b, c.predicate.holds v = .ok b := by
  unfold Class.firstError?
  rw [List.findSome?_eq_none_iff]
  refine forall₂_congr fun v _ => ?_
  split <;> simp_all

namespace Variable

/-- A class owns the values of which its predicate is true. -/
def Owns (x : Variable) (i : Nat) (v : Scalar) : Prop :=
  ∃ c, x.classes[i]? = some c ∧ c.predicate.holds v = .ok true

theorem Owns.lt {x : Variable} {i : Nat} {v : Scalar} (h : x.Owns i v) :
    i < x.classes.length := by
  obtain ⟨c, hc, -⟩ := h
  exact (List.getElem?_eq_some_iff.mp hc).1

/-- The classes of a variable divide its domain among them. -/
structure IsPartition (x : Variable) : Prop where
  classes_ne_nil : x.classes ≠ []
  base_mem : ∀ v, x.base = some v → v ∈ x.domain.values
  answers : ∀ c ∈ x.classes, ∀ v ∈ x.domain.values, ∃ b, c.predicate.holds v = .ok b
  owner : ∀ v ∈ x.domain.values, ∃! i, x.Owns i v
  inhabited : ∀ i < x.classes.length, ∃ v ∈ x.domain.values, x.Owns i v

theorem mem_selecting {x : Variable} {v : Scalar} {i : Nat} :
    i ∈ x.selecting v ↔ x.Owns i v := by
  simp only [selecting, List.mem_map, List.mem_filter, List.mem_zipIdx_iff_getElem?,
    Class.selects_iff, Owns]
  constructor
  · rintro ⟨⟨c, j⟩, ⟨hc, hs⟩, rfl⟩
    exact ⟨c, hc, hs⟩
  · rintro ⟨c, hc, hs⟩
    exact ⟨(c, i), ⟨hc, hs⟩, rfl⟩

theorem pairwise_selecting (x : Variable) (v : Scalar) :
    (x.selecting v).Pairwise (· < ·) := by
  have all : (x.classes.zipIdx.map (·.2)).Pairwise (· < ·) := by
    rw [List.zipIdx_map_snd]
    exact List.pairwise_lt_range'
  exact all.sublist (List.filter_sublist.map _)

theorem existsUnique_owns_iff {x : Variable} {v : Scalar} :
    (∃! i, x.Owns i v) ↔ x.selecting v ≠ [] ∧ (x.selecting v).length ≤ 1 := by
  simp only [← mem_selecting]
  have ascending := x.pairwise_selecting v
  match hs : x.selecting v with
  | [] => simp [ExistsUnique]
  | [i] => simp
  | i :: j :: rest =>
    rw [hs] at ascending
    have apart : i < j := (List.pairwise_cons.mp ascending).1 j List.mem_cons_self
    simp only [List.length_cons, ne_eq, reduceCtorEq, not_false_eq_true, true_and]
    constructor
    · rintro ⟨k, -, unique⟩
      have hi := unique i List.mem_cons_self
      have hj := unique j (List.mem_cons_of_mem _ List.mem_cons_self)
      omega
    · omega

theorem Owns.selecting_eq {x : Variable} {v : Scalar} {i : Nat} (h : x.Owns i v)
    (unique : ∃! i, x.Owns i v) : x.selecting v = [i] := by
  have member := mem_selecting.mpr h
  obtain ⟨-, short⟩ := existsUnique_owns_iff.mp unique
  match hs : x.selecting v with
  | [] => simp [hs] at member
  | [j] => simp_all
  | _ :: _ :: _ => simp [hs] at short

abbrev selections (x : Variable) : List Match :=
  x.domain.values.map fun v => (v, x.selecting v)

theorem predicateErrors_eq_nil_iff {x : Variable} {domain : List Scalar} :
    x.predicateErrors domain = [] ↔
      ∀ c ∈ x.classes, ∀ v ∈ domain, ∃ b, c.predicate.holds v = .ok b := by
  simp only [predicateErrors, List.filterMap_eq_nil_iff, Option.map_eq_none_iff,
    Class.firstError?_eq_none]

theorem baseErrors_eq_nil_iff {x : Variable} :
    x.baseErrors = [] ↔ ∀ v, x.base = some v → v ∈ x.domain.values := by
  unfold baseErrors
  split
  · rename_i v hv
    simp [hv, Domain.mem_values]
  · simp_all

theorem gaps_eq_nil_iff {x : Variable} :
    x.gaps x.selections = [] ↔ ∀ v ∈ x.domain.values, x.selecting v ≠ [] := by
  have unmatched : x.gaps x.selections = [] ↔
      (x.selections.filter (·.2.isEmpty)).map (·.1) = [] := by
    unfold gaps
    split <;> simp_all
  rw [unmatched]
  simp [List.filter_eq_nil_iff]

/-- Two classes that select one domain value are reported together. -/
theorem overlaps_ne_nil {x : Variable} {v : Scalar} (hv : v ∈ x.domain.values)
    (long : 1 < (x.selecting v).length) : x.overlaps x.selections ≠ [] := by
  have ascending := x.pairwise_selecting v
  match hs : x.selecting v with
  | [] | [_] => simp [hs] at long
  | i :: j :: rest =>
    rw [hs] at ascending
    have apart : i < j := (List.pairwise_cons.mp ascending).1 j List.mem_cons_self
    have hi : i ∈ x.selecting v := by simp [hs]
    have hj : j ∈ x.selecting v := by simp [hs]
    obtain ⟨c, hc, -⟩ := mem_selecting.mp hi
    obtain ⟨d, hd, -⟩ := mem_selecting.mp hj
    have contested : (v, x.selecting v) ∈ x.selections.filter fun m => 1 < m.2.length := by
      rw [List.mem_filter]
      exact ⟨List.mem_map.mpr ⟨v, hv, rfl⟩, decide_eq_true long⟩
    have pair : ((c, i), (d, j)) ∈ x.classPairs := by
      simp only [classPairs, List.mem_flatMap, List.mem_map, List.mem_filter,
        List.mem_zipIdx_iff_getElem?]
      exact ⟨(c, i), hc, (d, j), ⟨hd, decide_eq_true apart⟩, rfl⟩
    intro none
    unfold overlaps at none
    rw [if_neg (by rw [List.isEmpty_iff]; exact List.ne_nil_of_mem contested),
      List.filterMap_eq_nil_iff] at none
    have silent := none _ pair
    dsimp only at silent
    split at silent
    · rename_i nothing
      rw [List.map_eq_nil_iff, List.filter_eq_nil_iff] at nothing
      exact nothing _ contested (by simp [hi, hj])
    · contradiction

theorem overlaps_eq_nil_iff {x : Variable} :
    x.overlaps x.selections = [] ↔ ∀ v ∈ x.domain.values, (x.selecting v).length ≤ 1 := by
  constructor
  · intro none v hv
    by_contra long
    exact overlaps_ne_nil hv (Nat.lt_of_not_le long) none
  · intro short
    have uncontested : x.selections.filter (fun m => 1 < m.2.length) = [] := by
      simpa [List.filter_eq_nil_iff] using short
    simp [overlaps, uncontested]

theorem any_selections_iff {x : Variable} {i : Nat} :
    x.selections.any (·.2.contains i) = true ↔ ∃ v ∈ x.domain.values, x.Owns i v := by
  simp only [List.any_map, List.any_eq_true, Function.comp_apply, List.contains_iff_mem,
    mem_selecting]

theorem emptyClasses_eq_nil_iff {x : Variable} :
    x.emptyClasses x.selections = [] ↔
      ∀ i < x.classes.length, ∃ v ∈ x.domain.values, x.Owns i v := by
  simp only [emptyClasses, List.map_eq_nil_iff, List.filter_eq_nil_iff, Bool.not_eq_true,
    Bool.not_eq_false', any_selections_iff]
  constructor
  · intro h i hi
    exact h (x.classes[i], i) (List.mk_mem_zipIdx_iff_getElem?.mpr (List.getElem?_eq_getElem hi))
  · rintro h ⟨c, i⟩ hc
    exact h i (List.getElem?_eq_some_iff.mp (List.mk_mem_zipIdx_iff_getElem?.mp hc)).1

theorem violations_eq_nil_iff {x : Variable} : x.violations = [] ↔ x.IsPartition := by
  by_cases empty : x.classes = []
  · have stopped : x.violations = [.noClasses x.name] := by simp [violations, empty]
    rw [stopped]
    exact ⟨fun h => absurd h (List.cons_ne_nil _ _), fun h => absurd empty h.classes_ne_nil⟩
  · have total : x.predicateErrors x.domain.values = [] ↔ _ := predicateErrors_eq_nil_iff
    unfold violations
    rw [if_neg (by simpa using empty)]
    dsimp only
    split
    · rename_i none
      rw [List.append_eq_nil_iff, List.append_eq_nil_iff, List.append_eq_nil_iff,
        baseErrors_eq_nil_iff, gaps_eq_nil_iff, overlaps_eq_nil_iff, emptyClasses_eq_nil_iff]
      constructor
      · rintro ⟨⟨⟨base, covered⟩, disjoint⟩, inhabited⟩
        exact ⟨empty, base, total.mp none,
          fun v hv => existsUnique_owns_iff.mpr ⟨covered v hv, disjoint v hv⟩, inhabited⟩
      · intro h
        exact ⟨⟨⟨h.base_mem, fun v hv => (existsUnique_owns_iff.mp (h.owner v hv)).1⟩,
          fun v hv => (existsUnique_owns_iff.mp (h.owner v hv)).2⟩, h.inhabited⟩
    · rename_i some
      constructor
      · intro h
        exact absurd (List.append_eq_nil_iff.mp h).2 some
      · intro h
        exact absurd (total.mpr h.answers) some

end Variable

end PartitionTest
