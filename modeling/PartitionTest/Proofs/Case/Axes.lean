import PartitionTest.Case.Plan
import PartitionTest.Proofs.Distinct
import PartitionTest.Proofs.Model.Reachable

/-! The axes of a valid model. Whatever value an axis holds, be it a boundary
point of any class, an interior member or the base, lies in the domain. -/
namespace PartitionTest

namespace Table

variable {t : Table} {c : Nat} {v : Scalar}

theorem map_value_candidates :
    (t.candidates c).map (·.value) = t.boundariesOf c ++ (t.interior? c).toList := by
  rw [candidates, List.map_append, List.map_map]
  cases t.interior? c <;> simp [Function.comp_def]

theorem mem_map_value_representatives :
    v ∈ t.representatives.map (·.value) ↔
      ∃ c < t.classCount, v ∈ t.boundariesOf c ∨ t.interior? c = some v := by
  rw [representatives, mem_map_distinctBy, List.map_flatMap]
  simp only [map_value_candidates, List.mem_flatMap, List.mem_range, List.mem_append,
    Option.mem_toList]

theorem mem_of_interior? (h : t.interior? c = some v) :
    v ∈ t.membersOf c ∧ t.isBoundary v = false := by
  have inner := List.mem_of_getElem? h
  rw [List.mem_filter, Bool.not_eq_true'] at inner
  exact inner

/-- A class has an interior member unless all its members are boundary points. -/
theorem exists_interior? (hv : v ∈ t.membersOf c) (inner : t.isBoundary v = false) :
    ∃ w, t.interior? c = some w := by
  have filtered : v ∈ (t.membersOf c).filter fun v => !t.isBoundary v := by
    rw [List.mem_filter, inner]
    exact ⟨hv, rfl⟩
  have positive := List.length_pos_of_mem filtered
  exact ⟨_, List.getElem?_eq_getElem (Nat.div_lt_self positive (by decide))⟩

theorem isBoundary_iff :
    t.isBoundary v = true ↔ ∃ c < t.boundaries.length, v ∈ t.boundariesOf c := by
  simp only [isBoundary, List.any_eq_true, List.contains_iff_mem, boundariesOf]
  constructor
  · rintro ⟨points, hp, hv⟩
    obtain ⟨i, hi, rfl⟩ := List.getElem_of_mem hp
    exact ⟨i, hi, by simpa [List.getElem?_eq_getElem hi] using hv⟩
  · rintro ⟨i, hi, hv⟩
    rw [List.getElem?_eq_getElem hi] at hv
    exact ⟨_, List.getElem_mem hi, hv⟩

theorem exists_nominal? (h : t.membersOf c ≠ []) :
    ∃ v ∈ t.membersOf c, t.nominal? c = some v := by
  unfold nominal?
  cases inner : t.interior? c with
  | some v => exact ⟨v, (mem_of_interior? inner).1, rfl⟩
  | none =>
    have middle := Nat.div_lt_self (List.length_pos_iff.mpr h) (show 1 < 2 by decide)
    exact ⟨_, List.getElem_mem middle, List.getElem?_eq_getElem middle⟩

end Table

namespace Variable

variable {x : Variable} {v : Scalar} {i : Nat}

theorem mem_of_mem_derivedBoundaries {domain : List Scalar} {owners : List Nat}
    (h : v ∈ derivedBoundaries domain.toArray owners i) : v ∈ domain := by
  simp only [derivedBoundaries, List.mem_flatMap, List.mem_filterMap] at h
  obtain ⟨run, -, j, -, hj⟩ := h
  exact List.mem_of_getElem? (by simpa using hj)

theorem boundaries_length_table (x : Variable) :
    x.table.boundaries.length = x.classes.length := by
  simp [table]

/-- A boundary point of a class was declared, or derived from the domain. -/
def Borders (x : Variable) (i : Nat) (v : Scalar) : Prop :=
  ∃ c, x.classes[i]? = some c ∧ (v ∈ c.boundaries ∨ c.autoBoundaries = true ∧
    v ∈ derivedBoundaries x.domain.values.toArray
      (x.domain.values.map fun w => (x.selecting w).headD 0) i)

theorem mem_boundariesOf_table : v ∈ x.table.boundariesOf i ↔ x.Borders i v := by
  simp only [Table.boundariesOf, table, List.getElem?_map, List.getElem?_zipIdx, Borders]
  cases hc : x.classes[i]? with
  | none => simp
  | some c =>
    simp only [Option.map_some, Option.getD_some, mem_distinct, List.mem_append,
      Option.some.injEq, exists_eq_left', Nat.zero_add]
    refine or_congr_right ?_
    split <;> simp_all

theorem Borders.lt (h : x.Borders i v) : i < x.classes.length := by
  obtain ⟨c, hc, -⟩ := h
  exact (List.getElem?_eq_some_iff.mp hc).1

theorem Sound.mem_of_borders (h : x.Sound) (hv : x.Borders i v) : v ∈ x.domain.values := by
  obtain ⟨c, hc, declared | ⟨-, derived⟩⟩ := hv
  · exact Domain.mem_values.mpr (h.boundaries c (List.mem_of_getElem? hc) v declared)
  · exact mem_of_mem_derivedBoundaries derived

theorem mem_membersOf_table (hi : i < x.classes.length) :
    v ∈ x.table.membersOf i ↔ v ∈ x.domain.values ∧ x.table.classOf v = some i := by
  rw [membersOf_table hi, List.mem_filter, beq_iff_eq]

def axis (x : Variable) : Axis := Axis.of x x.table

theorem Sound.representative_mem (h : x.Sound) {r : Representative}
    (hr : r ∈ x.axis.representatives) : r.value ∈ x.domain.values := by
  obtain ⟨i, hi, boundary | interior⟩ :=
    Table.mem_map_value_representatives.mp (List.mem_map_of_mem (f := (·.value)) hr)
  · exact h.mem_of_borders (mem_boundariesOf_table.mp boundary)
  · rw [classCount_table] at hi
    exact ((mem_membersOf_table hi).mp (Table.mem_of_interior? interior).1).1

theorem IsPartition.anchor_lt (h : x.IsPartition) : Axis.anchor x < x.classes.length := by
  unfold Axis.anchor
  cases found : x.classes.findIdx? (·.tag == .valid) with
  | none => exact List.length_pos_iff.mpr h.classes_ne_nil
  | some i => exact (List.findIdx?_eq_some_iff_getElem.mp found).1

theorem IsPartition.axis_base_mem (h : x.IsPartition) : x.axis.base ∈ x.domain.values := by
  show Axis.baseOf x x.table ∈ x.domain.values
  unfold Axis.baseOf
  split
  · rename_i v hv
    exact h.base_mem v hv
  · obtain ⟨v, hv, nominal⟩ :=
      Table.exists_nominal? (h.represents.membersOf_ne_nil _ h.anchor_lt)
    rw [nominal]
    exact ((mem_membersOf_table h.anchor_lt).mp hv).1

end Variable

theorem Model.Sound.plan {m : Model} (h : m.Sound) (valid : m.isValidated = true) :
    Plan.ofModel m = .ok ⟨m.vars.map Variable.axis⟩ := by
  unfold Plan.ofModel Model.tables?
  rw [(h.tables_eq valid).1]
  show Except.ok (⟨List.zipWith Axis.of m.vars (m.vars.map Variable.table)⟩ : Plan) = _
  rw [List.zipWith_map_right, List.zipWith_self]
  rfl

end PartitionTest
