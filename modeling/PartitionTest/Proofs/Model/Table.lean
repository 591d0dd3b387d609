import Mathlib.Data.List.Forall2
import PartitionTest.Proofs.Model.Partition

/-! The table of a variable answers for every value. On a partition it finds
the one class that owns a domain value, and nothing elsewhere. -/
namespace PartitionTest

namespace Variable

theorem classOf_table (x : Variable) (v : Scalar) :
    x.table.classOf v =
      if v ∈ x.domain.values then some ((x.selecting v).headD 0) else none := by
  have known := Domain.mem_values (d := x.domain) (v := v)
  rw [← Domain.isSome_position?] at known
  show (x.domain.position? v).bind (fun i => x.table.owners[i]?) = _
  cases h : x.domain.position? v with
  | none => simp [known, h]
  | some i =>
    have at_i := Domain.getElem?_values_of_position? h
    simp [known, h, table, at_i]

theorem classCount_table (x : Variable) : x.table.classCount = x.classes.length := by
  simp [Table.classCount, table]

theorem membersOf_table {x : Variable} {i : Nat} (hi : i < x.classes.length) :
    x.table.membersOf i = x.domain.values.filter fun v => x.table.classOf v == some i := by
  have owned : x.table.membersOf i =
      x.domain.values.filter fun v => (x.selecting v).headD 0 == i := by
    simp only [Table.membersOf, table, List.getElem?_map, List.getElem?_zipIdx,
      List.getElem?_eq_getElem hi, Option.map_some, Option.getD_some, Nat.zero_add,
      ← List.map_prod_left_eq_zip, List.filter_map, List.map_map]
    exact List.map_id _
  rw [owned]
  refine List.filter_congr fun v hv => ?_
  rw [classOf_table, if_pos hv]
  rfl

/-- On a partition the class found for a domain value is the one that owns it. -/
theorem IsPartition.classOf_table_eq_some {x : Variable} (h : x.IsPartition) {v : Scalar}
    {i : Nat} : x.table.classOf v = some i ↔ v ∈ x.domain.values ∧ x.Owns i v := by
  rw [classOf_table]
  constructor
  · intro found
    split at found
    · rename_i hv
      obtain ⟨j, owns, -⟩ := h.owner v hv
      rw [owns.selecting_eq (h.owner v hv)] at found
      obtain rfl := Option.some.inj found
      exact ⟨hv, owns⟩
    · contradiction
  · rintro ⟨hv, owns⟩
    rw [if_pos hv, owns.selecting_eq (h.owner v hv)]
    rfl

end Variable

/-- A table tells the values of a variable apart as its classes do: it finds a
class for the domain values that class owns and for no others, and lists these
in domain order. No class is without members. -/
structure Table.Represents (t : Table) (x : Variable) : Prop where
  classCount : t.classCount = x.classes.length
  classOf_eq_some : ∀ v i, t.classOf v = some i ↔ v ∈ x.domain.values ∧ x.Owns i v
  membersOf : ∀ i < x.classes.length,
    t.membersOf i = x.domain.values.filter fun v => t.classOf v == some i
  membersOf_ne_nil : ∀ i < x.classes.length, t.membersOf i ≠ []

theorem Variable.IsPartition.represents {x : Variable} (h : x.IsPartition) :
    x.table.Represents x where
  classCount := x.classCount_table
  classOf_eq_some _ _ := h.classOf_table_eq_some
  membersOf _ hi := Variable.membersOf_table hi
  membersOf_ne_nil i hi := by
    obtain ⟨v, hv, owns⟩ := h.inhabited i hi
    rw [Variable.membersOf_table hi]
    apply List.ne_nil_of_mem (a := v)
    rw [List.mem_filter, beq_iff_eq]
    exact ⟨hv, h.classOf_table_eq_some.mpr ⟨hv, owns⟩⟩

namespace Model

theorem violations_eq_nil_iff {m : Model} :
    m.violations = [] ↔ ∀ x ∈ m.vars, x.IsPartition := by
  simp only [violations, List.flatMap_eq_nil_iff, Variable.violations_eq_nil_iff]

theorem validate_of_violations_eq_nil {m : Model} (h : m.violations = []) :
    m.validate = (.ok (), { m with tables := some (m.vars.map Variable.table) }) := by
  simp only [validate, h]

theorem validate_of_violations_ne_nil {m : Model} (h : m.violations ≠ []) :
    m.validate = (.error m.violations, { m with tables := none }) := by
  unfold validate
  split
  · contradiction
  · rfl

theorem validate_eq_ok_iff {m : Model} : m.validate.1 = .ok () ↔ m.violations = [] := by
  by_cases h : m.violations = []
  · rw [validate_of_violations_eq_nil h]
    exact iff_of_true rfl h
  · rw [validate_of_violations_ne_nil h]
    exact iff_of_false nofun h

/-- Validation succeeds on partitions only, and then leaves a table for every
variable that represents it. -/
theorem validate_ok_iff_isPartition (m : Model) :
    (m.validate.1 = .ok () ↔ ∀ x ∈ m.vars, x.IsPartition) ∧
      (m.validate.1 = .ok () → ∃ ts, m.validate.2 = { m with tables := some ts } ∧
        List.Forall₂ Table.Represents ts m.vars) := by
  by_cases h : m.violations = []
  · have parts := violations_eq_nil_iff.mp h
    rw [validate_of_violations_eq_nil h]
    refine ⟨iff_of_true rfl parts, fun _ => ⟨_, rfl, ?_⟩⟩
    rw [List.forall₂_map_left_iff, List.forall₂_same]
    exact fun x hx => (parts x hx).represents
  · rw [validate_of_violations_ne_nil h]
    exact ⟨iff_of_false (by simp) fun parts => h (violations_eq_nil_iff.mpr parts),
      fun ok => by contradiction⟩

def gauge : Model where
  vars := [
    { name := "level", domain := .int 0 5, base := none, classes := [
      ⟨"high", .invalid, .range 4 5, [.int 4], false⟩,
      ⟨"normal", .valid, .expr (.apply .lt [.value, .literal (.int 4)]), [], true⟩] },
    { name := "on", domain := .bool, base := some (.bool true), classes := [
      ⟨"known", .valid, .oneOf [.bool true, .bool false], [.bool false], false⟩] }]

theorem validate_gauge_represents :
    gauge.validate.1 = .ok () ∧ ∃ ts, gauge.validate.2 = { gauge with tables := some ts } ∧
      List.Forall₂ Table.Represents ts gauge.vars :=
  have ok : gauge.validate.1 = .ok () := by rfl
  ⟨ok, (validate_ok_iff_isPartition gauge).2 ok⟩

end Model

end PartitionTest
