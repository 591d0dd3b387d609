import PartitionTest.Proofs.Case.Assignments

/-! The planned cases of a valid model leave nothing declared untried. A class
without an interior member is tried through the boundary points of others, and
a variation left out as a repetition through the case it repeats. -/
namespace PartitionTest

/-- Every class owns a representative: an interior member, or else a boundary
point, perhaps one declared for another class. -/
theorem Variable.IsPartition.exists_representative {x : Variable} (h : x.IsPartition) {c : Nat}
    (hc : c < x.classes.length) :
    ∃ v ∈ x.axis.representatives.map (·.value), x.Owns c v := by
  obtain ⟨v, hv, owns⟩ := h.inhabited c hc
  have member : v ∈ x.table.membersOf c :=
    (mem_membersOf_table hc).mpr ⟨hv, h.classOf_table_eq_some.mpr ⟨hv, owns⟩⟩
  cases inner : x.table.isBoundary v with
  | true =>
    obtain ⟨d, hd, boundary⟩ := Table.isBoundary_iff.mp inner
    rw [boundaries_length_table, ← classCount_table] at hd
    exact ⟨v, Table.mem_map_value_representatives.mpr ⟨d, hd, .inl boundary⟩, owns⟩
  | false =>
    obtain ⟨w, interior⟩ := Table.exists_interior? member inner
    obtain ⟨-, found⟩ := (mem_membersOf_table hc).mp (Table.mem_of_interior? interior).1
    rw [← classCount_table] at hc
    exact ⟨w, Table.mem_map_value_representatives.mpr ⟨c, hc, .inr interior⟩,
      (h.classOf_table_eq_some.mp found).2⟩

theorem Variable.Borders.mem_representatives {x : Variable} {c : Nat} {v : Scalar}
    (h : x.Borders c v) : v ∈ x.axis.representatives.map (·.value) := by
  have hc := h.lt
  rw [← classCount_table] at hc
  exact Table.mem_map_value_representatives.mpr ⟨c, hc, .inl (mem_boundariesOf_table.mpr h)⟩

namespace Plan

variable {xs : List Variable}

theorem map_values_makeCase {ws : List Variation} (admits : ∀ w ∈ ws, Admits xs w.values) :
    (ws.zipIdx.map fun (w, i) =>
      (ofVars xs).makeCase i (some w.focus) w.kind w.values).map Case.values =
        ws.map Variation.values :=
  calc _ = ws.zipIdx.map (Variation.values ∘ Prod.fst) := by
        rw [List.map_map]
        exact List.map_congr_left fun w hw =>
          values_makeCase (admits _ (List.fst_mem_of_mem_zipIdx hw)) ..
    _ = ws.map Variation.values := by rw [← List.map_map, List.zipIdx_map_fst]

variable (parts : ∀ x ∈ xs, x.IsPartition) (sound : ∀ x ∈ xs, x.Sound)

include parts sound

theorem map_values_cases :
    (ofVars xs).cases.map Case.values =
      (distinctBy Variation.values (ofVars xs).variations).map Variation.values := by
  rw [cases_eq]
  exact map_values_makeCase fun _ hw => admits_variation parts sound (mem_of_mem_distinctBy hw)

theorem nodup_map_values_cases : ((ofVars xs).cases.map Case.values).Nodup := by
  rw [map_values_cases parts sound]
  exact nodup_map_distinctBy _

theorem set_base_mem_map_values_cases {i : Nat} {x : Variable} {v : Scalar}
    (hx : xs[i]? = some x) (hv : v ∈ x.axis.representatives.map (·.value)) :
    (ofVars xs).base.set i v ∈ (ofVars xs).cases.map Case.values := by
  obtain ⟨r, hr, rfl⟩ := List.mem_map.mp hv
  rw [map_values_cases parts sound, mem_map_distinctBy, List.mem_map]
  exact ⟨_, mem_variations.mpr ⟨i, x.axis, r, getElem?_axes_ofVars hx, hr, rfl⟩, rfl⟩

end Plan

/-- The planned cases try each class of each variable with a value it owns,
and each boundary point once among the base values of the other variables. -/
structure Plan.Covers (p : Plan) (xs : List Variable) : Prop where
  classes : ∀ (i : Nat) (x : Variable), xs[i]? = some x → ∀ c < x.classes.length,
    ∃ k ∈ p.cases, ∃ v, k.values[i]? = some v ∧ x.Owns c v
  boundaries : ∀ (i : Nat) (x : Variable), xs[i]? = some x → ∀ c v, x.Borders c v →
    (p.cases.map Case.values).count (p.base.set i v) = 1
  cases_ne_nil : xs ≠ [] → p.cases ≠ []

theorem Plan.covers_ofVars {xs : List Variable} (parts : ∀ x ∈ xs, x.IsPartition)
    (sound : ∀ x ∈ xs, x.Sound) : (ofVars xs).Covers xs := by
  have tried : ∀ (i : Nat) (x : Variable), xs[i]? = some x → ∀ c < x.classes.length,
      ∃ k ∈ (ofVars xs).cases, ∃ v, k.values[i]? = some v ∧ x.Owns c v := by
    intro i x hx c hc
    have part := parts x (List.mem_of_getElem? hx)
    obtain ⟨v, hv, owns⟩ := part.exists_representative hc
    obtain ⟨k, hk, values⟩ :=
      List.mem_map.mp (set_base_mem_map_values_cases parts sound hx hv)
    refine ⟨k, hk, v, ?_, owns⟩
    have bound : i < (ofVars xs).base.length := by
      simpa [base, ofVars] using (List.getElem?_eq_some_iff.mp hx).1
    rw [values, List.getElem?_set_self bound]
  refine ⟨tried, fun i x hx c v border => ?_, fun nonempty => ?_⟩
  · exact List.count_eq_one_of_mem (nodup_map_values_cases parts sound)
      (set_base_mem_map_values_cases parts sound hx border.mem_representatives)
  · obtain ⟨x, rest, rfl⟩ := List.exists_cons_of_ne_nil nonempty
    have part := parts x List.mem_cons_self
    obtain ⟨k, hk, -⟩ := tried 0 x rfl 0 (List.length_pos_iff.mpr part.classes_ne_nil)
    exact List.ne_nil_of_mem hk

namespace Model

theorem cases_cover {m : Model} (reachable : m.Reachable) (valid : m.isValidated = true) :
    ∃ p, Plan.ofModel m = .ok p ∧ p.Covers m.vars :=
  have sound := reachable.sound
  ⟨_, sound.plan valid, Plan.covers_ofVars (sound.tables_eq valid).2 sound.vars⟩

/-- No class declares the level 3, at which the normal levels end. -/
theorem cases_cover_gauge :
    gauge.validate.2.Reachable ∧ gauge.validate.2.isValidated = true ∧
      ∃ p, Plan.ofModel gauge.validate.2 = .ok p ∧ p.Covers gauge.vars ∧
        ∃ level, gauge.vars[0]? = some level ∧ level.Borders 1 (.int 3) ∧
          (∀ c ∈ level.classes, .int 3 ∉ c.boundaries) ∧
          (p.cases.map Case.values).count [.int 3, .bool true] = 1 := by
  obtain ⟨p, made, covers⟩ := cases_cover reachable_gauge isValidated_gauge
  have placed : p.base.set 0 (.int 3) = [.int 3, .bool true] := by
    obtain rfl := Except.ok.inj made
    rfl
  have border : gauge.vars[0].Borders 1 (.int 3) := ⟨_, rfl, .inr ⟨rfl, by decide⟩⟩
  have once := covers.boundaries 0 _ rfl 1 (.int 3) border
  rw [placed] at once
  exact ⟨reachable_gauge, isValidated_gauge, p, made, covers, _, rfl, border, by decide, once⟩

end Model

end PartitionTest
