import PartitionTest.Proofs.Case.Coverage

/-! The sequence of planned cases. It is that of the variations, without those
whose values have occurred before, and it departs from the base values at one
variable at a time. Its length follows from the numbers of representatives,
since only the base values can occur again. -/
namespace PartitionTest

namespace Plan

variable {p : Plan} {xs : List Variable} {w : Variation}

abbrev firstVariations (p : Plan) : List Variation :=
  firstsBy Variation.values p.variations

theorem cases_eq_map_number (p : Plan) :
    p.cases = p.firstVariations.zipIdx.map fun (w, i) => p.number w i := by
  rw [cases_eq, distinctBy_eq_firstsBy]

theorem length_cases (p : Plan) : p.cases.length = p.firstVariations.length := by
  rw [cases_eq_map_number, List.length_map, List.length_zipIdx]

theorem getElem?_cases (p : Plan) (k : Nat) :
    p.cases[k]? = p.firstVariations[k]?.map fun w => p.number w k := by
  rw [cases_eq_map_number, List.getElem?_map, List.getElem?_zipIdx, Option.map_map, Nat.zero_add]
  rfl

theorem map_id_cases (p : Plan) : p.cases.map (·.id) = List.range p.cases.length := by
  rw [length_cases, cases_eq_map_number, List.map_map]
  exact (List.zipIdx_map_snd ..).trans List.range_eq_range'.symm

theorem mem_variations_of_firstVariations {k : Nat} (h : p.firstVariations[k]? = some w) :
    w ∈ p.variations := by
  have first := List.mem_of_getElem? h
  rw [firstVariations, ← distinctBy_eq_firstsBy] at first
  exact mem_of_mem_distinctBy first

theorem exists_focus_of_mem_variations (h : w ∈ p.variations) :
    ∃ (i : Nat) (a : Axis), p.axes[i]? = some a ∧ w.focus = a.subject.name ∧
      ∀ j, w.values[j]? ≠ p.base[j]? → j = i := by
  obtain ⟨i, a, r, ha, -, rfl⟩ := mem_variations.mp h
  refine ⟨i, a, ha, rfl, fun j differs => ?_⟩
  by_contra apart
  exact differs (List.getElem?_set_ne (Ne.symm apart))

/-- A list of cases that follows the variations of a plan. A pass gives it out
and ends. Its case at a position has that position as its number, and the focus,
kind and values of the variation that stands there among those with new values.
So no values and no numbers repeat, and a case differs from the base at the
variable of its focus only. -/
structure FollowedBy (p : Plan) (cs : List Case) : Prop where
  gives : Pass.Gives p (Pass.start p) cs
  length : cs.length = p.firstVariations.length
  case : ∀ (k : Nat) (c : Case), cs[k]? = some c → ∃ w, p.firstVariations[k]? = some w ∧
    c.id = k ∧ c.focus = some w.focus ∧ c.kind = w.kind ∧ c.values = w.values
  values : (cs.map Case.values).Nodup
  ids : cs.map (·.id) = List.range cs.length
  focus : ∀ c ∈ cs, ∃ (i : Nat) (a : Axis), p.axes[i]? = some a ∧ c.focus = some a.subject.name ∧
    ∀ j, c.values[j]? ≠ p.base[j]? → j = i

theorem followedBy_cases (parts : ∀ x ∈ xs, x.IsPartition) (sound : ∀ x ∈ xs, x.Sound) :
    (ofVars xs).FollowedBy (ofVars xs).cases := by
  have nth : ∀ (k : Nat) (c : Case), (ofVars xs).cases[k]? = some c →
      ∃ w, (ofVars xs).firstVariations[k]? = some w ∧ c.id = k ∧ c.focus = some w.focus ∧
        c.kind = w.kind ∧ c.values = w.values := by
    intro k c hc
    rw [getElem?_cases, Option.map_eq_some_iff] at hc
    obtain ⟨w, hw, rfl⟩ := hc
    have admits := admits_variation parts sound (mem_variations_of_firstVariations hw)
    exact ⟨w, hw, rfl, rfl, rfl, values_makeCase admits ..⟩
  refine ⟨gives_cases _, length_cases _, nth, nodup_map_values_cases parts sound, map_id_cases _,
    fun c hc => ?_⟩
  obtain ⟨k, hk⟩ := List.mem_iff_getElem?.mp hc
  obtain ⟨w, hw, -, focus, -, values⟩ := nth k c hk
  obtain ⟨i, a, ha, name, alone⟩ :=
    exists_focus_of_mem_variations (mem_variations_of_firstVariations hw)
  exact ⟨i, a, ha, name ▸ focus, values ▸ alone⟩

end Plan

namespace Model

theorem cases_followedBy {m : Model} (reachable : m.Reachable) (valid : m.isValidated = true) :
    ∃ p, Plan.ofModel m = .ok p ∧ p.axes.map (·.subject) = m.vars ∧ p.FollowedBy p.cases := by
  have sound := reachable.sound
  refine ⟨Plan.ofVars m.vars, sound.plan valid, ?_,
    Plan.followedBy_cases (sound.tables_eq valid).2 sound.vars⟩
  rw [Plan.ofVars, List.map_map]
  exact List.map_id _

theorem cases_followedBy_gauge :
    gauge.validate.2.Reachable ∧ gauge.validate.2.isValidated = true ∧
      ∃ p, Plan.ofModel gauge.validate.2 = .ok p ∧ p.axes.map (·.subject) = gauge.vars ∧
        p.FollowedBy p.cases :=
  ⟨reachable_gauge, isValidated_gauge, cases_followedBy reachable_gauge isValidated_gauge⟩

end Model

namespace Plan

variable {base : List Scalar} {as : List Axis} {a : Axis}

def placements (base : List Scalar) (as : List Axis) : List (List Scalar) :=
  as.zipIdx.flatMap fun (a, i) => a.representatives.map fun r => base.set i r.value

theorem mem_placements {vs : List Scalar} :
    vs ∈ placements base as ↔
      ∃ i a, as[i]? = some a ∧ ∃ r ∈ a.representatives, vs = base.set i r.value := by
  simp only [placements, List.mem_flatMap, List.mem_map, Prod.exists,
    List.mk_mem_zipIdx_iff_getElem?, eq_comm (a := vs)]
  exact exists_comm

theorem placements_concat (base : List Scalar) (as : List Axis) (a : Axis) :
    placements base (as ++ [a]) =
      placements base as ++ (a.representatives.map (·.value)).map (base.set as.length) := by
  simp [placements, List.zipIdx_append]

def basesRepresented (as : List Axis) : Nat :=
  as.countP fun a => a.base ∈ a.representatives.map (·.value)

def representativeCount (as : List Axis) : Nat :=
  as.foldl (fun n a => n + a.representatives.length) 0

theorem basesRepresented_concat (as : List Axis) (a : Axis) :
    basesRepresented (as ++ [a]) = basesRepresented as +
      if a.base ∈ a.representatives.map (·.value) then 1 else 0 := by
  simp [basesRepresented, List.countP_append, List.countP_singleton]

theorem representativeCount_concat (as : List Axis) (a : Axis) :
    representativeCount (as ++ [a]) = representativeCount as + a.representatives.length := by
  simp [representativeCount]

theorem getElem?_base (h : as.map (·.base) <+: base) {i : Nat} (ha : as[i]? = some a) :
    base[i]? = some a.base := by
  obtain ⟨rest, rfl⟩ := h
  have bound := (List.getElem?_eq_some_iff.mp ha).1
  rw [List.getElem?_append_left (by simpa using bound), List.getElem?_map, ha, Option.map_some]

theorem set_eq_self_iff {vs : List Scalar} {i : Nat} {v w : Scalar} (hv : vs[i]? = some v) :
    vs.set i w = vs ↔ w = v := by
  obtain ⟨bound, rfl⟩ := List.getElem?_eq_some_iff.mp hv
  constructor
  · intro same
    have at_i := congrArg (·[i]?) same
    simpa [bound] using at_i
  · rintro rfl
    exact List.set_getElem_self bound

theorem base_mem_placements_iff (h : as.map (·.base) <+: base) :
    base ∈ placements base as ↔ 0 < basesRepresented as := by
  rw [mem_placements, basesRepresented, List.countP_pos_iff]
  constructor
  · rintro ⟨i, a, ha, r, hr, same⟩
    have own := (set_eq_self_iff (getElem?_base h ha)).mp same.symm
    exact ⟨a, List.mem_of_getElem? ha, decide_eq_true (List.mem_map.mpr ⟨r, hr, own⟩)⟩
  · rintro ⟨a, ha, own⟩
    obtain ⟨r, hr, same⟩ := List.mem_map.mp (of_decide_eq_true own)
    obtain ⟨i, hi⟩ := List.mem_iff_getElem?.mp ha
    exact ⟨i, a, hi, r, hr, ((set_eq_self_iff (getElem?_base h hi)).mpr same).symm⟩

/-- A tuple of a further axis has occurred before only if it is the base. -/
theorem set_mem_placements_iff (h : (as ++ [a]).map (·.base) <+: base) {v : Scalar} :
    base.set as.length v ∈ placements base as ↔ v = a.base ∧ base ∈ placements base as := by
  have last : base[as.length]? = some a.base := getElem?_base h (by simp)
  constructor
  · intro earlier
    obtain ⟨i, b, hb, r, hr, same⟩ := mem_placements.mp earlier
    have apart : i ≠ as.length := Nat.ne_of_lt (List.getElem?_eq_some_iff.mp hb).1
    -- the earlier tuple has the base's value where this one has its own
    have at_last := congrArg (·[as.length]?) same
    have own : v = a.base := by
      have bound := (List.getElem?_eq_some_iff.mp last).1
      rw [List.getElem?_set_self bound, List.getElem?_set_ne apart, last] at at_last
      exact Option.some.inj at_last
    rw [(set_eq_self_iff last).mpr own] at earlier
    exact ⟨own, earlier⟩
  · rintro ⟨rfl, repeated⟩
    rwa [(set_eq_self_iff last).mpr rfl]

theorem length_filter_map_set (h : (as ++ [a]).map (·.base) <+: base)
    (nodup : (a.representatives.map (·.value)).Nodup) :
    (((a.representatives.map (·.value)).map (base.set as.length)).filter
        (· ∉ placements base as)).length +
      (if a.base ∈ a.representatives.map (·.value) ∧ base ∈ placements base as then 1 else 0) =
        a.representatives.length := by
  have size : (a.representatives.map (·.value)).length = a.representatives.length :=
    List.length_map _
  rw [List.filter_map, List.length_map, ← size]
  generalize a.representatives.map (·.value) = values at nodup ⊢
  have earlier : values.filter ((fun vs => decide (vs ∉ placements base as)) ∘ base.set as.length) =
      values.filter fun v => ¬ (v = a.base ∧ base ∈ placements base as) := by
    simp only [Function.comp_def, set_mem_placements_iff h]
  rw [earlier]
  by_cases repeated : base ∈ placements base as
  · have others : (values.filter fun v => ¬ (v = a.base ∧ base ∈ placements base as)) =
        values.erase a.base := by
      rw [nodup.erase_eq_filter]
      refine List.filter_congr fun v _ => ?_
      rw [Bool.eq_iff_iff]
      simp [repeated]
    rw [others, List.length_erase]
    by_cases own : a.base ∈ values
    · have positive := List.length_pos_of_mem own
      simp only [own, repeated, and_self, if_true]
      omega
    · simp [own]
  · simp [repeated]

theorem nodup_map_set (h : (as ++ [a]).map (·.base) <+: base)
    (nodup : (a.representatives.map (·.value)).Nodup) :
    ((a.representatives.map (·.value)).map (base.set as.length)).Nodup := by
  have last : base[as.length]? = some a.base := getElem?_base h (by simp)
  have bound := (List.getElem?_eq_some_iff.mp last).1
  refine nodup.map fun v w same => ?_
  simpa [bound] using congrArg (·[as.length]?) same

/-- No tuple is lost but for repetitions of the base, which the first axis that has
it to give keeps. -/
theorem length_distinct_placements (h : as.map (·.base) <+: base)
    (nodup : ∀ a ∈ as, (a.representatives.map (·.value)).Nodup) :
    (distinct (placements base as)).length + (basesRepresented as - 1) =
      representativeCount as := by
  induction as using List.reverseRecOn with
  | nil => rfl
  | append_singleton as a ih =>
    have before : as.map (·.base) <+: base := by
      rw [List.map_append] at h
      exact (List.prefix_append ..).trans h
    have counted := ih before fun b hb => nodup b (List.mem_append_left _ hb)
    have values := nodup a (by simp)
    have added := length_filter_map_set h values
    have repeats := base_mem_placements_iff before
    rw [placements_concat, distinct_append, distinct_of_nodup (nodup_map_set h values),
      List.length_append, representativeCount_concat, basesRepresented_concat]
    by_cases own : a.base ∈ a.representatives.map (·.value)
    · by_cases earlier : base ∈ placements base as
      · have positive := repeats.mp earlier
        simp only [own, earlier, and_self, if_true] at added ⊢
        omega
      · have none := mt repeats.mpr earlier
        simp only [own, earlier, and_false, if_true, if_false] at added ⊢
        omega
    · simp only [own, false_and, if_false] at added ⊢
      omega

theorem map_values_variations (p : Plan) :
    p.variations.map Variation.values = placements p.base p.axes := by
  rw [variations, placements, List.map_flatMap]
  simp only [List.map_map]
  rfl

theorem length_cases_add (p : Plan)
    (nodup : ∀ a ∈ p.axes, (a.representatives.map (·.value)).Nodup) :
    p.cases.length + (basesRepresented p.axes - 1) = representativeCount p.axes := by
  have placed : p.cases.length = (distinct (placements p.base p.axes)).length := by
    rw [length_cases, firstVariations, ← distinctBy_eq_firstsBy, ← map_values_variations,
      ← map_distinctBy, List.length_map]
  rw [placed]
  exact length_distinct_placements (List.prefix_refl _) nodup

end Plan

namespace Model

/-- The plan of a valid model has a case for each representative of each variable,
except that those whose base is one of their representatives share one. -/
theorem cases_counted {m : Model} (reachable : m.Reachable) (valid : m.isValidated = true) :
    ∃ p, Plan.ofModel m = .ok p ∧ p.axes.map (·.subject) = m.vars ∧
      (Plan.basesRepresented p.axes = 0 → p.cases.length = Plan.representativeCount p.axes) ∧
      (1 ≤ Plan.basesRepresented p.axes →
        p.cases.length + (Plan.basesRepresented p.axes - 1) =
          Plan.representativeCount p.axes) := by
  have counted := Plan.length_cases_add (Plan.ofVars m.vars) fun a ha => by
    obtain ⟨x, -, rfl⟩ := List.mem_map.mp ha
    exact nodup_map_distinctBy _
  refine ⟨Plan.ofVars m.vars, reachable.sound.plan valid, ?_, fun none => ?_, fun _ => counted⟩
  · rw [Plan.ofVars, List.map_map]
    exact List.map_id _
  · rwa [none] at counted

theorem cases_counted_gauge :
    gauge.validate.2.Reachable ∧ gauge.validate.2.isValidated = true ∧
      ∃ p, Plan.ofModel gauge.validate.2 = .ok p ∧ p.axes.map (·.subject) = gauge.vars ∧
        (Plan.basesRepresented p.axes = 0 → p.cases.length = Plan.representativeCount p.axes) ∧
        (1 ≤ Plan.basesRepresented p.axes →
          p.cases.length + (Plan.basesRepresented p.axes - 1) =
            Plan.representativeCount p.axes) :=
  ⟨reachable_gauge, isValidated_gauge, cases_counted reachable_gauge isValidated_gauge⟩

end Model

end PartitionTest
