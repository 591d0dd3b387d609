import PartitionTest.Case.Sample
import PartitionTest.Proofs.Case.Axes
import PartitionTest.Proofs.Case.Pass

/-! The cases of a valid model, planned or sampled, give every variable one of
its domain values under the name and tag of the class that owns it. -/
namespace PartitionTest

def Admits : List Variable → List Scalar → Prop :=
  List.Forall₂ fun x v => v ∈ x.domain.values

theorem Admits.set {xs : List Variable} {vs : List Scalar} (h : Admits xs vs) {i : Nat}
    {x : Variable} {v : Scalar} (hx : xs[i]? = some x) (hv : v ∈ x.domain.values) :
    Admits xs (vs.set i v) := by
  induction h generalizing i with
  | nil => contradiction
  | cons head tail ih =>
    cases i with
    | zero =>
      obtain rfl := Option.some.inj hx
      exact .cons hv tail
    | succ i => exact .cons head (ih hx)

/-- A value whose class is found is assigned under that class, not the first. -/
theorem Axis.assign_of_classOf {a : Axis} {v : Scalar} {i : Nat} {c : Class}
    (found : a.table.classOf v = some i) (hc : a.subject.classes[i]? = some c) :
    a.assign v =
      { variableName := a.subject.name, value := v, className := c.name, tag := c.tag } := by
  simp only [assign, found, Option.getD_some, hc]

/-- An assignment gives the variable of an axis one of its domain values. The
table finds the class of the value, whose predicate alone is true of it, and
the assignment bears the name and tag of that class. -/
structure Assignment.Fits (k : Assignment) (a : Axis) : Prop where
  variableName : k.variableName = a.subject.name
  value_mem : k.value ∈ a.subject.domain.values
  owner : ∃ i c, a.table.classOf k.value = some i ∧ a.subject.classes[i]? = some c ∧
    c.predicate.holds k.value = .ok true ∧ k.className = c.name ∧ k.tag = c.tag ∧
    ∀ j d, j ≠ i → a.subject.classes[j]? = some d → d.predicate.holds k.value = .ok false

theorem Variable.IsPartition.assign_fits {x : Variable} (h : x.IsPartition) {v : Scalar}
    (hv : v ∈ x.domain.values) : (x.axis.assign v).Fits x.axis := by
  obtain ⟨i, ⟨c, hc, holds⟩, unique⟩ := h.owner v hv
  have found : x.axis.table.classOf v = some i :=
    h.classOf_table_eq_some.mpr ⟨hv, c, hc, holds⟩
  rw [Axis.assign_of_classOf found hc]
  refine ⟨rfl, hv, i, c, found, hc, holds, rfl, rfl, fun j d apart hd => ?_⟩
  obtain ⟨b, hb⟩ := h.answers d (List.mem_of_getElem? hd) v hv
  cases b with
  | false => exact hb
  | true => exact absurd (unique j ⟨d, hd, hb⟩) apart

namespace Plan

variable {xs : List Variable} {vs : List Scalar}

def ofVars (xs : List Variable) : Plan := ⟨xs.map Variable.axis⟩

theorem getElem?_axes_ofVars {i : Nat} {x : Variable} (hx : xs[i]? = some x) :
    (ofVars xs).axes[i]? = some x.axis := by
  rw [ofVars, List.getElem?_map, hx, Option.map_some]

theorem makeCase_fits (h : Admits xs vs) (parts : ∀ x ∈ xs, x.IsPartition) (id : Nat)
    (focus : Option String) (kind : CaseKind) :
    List.Forall₂ Assignment.Fits ((ofVars xs).makeCase id focus kind vs).assignments
      (ofVars xs).axes := by
  show List.Forall₂ _ (List.zipWith Axis.assign (xs.map Variable.axis) vs) (xs.map Variable.axis)
  induction h with
  | nil => exact .nil
  | cons head _ ih =>
    exact .cons ((parts _ List.mem_cons_self).assign_fits head)
      (ih fun x hx => parts x (List.mem_cons_of_mem _ hx))

theorem values_makeCase (h : Admits xs vs) (id : Nat) (focus : Option String)
    (kind : CaseKind) : ((ofVars xs).makeCase id focus kind vs).values = vs := by
  show (List.zipWith Axis.assign (xs.map Variable.axis) vs).map (·.value) = vs
  induction h with
  | nil => rfl
  | cons _ _ ih => exact congrArg (_ :: ·) ih

theorem mem_variations {p : Plan} {w : Variation} :
    w ∈ p.variations ↔ ∃ i a r, p.axes[i]? = some a ∧ r ∈ a.representatives ∧
      w = ⟨a.subject.name, r.kind, p.base.set i r.value⟩ := by
  simp only [variations, List.mem_flatMap, List.mem_map, Prod.exists,
    List.mk_mem_zipIdx_iff_getElem?]
  constructor
  · rintro ⟨a, i, ha, r, hr, rfl⟩
    exact ⟨i, a, r, ha, hr, rfl⟩
  · rintro ⟨i, a, r, ha, hr, rfl⟩
    exact ⟨a, i, ha, r, hr, rfl⟩

theorem admits_base (parts : ∀ x ∈ xs, x.IsPartition) : Admits xs (ofVars xs).base := by
  rw [base, ofVars, List.map_map, Admits, List.forall₂_map_right_iff, List.forall₂_same]
  exact fun x hx => (parts x hx).axis_base_mem

theorem admits_variation (parts : ∀ x ∈ xs, x.IsPartition) (sound : ∀ x ∈ xs, x.Sound)
    {w : Variation} (hw : w ∈ (ofVars xs).variations) : Admits xs w.values := by
  obtain ⟨i, a, r, ha, hr, rfl⟩ := mem_variations.mp hw
  rw [ofVars, List.getElem?_map] at ha
  obtain ⟨x, hx, rfl⟩ := Option.map_eq_some_iff.mp ha
  exact (admits_base parts).set hx
    ((sound x (List.mem_of_getElem? hx)).representative_mem hr)

def Makes (xs : List Variable) (c : Case) : Prop :=
  ∃ id focus kind vs, Admits xs vs ∧ c = (ofVars xs).makeCase id focus kind vs

theorem mem_cases {p : Plan} {c : Case} (hc : c ∈ p.cases) :
    ∃ w ∈ p.variations, ∃ i, c = p.makeCase i (some w.focus) w.kind w.values := by
  rw [cases_eq, List.mem_map] at hc
  obtain ⟨⟨w, i⟩, hw, rfl⟩ := hc
  exact ⟨w, mem_of_mem_distinctBy (List.fst_mem_of_mem_zipIdx hw), i, rfl⟩

theorem makes_of_mem_cases (parts : ∀ x ∈ xs, x.IsPartition) (sound : ∀ x ∈ xs, x.Sound)
    {c : Case} (hc : c ∈ (ofVars xs).cases) : Makes xs c := by
  obtain ⟨w, hw, i, rfl⟩ := mem_cases hc
  exact ⟨i, some w.focus, w.kind, w.values, admits_variation parts sound hw, rfl⟩

theorem admits_drawTuple (parts : ∀ x ∈ xs, x.IsPartition) (source : IndexSource)
    (s : source.State) :
    Admits xs (drawTuple source (xs.map fun x => x.domain.values.toArray) s).1 := by
  induction xs generalizing s with
  | nil => exact .nil
  | cons x xs ih =>
    have part := parts x List.mem_cons_self
    obtain ⟨v, hv, -⟩ := part.inhabited 0 (List.length_pos_iff.mpr part.classes_ne_nil)
    have positive : 0 < x.domain.values.toArray.size := by
      simpa using List.length_pos_of_mem hv
    rw [List.map_cons, drawTuple, dif_pos positive]
    exact .cons (by simp) (ih (fun y hy => parts y (List.mem_cons_of_mem _ hy)) _)

theorem mem_drawTuples_go {source : IndexSource} {domains : List (Array Scalar)} {n : Nat}
    {s : source.State} {drawn : List (List Scalar)} {t : List Scalar}
    (h : t ∈ drawTuples.go source domains n s drawn) :
    t ∈ drawn ∨ ∃ s, t = (drawTuple source domains s).1 := by
  induction n generalizing s drawn with
  | zero => exact .inl h
  | succ n ih =>
    rcases ih h with earlier | later
    · exact (List.mem_cons.mp earlier).elim (fun e => .inr ⟨s, e⟩) .inl
    · exact .inr later

theorem admits_drawTuples (parts : ∀ x ∈ xs, x.IsPartition) {source : IndexSource} {n : Nat}
    {s : source.State} {t : List Scalar}
    (h : t ∈ drawTuples source (xs.map fun x => x.domain.values.toArray) n s) : Admits xs t := by
  rcases mem_drawTuples_go (List.mem_reverse.mp h) with none | ⟨s, rfl⟩
  · contradiction
  · exact admits_drawTuple parts source s

/-- The samples come from the source, or are tuples of planned cases. -/
theorem makes_of_mem_sampledCases (parts : ∀ x ∈ xs, x.IsPartition)
    (sound : ∀ x ∈ xs, x.Sound) {source : IndexSource} {start : source.State} {count : Nat}
    {c : Case} (hc : c ∈ (ofVars xs).sampledCases source start count) : Makes xs c := by
  rcases List.mem_append.mp hc with planned | sampled
  · exact makes_of_mem_cases parts sound planned
  · obtain ⟨⟨vs, i⟩, fresh, rfl⟩ := List.mem_map.mp sampled
    have tuple := mem_distinct.mp (List.mem_of_mem_drop (List.fst_mem_of_mem_zipIdx fresh))
    refine ⟨_, none, .sampled, vs, ?_, rfl⟩
    rcases List.mem_append.mp tuple with repeated | drawn
    · obtain ⟨d, hd, rfl⟩ := List.mem_map.mp repeated
      obtain ⟨id, focus, kind, ws, admits, rfl⟩ := makes_of_mem_cases parts sound hd
      rwa [values_makeCase admits]
    · rw [ofVars, List.map_map] at drawn
      exact admits_drawTuples parts drawn

theorem makes_of_mem_generate (parts : ∀ x ∈ xs, x.IsPartition) (sound : ∀ x ∈ xs, x.Sound)
    {sampling : Option Sampling} {c : Case} (hc : c ∈ (ofVars xs).generate sampling) :
    Makes xs c := by
  cases sampling with
  | none => exact makes_of_mem_cases parts sound hc
  | some s => exact makes_of_mem_sampledCases parts sound hc

end Plan

theorem Case.valueOf_of_nodup {c : Case} (names : (c.assignments.map (·.variableName)).Nodup)
    {k : Assignment} (hk : k ∈ c.assignments) : c.valueOf k.variableName = some k.value := by
  have found : c.assignments.find? (·.variableName == k.variableName) = some k := by
    generalize c.assignments = ks at names hk
    induction ks with
    | nil => contradiction
    | cons head tail ih =>
      rw [List.map_cons, List.nodup_cons] at names
      rcases List.mem_cons.mp hk with rfl | later
      · exact List.find?_cons_of_pos (beq_self_eq_true _)
      · have apart : head.variableName ≠ k.variableName := fun e =>
          names.1 (e ▸ List.mem_map_of_mem later)
        rw [List.find?_cons, beq_eq_false_iff_ne.mpr apart]
        exact ih names.2 later
  rw [valueOf, found, Option.map_some]

theorem Assignment.map_variableName_of_fits {ks : List Assignment} {axes : List Axis}
    (h : List.Forall₂ Fits ks axes) :
    ks.map (·.variableName) = axes.map (·.subject.name) := by
  induction h with
  | nil => rfl
  | cons head _ ih => rw [List.map_cons, List.map_cons, head.variableName, ih]

/-- One assignment for each axis, in order. Each fits its axis and has the
value that a look-up by the variable's name finds. -/
def Case.Fits (c : Case) (p : Plan) : Prop :=
  List.Forall₂ (fun k a => k.Fits a ∧ c.valueOf a.subject.name = some k.value)
    c.assignments p.axes

namespace Model

/-- The cases of a valid model, planned or sampled, fit its plan, which has one
axis for each variable. -/
theorem generate_assignments {m : Model} (reachable : m.Reachable)
    (valid : m.isValidated = true) :
    ∃ p, Plan.ofModel m = .ok p ∧ p.axes.map (·.subject) = m.vars ∧
      ∀ (sampling : Option Sampling), ∀ c ∈ p.generate sampling, c.Fits p := by
  have sound := reachable.sound
  have parts := (sound.tables_eq valid).2
  have subjects : (Plan.ofVars m.vars).axes.map (·.subject) = m.vars := by
    rw [Plan.ofVars, List.map_map]
    exact List.map_id _
  refine ⟨Plan.ofVars m.vars, sound.plan valid, subjects, fun sampling c hc => ?_⟩
  have fits : List.Forall₂ Assignment.Fits c.assignments (Plan.ofVars m.vars).axes := by
    obtain ⟨id, focus, kind, vs, admits, rfl⟩ := Plan.makes_of_mem_generate parts sound.vars hc
    exact Plan.makeCase_fits admits parts id focus kind
  have names : (c.assignments.map (·.variableName)).Nodup := by
    have order := congrArg (List.map (·.name)) subjects
    rw [List.map_map] at order
    rw [Assignment.map_variableName_of_fits fits]
    exact order ▸ sound.names
  -- an assignment is found under its own name, which is that of its axis
  have both := (List.forall₂_and_left _ _).mpr ⟨fun _ => Case.valueOf_of_nodup names, fits⟩
  refine both.imp ?_
  rintro k a ⟨found, fit⟩
  exact ⟨fit, fit.variableName ▸ found⟩

theorem generate_assignments_gauge :
    gauge.validate.2.Reachable ∧ gauge.validate.2.isValidated = true ∧
      ∃ p, Plan.ofModel gauge.validate.2 = .ok p ∧ p.axes.map (·.subject) = gauge.vars ∧
        ∀ (sampling : Option Sampling), ∀ c ∈ p.generate sampling, c.Fits p :=
  ⟨reachable_gauge, isValidated_gauge, generate_assignments reachable_gauge isValidated_gauge⟩

end Model

end PartitionTest
