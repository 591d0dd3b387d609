import PartitionTest.Proofs.Case.Coverage
import PartitionTest.Proofs.Model.Building

/-! What the class name of an assignment says. Looking it up leads to the first
class of that name, and nothing keeps classes of one variable from sharing a
name: a document may name two alike, or one after the index of another. -/
namespace PartitionTest

namespace Variable

variable {x : Variable} {i : Nat}

def classNames (x : Variable) : List String :=
  x.classes.map (·.name)

def FirstNamed (x : Variable) (name : String) (i : Nat) : Prop :=
  x.classNames[i]? = some name ∧ ∀ j < i, x.classNames[j]? ≠ some name

theorem getElem?_classNames {c : Class} (hc : x.classes[i]? = some c) :
    x.classNames[i]? = some c.name := by
  rw [classNames, List.getElem?_map, hc, Option.map_some]

theorem classIndex?_eq_some_iff {name : String} :
    x.classIndex? name = some i ↔ x.FirstNamed name i := by
  rw [classIndex?, List.findIdx?_eq_some_iff_getElem]
  constructor
  · rintro ⟨bound, here, before⟩
    have named := getElem?_classNames (List.getElem?_eq_getElem bound)
    refine ⟨named.trans (congrArg some (beq_iff_eq.mp here)), fun j below same => ?_⟩
    rw [getElem?_classNames (List.getElem?_eq_getElem (Nat.lt_trans below bound))] at same
    exact before j below (beq_iff_eq.mpr (Option.some.inj same))
  · rintro ⟨here, before⟩
    rw [classNames, List.getElem?_map, Option.map_eq_some_iff] at here
    obtain ⟨c, hc, named⟩ := here
    obtain ⟨bound, rfl⟩ := List.getElem?_eq_some_iff.mp hc
    refine ⟨bound, beq_iff_eq.mpr named, fun j below same => before j below ?_⟩
    rw [getElem?_classNames (List.getElem?_eq_getElem (Nat.lt_trans below bound))]
    exact congrArg some (beq_iff_eq.mp same)

theorem exists_classIndex? {c : Class} (hc : x.classes[i]? = some c) :
    ∃ j ≤ i, x.classIndex? c.name = some j := by
  cases found : x.classIndex? c.name with
  | none =>
    have absent := List.findIdx?_eq_none_iff.mp found c (List.mem_of_getElem? hc)
    exact absurd rfl (beq_eq_false_iff_ne.mp absent)
  | some j =>
    refine ⟨j, Nat.le_of_not_lt fun later => ?_, rfl⟩
    exact (classIndex?_eq_some_iff.mp found).2 i later (getElem?_classNames hc)

theorem nodup_classNames_iff :
    x.classNames.Nodup ↔ ∀ i c, x.classes[i]? = some c → x.classIndex? c.name = some i := by
  rw [List.nodup_iff_getElem?_ne_getElem?]
  constructor
  · intro apart i c hc
    have here := getElem?_classNames hc
    have bound := (List.getElem?_eq_some_iff.mp here).1
    exact classIndex?_eq_some_iff.mpr
      ⟨here, fun j below same => apart j i below bound (same.trans here.symm)⟩
  · intro found i j below bound same
    rw [classNames, List.length_map] at bound
    have later := List.getElem?_eq_getElem bound
    have first := classIndex?_eq_some_iff.mp (found j _ later)
    exact first.2 i below (same.trans first.1)

end Variable

theorem toString_nat_injective {m n : Nat} (same : toString m = toString n) : m = n := by
  have digits := congrArg String.toList same
  simp only [Nat.toString_eq_repr, Nat.toList_repr] at digits
  exact Nat.ofDigitChars_ten_toDigits.symm.trans (digits ▸ Nat.ofDigitChars_ten_toDigits)

namespace VariableDef

variable {d : VariableDef}

def givenNames (d : VariableDef) : List String :=
  d.classes.filterMap ClassDef.name

def generatedName (d : VariableDef) (index : Nat) : String :=
  d.name ++ "#" ++ toString index

/-- Names given to classes are distinct, and none is generated for another class. -/
structure NamesApart (d : VariableDef) : Prop where
  given : d.givenNames.Nodup
  generated : ∀ i c, d.classes[i]? = some c → c.name = none → d.generatedName i ∉ d.givenNames

theorem generatedName_injective (d : VariableDef) : Function.Injective d.generatedName :=
  fun _ _ same => toString_nat_injective ((String.append_right_inj _).mp same)

theorem getElem?_classNames_toVariable {c : ClassDef} {i : Nat} (hc : d.classes[i]? = some c) :
    d.toVariable.classNames[i]? = some (c.name.getD (d.generatedName i)) := by
  rw [Variable.classNames, toVariable, withClasses, List.getElem?_map, List.getElem?_mapIdx, hc]
  rfl

theorem mem_givenNames {c : ClassDef} {i : Nat} {name : String} (hc : d.classes[i]? = some c)
    (given : c.name = some name) : name ∈ d.givenNames :=
  List.mem_filterMap.mpr ⟨c, List.mem_of_getElem? hc, given⟩

theorem nodup_givenNames_iff :
    d.givenNames.Nodup ↔ ∀ i j (hi : i < d.classes.length) (hj : j < d.classes.length), i < j →
      ∀ s, d.classes[i].name = some s → ∀ t, d.classes[j].name = some t → s ≠ t := by
  rw [givenNames, List.Nodup, List.pairwise_filterMap, List.pairwise_iff_getElem]

theorem name_ne_of_nodup (distinct : d.toVariable.classNames.Nodup) {i j : Nat} (ne : i ≠ j)
    {b c : ClassDef} (hb : d.classes[i]? = some b) (hc : d.classes[j]? = some c) :
    b.name.getD (d.generatedName i) ≠ c.name.getD (d.generatedName j) := by
  intro same
  have first := getElem?_classNames_toVariable hb
  have second := getElem?_classNames_toVariable hc
  rw [List.nodup_iff_getElem?_ne_getElem?] at distinct
  rcases Nat.lt_or_gt_of_ne ne with below | above
  · exact distinct i j below (List.getElem?_eq_some_iff.mp second).1 (by rw [first, second, same])
  · exact distinct j i above (List.getElem?_eq_some_iff.mp first).1 (by rw [first, second, same])

theorem NamesApart.of_nodup (distinct : d.toVariable.classNames.Nodup) : d.NamesApart where
  given := by
    rw [nodup_givenNames_iff]
    intro i j hi hj below s hs t ht same
    have apart := name_ne_of_nodup distinct (Nat.ne_of_lt below)
      (List.getElem?_eq_getElem hi) (List.getElem?_eq_getElem hj)
    rw [hs, ht, Option.getD_some, Option.getD_some] at apart
    exact apart same
  generated i c hc unnamed known := by
    obtain ⟨b, hb, named⟩ := List.mem_filterMap.mp known
    obtain ⟨j, hj⟩ := List.mem_iff_getElem?.mp hb
    have other : i ≠ j := by
      rintro rfl
      obtain rfl := Option.some.inj (hc.symm.trans hj)
      rw [unnamed] at named
      contradiction
    have apart := name_ne_of_nodup distinct other hc hj
    rw [unnamed, named, Option.getD_none, Option.getD_some] at apart
    exact apart rfl

theorem NamesApart.nodup (h : d.NamesApart) : d.toVariable.classNames.Nodup := by
  rw [List.nodup_iff_getElem?_ne_getElem?]
  intro i j below bound same
  rw [Variable.classNames, List.length_map, toVariable, withClasses, List.length_mapIdx] at bound
  have hi := List.getElem?_eq_getElem (Nat.lt_trans below bound)
  have hj := List.getElem?_eq_getElem bound
  rw [getElem?_classNames_toVariable hi, getElem?_classNames_toVariable hj,
    Option.some_inj] at same
  cases first : d.classes[i].name <;> cases second : d.classes[j].name <;>
    simp only [first, second, Option.getD_none, Option.getD_some] at same
  case none.none => exact Nat.ne_of_lt below (d.generatedName_injective same)
  case none.some => exact h.generated i _ hi first (same ▸ mem_givenNames hj second)
  case some.none => exact h.generated j _ hj second (same ▸ mem_givenNames hi first)
  case some.some =>
    exact nodup_givenNames_iff.mp h.given i j _ bound below _ first _ second same

end VariableDef

theorem Forall₂.of_getElem? {α β : Type} {R : α → β → Prop} {as : List α} {bs : List β}
    (h : List.Forall₂ R as bs) {n : Nat} {a : α} {b : β} (ha : as[n]? = some a)
    (hb : bs[n]? = some b) : R a b := by
  obtain ⟨bound, rfl⟩ := List.getElem?_eq_some_iff.mp ha
  obtain ⟨bound', rfl⟩ := List.getElem?_eq_some_iff.mp hb
  exact h.get bound bound'

def Assignment.Identifies (k : Assignment) (a : Axis) : Prop :=
  a.subject.classIndex? k.className = a.table.classOf k.value

/-- The value has a class, of the name of the assignment. Looking up this name
finds that class or an earlier one: the first that bears it. -/
def Assignment.LeadsToFirst (k : Assignment) (a : Axis) : Prop :=
  ∃ i, ∃ j ≤ i, a.table.classOf k.value = some i ∧ a.subject.classNames[i]? = some k.className ∧
    a.subject.classIndex? k.className = some j ∧ a.subject.FirstNamed k.className j

namespace Assignment.Fits

variable {k : Assignment} {a : Axis}

theorem leadsToFirst (h : k.Fits a) : k.LeadsToFirst a := by
  obtain ⟨i, c, found, hc, -, named, -⟩ := h.owner
  obtain ⟨j, le, first⟩ := Variable.exists_classIndex? hc
  rw [← named] at first
  exact ⟨i, j, le, found, named ▸ Variable.getElem?_classNames hc, first,
    Variable.classIndex?_eq_some_iff.mp first⟩

theorem identifies (h : k.Fits a) (distinct : a.subject.classNames.Nodup) : k.Identifies a := by
  obtain ⟨i, c, found, hc, -, named, -⟩ := h.owner
  rw [Identifies, found, named]
  exact Variable.nodup_classNames_iff.mp distinct i c hc

end Assignment.Fits

namespace Plan

variable {xs : List Variable}

theorem mem_generate_of_mem_cases {p : Plan} (sampling : Option Sampling) {c : Case}
    (hc : c ∈ p.cases) : c ∈ p.generate sampling := by
  cases sampling with
  | none => exact hc
  | some s => exact List.mem_append_left _ hc

variable (parts : ∀ x ∈ xs, x.IsPartition) (sound : ∀ x ∈ xs, x.Sound)

include parts sound

theorem fits_of_mem_generate {sampling : Option Sampling} {c : Case}
    (hc : c ∈ (ofVars xs).generate sampling) :
    List.Forall₂ Assignment.Fits c.assignments (ofVars xs).axes := by
  obtain ⟨id, focus, kind, vs, admits, rfl⟩ := makes_of_mem_generate parts sound hc
  exact makeCase_fits admits parts id focus kind

theorem exists_assignment {n i : Nat} {x : Variable} {c : Class} (hx : xs[n]? = some x)
    (hc : x.classes[i]? = some c) :
    ∃ k ∈ (ofVars xs).cases, ∃ a, k.assignments[n]? = some a ∧
      x.table.classOf a.value = some i ∧ a.className = c.name := by
  have bound := (List.getElem?_eq_some_iff.mp hc).1
  obtain ⟨k, hk, v, hv, owns⟩ := (covers_ofVars parts sound).classes n x hx i bound
  rw [Case.values, List.getElem?_map, Option.map_eq_some_iff] at hv
  obtain ⟨a, ha, rfl⟩ := hv
  have fits := fits_of_mem_generate parts sound (mem_generate_of_mem_cases none hk)
  have fit := Forall₂.of_getElem? fits ha (getElem?_axes_ofVars hx)
  have found := (parts x (List.mem_of_getElem? hx)).classOf_table_eq_some.mpr ⟨fit.value_mem, owns⟩
  obtain ⟨j, d, found', hd, -, named, -⟩ := fit.owner
  obtain rfl := Option.some.inj (found'.symm.trans found)
  obtain rfl := Option.some.inj (hd.symm.trans hc)
  exact ⟨k, hk, a, ha, found, named⟩

/-- Names identify classes in the cases just when names tell classes apart. -/
theorem identifies_iff (sampling : Option Sampling) :
    (∀ c ∈ (ofVars xs).generate sampling,
        List.Forall₂ Assignment.Identifies c.assignments (ofVars xs).axes) ↔
      ∀ x ∈ xs, x.classNames.Nodup := by
  constructor
  · intro identifies x hx
    obtain ⟨n, hn⟩ := List.mem_iff_getElem?.mp hx
    rw [Variable.nodup_classNames_iff]
    intro i c hc
    obtain ⟨k, hk, a, ha, found, named⟩ := exists_assignment parts sound hn hc
    have identified := Forall₂.of_getElem? (identifies k (mem_generate_of_mem_cases _ hk)) ha
      (getElem?_axes_ofVars hn)
    rw [← named]
    exact identified.trans found
  · intro distinct c hc
    obtain ⟨length, fits⟩ := List.forall₂_iff_zip.mp (fits_of_mem_generate parts sound hc)
    refine List.forall₂_iff_zip.mpr ⟨length, fun pair => (fits pair).identifies ?_⟩
    obtain ⟨x, hx, rfl⟩ := List.mem_map.mp (List.of_mem_zip pair).2
    exact distinct x hx

end Plan

namespace Model

/-- The model of a document, once valid, has cases whose class names lead to the
first class of that name. They identify the class of the value in all cases just
when the classes of every variable have distinct names, which the document
decides. -/
theorem classNames_identify_iff {d : Document} {m : Model} (built : ofDocument d = .ok m)
    (valid : m.validate.1 = .ok ()) :
    ∃ p, Plan.ofModel m.validate.2 = .ok p ∧ p.axes.map (·.subject) = m.vars ∧
      m.validate.2.tables = some (p.axes.map (·.table)) ∧
      (∀ sampling, ∀ c ∈ p.generate sampling,
        List.Forall₂ Assignment.LeadsToFirst c.assignments p.axes) ∧
      (∀ sampling, (∀ c ∈ p.generate sampling,
        List.Forall₂ Assignment.Identifies c.assignments p.axes) ↔
          ∀ x ∈ m.vars, x.classNames.Nodup) ∧
      ((∀ x ∈ m.vars, x.classNames.Nodup) ↔ ∀ v ∈ d.vars, v.NamesApart) := by
  have reachable := Reachable.ofDocument built
  have sound : m.validate.2.Sound := (reachable.step .validate).sound
  have after := validate_of_violations_eq_nil (validate_eq_ok_iff.mp valid)
  have marked : m.validate.2.isValidated = true := by
    rw [after]
    rfl
  have vars : m.validate.2.vars = m.vars := by rw [after]
  obtain ⟨tables, parts⟩ := sound.tables_eq marked
  have plan := sound.plan marked
  rw [vars] at tables parts plan
  have subjects : (Plan.ofVars m.vars).axes.map (·.subject) = m.vars := by
    rw [Plan.ofVars, List.map_map]
    exact List.map_id _
  have names : (∀ x ∈ m.vars, x.classNames.Nodup) ↔ ∀ v ∈ d.vars, v.NamesApart := by
    rw [vars_of_ofDocument built, List.forall_mem_map]
    exact forall₂_congr fun v _ => ⟨.of_nodup, VariableDef.NamesApart.nodup⟩
  refine ⟨Plan.ofVars m.vars, plan, subjects, ?_, fun sampling c hc => ?_, ?_, names⟩
  · rw [tables, Plan.ofVars, List.map_map]
    rfl
  · exact (Plan.fits_of_mem_generate parts reachable.sound.vars hc).imp
      fun _ _ fit => fit.leadsToFirst
  · exact Plan.identifies_iff parts reachable.sound.vars

theorem classNames_identify_iff_gauge :
    ofDocument Document.gauge = .ok gauge ∧ gauge.validate.1 = .ok () ∧
      ∃ p, Plan.ofModel gauge.validate.2 = .ok p ∧ p.axes.map (·.subject) = gauge.vars ∧
        gauge.validate.2.tables = some (p.axes.map (·.table)) ∧
        (∀ sampling, ∀ c ∈ p.generate sampling,
          List.Forall₂ Assignment.LeadsToFirst c.assignments p.axes) ∧
        (∀ sampling, (∀ c ∈ p.generate sampling,
          List.Forall₂ Assignment.Identifies c.assignments p.axes) ↔
            ∀ x ∈ gauge.vars, x.classNames.Nodup) ∧
        ((∀ x ∈ gauge.vars, x.classNames.Nodup) ↔ ∀ v ∈ Document.gauge.vars, v.NamesApart) :=
  have built : ofDocument Document.gauge = .ok gauge := by rfl
  have valid : gauge.validate.1 = .ok () := by rfl
  ⟨built, valid, classNames_identify_iff built valid⟩

end Model

def Document.halves : Document where
  vars := [
    { name := "x", domain := .int 0 3, base := none, classes := [
      ⟨some "half", .valid, .range 0 1, [], false⟩,
      ⟨some "half", .valid, .range 2 3, [], false⟩] }]

/-- A planned assignment of the upper half bears a name that leads to the lower one. -/
theorem Model.classIndex?_ne_classOf_halves :
    ∃ m p, ofDocument Document.halves = .ok m ∧ m.validate.1 = .ok () ∧
      Plan.ofModel m.validate.2 = .ok p ∧
      ∃ c ∈ p.generate none, ∃ k a, c.assignments[0]? = some k ∧ p.axes[0]? = some a ∧
        a.subject.classIndex? k.className = some 0 ∧ a.table.classOf k.value = some 1 := by
  have valid : (Model.mk (Document.halves.vars.map VariableDef.toVariable) none).validate.1 =
      .ok () := by rfl
  have parts := violations_eq_nil_iff.mp (validate_eq_ok_iff.mp valid)
  have sound x hx := (Reachable.ofDocument (d := Document.halves) rfl).sound.vars x hx
  obtain ⟨c, hc, k, hk, found, named⟩ :=
    Plan.exists_assignment parts sound (n := 0) (i := 1) rfl rfl
  refine ⟨_, _, rfl, valid, rfl, c, hc, k, _, hk, rfl, ?_, found⟩
  rw [named]
  rfl

end PartitionTest
