import PartitionTest.Proofs.Model.Table

/-! What validation reports. A violation is described by what it says of a
variable, without regard to how it is found. The errors of a model name the
violations of each variable, all of them and each once, in a fixed order. -/
namespace PartitionTest

/-- What can be wrong with a variable. Classes are told by their indices, since
two of them may have one name. -/
inductive Violation where
  | noClasses
  | base (v : Scalar)
  | predicate (i : Nat) (e : EvalError)
  | gap (values : List Scalar)
  | overlap (i j : Nat) (values : List Scalar)
  | empty (i : Nat)

def Variable.className (x : Variable) (i : Nat) : String :=
  (x.classes[i]?.getD default).name

namespace Violation

def stage : Violation → Nat
  | .noClasses => 0
  | .base _ => 1
  | .predicate .. => 2
  | .gap _ => 3
  | .overlap .. => 4
  | .empty _ => 5

def classes : Violation → List Nat
  | .noClasses | .base _ | .gap _ => []
  | .predicate i _ | .empty i => [i]
  | .overlap i j _ => [i, j]

/-- Violations are ordered by their kind, then by the classes they are about,
pairs of classes by the first and then by the second. -/
def Before (a b : Violation) : Prop :=
  a.stage :: a.classes < b.stage :: b.classes

theorem before_of_stage_lt {a b : Violation} (h : a.stage < b.stage) : a.Before b :=
  List.cons_lt_cons_iff.mpr (.inl h)

theorem before_of_classes_lt {a b : Violation} (same : a.stage = b.stage)
    (h : a.classes < b.classes) : a.Before b :=
  List.cons_lt_cons_iff.mpr (.inr ⟨same, h⟩)

def error (x : Variable) : Violation → ModelError
  | .noClasses => .noClasses x.name
  | .base v => .baseOutOfDomain x.name v
  | .predicate i e => .predicate x.name (x.className i) e
  | .gap values => .gap x.name values
  | .overlap i j values => .overlap x.name (x.className i) (x.className j) values
  | .empty i => .emptyClass x.name (x.className i)

end Violation

def Class.FirstErrs (c : Class) (domain : List Scalar) (e : EvalError) : Prop :=
  ∃ before v after, domain = before ++ v :: after ∧
    (∀ u ∈ before, ∃ b, c.predicate.holds u = .ok b) ∧ c.predicate.holds v = .error e

theorem Class.firstError?_eq_some_iff {c : Class} {domain : List Scalar} {e : EvalError} :
    c.firstError? domain = some e ↔ c.FirstErrs domain e := by
  unfold firstError? FirstErrs
  rw [List.findSome?_eq_some_iff]
  refine exists₃_congr fun before v after => and_congr_right fun _ => ?_
  rw [and_comm]
  refine and_congr (forall₂_congr fun u _ => ?_) ?_
  · split <;> simp_all
  · split <;> simp_all

theorem Class.FirstErrs.exists_mem {c : Class} {domain : List Scalar} {e : EvalError}
    (h : c.FirstErrs domain e) : ∃ v ∈ domain, c.predicate.holds v = .error e := by
  obtain ⟨before, v, after, rfl, -, errs⟩ := h
  exact ⟨v, by simp, errs⟩

namespace Variable

instance (x : Variable) (i : Nat) (v : Scalar) : Decidable (x.Owns i v) :=
  decidable_of_iff (i ∈ x.selecting v) mem_selecting

def unowned (x : Variable) : List Scalar :=
  x.domain.values.filter fun v => ∀ i < x.classes.length, ¬ x.Owns i v

def shared (x : Variable) (i j : Nat) : List Scalar :=
  x.domain.values.filter fun v => x.Owns i v ∧ x.Owns j v

def Answers (x : Variable) : Prop :=
  ∀ c ∈ x.classes, ∀ v ∈ x.domain.values, ∃ b, c.predicate.holds v = .ok b

/-- That a variable violates what a partition asks for. Coverage is only judged
where every predicate answers. -/
def Has (x : Variable) : Violation → Prop
  | .noClasses => x.classes = []
  | .base v => x.classes ≠ [] ∧ x.base = some v ∧ v ∉ x.domain.values
  | .predicate i e => ∃ c, x.classes[i]? = some c ∧ c.FirstErrs x.domain.values e
  | .gap values => x.classes ≠ [] ∧ x.Answers ∧ values = x.unowned ∧ values ≠ []
  | .overlap i j values => x.Answers ∧ i < j ∧ values = x.shared i j ∧ values ≠ []
  | .empty i => x.Answers ∧ i < x.classes.length ∧ ∀ v ∈ x.domain.values, ¬ x.Owns i v

/-- All violations of a variable in order, each once. -/
structure Listing (x : Variable) (ws : List Violation) : Prop where
  mem_iff : ∀ w, w ∈ ws ↔ x.Has w
  ordered : ws.Pairwise Violation.Before

theorem Listing.unique {x : Variable} {ws vs : List Violation} (h : x.Listing ws)
    (h' : x.Listing vs) : ws = vs := by
  have apart {us : List Violation} (ordered : us.Pairwise Violation.Before) : us.Nodup := by
    refine ordered.imp ?_
    rintro a _ before rfl
    exact List.lt_irrefl _ before
  have perm : ws.Perm vs := (List.perm_ext_iff_of_nodup (apart h.ordered) (apart h'.ordered)).mpr
    fun w => (h.mem_iff w).trans (h'.mem_iff w).symm
  exact perm.eq_of_pairwise (fun a b _ _ lt gt => absurd gt (List.lt_asymm lt)) h.ordered h'.ordered

/-- The violations of some stages in order, and the errors that name them. -/
structure Finds (x : Variable) (stages : List Nat) (errors : List ModelError)
    (ws : List Violation) : Prop where
  errors_eq : errors = ws.map (Violation.error x)
  mem_iff : ∀ w, w ∈ ws ↔ w.stage ∈ stages ∧ x.Has w
  ordered : ws.Pairwise Violation.Before

section Stages

variable {x : Variable} {stages later : List Nat} {errors others : List ModelError}
  {ws vs : List Violation}

theorem Finds.append (h : x.Finds stages errors ws) (h' : x.Finds later others vs)
    (apart : ∀ a ∈ stages, ∀ b ∈ later, a < b) :
    x.Finds (stages ++ later) (errors ++ others) (ws ++ vs) where
  errors_eq := by rw [h.errors_eq, h'.errors_eq, List.map_append]
  mem_iff w := by rw [List.mem_append, List.mem_append, h.mem_iff, h'.mem_iff, or_and_right]
  ordered := List.pairwise_append.mpr ⟨h.ordered, h'.ordered, fun a ha b hb =>
    Violation.before_of_stage_lt (apart _ ((h.mem_iff a).mp ha).1 _ ((h'.mem_iff b).mp hb).1)⟩

/-- What is found in all stages that a variable has violations of is everything. -/
theorem Finds.listing (h : x.Finds stages errors ws) (all : ∀ w, x.Has w → w.stage ∈ stages) :
    x.Listing ws where
  mem_iff w := (h.mem_iff w).trans (and_iff_right_of_imp (all w))
  ordered := h.ordered

theorem Finds.of_stage {k : Nat} (errors_eq : errors = ws.map (Violation.error x))
    (ordered : ws.Pairwise Violation.Before) (sound : ∀ w ∈ ws, w.stage = k ∧ x.Has w)
    (complete : ∀ w, w.stage = k → x.Has w → w ∈ ws) : x.Finds [k] errors ws where
  errors_eq := errors_eq
  mem_iff w := by
    rw [List.mem_singleton]
    exact ⟨sound w, fun h => complete w h.1 h.2⟩
  ordered := ordered

theorem finds_base (nonempty : x.classes ≠ []) : ∃ ws, x.Finds [1] x.baseErrors ws := by
  by_cases outside : ∃ v, x.base = some v ∧ v ∉ x.domain.values
  · obtain ⟨v, base, foreign⟩ := outside
    have errors : x.baseErrors = [.baseOutOfDomain x.name v] := by
      simp [baseErrors, base, Domain.mem_values.not.mp foreign]
    refine ⟨[.base v], .of_stage errors (List.pairwise_singleton ..) ?_ fun w hs has => ?_⟩
    · rw [List.forall_mem_singleton]
      exact ⟨rfl, nonempty, base, foreign⟩
    · cases w with
      | base u =>
        obtain rfl := Option.some.inj (base.symm.trans has.2.1)
        exact List.mem_singleton_self _
      | _ => cases hs
  · have inside : x.baseErrors = [] :=
      baseErrors_eq_nil_iff.mpr fun v base => by_contra fun foreign => outside ⟨v, base, foreign⟩
    refine ⟨[], .of_stage inside .nil nofun fun w hs has => ?_⟩
    cases w with
    | base v => exact absurd ⟨v, has.2⟩ outside
    | _ => cases hs

/-! Classes are listed with their indices. -/

theorem mem_zipIdx_classes {c : Class} {i : Nat} :
    (c, i) ∈ x.classes.zipIdx ↔ x.classes[i]? = some c :=
  List.mk_mem_zipIdx_iff_getElem?

theorem className_of_mem {c : Class × Nat} (h : c ∈ x.classes.zipIdx) :
    x.className c.2 = c.1.name := by
  rw [className, mem_zipIdx_classes.mp h, Option.getD_some]

theorem pairwise_zipIdx_classes (x : Variable) :
    x.classes.zipIdx.Pairwise fun c d => c.2 < d.2 := by
  rw [← List.pairwise_map (f := Prod.snd) (R := (· < ·)), List.zipIdx_map_snd]
  exact List.pairwise_lt_range'

theorem finds_predicates (x : Variable) :
    ∃ ws, x.Finds [2] (x.predicateErrors x.domain.values) ws := by
  let named (c : Class × Nat) : Option Violation :=
    (c.1.firstError? x.domain.values).map (.predicate c.2)
  refine ⟨x.classes.zipIdx.filterMap named, .of_stage ?_ ?_ ?_ ?_⟩
  · have indexed : x.predicateErrors x.domain.values = x.classes.zipIdx.filterMap fun c =>
        (c.1.firstError? x.domain.values).map (.predicate x.name c.1.name) := by
      rw [predicateErrors, ← List.zipIdx_map_fst 0 x.classes, List.filterMap_map,
        List.zipIdx_map_fst]
      rfl
    rw [indexed, List.map_filterMap]
    refine List.filterMap_congr fun c hc => ?_
    rw [Option.map_map, Function.comp_def]
    simp only [Violation.error, className_of_mem hc]
  · rw [List.pairwise_filterMap]
    refine (pairwise_zipIdx_classes x).imp fun {c d} lt v hv w hw => ?_
    obtain ⟨e, -, rfl⟩ := Option.map_eq_some_iff.mp hv
    obtain ⟨e', -, rfl⟩ := Option.map_eq_some_iff.mp hw
    exact Violation.before_of_classes_lt rfl (List.cons_lt_cons_iff.mpr (.inl lt))
  · intro w hw
    obtain ⟨⟨c, i⟩, hc, found⟩ := List.mem_filterMap.mp hw
    obtain ⟨e, he, rfl⟩ := Option.map_eq_some_iff.mp found
    exact ⟨rfl, c, mem_zipIdx_classes.mp hc, Class.firstError?_eq_some_iff.mp he⟩
  · intro w hs has
    cases w with
    | predicate i e =>
      obtain ⟨c, hc, he⟩ := has
      refine List.mem_filterMap.mpr ⟨(c, i), mem_zipIdx_classes.mpr hc, ?_⟩
      exact Option.map_eq_some_iff.mpr ⟨e, Class.firstError?_eq_some_iff.mpr he, rfl⟩
    | _ => cases hs

theorem selecting_eq_nil_iff {v : Scalar} :
    x.selecting v = [] ↔ ∀ i < x.classes.length, ¬ x.Owns i v := by
  rw [List.eq_nil_iff_forall_not_mem]
  simp only [mem_selecting]
  exact ⟨fun h i _ => h i, fun h i owns => h i owns.lt owns⟩

theorem map_filter_selections (p : Match → Bool) :
    (x.selections.filter p).map (·.1) = x.domain.values.filter fun v => p (v, x.selecting v) := by
  rw [List.filter_map, List.map_map]
  exact List.map_id _

theorem finds_gap (nonempty : x.classes ≠ []) (answers : x.Answers) :
    ∃ ws, x.Finds [3] (x.gaps x.selections) ws := by
  have values : (x.selections.filter (·.2.isEmpty)).map (·.1) = x.unowned := by
    rw [map_filter_selections, unowned]
    refine List.filter_congr fun v _ => ?_
    rw [Bool.eq_iff_iff, List.isEmpty_iff, decide_eq_true_iff, selecting_eq_nil_iff]
  unfold gaps
  rw [values]
  cases found : x.unowned with
  | nil =>
    refine ⟨[], .of_stage rfl .nil nofun fun w hs has => ?_⟩
    cases w with
    | gap vs => exact absurd (has.2.2.1.trans found) has.2.2.2
    | _ => cases hs
  | cons v vs =>
    refine ⟨[.gap (v :: vs)], .of_stage rfl (List.pairwise_singleton ..) ?_ fun w hs has => ?_⟩
    · rw [List.forall_mem_singleton]
      exact ⟨rfl, nonempty, answers, found.symm, List.cons_ne_nil _ _⟩
    · cases w with
      | gap us =>
        obtain rfl := has.2.2.1.trans found
        exact List.mem_singleton_self _
      | _ => cases hs

theorem mem_classPairs {p : (Class × Nat) × (Class × Nat)} :
    p ∈ x.classPairs ↔ p.1 ∈ x.classes.zipIdx ∧ p.2 ∈ x.classes.zipIdx ∧ p.1.2 < p.2.2 := by
  obtain ⟨c, d⟩ := p
  simp [classPairs, List.mem_flatMap, List.mem_map, List.mem_filter]

theorem pairwise_classPairs (x : Variable) :
    x.classPairs.Pairwise fun p q => [p.1.2, p.2.2] < [q.1.2, q.2.2] := by
  have ascending := x.pairwise_zipIdx_classes
  rw [classPairs, List.pairwise_flatMap]
  refine ⟨fun c _ => ?_, ascending.imp fun {c d} lt => ?_⟩
  · rw [List.pairwise_map]
    exact (ascending.filter _).imp fun lt =>
      List.cons_lt_cons_iff.mpr (.inr ⟨rfl, List.cons_lt_cons_iff.mpr (.inl lt)⟩)
  · simp only [List.forall_mem_map]
    exact fun _ _ _ _ => List.cons_lt_cons_iff.mpr (.inl lt)

theorem one_lt_length_selecting {v : Scalar} {i j : Nat} (hi : x.Owns i v) (hj : x.Owns j v)
    (apart : i < j) : 1 < (x.selecting v).length := by
  have first := mem_selecting.mpr hi
  have second := mem_selecting.mpr hj
  match hs : x.selecting v with
  | [] => simp [hs] at first
  | [k] =>
    rw [hs, List.mem_singleton] at first second
    omega
  | _ :: _ :: _ => simp

theorem map_filter_contested {i j : Nat} (apart : i < j) :
    ((x.selections.filter fun m => 1 < m.2.length).filter
      fun m => m.2.contains i && m.2.contains j).map (·.1) = x.shared i j := by
  rw [List.filter_filter, map_filter_selections, shared]
  refine List.filter_congr fun v _ => ?_
  rw [Bool.eq_iff_iff]
  simp only [Bool.and_eq_true, List.contains_iff_mem, decide_eq_true_iff, mem_selecting]
  exact and_iff_left_of_imp fun ⟨hi, hj⟩ => one_lt_length_selecting hi hj apart

theorem overlaps_eq (x : Variable) : x.overlaps x.selections =
    x.classPairs.filterMap fun p => if x.shared p.1.2 p.2.2 = [] then none else
      some (.overlap x.name p.1.1.name p.2.1.name (x.shared p.1.2 p.2.2)) := by
  unfold overlaps
  dsimp only
  split
  -- when no value is contested, no pair of classes shares one
  · rename_i none
    rw [List.isEmpty_iff] at none
    refine (List.filterMap_eq_nil_iff.mpr fun p hp => if_pos ?_).symm
    rw [← map_filter_contested (mem_classPairs.mp hp).2.2, none]
    rfl
  · refine List.filterMap_congr fun p hp => ?_
    rw [map_filter_contested (mem_classPairs.mp hp).2.2]
    cases x.shared p.1.2 p.2.2 <;> simp

theorem finds_overlaps (answers : x.Answers) : ∃ ws, x.Finds [4] (x.overlaps x.selections) ws := by
  let named (p : (Class × Nat) × (Class × Nat)) : Option Violation :=
    if x.shared p.1.2 p.2.2 = [] then none else
      some (.overlap p.1.2 p.2.2 (x.shared p.1.2 p.2.2))
  have named_eq_some {p : (Class × Nat) × (Class × Nat)} {w : Violation} : named p = some w ↔
      x.shared p.1.2 p.2.2 ≠ [] ∧ w = .overlap p.1.2 p.2.2 (x.shared p.1.2 p.2.2) := by
    rw [Option.ite_none_left_eq_some, Option.some_inj]
    exact and_congr_right fun _ => eq_comm
  refine ⟨x.classPairs.filterMap named, .of_stage ?_ ?_ ?_ ?_⟩
  · rw [overlaps_eq, List.map_filterMap]
    refine List.filterMap_congr fun p hp => ?_
    obtain ⟨first, second, -⟩ := mem_classPairs.mp hp
    dsimp only [named]
    split
    · rfl
    · rw [Option.map_some, Violation.error, className_of_mem first, className_of_mem second]
  · rw [List.pairwise_filterMap]
    refine x.pairwise_classPairs.imp fun {p q} lt v hv w hw => ?_
    obtain ⟨-, rfl⟩ := named_eq_some.mp hv
    obtain ⟨-, rfl⟩ := named_eq_some.mp hw
    exact Violation.before_of_classes_lt rfl lt
  · intro w hw
    obtain ⟨p, hp, found⟩ := List.mem_filterMap.mp hw
    obtain ⟨nonempty, rfl⟩ := named_eq_some.mp found
    exact ⟨rfl, answers, (mem_classPairs.mp hp).2.2, rfl, nonempty⟩
  · intro w hs has
    cases w with
    | overlap i j vs =>
      obtain ⟨-, apart, rfl, nonempty⟩ := has
      obtain ⟨v, hv⟩ := List.exists_mem_of_ne_nil _ nonempty
      obtain ⟨⟨c, hc, -⟩, d, hd, -⟩ := of_decide_eq_true (List.mem_filter.mp hv).2
      have pair : ((c, i), (d, j)) ∈ x.classPairs :=
        mem_classPairs.mpr ⟨mem_zipIdx_classes.mpr hc, mem_zipIdx_classes.mpr hd, apart⟩
      exact List.mem_filterMap.mpr ⟨_, pair, named_eq_some.mpr ⟨nonempty, rfl⟩⟩
    | _ => cases hs

theorem finds_empty (answers : x.Answers) : ∃ ws, x.Finds [5] (x.emptyClasses x.selections) ws := by
  refine ⟨(x.classes.zipIdx.filter fun c => !x.selections.any (·.2.contains c.2)).map
    fun c => .empty c.2, .of_stage ?_ ?_ ?_ ?_⟩
  · rw [emptyClasses, List.map_map]
    refine List.map_congr_left fun c hc => ?_
    rw [Function.comp_apply, Violation.error, className_of_mem (List.mem_filter.mp hc).1]
  · rw [List.pairwise_map]
    refine ((pairwise_zipIdx_classes x).filter _).imp fun {c d} lt => ?_
    exact Violation.before_of_classes_lt (a := .empty c.2) (b := .empty d.2) rfl
      (List.cons_lt_cons_iff.mpr (.inl lt))
  · rw [List.forall_mem_map]
    rintro ⟨c, i⟩ hc
    obtain ⟨member, unused⟩ := List.mem_filter.mp hc
    refine ⟨rfl, answers, (List.getElem?_eq_some_iff.mp (mem_zipIdx_classes.mp member)).1, ?_⟩
    intro v hv owns
    rw [Bool.not_eq_true', ← Bool.not_eq_true, any_selections_iff] at unused
    exact unused ⟨v, hv, owns⟩
  · intro w hs has
    cases w with
    | empty i =>
      obtain ⟨-, hi, unused⟩ := has
      refine List.mem_map.mpr ⟨(x.classes[i], i), List.mem_filter.mpr ⟨?_, ?_⟩, rfl⟩
      · exact mem_zipIdx_classes.mpr (List.getElem?_eq_getElem hi)
      · rw [Bool.not_eq_true', ← Bool.not_eq_true, any_selections_iff]
        rintro ⟨v, hv, owns⟩
        exact unused v hv owns
    | _ => cases hs

end Stages

theorem violations_of_answers {x : Variable} (nonempty : x.classes ≠ []) (answers : x.Answers) :
    x.violations = x.baseErrors ++ x.gaps x.selections ++ x.overlaps x.selections ++
      x.emptyClasses x.selections := by
  rw [violations, if_neg (List.isEmpty_iff.not.mpr nonempty)]
  dsimp only
  rw [predicateErrors_eq_nil_iff.mpr answers]

theorem violations_of_not_answers {x : Variable} (nonempty : x.classes ≠ [])
    (errs : ¬ x.Answers) :
    x.violations = x.baseErrors ++ x.predicateErrors x.domain.values := by
  rw [violations, if_neg (List.isEmpty_iff.not.mpr nonempty)]
  dsimp only
  split
  · rename_i none
    exact absurd (predicateErrors_eq_nil_iff.mp none) errs
  · rfl

theorem Has.not_answers {x : Variable} {i : Nat} {e : EvalError} (h : x.Has (.predicate i e)) :
    ¬ x.Answers := by
  obtain ⟨c, hc, first⟩ := h
  obtain ⟨v, hv, errs⟩ := first.exists_mem
  intro answers
  obtain ⟨b, hb⟩ := answers c (List.mem_of_getElem? hc) v hv
  rw [errs] at hb
  contradiction

theorem exists_listing (x : Variable) :
    ∃ ws, x.Listing ws ∧ x.violations = ws.map (Violation.error x) := by
  by_cases empty : x.classes = []
  -- without classes every other violation lacks what it is about
  · have stopped : x.violations = [.noClasses x.name] := by simp [violations, empty]
    refine ⟨[.noClasses], ⟨fun w => ?_, List.pairwise_singleton ..⟩, stopped⟩
    rw [List.mem_singleton]
    cases w with
    | noClasses => exact iff_of_true rfl empty
    | base v => exact iff_of_false (by simp) fun has => has.1 empty
    | gap values => exact iff_of_false (by simp) fun has => has.1 empty
    | predicate i e =>
      refine iff_of_false (by simp) ?_
      rintro ⟨c, hc, -⟩
      simp [empty] at hc
    | overlap i j values =>
      refine iff_of_false (by simp) ?_
      rintro ⟨-, -, rfl, shared⟩
      obtain ⟨v, hv⟩ := List.exists_mem_of_ne_nil _ shared
      have owns : x.Owns i v := (of_decide_eq_true (List.mem_filter.mp hv).2).1
      simpa [empty] using owns.lt
    | empty i => exact iff_of_false (by simp) fun has => by simpa [empty] using has.2.1
  · obtain ⟨bases, hbases⟩ := finds_base empty
    by_cases answers : x.Answers
    · obtain ⟨gaps, hgaps⟩ := finds_gap empty answers
      obtain ⟨overlaps, hoverlaps⟩ := finds_overlaps answers
      obtain ⟨empties, hempties⟩ := finds_empty answers
      have found := ((hbases.append hgaps (by decide)).append hoverlaps (by decide)).append
        hempties (by decide)
      rw [← violations_of_answers empty answers] at found
      refine ⟨_, found.listing fun w has => ?_, found.errors_eq⟩
      cases w with
      | noClasses => exact absurd has empty
      | predicate i e => exact absurd answers has.not_answers
      | _ => simp [Violation.stage]
    · obtain ⟨errs, herrs⟩ := finds_predicates x
      have found := hbases.append herrs (by decide)
      rw [← violations_of_not_answers empty answers] at found
      refine ⟨_, found.listing fun w has => ?_, found.errors_eq⟩
      cases w with
      | noClasses => exact absurd has empty
      | base v => simp [Violation.stage]
      | predicate i e => simp [Violation.stage]
      | gap values => exact absurd has.2.1 answers
      | overlap i j values => exact absurd has.1 answers
      | empty i => exact absurd has.1 answers

/-- These errors name the violations of a variable: all of them, each once. -/
def Reports (x : Variable) (errors : List ModelError) : Prop :=
  ∃ ws, x.Listing ws ∧ errors = ws.map (Violation.error x)

theorem reports_iff {x : Variable} {errors : List ModelError} :
    x.Reports errors ↔ x.violations = errors := by
  obtain ⟨ws, listing, found⟩ := x.exists_listing
  rw [found]
  constructor
  · rintro ⟨vs, other, rfl⟩
    rw [listing.unique other]
  · rintro rfl
    exact ⟨ws, listing, rfl⟩

end Variable

namespace Model

theorem validate_eq_error_iff_violations {m : Model} {errors : List ModelError} :
    m.validate.1 = .error errors ↔ errors ≠ [] ∧ m.violations = errors := by
  by_cases clean : m.violations = []
  · rw [validate_of_violations_eq_nil clean, clean]
    refine iff_of_false (by simp) ?_
    rintro ⟨some, rfl⟩
    exact some rfl
  · rw [validate_of_violations_ne_nil clean]
    constructor
    · rintro ⟨⟩
      exact ⟨clean, rfl⟩
    · rintro ⟨-, rfl⟩
      rfl

/-- Validation fails with the violations of all variables, one variable after
the other. What is wrong with one variable hides nothing of the others. -/
theorem validate_eq_error_iff (m : Model) (errors : List ModelError) :
    m.validate.1 = .error errors ↔
      errors ≠ [] ∧ ∃ parts, List.Forall₂ Variable.Reports m.vars parts ∧
        errors = parts.flatten := by
  have parts_iff {parts : List (List ModelError)} :
      List.Forall₂ Variable.Reports m.vars parts ↔ m.vars.map Variable.violations = parts := by
    have each : Variable.Reports = fun x errors => x.violations = errors :=
      funext₂ fun _ _ => propext Variable.reports_iff
    rw [each, ← List.forall₂_map_left_iff (R := Eq), List.forall₂_eq_eq_eq]
  rw [validate_eq_error_iff_violations, violations, List.flatMap_def]
  simp only [parts_iff, exists_eq_left']
  exact and_congr_right fun _ => eq_comm

example :
    let x : Variable := { name := "n", domain := .int 0 1, base := none, classes := [
      ⟨"a", .valid, .range 0 1, [], false⟩, ⟨"b", .valid, .range 1 1, [], false⟩,
      ⟨"c", .valid, .range 1 1, [], false⟩] }
    ({ vars := [x] } : Model).validate.1 = .error [.overlap "n" "a" "b" [.int 1],
      .overlap "n" "a" "c" [.int 1], .overlap "n" "b" "c" [.int 1]] := by
  rfl

end Model

end PartitionTest
