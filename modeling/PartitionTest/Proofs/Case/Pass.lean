import PartitionTest.Case.Plan
import PartitionTest.Proofs.Distinct

/-! What a pass over the cases of a plan gives out. Each step is accounted for
by the variations still to come that will be given out; a whole run, which
always ends, gives out the variations whose values have not occurred before. -/
namespace PartitionTest

namespace Plan

/-- A representative in its place among the base values. -/
structure Variation where
  focus : String
  kind : CaseKind
  values : List Scalar

def variations (p : Plan) : List Variation :=
  p.axes.zipIdx.flatMap fun (a, i) =>
    a.representatives.map fun r => ⟨a.subject.name, r.kind, p.base.set i r.value⟩

def variationsFrom (p : Plan) (i : Nat) : List Variation :=
  (p.axes.zipIdx.drop i).flatMap fun (a, i) =>
    a.representatives.map fun r => ⟨a.subject.name, r.kind, p.base.set i r.value⟩

theorem variationsFrom_of_getElem? {p : Plan} {i : Nat} {a : Axis} (ha : p.axes[i]? = some a) :
    p.variationsFrom i = (a.representatives.map fun r =>
        (⟨a.subject.name, r.kind, p.base.set i r.value⟩ : Variation)) ++
      p.variationsFrom (i + 1) := by
  obtain ⟨bound, rfl⟩ := List.getElem?_eq_some_iff.mp ha
  rw [variationsFrom, List.drop_eq_getElem_cons (by simpa using bound), List.flatMap_cons,
    List.getElem_zipIdx, Nat.zero_add]
  rfl

theorem variationsFrom_of_le {p : Plan} {i : Nat} (h : p.axes.length ≤ i) :
    p.variationsFrom i = [] := by
  rw [variationsFrom, List.drop_of_length_le (by simpa using h), List.flatMap_nil]

def number (p : Plan) (w : Variation) (id : Nat) : Case :=
  p.makeCase id (some w.focus) w.kind w.values

end Plan

namespace Pass

open Plan (Variation)

variable {p : Plan} {s t : Pass} {c : Case} {cs : List Case}

def pending (p : Plan) (s : Pass) : List Variation :=
  match p.axes[s.axis]? with
  | none => []
  | some a => (s.left.map fun r => ⟨a.subject.name, r.kind, p.base.set s.axis r.value⟩) ++
      p.variationsFrom (s.axis + 1)

theorem pending_of_axis {a : Axis} (ha : p.axes[s.axis]? = some a) :
    s.pending p = (s.left.map fun r =>
      (⟨a.subject.name, r.kind, p.base.set s.axis r.value⟩ : Variation)) ++
        p.variationsFrom (s.axis + 1) := by
  rw [pending, ha]

theorem pending_enter (p : Plan) (i id : Nat) (seen : Std.HashSet (List Scalar)) :
    (enter p i id seen).pending p = p.variationsFrom i := by
  unfold pending enter
  dsimp only
  cases ha : p.axes[i]? with
  | none => exact (Plan.variationsFrom_of_le (List.getElem?_eq_none_iff.mp ha)).symm
  | some a => exact (Plan.variationsFrom_of_getElem? ha).symm

def due (p : Plan) (s : Pass) : List Variation :=
  freshBy Variation.values s.seen (s.pending p)

/-- What a step may do: end when nothing is due, or give out what is due first
under the next number. -/
def Accounts (p : Plan) (s : Pass) : Option (Case × Pass) → Prop
  | none => s.due p = []
  | some (c, t) => t.nextId = s.nextId + 1 ∧
      ∃ w, s.due p = w :: t.due p ∧ c = p.number w s.nextId

theorem Accounts.of_eq {r : Option (Case × Pass)} (h : Accounts p t r)
    (nextId : s.nextId = t.nextId) (due : s.due p = t.due p) : Accounts p s r := by
  unfold Accounts at *
  rwa [due, nextId]

theorem accounts_next (p : Plan) (s : Pass) : Accounts p s (s.next p) := by
  fun_induction next p s with
  | case1 s ha => simp only [Accounts, due, pending, ha, freshBy]
  | case2 s a ha hl ih =>
    refine ih.of_eq rfl ?_
    rw [due, due, pending_enter, pending_of_axis ha, hl]
    rfl
  | case3 s a r left ha hl values old ih =>
    refine ih.of_eq rfl ?_
    rw [due, due, pending_of_axis ha, pending_of_axis (by exact ha), hl, List.map_cons,
      List.cons_append, freshBy, if_pos old]
  | case4 s a r left ha hl values new =>
    refine ⟨rfl, ⟨a.subject.name, r.kind, values⟩, ?_, rfl⟩
    rw [due, due, pending_of_axis ha, pending_of_axis (by exact ha), hl, List.map_cons,
      List.cons_append, freshBy, if_neg new]

inductive Gives (p : Plan) : Pass → List Case → Prop
  | done {s : Pass} (h : s.next p = none) : Gives p s []
  | case {s t : Pass} {c : Case} {cs : List Case} (h : s.next p = some (c, t))
      (rest : Gives p t cs) : Gives p s (c :: cs)

/-- Every pass ends, and its cases are collected in order. -/
theorem exists_gives (p : Plan) (s : Pass) (done : List Case) :
    ∃ cs, Gives p s cs ∧ s.collect p done = done.reverse ++ cs := by
  fun_induction collect p s done with
  | case1 s done h => exact ⟨[], .done h, (List.append_nil _).symm⟩
  | case2 s done c t h ih =>
    obtain ⟨cs, gives, collected⟩ := ih
    exact ⟨c :: cs, .case h gives, by rw [collected, List.reverse_cons, List.append_assoc]; rfl⟩

theorem Gives.eq_map_due (h : Gives p s cs) :
    cs = ((s.due p).zipIdx s.nextId).map fun (w, i) => p.number w i := by
  induction h with
  | @done s h =>
    have account := accounts_next p s
    rw [h] at account
    rw [show s.due p = [] from account]
    rfl
  | @case s t c cs h _ ih =>
    have account := accounts_next p s
    rw [h] at account
    obtain ⟨nextId, w, due, rfl⟩ := account
    rw [ih, due, nextId, List.zipIdx_cons, List.map_cons]

end Pass

namespace Plan

theorem gives_cases (p : Plan) : Pass.Gives p (Pass.start p) p.cases := by
  obtain ⟨cs, gives, collected⟩ := Pass.exists_gives p (Pass.start p) []
  rw [cases, collected]
  exact gives

/-- The variations whose values have not occurred before, numbered from zero. -/
theorem cases_eq (p : Plan) :
    p.cases = (distinctBy Variation.values p.variations).zipIdx.map fun (w, i) => p.number w i := by
  rw [p.gives_cases.eq_map_due, Pass.due, Pass.start, Pass.pending_enter, distinctBy_eq_freshBy]
  rfl

end Plan

end PartitionTest
