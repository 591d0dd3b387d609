import PartitionTest.Case
import PartitionTest.Model.Check

/-! Which cases are tried. Each class contributes its boundary points and one
interior member. One variable at a time takes its representatives while the
others hold their base values, so the number of cases grows with the number of
representatives and not with their product. -/
namespace PartitionTest

structure Representative where
  value : Scalar
  /-- The index of the class that owns the value. -/
  owner : Nat
  kind : CaseKind
deriving DecidableEq, Inhabited

namespace Table

def isBoundary (t : Table) (v : Scalar) : Bool :=
  t.boundaries.any (·.contains v)

def interior? (t : Table) (c : Nat) : Option Scalar :=
  let inner := (t.membersOf c).filter fun v => !t.isBoundary v
  inner[inner.length / 2]?

def candidates (t : Table) (c : Nat) : List Representative :=
  (t.boundariesOf c).map (fun v => ⟨v, (t.classOf v).getD c, .boundary⟩) ++
    ((t.interior? c).map fun v => ⟨v, c, .interior⟩).toList

def representatives (t : Table) : List Representative :=
  distinctBy (·.value) ((List.range t.classCount).flatMap t.candidates)

def nominal? (t : Table) (c : Nat) : Option Scalar :=
  (t.interior? c).or (t.membersOf c)[(t.membersOf c).length / 2]?

end Table

structure Axis where
  subject : Variable
  table : Table
  representatives : List Representative
  base : Scalar
deriving Inhabited

namespace Axis

def anchor (x : Variable) : Nat :=
  (x.classes.findIdx? (·.tag == .valid)).getD 0

def baseOf (x : Variable) (t : Table) : Scalar :=
  match x.base with
  | some v => v
  | none => (t.nominal? (anchor x)).getD default

def of (x : Variable) (t : Table) : Axis :=
  { subject := x, table := t, representatives := t.representatives, base := baseOf x t }

/-- A value with the class that owns it; a value of no class counts as one of
the first. -/
def assign (a : Axis) (v : Scalar) : Assignment :=
  let c := a.subject.classes[(a.table.classOf v).getD 0]?.getD default
  { variableName := a.subject.name, value := v, className := c.name, tag := c.tag }

end Axis

structure Plan where
  axes : List Axis
deriving Inhabited

namespace Plan

def ofModel (m : Model) : Except ModelError Plan := do
  let tables ← m.tables?
  return ⟨List.zipWith Axis.of m.vars tables⟩

def base (p : Plan) : List Scalar := p.axes.map (·.base)

def makeCase (p : Plan) (id : Nat) (focus : Option String) (kind : CaseKind)
    (values : List Scalar) : Case :=
  { id, focus, kind, assignments := List.zipWith Axis.assign p.axes values }

end Plan

/-- A pass over the cases of a plan: the axis it stands at, the representatives
of that axis still to come, the number of the next case, and the values given
out so far. -/
structure Pass where
  axis : Nat
  left : List Representative
  nextId : Nat
  seen : Std.HashSet (List Scalar)

namespace Pass

def enter (p : Plan) (axis nextId : Nat) (seen : Std.HashSet (List Scalar)) : Pass where
  axis := axis
  left := (p.axes[axis]?.map (·.representatives)).getD []
  nextId := nextId
  seen := seen

def start (p : Plan) : Pass := enter p 0 0 {}

def work (p : Plan) (s : Pass) : Nat :=
  match p.axes.drop s.axis with
  | [] => 0
  | _ :: later => s.left.length + (later.flatMap (·.representatives)).length + (later.length + 1)

theorem work_enter_lt {p : Plan} {s : Pass} {a : Axis} (ha : p.axes[s.axis]? = some a) :
    (enter p (s.axis + 1) s.nextId s.seen).work p < s.work p := by
  obtain ⟨bound, -⟩ := List.getElem?_eq_some_iff.mp ha
  rw [work, work, List.drop_eq_getElem_cons bound]
  show (match p.axes.drop (s.axis + 1) with | [] => _ | _ :: later => _) < _
  cases later : p.axes.drop (s.axis + 1) with
  | nil => exact Nat.succ_pos _
  | cons b later =>
    have hb : p.axes[s.axis + 1]? = some b := by
      rw [← List.head?_drop, later, List.head?_cons]
    simp only [enter, hb, Option.map_some, Option.getD_some, List.flatMap_cons,
      List.length_append, List.length_cons]
    omega

theorem work_pop_lt {p : Plan} {s t : Pass} {a : Axis} {r : Representative}
    (ha : p.axes[s.axis]? = some a) (hl : s.left = r :: t.left) (same : t.axis = s.axis) :
    t.work p < s.work p := by
  obtain ⟨bound, -⟩ := List.getElem?_eq_some_iff.mp ha
  rw [work, work, same, List.drop_eq_getElem_cons bound, hl, List.length_cons]
  dsimp only
  omega

/-- Goes on to the next representative that, among the base values of the other
axes, gives values not seen before. Only a case that is given out takes a
number. -/
def next (p : Plan) (s : Pass) : Option (Case × Pass) :=
  match _ha : p.axes[s.axis]?, _hl : s.left with
  | none, _ => none
  | some _, [] => next p (enter p (s.axis + 1) s.nextId s.seen)
  | some a, r :: left =>
    let values := p.base.set s.axis r.value
    if s.seen.contains values then next p { s with left := left }
    else
      some (p.makeCase s.nextId (some a.subject.name) r.kind values,
        { axis := s.axis, left := left, nextId := s.nextId + 1, seen := s.seen.insert values })
termination_by s.work p
decreasing_by
  · exact work_enter_lt _ha
  · exact work_pop_lt _ha _hl rfl

theorem work_lt_of_next {p : Plan} {s t : Pass} {c : Case} (h : s.next p = some (c, t)) :
    t.work p < s.work p := by
  fun_induction next p s with
  | case1 => contradiction
  | case2 s a ha hl ih => exact Nat.lt_trans (ih h) (work_enter_lt ha)
  | case3 s a r left ha hl values old ih => exact Nat.lt_trans (ih h) (work_pop_lt ha hl rfl)
  | case4 s a r left ha hl values new =>
    obtain ⟨-, rfl⟩ := Prod.mk.inj (Option.some.inj h)
    exact work_pop_lt ha hl rfl

def collect (p : Plan) (s : Pass) (done : List Case) : List Case :=
  match _h : s.next p with
  | none => done.reverse
  | some (c, t) => collect p t (c :: done)
termination_by s.work p
decreasing_by exact work_lt_of_next _h

end Pass

def Plan.cases (p : Plan) : List Case :=
  (Pass.start p).collect p []

end PartitionTest
