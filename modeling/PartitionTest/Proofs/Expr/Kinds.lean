import PartitionTest.Proofs.Expr.Eval
import PartitionTest.Proofs.Model.Violations

/-! Kinds of expressions. A kind is assigned to an expression from the kinds of
its parts and of the variable under test, without evaluation; where one can be
assigned, evaluation succeeds with a value of that kind. -/
namespace PartitionTest

namespace Expr

/-- The kind of an expression over a variable of kind `K`. Connectives of
several arguments may stand before any number of them. -/
inductive HasKind (K : Kind) : Expr → Kind → Prop where
  | literal (s : Scalar) : HasKind K (.literal s) s.kind
  | value : HasKind K .value K
  | equality {op : Op} {a b : Expr} {k : Kind} (h : op = .eq ∨ op = .neq)
    (left : HasKind K a k) (right : HasKind K b k) : HasKind K (.apply op [a, b]) .bool
  | comparison {op : Op} {a b : Expr} {k : Kind} (h : op = .lt ∨ op = .lte ∨ op = .gt ∨ op = .gte)
    (ordered : k = .int ∨ k = .char) (left : HasKind K a k) (right : HasKind K b k) :
    HasKind K (.apply op [a, b]) .bool
  | not {a : Expr} (only : HasKind K a .bool) : HasKind K (.apply .not [a]) .bool
  | implies {a b : Expr} (left : HasKind K a .bool) (right : HasKind K b .bool) :
    HasKind K (.apply .implies [a, b]) .bool
  | connective {op : Op} {args : List Expr} (h : op = .and ∨ op = .or)
    (each : ∀ a ∈ args, HasKind K a .bool) : HasKind K (.apply op args) .bool

variable {K k : Kind} {v : Scalar} {e a b : Expr}

def Yields (v : Scalar) (e : Expr) (k : Kind) : Prop :=
  ∃ w, e.eval v = .ok w ∧ w.kind = k

theorem yields_of_eval {x : Except EvalError Bool} (h : e.eval v = .bool <$> x)
    (answers : ∃ c, x = .ok c) : e.Yields v .bool := by
  obtain ⟨c, rfl⟩ := answers
  exact ⟨.bool c, h, rfl⟩

theorem Yields.truth (h : e.Yields v .bool) : ∃ c, e.truth v = .ok c := by
  obtain ⟨w, hw, kind⟩ := h
  cases w with
  | bool c =>
    refine ⟨c, ?_⟩
    rw [Expr.truth, hw]
    rfl
  | int n => cases kind
  | char c => cases kind

variable {x y : Scalar}

theorem exists_same (h : x.kind = y.kind) : ∃ c, x.same y = .ok c :=
  ⟨_, if_pos h⟩

theorem exists_order (h : x.kind = y.kind) (ordered : x.kind = .int ∨ x.kind = .char) :
    ∃ o, x.order y = .ok o := by
  cases x <;> cases y <;> simp only [Scalar.kind, reduceCtorEq, or_self] at h ordered
  all_goals exact ⟨_, rfl⟩

theorem yields_relation {op : Op} {r : Scalar → Scalar → Except EvalError Bool}
    (hr : op.relation? = some r) (left : a.Yields v k) (right : b.Yields v k)
    (answers : ∀ x y : Scalar, x.kind = k → y.kind = k → ∃ c, r x y = .ok c) :
    (apply op [a, b]).Yields v .bool := by
  obtain ⟨x, hx, kx⟩ := left
  obtain ⟨y, hy, ky⟩ := right
  apply yields_of_eval (eval_relation hr v a b)
  rw [hx, hy]
  exact answers x y kx ky

/-- By induction on how the kind is assigned. -/
theorem HasKind.yields (h : HasKind K e k) (hv : v.kind = K) : e.Yields v k := by
  induction h with
  | literal s => exact ⟨s, rfl, rfl⟩
  | value => exact ⟨v, rfl, hv⟩
  | equality h _ _ left right =>
    obtain rfl | rfl := h
    · exact yields_relation rfl left right fun x y hx hy => exists_same (hx.trans hy.symm)
    · exact yields_relation rfl left right fun x y hx hy =>
        exists_map_eq_ok (exists_same (hx.trans hy.symm))
  | comparison h ordered _ _ left right =>
    have compares (f : Ordering → Bool) (x y : Scalar) (hx : x.kind = _) (hy : y.kind = _) :
        ∃ c, (x.order y).map f = .ok c :=
      exists_map_eq_ok (exists_order (hx.trans hy.symm) (hx ▸ ordered))
    obtain rfl | rfl | rfl | rfl := h
    all_goals exact yields_relation rfl left right (compares _)
  | not _ only =>
    obtain ⟨c, hc⟩ := only.truth
    exact yields_of_eval (eval_not v _) ⟨!c, by rw [hc]; rfl⟩
  | implies _ _ left right =>
    apply yields_of_eval (eval_implies v _ _)
    obtain ⟨c, hc⟩ := left.truth
    rw [hc]
    -- After a false condition the conclusion is not asked.
    cases c with
    | false => exact ⟨true, rfl⟩
    | true => exact right.truth
  | connective h _ each =>
    have answered := fun a ha => (each a ha).truth
    obtain rfl | rfl := h
    · exact yields_of_eval (eval_and v _) (exists_allM_eq_ok answered)
    · exact yields_of_eval (eval_or v _) (exists_anyM_eq_ok answered)

theorem HasKind.holds (h : HasKind K e .bool) {d : Domain} (hd : d.kind = K) :
    ∀ v ∈ d.values, ∃ c, (Predicate.expr e).holds v = .ok c := by
  intro v hv
  exact (h.yields ((Domain.kind_of_mem_values hv).trans hd)).truth

/-- An expression that has a kind evaluates to a value of that kind wherever the
variable has its own. Among the violations that are reported of a variable there
is then none of a class whose predicate has the kind of truth values. -/
theorem hasKind_sound (K : Kind) :
    (∀ (e : Expr) (k : Kind), HasKind K e k →
      ∀ v : Scalar, v.kind = K → ∃ w, e.eval v = .ok w ∧ w.kind = k) ∧
    (∀ e : Expr, HasKind K e .bool → ∀ (x : Variable) (i : Nat) (c : Class),
      x.domain.kind = K → x.classes[i]? = some c → c.predicate = .expr e →
      ∃ ws, x.Listing ws ∧ x.violations = ws.map (Violation.error x) ∧
        ∀ err, .predicate i err ∉ ws) := by
  constructor
  · intro e k h v hv
    exact h.yields hv
  · intro e h x i c hd hc predicate
    obtain ⟨ws, listing, reported⟩ := x.exists_listing
    refine ⟨ws, listing, reported, ?_⟩
    intro err found
    obtain ⟨named, at_index, first⟩ := (listing.mem_iff _).mp found
    obtain rfl := Option.some.inj (hc.symm.trans at_index)
    obtain ⟨v, hv, errs⟩ := first.exists_mem
    obtain ⟨b, answer⟩ := h.holds hd v hv
    rw [predicate, answer] at errs
    nomatch errs

theorem hasKind_sound_gauge :
    HasKind .int (.apply .lt [.value, .literal (.int 4)]) .bool ∧
      (∃ w, (apply .lt [.value, .literal (.int 4)]).eval (.int 9) = .ok w ∧ w.kind = .bool) ∧
      ∃ x ∈ Model.gauge.vars, x.name = "level" ∧
        ∃ ws, x.Listing ws ∧ x.violations = ws.map (Violation.error x) ∧
          ∀ err, .predicate 1 err ∉ ws := by
  have kind : HasKind .int (.apply .lt [.value, .literal (.int 4)]) .bool :=
    .comparison (.inl rfl) (.inl rfl) .value (.literal (.int 4))
  exact ⟨kind, (hasKind_sound .int).1 _ _ kind (.int 9) rfl, _, List.mem_cons_self, rfl,
    (hasKind_sound .int).2 _ kind _ 1 _ rfl rfl rfl⟩

end Expr

end PartitionTest
