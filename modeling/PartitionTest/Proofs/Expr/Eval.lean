import PartitionTest.Predicate
import PartitionTest.Proofs.Except

/-! Evaluation, operator by operator. Connectives ask their arguments for truth
values, one after the other until one decides; every other operator evaluates
both of its arguments and relates the results. What goes wrong is an error of an
argument or one about kinds. The laws of the operators are equations between
outcomes, errors included: the two sides look at the same arguments in the same
order and stop at the same place. -/
namespace PartitionTest

def EvalError.OfKinds : EvalError → Prop
  | .wrongKind .. | .unordered .. => True
  | .wrongCount .. => False

def Op.Takes : Op → Nat → Prop
  | .not, n => n = 1
  | .eq, n | .neq, n | .implies, n | .lt, n | .lte, n | .gt, n | .gte, n => n = 2
  | .and, n | .or, n => 1 ≤ n

theorem Op.takes_of_relation {op : Op} {r : Scalar → Scalar → Except EvalError Bool} {n : Nat}
    (hr : op.relation? = some r) : op.Takes n ↔ n = 2 := by
  cases op <;> cases hr <;> exact Iff.rfl

namespace Scalar

variable {x y : Scalar} {err : EvalError}

theorem ofKinds_of_same (h : x.same y = .error err) : err.OfKinds := by
  unfold same at h
  split at h <;> cases h
  trivial

theorem ofKinds_of_order (h : x.order y = .error err) : err.OfKinds := by
  cases x <;> cases y <;> cases h <;> trivial

end Scalar

namespace Expr

variable {v : Scalar} {e : Expr} {err : EvalError}

def truth (v : Scalar) (e : Expr) : Except EvalError Bool := do
  (← e.eval v).asBool

theorem holds_expr (v : Scalar) (e : Expr) : (Predicate.expr e).holds v = e.truth v := rfl

theorem truth_of_eval {x : Except EvalError Bool} (h : e.eval v = .bool <$> x) :
    e.truth v = x := by
  rw [truth, h]
  cases x <;> rfl

theorem evalAnd_eq_allM (v : Scalar) (args : List Expr) :
    evalAnd v args = args.allM (truth v) := by
  induction args with
  | nil => rfl
  | cons a as ih => rw [evalAnd, List.allM_cons, ih, truth, bind_assoc]

theorem evalOr_eq_anyM (v : Scalar) (args : List Expr) :
    evalOr v args = args.anyM (truth v) := by
  induction args with
  | nil => rfl
  | cons a as ih => rw [evalOr, List.anyM_cons, ih, truth, bind_assoc]

theorem eval_and (v : Scalar) (args : List Expr) :
    (apply .and args).eval v = .bool <$> args.allM (truth v) := by
  rw [eval, evalAnd_eq_allM, bind_pure_comp]

theorem eval_or (v : Scalar) (args : List Expr) :
    (apply .or args).eval v = .bool <$> args.anyM (truth v) := by
  rw [eval, evalOr_eq_anyM, bind_pure_comp]

theorem eval_not (v : Scalar) (a : Expr) :
    (apply .not [a]).eval v = .bool <$> (!·) <$> a.truth v := by
  rw [eval, truth, ← bind_assoc]
  simp

theorem eval_implies (v : Scalar) (a b : Expr) :
    (apply .implies [a, b]).eval v =
      .bool <$> (do if ← a.truth v then b.truth v else return true) := by
  rw [eval, ← bind_assoc, ← truth, map_bind]
  apply bind_congr
  intro holds
  cases holds with
  | false => rfl
  | true => simp [truth]

theorem eval_relation {op : Op} {r : Scalar → Scalar → Except EvalError Bool}
    (h : op.relation? = some r) (v : Scalar) (a b : Expr) :
    (apply op [a, b]).eval v = .bool <$> (do r (← a.eval v) (← b.eval v)) := by
  cases op <;> cases h <;> simp [eval, Op.relation?]

theorem truth_eq_error (h : e.truth v = .error err) : e.eval v = .error err ∨ err.OfKinds := by
  rw [truth, bind_eq_error_iff] at h
  obtain failed | ⟨w, -, failed⟩ := h
  · exact .inl failed
  · cases w <;> cases failed
    all_goals exact .inr trivial

theorem ofKinds_of_relation {op : Op} {r : Scalar → Scalar → Except EvalError Bool}
    (hr : op.relation? = some r) {x y : Scalar} (failed : r x y = .error err) : err.OfKinds := by
  cases op <;> cases hr
  case eq => exact Scalar.ofKinds_of_same failed
  case neq => exact Scalar.ofKinds_of_same (map_eq_error_iff.mp failed)
  all_goals exact Scalar.ofKinds_of_order (map_eq_error_iff.mp failed)

theorem exists_of_eval_apply_eq_error {op : Op} {args : List Expr} (fits : op.Takes args.length)
    (failed : (apply op args).eval v = .error err) :
    (∃ a ∈ args, a.eval v = .error err) ∨ err.OfKinds := by
  have asked {a : Expr} (ha : a ∈ args) (h : a.truth v = .error err) :
      (∃ a ∈ args, a.eval v = .error err) ∨ err.OfKinds :=
    (truth_eq_error h).imp_left fun h => ⟨a, ha, h⟩
  cases hr : op.relation? with
  | some r =>
    obtain ⟨a, b, rfl⟩ := List.length_eq_two.mp ((Op.takes_of_relation hr).mp fits)
    rw [eval_relation hr, map_eq_error_iff, bind_eq_error_iff] at failed
    obtain left | ⟨x, -, failed⟩ := failed
    · exact .inl ⟨a, by simp, left⟩
    rw [bind_eq_error_iff] at failed
    obtain right | ⟨y, -, failed⟩ := failed
    · exact .inl ⟨b, by simp, right⟩
    · exact .inr (ofKinds_of_relation hr failed)
  | none =>
    cases op with
    | and =>
      rw [eval_and, map_eq_error_iff] at failed
      obtain ⟨a, ha, failed⟩ := exists_of_allM_eq_error failed
      exact asked ha failed
    | or =>
      rw [eval_or, map_eq_error_iff] at failed
      obtain ⟨a, ha, failed⟩ := exists_of_anyM_eq_error failed
      exact asked ha failed
    | not =>
      obtain ⟨a, rfl⟩ := List.length_eq_one_iff.mp fits
      rw [eval_not, map_eq_error_iff, map_eq_error_iff] at failed
      exact asked (by simp) failed
    | implies =>
      obtain ⟨a, b, rfl⟩ := List.length_eq_two.mp fits
      rw [eval_implies, map_eq_error_iff, bind_eq_error_iff] at failed
      obtain condition | ⟨holds, -, failed⟩ := failed
      · exact asked (by simp) condition
      · cases holds with
        | false => nomatch failed
        | true => exact asked (by simp) failed
    | _ => cases hr

variable {op other : Op} {r s : Scalar → Scalar → Except EvalError Bool}

def negated (e : Expr) : Expr := .apply .not [e]

theorem truth_negated (v : Scalar) (e : Expr) : e.negated.truth v = (!·) <$> e.truth v :=
  truth_of_eval (eval_not v e)

theorem eval_not_and (v : Scalar) (xs : List Expr) :
    (apply .and xs).negated.eval v = (apply .or (xs.map negated)).eval v := by
  rw [negated, eval_not, truth_of_eval (eval_and v xs), not_allM, eval_or, anyM_map]
  simp only [truth_negated]

theorem eval_not_or (v : Scalar) (xs : List Expr) :
    (apply .or xs).negated.eval v = (apply .and (xs.map negated)).eval v := by
  rw [negated, eval_not, truth_of_eval (eval_or v xs), not_anyM, eval_and, allM_map]
  simp only [truth_negated]

/-- The second argument of an implication matters only where that of the
disjunction does. -/
theorem eval_implies_eq_or (v : Scalar) (a b : Expr) :
    (apply .implies [a, b]).eval v = (apply .or [a.negated, b]).eval v := by
  rw [eval_implies, eval_or, List.anyM_cons, truth_negated, bind_map_left]
  apply congrArg
  apply bind_congr
  intro holds
  cases holds with
  | false => rfl
  | true =>
    rw [List.anyM_cons]
    cases b.truth v with
    | error err => rfl
    | ok b => cases b <;> rfl

theorem eval_not_relation (hr : op.relation? = some r) (hs : other.relation? = some s)
    (opposite : ∀ x y, (!·) <$> r x y = s x y) (v : Scalar) (a b : Expr) :
    (apply op [a, b]).negated.eval v = (apply other [a, b]).eval v := by
  rw [negated, eval_not, truth_of_eval (eval_relation hr v a b), eval_relation hs]
  simp only [map_bind, opposite]

/-- Comparisons that differ in every outcome differ where there is one. -/
theorem not_order {f g : Ordering → Bool} (opposite : ∀ o, (!f o) = g o) (x y : Scalar) :
    (!·) <$> (x.order y).map f = (x.order y).map g := by
  cases x.order y with
  | error err => rfl
  | ok o => exact congrArg Except.ok (opposite o)

theorem eval_not_lt (v : Scalar) (a b : Expr) :
    (apply .lt [a, b]).negated.eval v = (apply .gte [a, b]).eval v :=
  eval_not_relation rfl rfl (not_order fun o => by cases o <;> rfl) v a b

theorem eval_not_gt (v : Scalar) (a b : Expr) :
    (apply .gt [a, b]).negated.eval v = (apply .lte [a, b]).eval v :=
  eval_not_relation rfl rfl (not_order fun o => by cases o <;> rfl) v a b

theorem eval_not_eq (v : Scalar) (a b : Expr) :
    (apply .eq [a, b]).negated.eval v = (apply .neq [a, b]).eval v :=
  eval_not_relation rfl rfl (fun _ _ => rfl) v a b

theorem eval_and_nested (v : Scalar) (xs ys zs : List Expr) :
    (apply .and (xs ++ [apply .and ys] ++ zs)).eval v = (apply .and (xs ++ ys ++ zs)).eval v := by
  rw [eval_and, eval_and, allM_splice (truth_of_eval (eval_and v ys))]

theorem eval_or_nested (v : Scalar) (xs ys zs : List Expr) :
    (apply .or (xs ++ [apply .or ys] ++ zs)).eval v = (apply .or (xs ++ ys ++ zs)).eval v := by
  rw [eval_or, eval_or, anyM_splice (truth_of_eval (eval_or v ys))]

/-- Negation goes through connectives, turns a comparison into its opposite, and
nested connectives of one kind are one; an error of the one side is the error of
the other. -/
theorem eval_laws (a b : Expr) (xs ys zs : List Expr) (v : Scalar) :
    (apply .and xs).negated.eval v = (apply .or (xs.map negated)).eval v ∧
    (apply .or xs).negated.eval v = (apply .and (xs.map negated)).eval v ∧
    (apply .implies [a, b]).eval v = (apply .or [a.negated, b]).eval v ∧
    (apply .lt [a, b]).negated.eval v = (apply .gte [a, b]).eval v ∧
    (apply .gt [a, b]).negated.eval v = (apply .lte [a, b]).eval v ∧
    (apply .eq [a, b]).negated.eval v = (apply .neq [a, b]).eval v ∧
    (apply .and (xs ++ [apply .and ys] ++ zs)).eval v = (apply .and (xs ++ ys ++ zs)).eval v ∧
    (apply .or (xs ++ [apply .or ys] ++ zs)).eval v = (apply .or (xs ++ ys ++ zs)).eval v :=
  ⟨eval_not_and v xs, eval_not_or v xs, eval_implies_eq_or v a b, eval_not_lt v a b,
    eval_not_gt v a b, eval_not_eq v a b, eval_and_nested v xs ys zs, eval_or_nested v xs ys zs⟩

/-- The first argument that is no truth value is blamed on both sides, and what
comes after a false one is not looked at. -/
example :
    let xs : List Expr := [.literal (.bool true), .value, .literal (.int 3)]
    (apply .and xs).negated.eval (.char 'c') = .error (.wrongKind .bool (.char 'c')) ∧
      (apply .and xs).negated.eval (.bool false) = .ok (.bool true) := by
  exact ⟨rfl, rfl⟩

end Expr

end PartitionTest
