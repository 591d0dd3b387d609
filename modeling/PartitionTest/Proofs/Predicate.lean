import PartitionTest.Proofs.Expr.Eval

/-! The three ways to write a class. An interval is a conjunction of two
comparisons, and an enumeration a disjunction of equalities: the predicates
select the same values and err on the same ones. -/
namespace PartitionTest

namespace Expr

def between (min max : Int64) : Expr :=
  .apply .and [.apply .gte [.value, .literal (.int min)], .apply .lte [.value, .literal (.int max)]]

def amongst (values : List Scalar) : Expr :=
  .apply .or (values.map fun u => .apply .eq [.value, .literal u])

theorem truth_relation {op : Op} {r : Scalar → Scalar → Except EvalError Bool}
    (hr : op.relation? = some r) (v u : Scalar) :
    (apply op [.value, .literal u]).truth v = r v u :=
  truth_of_eval (eval_relation hr v .value (.literal u))

end Expr

namespace Predicate

open PartitionTest.Expr

theorem holds_between_int (min max n : Int64) :
    (expr (between min max)).holds (.int n) = .ok (min ≤ n && n ≤ max) := by
  have lower : (apply .gte [.value, .literal (.int min)]).truth (.int n) = .ok (min ≤ n) := by
    rw [truth_relation rfl]
    apply congrArg Except.ok
    rw [Bool.eq_iff_iff, decide_eq_true_iff, Std.isGE_compare]
  have upper : (apply .lte [.value, .literal (.int max)]).truth (.int n) = .ok (n ≤ max) := by
    rw [truth_relation rfl]
    apply congrArg Except.ok
    rw [Bool.eq_iff_iff, decide_eq_true_iff, Std.isLE_compare]
  rw [holds_expr, between, truth_of_eval (eval_and _ _), List.allM_cons, List.allM_cons, lower,
    upper]
  cases decide (min ≤ n) <;> cases decide (n ≤ max) <;> rfl

theorem holds_between_of_kind_ne {v : Scalar} (h : v.kind ≠ .int) (min max : Int64) :
    (expr (between min max)).holds v = .error (.unordered v (.int min)) := by
  rw [holds_expr, between, truth_of_eval (eval_and _ _), List.allM_cons, truth_relation rfl]
  cases v with
  | int n => exact absurd rfl h
  | bool b => rfl
  | char c => rfl

theorem anyM_same {v : Scalar} {values : List Scalar} (alike : ∀ u ∈ values, u.kind = v.kind) :
    values.anyM v.same = .ok (values.contains v) := by
  induction values with
  | nil => rfl
  | cons u us ih =>
    obtain ⟨head, tail⟩ := List.forall_mem_cons.mp alike
    rw [List.anyM_cons, ih tail, Scalar.same, if_pos head.symm, List.contains_cons]
    cases v == u <;> rfl

theorem holds_amongst (v : Scalar) (values : List Scalar) :
    (expr (amongst values)).holds v = values.anyM v.same := by
  have equal (u : Scalar) : (apply .eq [.value, .literal u]).truth v = v.same u :=
    truth_relation rfl v u
  rw [holds_expr, amongst, truth_of_eval (eval_or _ _), anyM_map]
  simp only [equal]

/-- Values of one kind are all of the kind at hand, or the first of them is not. -/
theorem holds_oneOf {k : Kind} {values : List Scalar} (alike : ∀ u ∈ values, u.kind = k)
    (v : Scalar) : (oneOf values).holds v = values.anyM v.same := by
  by_cases hk : k = v.kind
  · subst hk
    have none : values.find? (·.kind != v.kind) = none := by
      simpa [List.find?_eq_none] using alike
    rw [holds, none, anyM_same alike]
  · cases values with
    | nil => rfl
    | cons u us =>
      have head : u.kind = k := alike u List.mem_cons_self
      have other : u.kind ≠ v.kind := by
        rw [head]
        exact hk
      rw [holds, List.find?_cons_of_pos (by simpa using other), List.anyM_cons, Scalar.same,
        if_neg other.symm]
      rfl

/-- An interval and its expression both err or both say the same. An enumeration
of values of one kind and its expression have one outcome. -/
theorem holds_agree (v : Scalar) :
    (∀ min max : Int64,
      (∃ e e', (range min max).holds v = .error e ∧ (expr (between min max)).holds v = .error e') ∨
      (∃ b, (range min max).holds v = .ok b ∧ (expr (between min max)).holds v = .ok b)) ∧
    (∀ (k : Kind) (values : List Scalar), (∀ u ∈ values, u.kind = k) →
      (oneOf values).holds v = (expr (amongst values)).holds v) := by
  constructor
  · intro min max
    cases v with
    | int n => exact .inr ⟨_, rfl, holds_between_int min max n⟩
    | bool b => exact .inl ⟨_, _, rfl, holds_between_of_kind_ne (by simp [Scalar.kind]) min max⟩
    | char c => exact .inl ⟨_, _, rfl, holds_between_of_kind_ne (by simp [Scalar.kind]) min max⟩
  · intro k values alike
    rw [holds_oneOf alike, holds_amongst]

theorem holds_agree_letters :
    (∀ u ∈ [Scalar.char 'a', .char 'b'], u.kind = .char) ∧
      (oneOf [.char 'a', .char 'b']).holds (.int 3) = .error (.wrongKind .int (.char 'a')) ∧
      (expr (amongst [.char 'a', .char 'b'])).holds (.int 3) =
        .error (.wrongKind .int (.char 'a')) :=
  have alike : ∀ u ∈ [Scalar.char 'a', .char 'b'], u.kind = .char := by decide
  ⟨alike, rfl, ((holds_agree (.int 3)).2 .char _ alike).symm⟩

end Predicate

end PartitionTest
