import PartitionTest.Proofs.Case.Axes

/-! What holds of a model after any history of edits and validations, whether
these succeeded or failed. The tables it holds are never out of date. An edit
that fails touches no variable, domain, base or class, nor the mark of a valid
model, unless it was to add a class: this drops the tables before it looks at its
arguments. -/
namespace PartitionTest

namespace Model

/-- A model in order. Names tell its variables apart, and every domain has
values, none of them twice and not too many. The declared boundary points lie in
their domains. If the model counts as valid, it is what validation makes of its
variables as they stand, so cases are only planned from tables of these. -/
structure InOrder (m : Model) : Prop where
  names : (m.vars.map (·.name)).Nodup
  values_ne_nil : ∀ x ∈ m.vars, x.domain.values ≠ []
  values_nodup : ∀ x ∈ m.vars, x.domain.values.Nodup
  values_length : ∀ x ∈ m.vars, x.domain.values.length ≤ maxDomainSize
  boundaries : ∀ x ∈ m.vars, ∀ c ∈ x.classes, ∀ b ∈ c.boundaries, b ∈ x.domain.values
  tables : m.isValidated = true → validate { vars := m.vars } = (.ok (), m)
  plan : ∀ p, Plan.ofModel m = .ok p → Plan.ofModel (validate { vars := m.vars }).2 = .ok p

theorem validate_vars (m : Model) : validate { vars := m.vars } = m.validate := rfl

theorem isValidated_of_plan {m : Model} {p : Plan} (h : Plan.ofModel m = .ok p) :
    m.isValidated = true := by
  unfold Plan.ofModel tables? at h
  unfold isValidated
  cases tables : m.tables with
  | none => rw [tables] at h; contradiction
  | some ts => rfl

theorem Reachable.inOrder {m : Model} (h : m.Reachable) : m.InOrder := by
  have sound := h.sound
  have accepted := fun x hx => Domain.flaw?_eq_none_iff.mp (sound.vars x hx).domain
  have fixed : m.isValidated = true → validate { vars := m.vars } = (.ok (), m) :=
    fun valid => (validate_vars m).trans (sound.tables valid)
  refine {
    names := sound.names
    values_ne_nil := fun x hx => (accepted x hx).1
    values_nodup := fun x hx => (accepted x hx).2.1
    values_length := fun x hx => (accepted x hx).2.2
    boundaries := fun x hx c hc b hb =>
      Domain.mem_values.mpr ((sound.vars x hx).boundaries c hc b hb)
    tables := fixed
    plan := fun p planned => ?_ }
  rw [fixed (isValidated_of_plan planned)]
  exact planned

theorem inOrder_gauge_refusing_repetition :
    (Operation.apply gauge.validate.2 (.addVariable "level" .bool)).Reachable ∧
      (Operation.apply gauge.validate.2 (.addVariable "level" .bool)).isValidated = true ∧
      (Operation.apply gauge.validate.2 (.addVariable "level" .bool)).InOrder :=
  have reachable := reachable_gauge.step (.addVariable "level" .bool)
  ⟨reachable, by rfl, reachable.inOrder⟩

end Model

/-- If the edit fails, it leaves the model as it was. -/
def Edit.Spares {α : Type} (m : Model) (e : Edit α) : Prop :=
  ∀ err, (e.on m).1 = .error err → (e.on m).2 = m

namespace Model

theorem dropTables_eq_iff {m : Model} : { m with tables := none } = m ↔ m.isValidated = false := by
  obtain ⟨vars, tables⟩ := m
  cases tables <;> simp [isValidated]

theorem spares_addVariable (m : Model) (name : String) (domain : Domain) :
    (Edit.addVariable name domain).Spares m := by
  intro err failed
  rw [Edit.addVariable_on] at failed ⊢
  split
  · rfl
  · rename_i fresh
    rw [if_neg fresh] at failed
    split
    · rfl
    · rename_i accepted
      rw [accepted] at failed
      nomatch failed

theorem spares_setBase (m : Model) (name : String) (value : Scalar) :
    (Edit.setBase name value).Spares m := by
  intro err failed
  rw [Edit.setBase_on] at failed ⊢
  split
  · rename_i found
    rw [found] at failed
    nomatch failed
  · rfl

/-- A class that is refused costs the model its tables, and nothing else. -/
theorem pushClass_on_of_error {m : Model} {name : String} {tag : Tag} {predicate : Predicate}
    {boundaries : List Scalar} {err : ModelError}
    (failed : ((Edit.pushClass name tag predicate boundaries).on m).1 = .error err) :
    ((Edit.pushClass name tag predicate boundaries).on m).2 = { m with tables := none } := by
  rw [Edit.pushClass_on] at failed ⊢
  split
  · rfl
  · rename_i found
    rw [found] at failed
    dsimp only at failed ⊢
    split
    · rfl
    · rename_i inside
      rw [inside] at failed
      nomatch failed

/-- What failed edits do to a model. Only when a class is refused and the model
was valid is there a difference afterwards, and validation makes up for it. -/
structure AfterFailures (m : Model) : Prop where
  addVariable : ∀ name domain, (Edit.addVariable name domain).Spares m
  setBase : ∀ name value, (Edit.setBase name value).Spares m
  addClass : ∀ name tag predicate boundaries err,
    ((Edit.pushClass name tag predicate boundaries).on m).1 = .error err →
      ((Edit.pushClass name tag predicate boundaries).on m).2 = { m with tables := none } ∧
      (((Edit.pushClass name tag predicate boundaries).on m).2 = m ↔ m.isValidated = false)
  restored : m.isValidated = true → ∀ name tag predicate boundaries err,
    ((Edit.pushClass name tag predicate boundaries).on m).1 = .error err →
      ((Edit.pushClass name tag predicate boundaries).on m).2.validate = (.ok (), m)

theorem Reachable.afterFailures {m : Model} (h : m.Reachable) : m.AfterFailures where
  addVariable := m.spares_addVariable
  setBase := m.spares_setBase
  addClass name tag predicate boundaries err failed := by
    have left := pushClass_on_of_error failed
    exact ⟨left, left ▸ dropTables_eq_iff⟩
  restored valid name tag predicate boundaries err failed := by
    have same : validate { m with tables := none } = m.validate := rfl
    rw [pushClass_on_of_error failed, same]
    exact h.sound.tables valid

theorem afterFailures_gauge : gauge.validate.2.Reachable ∧ gauge.validate.2.AfterFailures :=
  ⟨reachable_gauge, reachable_gauge.afterFailures⟩

theorem not_spares_pushClass_gauge :
    gauge.validate.2.Reachable ∧ gauge.validate.2.isValidated = true ∧
      ((Edit.pushClass "on" .valid (.oneOf [.bool true]) [.int 7]).on gauge.validate.2).1 =
        .error (.boundaryOutOfDomain "on" (.int 7)) ∧
      ((Edit.pushClass "on" .valid (.oneOf [.bool true]) [.int 7]).on
        gauge.validate.2).2.isValidated = false ∧
      ¬ (Edit.pushClass "on" .valid (.oneOf [.bool true]) [.int 7]).Spares gauge.validate.2 := by
  have refused : ((Edit.pushClass "on" .valid (.oneOf [.bool true]) [.int 7]).on
      gauge.validate.2).1 = .error (.boundaryOutOfDomain "on" (.int 7)) := by
    rw [Edit.pushClass_on]
    rfl
  have lost := pushClass_on_of_error refused
  refine ⟨reachable_gauge, isValidated_gauge, refused, by rw [lost]; rfl, fun spares => ?_⟩
  have valid := dropTables_eq_iff.mp (lost.symm.trans (spares _ refused))
  rw [isValidated_gauge] at valid
  contradiction

end Model

end PartitionTest
