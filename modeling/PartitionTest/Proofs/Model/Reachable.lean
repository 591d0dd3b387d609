import Mathlib.Data.List.Nodup
import PartitionTest.Proofs.Model.Edits
import PartitionTest.Proofs.Model.Table

/-! The models that can come about: by edits, which may fail, and by
validations, in any order. What holds of all of them is proved of one step. -/
namespace PartitionTest

/-- What can be done to a model. A class gets its name and what it says of derived
boundaries when it is added. That whoever adds a class may change its other fields,
too, is left out: no document asks for that. -/
inductive Operation where
  | addVariable (name : String) (domain : Domain)
  | setBase (name : String) (value : Scalar)
  | addClass (name : String) (c : ClassDef)
  | validate

def Operation.apply (m : Model) : Operation → Model
  | .addVariable name domain => ((Edit.addVariable name domain).on m).2
  | .setBase name value => ((Edit.setBase name value).on m).2
  | .addClass name c => ((Edit.addClass name c).on m).2
  | .validate => m.validate.2

inductive Model.Reachable : Model → Prop
  | empty : Reachable {}
  | step {m : Model} (h : Reachable m) (o : Operation) : Reachable (o.apply m)

/-- An edit keeps a property of models if it holds afterwards in any case. -/
def Edit.Keeps {α : Type} (P : Model → Prop) (e : Edit α) : Prop :=
  ∀ m, P m → P (e.on m).2

namespace Edit.Keeps

variable {α β : Type} {P : Model → Prop}

theorem pure (a : α) : Keeps P (Pure.pure a) := fun _ h => h

theorem bind {e : Edit α} {f : α → Edit β} (he : Keeps P e) (hf : ∀ a, Keeps P (f a)) :
    Keeps P (e >>= f) := by
  intro m h
  have first := he m h
  rw [on_bind]
  generalize e.on m = r at first
  match r with
  | (.ok a, m') => exact hf a m' first
  | (.error _, _) => exact first

theorem discard {e : Edit α} (he : Keeps P e) : Keeps P (Functor.discard e) := by
  rw [Functor.discard, LawfulFunctor.map_const, Function.comp_apply, map_eq_pure_bind]
  exact bind he fun _ => pure _

theorem forM {f : α → Edit PUnit} (hf : ∀ a, Keeps P (f a)) (as : List α) :
    Keeps P (as.forM f) := by
  induction as with
  | nil => exact pure _
  | cons a as ih => exact bind (hf a) fun _ => ih

end Edit.Keeps

namespace Model

theorem keeps_reachable_addDefinition (d : VariableDef) :
    Edit.Keeps Reachable (Edit.addDefinition d) := by
  have classes : Edit.Keeps Reachable
      (d.classes.forM fun c => Functor.discard (Edit.addClass d.name c)) :=
    .forM (fun c => .discard fun _ h => h.step (.addClass d.name c)) _
  refine .bind (fun _ h => h.step (.addVariable d.name d.domain)) fun _ => ?_
  dsimp only
  cases d.base with
  | none => exact classes
  | some v => exact .bind (fun _ h => h.step (.setBase d.name v)) fun _ => classes

theorem Reachable.ofDocument {d : Document} {m : Model} (h : Model.ofDocument d = .ok m) :
    m.Reachable := by
  have kept := Edit.Keeps.forM keeps_reachable_addDefinition d.vars {} .empty
  unfold Model.ofDocument at h
  generalize (d.vars.forM Edit.addDefinition).on {} = r at h kept
  match r with
  | (.ok _, m') => exact Except.ok.inj h ▸ kept
  | (.error _, _) => contradiction

end Model

def Document.gauge : Document where
  vars := [
    { name := "level", domain := .int 0 5, base := none, classes := [
      ⟨some "high", .invalid, .range 4 5, [.int 4], false⟩,
      ⟨some "normal", .valid, .expr (.apply .lt [.value, .literal (.int 4)]), [], true⟩] },
    { name := "on", domain := .bool, base := some (.bool true), classes := [
      ⟨some "known", .valid, .oneOf [.bool true, .bool false], [.bool false], false⟩] }]

theorem Model.reachable_gauge : Model.gauge.validate.2.Reachable :=
  have built : Model.ofDocument Document.gauge = .ok Model.gauge := by rfl
  (Reachable.ofDocument built).step .validate

theorem Model.isValidated_gauge : Model.gauge.validate.2.isValidated = true := by rfl

/-- A variable as edits leave it: its domain was accepted, and the declared
boundary points of its classes lie in it. -/
structure Variable.Sound (x : Variable) : Prop where
  domain : x.domain.flaw? = none
  boundaries : ∀ c ∈ x.classes, ∀ b ∈ c.boundaries, x.domain.contains b = true

/-- Names tell variables apart, and a model that counts as valid is one that
validation would leave as it is. -/
structure Model.Sound (m : Model) : Prop where
  names : (m.vars.map (·.name)).Nodup
  vars : ∀ x ∈ m.vars, x.Sound
  tables : m.isValidated = true → m.validate = (.ok (), m)

namespace Model

theorem Sound.empty : Sound {} where
  names := List.nodup_nil
  vars _ h := by contradiction
  tables h := by contradiction

theorem Sound.dropTables {m : Model} (h : m.Sound) : Sound { m with tables := none } where
  names := h.names
  vars := h.vars
  tables h := by contradiction

theorem Sound.addVariable {m : Model} (h : m.Sound) {name : String} {domain : Domain}
    (fresh : m.find? name = none) (accepted : domain.flaw? = none) :
    Sound { vars := m.vars ++ [⟨name, domain, none, []⟩], tables := none } where
  names := by
    rw [List.map_append, List.map_singleton, ← List.concat_eq_append, List.nodup_concat]
    refine ⟨fun known => ?_, h.names⟩
    obtain ⟨x, hx, same⟩ := List.mem_map.mp known
    exact absurd (beq_iff_eq.mpr same) (List.find?_eq_none.mp fresh x hx)
  vars x hx := by
    rcases List.mem_append.mp hx with old | new
    · exact h.vars x old
    · obtain rfl := List.mem_singleton.mp new
      exact ⟨accepted, fun c hc => by contradiction⟩
  tables h := by contradiction

theorem Sound.modify {m : Model} (h : m.Sound) {i : Nat} {f : Variable → Variable}
    (name : ∀ x, (f x).name = x.name)
    (sound : ∀ x, m.vars[i]? = some x → x.Sound → (f x).Sound) :
    Sound { vars := m.vars.modify i f, tables := none } where
  names := by
    have same : (m.vars.modify i f).map (·.name) = m.vars.map (·.name) := by
      apply List.ext_getElem?
      intro j
      rw [List.getElem?_map, List.getElem?_map, List.getElem?_modify]
      cases m.vars[j]? with
      | none => rfl
      | some x => by_cases hij : i = j <;> simp [hij, name]
    exact same ▸ h.names
  vars x hx := by
    obtain ⟨j, hj⟩ := List.mem_iff_getElem?.mp hx
    rw [List.getElem?_modify] at hj
    obtain ⟨y, hy, rfl⟩ := Option.map_eq_some_iff.mp hj
    have before := h.vars y (List.mem_of_getElem? hy)
    by_cases hij : i = j
    · subst hij
      simpa using sound y hy before
    · simpa [hij] using before
  tables h := by contradiction

theorem Sound.validate {m : Model} (h : m.Sound) : Sound m.validate.2 := by
  by_cases clean : m.violations = []
  · have done := validate_of_violations_eq_nil clean
    rw [done]
    exact ⟨h.names, h.vars, fun _ => by rw [validate_of_violations_eq_nil (by exact clean)]⟩
  · rw [validate_of_violations_ne_nil clean]
    exact h.dropTables

/-- No operation breaks the invariant. -/
theorem Sound.step {m : Model} (h : m.Sound) (o : Operation) : (o.apply m).Sound := by
  cases o with
  | addVariable name domain =>
    rw [Operation.apply, Edit.addVariable_on]
    split
    · exact h
    · rename_i fresh
      split
      · exact h
      · exact h.addVariable (Option.not_isSome_iff_eq_none.mp fresh) ‹_›
  | setBase name value =>
    rw [Operation.apply, Edit.setBase_on]
    split
    · exact h.modify (fun _ => rfl) fun x _ hx => ⟨hx.domain, hx.boundaries⟩
    · exact h
  | addClass name c =>
    rw [Operation.apply, Edit.addClass_on]
    split
    · exact h.dropTables
    · rename_i i _
      dsimp only
      split
      · exact h.dropTables
      · rename_i inside
        refine h.modify (fun _ => rfl) fun x hx sound => ⟨sound.domain, fun d hd b hb => ?_⟩
        rcases List.mem_append.mp hd with old | new
        · exact sound.boundaries d old b hb
        · obtain rfl := List.mem_singleton.mp new
          rw [hx] at inside
          simpa using List.find?_eq_none.mp inside b hb
  | validate => exact h.validate

theorem Reachable.sound {m : Model} (h : m.Reachable) : m.Sound := by
  induction h with
  | empty => exact .empty
  | step _ o ih => exact ih.step o

/-- A valid model holds the tables of its variables, which partition their domains. -/
theorem Sound.tables_eq {m : Model} (h : m.Sound) (valid : m.isValidated = true) :
    m.tables = some (m.vars.map Variable.table) ∧ ∀ x ∈ m.vars, x.IsPartition := by
  have fixed := h.tables valid
  by_cases clean : m.violations = []
  · rw [validate_of_violations_eq_nil clean] at fixed
    exact ⟨(congrArg (·.2.tables) fixed).symm, violations_eq_nil_iff.mp clean⟩
  · rw [validate_of_violations_ne_nil clean] at fixed
    exact absurd (congrArg Prod.fst fixed) (by simp)

theorem Reachable.forall₂_tables {m : Model} (reachable : m.Reachable)
    (valid : m.isValidated = true) {R : Table → Variable → Prop}
    (h : ∀ x : Variable, x.Sound → x.IsPartition → R x.table x) :
    ∃ ts, m.tables? = .ok ts ∧ List.Forall₂ R ts m.vars := by
  have sound := reachable.sound
  obtain ⟨tables, parts⟩ := sound.tables_eq valid
  refine ⟨m.vars.map Variable.table, by rw [tables?, tables], ?_⟩
  rw [List.forall₂_map_left_iff, List.forall₂_same]
  exact fun x hx => h x (sound.vars x hx) (parts x hx)

end Model

end PartitionTest
