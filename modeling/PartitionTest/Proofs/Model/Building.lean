import PartitionTest.Proofs.Domain
import PartitionTest.Proofs.Except
import PartitionTest.Proofs.Model.Edits

/-! Models of documents. Definitions are added one after another, each to the
variable that bears its name, and the first one at fault ends it. As names are
distinct up to there, that variable is always the last. -/
namespace PartitionTest

namespace Edit

variable {α : Type}

def outcome (e : Edit α) (m : Model) : Except ModelError Model :=
  (e.on m).1.map fun _ => (e.on m).2

theorem outcome_seq (e : Edit α) (next : Edit PUnit) (m : Model) :
    (e >>= fun _ => next).outcome m = e.outcome m >>= next.outcome := by
  unfold outcome
  rw [on_bind]
  rcases e.on m with ⟨_ | _, _⟩ <;> rfl

theorem outcome_forM_cons {β : Type} (f : β → Edit PUnit) (b : β) (bs : List β) (m : Model) :
    ((b :: bs).forM f).outcome m = (f b).outcome m >>= (bs.forM f).outcome :=
  outcome_seq (f b) (bs.forM f) m

theorem outcome_discard (e : Edit α) (m : Model) :
    (Functor.discard e).outcome m = e.outcome m := by
  rw [Functor.discard, LawfulFunctor.map_const, Function.comp_apply, map_eq_pure_bind]
  unfold outcome
  rw [on_bind]
  rcases e.on m with ⟨_ | _, _⟩ <;> rfl

end Edit

def ClassDef.toClass (c : ClassDef) (owner : String) (index : Nat) : Class where
  name := c.name.getD (owner ++ "#" ++ toString index)
  tag := c.tag
  predicate := c.predicate
  boundaries := c.boundaries
  autoBoundaries := c.autoBoundaries

namespace VariableDef

def bare (d : VariableDef) : Variable where
  name := d.name
  domain := d.domain
  base := none
  classes := []

def withClasses (d : VariableDef) (cs : List ClassDef) : Variable where
  name := d.name
  domain := d.domain
  base := d.base
  classes := cs.mapIdx fun i c => c.toClass d.name i

def toVariable (d : VariableDef) : Variable :=
  d.withClasses d.classes

end VariableDef

namespace Document

/-- A document that describes a model: names tell its variables apart, every
domain is a proper one of bounded size, and boundary points lie in their domains. -/
structure WellFormed (d : Document) : Prop where
  names : (d.vars.map (·.name)).Nodup
  ranges : ∀ v ∈ d.vars, ∀ min max, v.domain = .int min max → min ≤ max
  characters : ∀ v ∈ d.vars, ∀ cs, v.domain = .char cs → cs ≠ [] ∧ cs.Nodup
  sizes : ∀ v ∈ d.vars, v.domain.values.length ≤ maxDomainSize
  boundaries : ∀ v ∈ d.vars, ∀ c ∈ v.classes, ∀ b ∈ c.boundaries, b ∈ v.domain.values

inductive Item where
  /-- A variable, after the names of those before it. -/
  | declaration (earlier : List String) (d : VariableDef)
  /-- A boundary point of a class of a variable. -/
  | boundary (d : VariableDef) (point : Scalar)

def Item.boundaries (d : VariableDef) (cs : List ClassDef) : List Item :=
  cs.flatMap fun c => c.boundaries.map (.boundary d)

def itemsAfter (earlier : List String) : List VariableDef → List Item
  | [] => []
  | d :: ds =>
    .declaration earlier d :: Item.boundaries d d.classes ++ itemsAfter (earlier ++ [d.name]) ds

def items (d : Document) : List Item :=
  itemsAfter [] d.vars

inductive Item.Offends : Item → ModelError → Prop where
  | repeated {earlier : List String} {d : VariableDef} (known : d.name ∈ earlier) :
    Offends (.declaration earlier d) (.duplicateVariable d.name)
  | domain {earlier : List String} {d : VariableDef} {flaw : Domain.Flaw}
    (new : d.name ∉ earlier) (flawed : d.domain.Flawed flaw) :
    Offends (.declaration earlier d) (.domain d.name flaw)
  | boundary {d : VariableDef} {point : Scalar} (outside : point ∉ d.domain.values) :
    Offends (.boundary d point) (.boundaryOutOfDomain d.name point)

def FirstOffends (d : Document) (e : ModelError) : Prop :=
  ∃ before item after, d.items = before ++ item :: after ∧
    (∀ i ∈ before, ∀ e, ¬ i.Offends e) ∧ item.Offends e

namespace Item

def fault? : Item → Option ModelError
  | .declaration earlier d =>
    if d.name ∈ earlier then some (.duplicateVariable d.name)
    else d.domain.flaw?.map (.domain d.name)
  | .boundary d point =>
    if d.domain.contains point then none else some (.boundaryOutOfDomain d.name point)

theorem fault?_eq_some_iff {i : Item} {e : ModelError} : i.fault? = some e ↔ i.Offends e := by
  cases i with
  | declaration earlier d =>
    rw [fault?]
    split
    · rename_i known
      constructor
      · rintro ⟨⟩
        exact .repeated known
      · rintro (_ | ⟨new, -⟩)
        · rfl
        · exact absurd known new
    · rename_i new
      rw [Option.map_eq_some_iff]
      constructor
      · rintro ⟨flaw, found, rfl⟩
        exact .domain new (Domain.flaw?_eq_some_iff.mp found)
      · rintro (known | ⟨-, flawed⟩)
        · exact absurd known new
        · exact ⟨_, Domain.flaw?_eq_some_iff.mpr flawed, rfl⟩
  | boundary d point =>
    rw [fault?]
    split
    · rename_i inside
      exact iff_of_false nofun fun | .boundary outside => outside (Domain.mem_values.mpr inside)
    · rename_i outside
      constructor
      · rintro ⟨⟩
        exact .boundary (Domain.mem_values.not.mpr outside)
      · rintro ⟨⟩
        rfl

theorem fault?_eq_none_iff {i : Item} : i.fault? = none ↔ ∀ e, ¬ i.Offends e := by
  simp only [Option.eq_none_iff_forall_ne_some, ne_eq, fault?_eq_some_iff]

def accept (is : List Item) (m : Model) : Except ModelError Model :=
  match is.findSome? fault? with
  | some e => .error e
  | none => .ok m

/-- What follows is done to the model that the items before accept. -/
theorem accept_bind (is js : List Item) {m m' : Model} {next : Model → Except ModelError Model}
    (h : is.findSome? fault? = none → next m' = accept js m) :
    accept is m' >>= next = accept (is ++ js) m := by
  unfold accept at h ⊢
  rw [List.findSome?_append]
  cases passed : is.findSome? fault? with
  | some e => rfl
  | none => exact h passed

theorem findSome?_map_boundary (d : VariableDef) (points : List Scalar) :
    (points.map (.boundary d)).findSome? fault? =
      (points.find? fun b => !d.domain.contains b).map (.boundaryOutOfDomain d.name) := by
  induction points with
  | nil => rfl
  | cons b points ih =>
    rw [List.map_cons, List.findSome?_cons, List.find?_cons, fault?]
    cases d.domain.contains b with
    | true => exact ih
    | false => rfl

end Item

end Document

namespace Edit

open Document (Item)

variable {xs : List Variable} {d : VariableDef}

theorem findIdx?_concat {x : Variable} (new : x.name ∉ xs.map (·.name)) :
    (xs ++ [x]).findIdx? (·.name == x.name) = some xs.length := by
  have absent : xs.findIdx? (·.name == x.name) = none := by
    rw [List.findIdx?_eq_none_iff]
    exact fun y hy => beq_eq_false_iff_ne.mpr fun same => new (same ▸ List.mem_map_of_mem hy)
  simp [List.findIdx?_append, absent]

theorem outcome_addClass (new : d.name ∉ xs.map (·.name)) (done : List ClassDef) (c : ClassDef) :
    (addClass d.name c).outcome ⟨xs ++ [d.withClasses done], none⟩ =
      Item.accept (c.boundaries.map (.boundary d))
        ⟨xs ++ [d.withClasses (done ++ [c])], none⟩ := by
  have found : (xs ++ [d.withClasses done]).findIdx? (·.name == d.name) = some xs.length :=
    findIdx?_concat (x := d.withClasses done) new
  have last : (xs ++ [d.withClasses done])[xs.length]? = some (d.withClasses done) := by simp
  have added : (xs ++ [d.withClasses done]).modify xs.length
      (fun y => { y with classes := y.classes ++ [newClass (d.withClasses done) c] }) =
        xs ++ [d.withClasses (done ++ [c])] := by
    simp [List.modify_eq_take_drop, VariableDef.withClasses, newClass, ClassDef.toClass,
      List.mapIdx_concat]
  unfold outcome Item.accept
  rw [addClass_on, found, Item.findSome?_map_boundary]
  have domain : (d.withClasses done).domain = d.domain := rfl
  dsimp only
  rw [last, Option.getD_some, added, domain]
  cases c.boundaries.find? fun b => !d.domain.contains b <;> rfl

theorem outcome_forM_addClass (new : d.name ∉ xs.map (·.name)) (done cs : List ClassDef) :
    (cs.forM fun c => Functor.discard (addClass d.name c)).outcome
        ⟨xs ++ [d.withClasses done], none⟩ =
      Item.accept (Item.boundaries d cs) ⟨xs ++ [d.withClasses (done ++ cs)], none⟩ := by
  induction cs generalizing done with
  | nil =>
    rw [List.append_nil]
    rfl
  | cons c cs ih =>
    have others := ih (done ++ [c])
    rw [List.append_assoc, List.singleton_append] at others
    rw [outcome_forM_cons, outcome_discard, outcome_addClass new]
    exact Item.accept_bind _ _ fun _ => others

theorem outcome_addVariable (xs : List Variable) (d : VariableDef) :
    (addVariable d.name d.domain).outcome ⟨xs, none⟩ =
      Item.accept [.declaration (xs.map (·.name)) d] ⟨xs ++ [d.bare], none⟩ := by
  have known : ((Model.mk xs none).find? d.name).isSome = true ↔ d.name ∈ xs.map (·.name) := by
    simp [Model.find?]
  unfold outcome Item.accept
  rw [addVariable_on, List.findSome?_singleton, Item.fault?]
  by_cases h : d.name ∈ xs.map (·.name)
  · rw [if_pos (known.mpr h), if_pos h]
    rfl
  · rw [if_neg (known.not.mpr h), if_neg h]
    cases d.domain.flaw? <;> rfl

theorem outcome_setBase (new : d.name ∉ xs.map (·.name)) {v : Scalar} (base : d.base = some v) :
    (setBase d.name v).outcome ⟨xs ++ [d.bare], none⟩ =
      .ok ⟨xs ++ [d.withClasses []], none⟩ := by
  have found : (xs ++ [d.bare]).findIdx? (·.name == d.name) = some xs.length :=
    findIdx?_concat (x := d.bare) new
  unfold outcome
  rw [setBase_on, found]
  simp [Except.map, List.modify_eq_take_drop, VariableDef.withClasses, VariableDef.bare, base]

theorem new_of_findSome? {earlier : List String}
    (passed : [Item.declaration earlier d].findSome? Item.fault? = none) : d.name ∉ earlier := by
  rw [List.findSome?_singleton, Item.fault?_eq_none_iff] at passed
  exact fun known => passed _ (.repeated known)

theorem outcome_addDefinition (xs : List Variable) (d : VariableDef) :
    (addDefinition d).outcome ⟨xs, none⟩ =
      Item.accept (.declaration (xs.map (·.name)) d :: Item.boundaries d d.classes)
        ⟨xs ++ [d.toVariable], none⟩ := by
  have classes (new : d.name ∉ xs.map (·.name)) := outcome_forM_addClass new [] d.classes
  unfold addDefinition
  cases base : d.base with
  | none =>
    have plain : d.bare = d.withClasses [] := by
      rw [VariableDef.withClasses, base]
      rfl
    dsimp only
    rw [outcome_seq, outcome_addVariable, plain]
    exact Item.accept_bind _ _ fun passed => classes (new_of_findSome? passed)
  | some v =>
    dsimp only
    rw [outcome_seq, outcome_addVariable]
    refine Item.accept_bind _ _ fun passed => ?_
    have new := new_of_findSome? passed
    rw [outcome_seq, outcome_setBase new base]
    exact classes new

theorem outcome_forM_addDefinition (xs : List Variable) (ds : List VariableDef) :
    (ds.forM addDefinition).outcome ⟨xs, none⟩ =
      Item.accept (Document.itemsAfter (xs.map (·.name)) ds)
        ⟨xs ++ ds.map VariableDef.toVariable, none⟩ := by
  induction ds generalizing xs with
  | nil =>
    rw [List.map_nil, List.append_nil]
    rfl
  | cons d ds ih =>
    have others := ih (xs ++ [d.toVariable])
    rw [List.append_assoc, List.singleton_append, List.map_append] at others
    rw [outcome_forM_cons, outcome_addDefinition]
    exact Item.accept_bind _ _ fun _ => others

end Edit

namespace Document

open Item

theorem fault?_declaration_eq_none_iff {earlier : List String} {d : VariableDef} :
    (declaration earlier d).fault? = none ↔ d.name ∉ earlier ∧ d.domain.flaw? = none := by
  rw [fault?]
  split <;> simp_all

theorem forall_mem_boundaries {d : VariableDef} {cs : List ClassDef} :
    (∀ i ∈ boundaries d cs, i.fault? = none) ↔
      ∀ c ∈ cs, ∀ b ∈ c.boundaries, b ∈ d.domain.values := by
  simp only [boundaries, List.forall_mem_flatMap, List.forall_mem_map, fault?, Domain.mem_values,
    ite_eq_left_iff, reduceCtorEq, imp_false, not_not]

/-- No item is at fault if names are new and distinct, and each variable is sound. -/
theorem forall_mem_itemsAfter {earlier : List String} {ds : List VariableDef} :
    (∀ i ∈ itemsAfter earlier ds, i.fault? = none) ↔
      ((∀ d ∈ ds, d.name ∉ earlier) ∧ (ds.map (·.name)).Nodup) ∧
        (∀ d ∈ ds, d.domain.flaw? = none) ∧
          ∀ d ∈ ds, ∀ c ∈ d.classes, ∀ b ∈ c.boundaries, b ∈ d.domain.values := by
  induction ds generalizing earlier with
  | nil => simp [itemsAfter]
  | cons d ds ih =>
    rw [itemsAfter, List.cons_append, List.forall_mem_cons, List.forall_mem_append, ih,
      fault?_declaration_eq_none_iff, forall_mem_boundaries]
    simp only [List.forall_mem_cons, List.map_cons, List.nodup_cons, List.mem_append,
      List.mem_singleton, not_or, List.mem_map, not_exists, not_and]
    constructor
    · rintro ⟨⟨new, sound⟩, inside, ⟨apart, once⟩, others⟩
      exact ⟨⟨⟨new, fun e he => (apart e he).1⟩, fun e he => (apart e he).2, once⟩,
        ⟨sound, others.1⟩, inside, others.2⟩
    · rintro ⟨⟨⟨new, apart⟩, distinct, once⟩, ⟨sound, others⟩, inside, rest⟩
      exact ⟨⟨new, sound⟩, inside, ⟨fun e he => ⟨apart e he, distinct e he⟩, once⟩, others, rest⟩

theorem forall_mem_items_iff {d : Document} :
    (∀ i ∈ d.items, i.fault? = none) ↔ d.WellFormed := by
  simp only [items, forall_mem_itemsAfter, Domain.flaw?_eq_none_iff_wellFormed]
  constructor
  · rintro ⟨⟨-, names⟩, accepted, boundaries⟩
    exact ⟨names, fun v hv => (accepted v hv).1, fun v hv => (accepted v hv).2.1,
      fun v hv => (accepted v hv).2.2, boundaries⟩
  · intro h
    exact ⟨⟨fun _ _ => List.not_mem_nil, h.names⟩,
      fun v hv => ⟨h.ranges v hv, h.characters v hv, h.sizes v hv⟩, h.boundaries⟩

theorem findSome?_items_eq_some_iff {d : Document} {e : ModelError} :
    d.items.findSome? fault? = some e ↔ d.FirstOffends e := by
  rw [List.findSome?_eq_some_iff]
  simp only [FirstOffends, fault?_eq_some_iff, fault?_eq_none_iff]
  refine exists_congr fun before => exists_congr fun item => exists_congr fun after => ?_
  exact and_congr_right fun _ => and_comm

end Document

theorem Model.ofDocument_eq (d : Document) :
    ofDocument d = Document.Item.accept d.items ⟨d.vars.map VariableDef.toVariable, none⟩ :=
  Edit.outcome_forM_addDefinition [] d.vars

theorem Model.vars_of_ofDocument {d : Document} {m : Model} (built : ofDocument d = .ok m) :
    m.vars = d.vars.map VariableDef.toVariable := by
  rw [ofDocument_eq, Document.Item.accept] at built
  split at built
  · contradiction
  · obtain rfl := Except.ok.inj built
    rfl

/-- A document describes a model just when it is well-formed. The model has the
variables of the document in order and is not valid yet. Of any other document
the first item at fault is reported. -/
theorem Model.ofDocument_eq_iff (d : Document) :
    (∀ m, ofDocument d = .ok m ↔
      d.WellFormed ∧ m = { vars := d.vars.map VariableDef.toVariable, tables := none }) ∧
    ∀ e, ofDocument d = .error e ↔ d.FirstOffends e := by
  have accepted := Document.forall_mem_items_iff (d := d)
  have refused e := Document.findSome?_items_eq_some_iff (d := d) (e := e)
  rw [← List.findSome?_eq_none_iff] at accepted
  simp only [ofDocument_eq, Document.Item.accept, ← accepted, ← refused]
  cases d.items.findSome? Document.Item.fault? with
  | none => simp [eq_comm]
  | some e => simp [eq_comm]

end PartitionTest
