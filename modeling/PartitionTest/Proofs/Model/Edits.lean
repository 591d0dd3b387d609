import PartitionTest.Model.Edit

/-! What each edit does to a model, told as one case distinction on the model it
starts from. -/
namespace PartitionTest.Edit

variable {α β : Type} {m : Model}

@[simp] theorem on_get : (get : Edit Model).on m = (.ok m, m) := rfl

@[simp] theorem on_dropTables : dropTables.on m = (.ok (), { m with tables := none }) := rfl

/-- An edit that fails keeps the ones after it from being made. -/
theorem on_bind (e : Edit α) (f : α → Edit β) :
    (e >>= f).on m = match e.on m with
      | (.ok a, m) => (f a).on m
      | (.error err, m) => (.error err, m) := by
  show (ExceptT.bindCont f (e m).1) (e m).2 =
    match e m with | (.ok a, m) => (f a) m | (.error err, m) => (.error err, m)
  rcases e m with ⟨r, m'⟩
  cases r <;> rfl

theorem addVariable_on (m : Model) (name : String) (domain : Domain) :
    (addVariable name domain).on m =
      if (m.find? name).isSome then (.error (.duplicateVariable name), m)
      else match domain.flaw? with
        | some flaw => (.error (.domain name flaw), m)
        | none => (.ok (), { vars := m.vars ++ [⟨name, domain, none, []⟩], tables := none }) := by
  unfold addVariable
  rw [on_bind, on_get]
  dsimp only
  split
  · rfl
  · cases domain.flaw? <;> rfl

theorem find_on (m : Model) (name : String) :
    (find name).on m = match m.vars.findIdx? (·.name == name) with
      | some i => (.ok i, m)
      | none => (.error (.unknownVariable name), m) := by
  unfold find
  rw [on_bind, on_get]
  dsimp only
  cases m.vars.findIdx? (·.name == name) <;> rfl

theorem setBase_on (m : Model) (name : String) (v : Scalar) :
    (setBase name v).on m = match m.vars.findIdx? (·.name == name) with
      | some i => (.ok (), {
          vars := m.vars.modify i fun x => { x with base := some v }, tables := none })
      | none => (.error (.unknownVariable name), m) := by
  unfold setBase
  rw [on_bind, find_on]
  cases m.vars.findIdx? (·.name == name) <;> rfl

theorem pushClass_on (m : Model) (name : String) (tag : Tag) (predicate : Predicate)
    (boundaries : List Scalar) :
    (pushClass name tag predicate boundaries).on m =
      match m.vars.findIdx? (·.name == name) with
      | none => (.error (.unknownVariable name), { m with tables := none })
      | some i =>
        let x := m.vars[i]?.getD default
        match boundaries.find? fun b => !x.domain.contains b with
        | some bad => (.error (.boundaryOutOfDomain name bad), { m with tables := none })
        | none => (.ok ⟨i, x.classes.length⟩, {
            vars := m.vars.modify i fun y => { y with classes := y.classes ++
              [⟨y.name ++ "#" ++ toString x.classes.length, tag, predicate, boundaries, false⟩] }
            tables := none }) := by
  unfold pushClass
  rw [on_bind, on_dropTables]
  dsimp only
  rw [on_bind, find_on]
  dsimp only
  cases m.vars.findIdx? (·.name == name) with
  | none => rfl
  | some i =>
    dsimp only
    rw [on_bind, on_get]
    dsimp only
    cases boundaries.find? fun b => !((m.vars[i]?.getD default).domain.contains b) <;> rfl

theorem amendClass_on (m : Model) (place : ClassPlace) (f : Class → Class) :
    (amendClass place f).on m = (.ok (), { m with vars := m.vars.modify place.owner fun v =>
      { v with classes := v.classes.modify place.index f } }) := rfl

def newClass (x : Variable) (c : ClassDef) : Class where
  name := c.name.getD (x.name ++ "#" ++ toString x.classes.length)
  tag := c.tag
  predicate := c.predicate
  boundaries := c.boundaries
  autoBoundaries := c.autoBoundaries

theorem modify_amend_modify_push {vars : List Variable} {i : Nat} {x : Variable}
    (hx : vars[i]? = some x) (c : ClassDef) :
    ((vars.modify i fun y => { y with classes := y.classes ++
        [⟨y.name ++ "#" ++ toString x.classes.length, c.tag, c.predicate, c.boundaries,
          false⟩] }).modify i fun y =>
      { y with classes := y.classes.modify x.classes.length fun k =>
        { k with name := c.name.getD k.name, autoBoundaries := c.autoBoundaries } }) =
      vars.modify i fun y => { y with classes := y.classes ++ [newClass x c] } := by
  apply List.ext_getElem?
  intro j
  simp only [List.getElem?_modify]
  by_cases here : i = j
  · subst here
    simp [hx, newClass, List.modify_eq_take_drop]
  · simp [here]

theorem addClass_on (m : Model) (name : String) (c : ClassDef) :
    (addClass name c).on m = match m.vars.findIdx? (·.name == name) with
      | none => (.error (.unknownVariable name), { m with tables := none })
      | some i =>
        let x := m.vars[i]?.getD default
        match c.boundaries.find? fun b => !x.domain.contains b with
        | some bad => (.error (.boundaryOutOfDomain name bad), { m with tables := none })
        | none => (.ok (newClass x c).name, {
            vars := m.vars.modify i fun y => { y with classes := y.classes ++ [newClass x c] }
            tables := none }) := by
  unfold addClass
  rw [on_bind, pushClass_on]
  cases found : m.vars.findIdx? (·.name == name) with
  | none => rfl
  | some i =>
    obtain ⟨x, hx⟩ : ∃ x, m.vars[i]? = some x :=
      ⟨_, List.getElem?_eq_getElem (List.findIdx?_eq_some_iff_getElem.mp found).1⟩
    dsimp only
    rw [hx, Option.getD_some]
    cases c.boundaries.find? fun b => !x.domain.contains b with
    | some bad => rfl
    | none =>
      dsimp only
      rw [on_bind, amendClass_on]
      dsimp only
      rw [on_bind, on_get, modify_amend_modify_push hx]
      have last : ((m.vars.modify i fun y => { y with
          classes := y.classes ++ [newClass x c] })[i]?.getD default).classes[x.classes.length]? =
          some (newClass x c) := by
        simp [hx]
      dsimp only
      rw [last]
      rfl

end PartitionTest.Edit
