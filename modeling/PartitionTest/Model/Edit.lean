import PartitionTest.Model.Check

/-! Building a model step by step. An edit that fails may still have changed
the model: adding a class drops the tables before it looks at its arguments. -/
namespace PartitionTest

abbrev Edit (α : Type) := ExceptT ModelError (StateM Model) α

namespace Edit

def on (m : Model) (e : Edit α) : Except ModelError α × Model :=
  e.run.run m

def dropTables : Edit Unit :=
  modify fun m => { m with tables := none }

def find (name : String) : Edit Nat := do
  match (← get).vars.findIdx? (·.name == name) with
  | some i => return i
  | none => throw (.unknownVariable name)

def update (i : Nat) (f : Variable → Variable) : Edit Unit :=
  modify fun m => { m with vars := m.vars.modify i f }

def addVariable (name : String) (domain : Domain) : Edit Unit := do
  if ((← get).find? name).isSome then throw (.duplicateVariable name)
  match domain.flaw? with
  | some flaw => throw (.domain name flaw)
  | none => pure ()
  dropTables
  modify fun m => { m with
    vars := m.vars ++ [{ name, domain, base := none, classes := [] }] }

/-- Whether the value lies in the domain is left to validation. -/
def setBase (variableName : String) (value : Scalar) : Edit Unit := do
  let i ← find variableName
  update i fun v => { v with base := some value }
  dropTables

structure ClassPlace where
  owner : Nat
  index : Nat

def pushClass (variableName : String) (tag : Tag) (predicate : Predicate)
    (boundaries : List Scalar) : Edit ClassPlace := do
  dropTables
  let i ← find variableName
  let v := (← get).vars[i]?.getD default
  match boundaries.find? fun b => !v.domain.contains b with
  | some bad => throw (.boundaryOutOfDomain variableName bad)
  | none => pure ()
  let last := v.classes.length
  update i fun v => { v with classes := v.classes ++ [{
    name := v.name ++ "#" ++ toString last
    tag := tag
    predicate := predicate
    boundaries := boundaries
    autoBoundaries := false }] }
  return ⟨i, last⟩

/-- Changes a class where it stands. The tables are left as they are. -/
def amendClass (place : ClassPlace) (f : Class → Class) : Edit Unit :=
  update place.owner fun v => { v with classes := v.classes.modify place.index f }

def addClass (variableName : String) (c : ClassDef) : Edit String := do
  let place ← pushClass variableName c.tag c.predicate c.boundaries
  amendClass place fun k =>
    { k with name := c.name.getD k.name, autoBoundaries := c.autoBoundaries }
  let v := (← get).vars[place.owner]?.getD default
  return (v.classes[place.index]?.getD default).name

def addDefinition (d : VariableDef) : Edit Unit := do
  addVariable d.name d.domain
  match d.base with
  | some v => setBase d.name v
  | none => pure ()
  d.classes.forM fun c => discard (addClass d.name c)

end Edit

def Model.ofDocument (d : Document) : Except ModelError Model :=
  let (result, m) := (d.vars.forM Edit.addDefinition).on {}
  result.map fun _ => m

end PartitionTest
