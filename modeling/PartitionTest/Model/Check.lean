import PartitionTest.Model.Basic

/-! Checking that the classes of a variable partition its domain: no value in
none, none in two, no class empty. All violations are found, not the first. -/
namespace PartitionTest

def Class.firstError? (c : Class) (domain : List Scalar) : Option EvalError :=
  domain.findSome? fun v =>
    match c.predicate.holds v with
    | .ok _ => none
    | .error e => some e

def Class.selects (c : Class) (v : Scalar) : Bool :=
  match c.predicate.holds v with
  | .ok b => b
  | .error _ => false

namespace Variable

def selecting (x : Variable) (v : Scalar) : List Nat :=
  (x.classes.zipIdx.filter fun c => c.1.selects v).map (·.2)

abbrev Match := Scalar × List Nat

def gaps (x : Variable) (ms : List Match) : List ModelError :=
  match (ms.filter (·.2.isEmpty)).map (·.1) with
  | [] => []
  | values => [.gap x.name values]

def classPairs (x : Variable) : List ((Class × Nat) × (Class × Nat)) :=
  x.classes.zipIdx.flatMap fun c =>
    (x.classes.zipIdx.filter fun d => c.2 < d.2).map fun d => (c, d)

def overlaps (x : Variable) (ms : List Match) : List ModelError :=
  let contested := ms.filter fun m => 1 < m.2.length
  if contested.isEmpty then [] else
    x.classPairs.filterMap fun (c, d) =>
      match (contested.filter fun m => m.2.contains c.2 && m.2.contains d.2).map (·.1) with
      | [] => none
      | values => some (.overlap x.name c.1.name d.1.name values)

def emptyClasses (x : Variable) (ms : List Match) : List ModelError :=
  (x.classes.zipIdx.filter fun c => !ms.any (·.2.contains c.2)).map fun c =>
    .emptyClass x.name c.1.name

def baseErrors (x : Variable) : List ModelError :=
  match x.base with
  | some v => if x.domain.contains v then [] else [.baseOutOfDomain x.name v]
  | none => []

def predicateErrors (x : Variable) (domain : List Scalar) : List ModelError :=
  x.classes.filterMap fun c => (c.firstError? domain).map (.predicate x.name c.name)

/-- Every violation of a variable. Coverage is judged when no predicate errs. -/
def violations (x : Variable) : List ModelError :=
  if x.classes.isEmpty then [.noClasses x.name] else
    let domain := x.domain.values
    match x.predicateErrors domain with
    | [] =>
      let ms := domain.map fun v => (v, x.selecting v)
      x.baseErrors ++ x.gaps ms ++ x.overlaps ms ++ x.emptyClasses ms
    | errors => x.baseErrors ++ errors

end Variable

/-- The first and last positions of each maximal run of elements that satisfy `p`. -/
def runs (p : α → Bool) (as : List α) : List (Nat × Nat) :=
  as.zipIdx.foldr (fun a found =>
    if p a.1 then
      match found with
      | (first, last) :: rest =>
        if first = a.2 + 1 then (a.2, last) :: rest else (a.2, a.2) :: found
      | [] => [(a.2, a.2)]
    else found) []

def runEnds (size : Nat) (run : Nat × Nat) : List Nat :=
  (if 0 < run.1 then [run.1 - 1] else []) ++ [run.1, run.2] ++
    (if run.2 + 1 < size then [run.2 + 1] else [])

namespace Variable

def derivedBoundaries (domain : Array Scalar) (owners : List Nat) (c : Nat) : List Scalar :=
  (runs (· == c) owners).flatMap fun run =>
    (runEnds domain.size run).filterMap (domain[·]?)

/-- The table of a variable without violations. -/
def table (x : Variable) : Table :=
  let domain := x.domain.values
  let owners := domain.map fun v => (x.selecting v).headD 0
  let positions := domain.toArray
  { domain := x.domain
    owners := owners.toArray
    members := x.classes.zipIdx.map fun c =>
      ((domain.zip owners).filter (·.2 == c.2)).map (·.1)
    boundaries := x.classes.zipIdx.map fun c =>
      distinct (c.1.boundaries ++
        if c.1.autoBoundaries then derivedBoundaries positions owners c.2 else []) }

end Variable

namespace Model

def violations (m : Model) : List ModelError :=
  m.vars.flatMap Variable.violations

def validate (m : Model) : Except (List ModelError) Unit × Model :=
  match m.violations with
  | [] => (.ok (), { m with tables := some (m.vars.map Variable.table) })
  | errors => (.error errors, { m with tables := none })

end Model

end PartitionTest
