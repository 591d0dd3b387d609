import PartitionTest.Document
import Std.Data.HashSet

/-! Models: variables with their classes, and the membership tables of the
state that was last found valid. -/
namespace PartitionTest

section Distinct

variable {α κ : Type} [BEq κ] [Hashable κ]

structure Sieve (κ α : Type) [BEq κ] [Hashable κ] where
  seen : Std.HashSet κ := {}
  kept : List α := []

def Sieve.push (key : α → κ) (s : Sieve κ α) (a : α) : Sieve κ α :=
  if s.seen.contains (key a) then s
  else { seen := s.seen.insert (key a), kept := a :: s.kept }

def distinctBy (key : α → κ) (as : List α) : List α :=
  (as.foldl (Sieve.push key) {}).kept.reverse

def distinct (as : List κ) : List κ :=
  distinctBy id as

def firstRepeatedBy? (key : α → κ) (as : List α) : Option α :=
  go {} as
where
  go (seen : Std.HashSet κ) : List α → Option α
    | [] => none
    | a :: as => if seen.contains (key a) then some a else go (seen.insert (key a)) as

def firstRepeated? (as : List κ) : Option κ :=
  firstRepeatedBy? id as

end Distinct

structure Class where
  name : String
  tag : Tag
  predicate : Predicate
  /-- The declared boundary points. -/
  boundaries : List Scalar
  autoBoundaries : Bool
deriving Inhabited

structure Variable where
  name : String
  domain : Domain
  base : Option Scalar
  classes : List Class
deriving Inhabited

def Variable.classIndex? (v : Variable) (name : String) : Option Nat :=
  v.classes.findIdx? (·.name == name)

structure Table where
  domain : Domain
  /-- The index of a value's class, by the position of the value. -/
  owners : Array Nat
  /-- The members of each class in domain order. -/
  members : List (List Scalar)
  /-- The boundary points of each class, declared ones first. -/
  boundaries : List (List Scalar)
deriving Inhabited

namespace Table

def classOf (t : Table) (v : Scalar) : Option Nat := do
  t.owners[← t.domain.position? v]?

def membersOf (t : Table) (c : Nat) : List Scalar := t.members[c]?.getD []
def boundariesOf (t : Table) (c : Nat) : List Scalar := t.boundaries[c]?.getD []
def classCount (t : Table) : Nat := t.members.length

end Table

/-- Larger domains are refused, since membership is decided value by value. -/
def maxDomainSize : Nat := 65536

inductive Domain.Flaw where
  | emptyRange (min max : Int64)
  | noCharacters
  | repeated (c : Char)
  | tooLarge (size : Nat)
deriving DecidableEq

def Domain.flaw? (d : Domain) : Option Domain.Flaw :=
  let tooLarge := if maxDomainSize < d.size then some (.tooLarge d.size) else none
  match d with
  | .int min max => if max < min then some (.emptyRange min max) else tooLarge
  | .char [] => some .noCharacters
  | .char values =>
    match firstRepeatedBy? Char.val values with
    | some c => some (.repeated c)
    | none => tooLarge
  | .bool => tooLarge

inductive ModelError where
  | duplicateVariable (name : String)
  | unknownVariable (name : String)
  | domain (name : String) (flaw : Domain.Flaw)
  | boundaryOutOfDomain (name : String) (value : Scalar)
  | baseOutOfDomain (name : String) (value : Scalar)
  | noClasses (name : String)
  | emptyClass (name className : String)
  | gap (name : String) (values : List Scalar)
  | overlap (name first second : String) (values : List Scalar)
  | predicate (name className : String) (source : EvalError)
  | notValidated
deriving DecidableEq

namespace ModelError

/-- The first eight values, and how many more there are. -/
def shownValues (vs : List Scalar) : String :=
  let shown := "values [" ++ String.intercalate ", " ((vs.take 8).map Scalar.text) ++ "]"
  if 8 < vs.length then shown ++ " (" ++ toString (vs.length - 8) ++ " more)" else shown

def message : ModelError → String
  | .duplicateVariable name => "Duplicate variable: '" ++ name ++ "' is already registered"
  | .unknownVariable name => "Unknown variable: '" ++ name ++ "'"
  | .domain v (.emptyRange min max) =>
    "Invalid domain for '" ++ v ++ "': empty range " ++ (Scalar.int min).text ++ "..=" ++
      (Scalar.int max).text
  | .domain v .noCharacters => "Invalid domain for '" ++ v ++ "': empty character set"
  | .domain v (.repeated c) =>
    "Invalid domain for '" ++ v ++ "': duplicate character " ++ Text.quoteChar c
  | .domain v (.tooLarge size) =>
    "Domain of '" ++ v ++ "' has " ++ toString size ++ " values (limit " ++
      toString maxDomainSize ++ ")"
  | .boundaryOutOfDomain v value =>
    "Boundary " ++ value.text ++ " of '" ++ v ++ "' is not a domain value"
  | .baseOutOfDomain v value =>
    "Base value " ++ value.text ++ " of '" ++ v ++ "' is not a domain value"
  | .noClasses v => "Variable '" ++ v ++ "' has no classes"
  | .emptyClass v c => "Class '" ++ c ++ "' of '" ++ v ++ "' matches no domain value"
  | .gap v values =>
    "Partition gap in '" ++ v ++ "': " ++ shownValues values ++ " belong to no class"
  | .overlap v first second values =>
    "Partition overlap in '" ++ v ++ "': " ++ shownValues values ++ " belong to both '" ++
      first ++ "' and '" ++ second ++ "'"
  | .predicate v c source =>
    "Predicate of class '" ++ c ++ "' on '" ++ v ++ "' failed: " ++ source.message
  | .notValidated => "Model has not been validated"

end ModelError

/-- The tables, when present, are those of the variables as they stand. -/
structure Model where
  vars : List Variable := []
  tables : Option (List Table) := none
deriving Inhabited

namespace Model

def isValidated (m : Model) : Bool := m.tables.isSome

def find? (m : Model) (name : String) : Option Variable :=
  m.vars.find? (·.name == name)

def tables? (m : Model) : Except ModelError (List Table) :=
  match m.tables with
  | some ts => .ok ts
  | none => .error .notValidated

end Model

end PartitionTest
