import PartitionTest.Shell.Records.Tokens

/-! Where the reading of a program stands, and what is known about its
variables. -/
namespace PartitionTest.Shell.Records

structure Note where
  line : Line
  text : String
  /-- Whether it is about a character that no token begins with. -/
  isStray : Bool := false
deriving Inhabited

def Note.shown (n : Note) : String :=
  if n.isStray then toString n.line.number ++ ": unexpected character " ++ n.text
  else (if n.line.file.isEmpty then "" else n.line.file ++ ": ") ++
    "line " ++ toString n.line.number ++ ": " ++ n.text

/-- A variable: of the whole program, or of a function by its position. -/
structure Holder where
  owner : Option String
  place : Place
deriving DecidableEq, Repr, Inhabited

structure Call where
  function : String
  line : Line
  arguments : List (Option Holder)
deriving Inhabited

structure Reading where
  tokens : List Located
  /-- Parentheses that are open. -/
  depth : Nat := 0
  /-- Braces that are open. -/
  braces : Nat := 0
  /-- Whether a sign of comparison or a bar would direct what is printed. -/
  printing : Bool := false
  /-- The function that is read, and its parameters. -/
  owner : Option (String × List String) := none
  loops : Nat := 0
  /-- Whether there is a record to go on from. -/
  hasRecord : Bool := false
  notes : List Note := []
  /-- What variables stand for, as far as that is known. -/
  roles : List (Holder × Role) := []
  /-- Calls that say nothing about their arguments yet, the last one first. -/
  calls : List Call := []
  /-- Functions that are there, with the number of their parameters. -/
  defined : List (String × Nat) := []
deriving Inhabited

namespace Reading

def givenRole (name : String) : Role :=
  if name == "ENVIRON" || name == "ARGV" then .array
  else if ["NR", "NF", "FNR", "FS", "OFS", "ORS", "RS", "SUBSEP", "CONVFMT", "OFMT", "RSTART", "RLENGTH",
    "FILENAME", "ARGC"].contains name then .scalar
  else .unknown

def role (r : Reading) (h : Holder) : Role :=
  match r.roles.lookup h, h.place with
  | some role, _ => role
  | none, .outer name => givenRole name
  | none, .inner _ => .unknown

def shownRole : Role → String
  | .array => "array"
  | _ => "variable"

/-- What a call tells about variables: an argument and the parameter that it
becomes stand for the same. -/
def told (r : Reading) (c : Call) : Reading :=
  (c.arguments.mapIdx fun i h => (h, Holder.mk (some c.function) (.inner i))).foldl (fun r (given, parameter) =>
    match given with
    | none => r
    | some h =>
      match r.role h, r.role parameter with
      | .unknown, .unknown => r
      | .unknown, role => { r with roles := (h, role) :: r.roles }
      | role, .unknown => { r with roles := (parameter, role) :: r.roles }
      | _, _ => r) r

/-- What is wrong with a call of a function with so many parameters. -/
def flaws (r : Reading) (c : Call) (count : Nat) : List Note :=
  if count < c.arguments.length then [{ line := c.line, text := "too many arguments in call to " ++ c.function }]
  else (c.arguments.mapIdx fun i h => (i, h)).filterMap fun (i, h) =>
    let given := match h with
      | none => Role.scalar
      | some h => r.role h
    let expected := r.role ⟨some c.function, .inner i⟩
    if given = .unknown || expected = .unknown || given = expected then none
    else some {
      line := c.line
      text := "type error in arg(" ++ toString (i + 1) ++ ") in call to " ++ c.function ++
        " (actual local " ++ shownRole given ++ " vs local " ++ shownRole expected ++ ")" }

/-- Whether nothing is left to find out about the arguments of a call. -/
def isSettled (r : Reading) (c : Call) : Bool :=
  (c.arguments.mapIdx fun i h => (i, h)).all fun (i, h) =>
    r.role ⟨some c.function, .inner i⟩ != .unknown && h.all fun h => r.role h != .unknown

def resolved : Nat → Reading → Reading
  | 0, r => r
  | n + 1, r =>
    let next := r.calls.foldl told r
    if next.roles.length = r.roles.length then r else resolved n next

end Reading

end PartitionTest.Shell.Records
