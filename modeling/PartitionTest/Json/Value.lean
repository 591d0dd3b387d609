import PartitionTest.Json.Binary64

/-! JSON values. Numbers keep the distinction the text makes: a numeral with
neither fraction nor exponent is an integer, any other is binary64. -/
namespace PartitionTest.Json

inductive Number where
  | int (n : Int)
  | float (x : Binary64)
deriving DecidableEq, Repr, Inhabited

inductive Value where
  | null
  | bool (b : Bool)
  | number (n : Number)
  | string (s : String)
  | array (items : List Value)
  | object (members : List (String × Value))
deriving Repr, Inhabited, BEq

namespace Value

def int (n : Int) : Value := .number (.int n)
def nat (n : Nat) : Value := .int n

def option (encode : α → Value) : Option α → Value
  | none => .null
  | some a => encode a

def list (encode : α → Value) (as : List α) : Value :=
  .array (as.map encode)

def optionalMember (name : String) (encode : α → Value) : Option α → List (String × Value)
  | none => []
  | some a => [(name, encode a)]

def insertMember (name : String) (v : Value) : List (String × Value) → List (String × Value)
  | [] => [(name, v)]
  | (k, w) :: rest =>
    if name < k then (name, v) :: (k, w) :: rest
    else if name = k then (name, v) :: rest
    else (k, w) :: insertMember name v rest

mutual

/-- Every object's members in name order, the last of equal names kept. -/
def sorted : Value → Value
  | .array items => .array (sortedItems items)
  | .object members => .object (sortedMembers members [])
  | v => v

def sortedItems : List Value → List Value
  | [] => []
  | v :: vs => v.sorted :: sortedItems vs

def sortedMembers : List (String × Value) → List (String × Value) → List (String × Value)
  | [], done => done
  | (k, v) :: rest, done => sortedMembers rest (insertMember k v.sorted done)

end

end Value

end PartitionTest.Json
