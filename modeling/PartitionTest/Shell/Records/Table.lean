import Std.Data.HashMap
import PartitionTest.Shell.Records.Value

/-! Arrays of the language. A key is a text, or a whole number where it was
given as one. Lists by hash value tell the order in which the keys are visited;
a key that is looked up moves to the front of its list. -/
namespace PartitionTest.Shell.Records

structure Table where
  cells : Std.HashMap String Value := {}
  /-- Keys by the hash of their text. -/
  byText : Array (List String) := #[]
  /-- Keys by their number. -/
  byNumber : Array (List Int) := #[]
  /-- Whether all keys are listed by their text. -/
  hasTexts : Bool := false
  /-- How many lists there are, less one. -/
  mask : Nat := 63
  /-- Keys from one up to this number that stand in no list yet. -/
  dense : Nat := 0
deriving Inhabited

namespace Table

def maxLength : Nat := 12

/-- The hash of a text: each byte is taken in and spread by a prime. -/
def hash (s : String) : Nat :=
  (s.toList.foldl (fun (h : UInt32) c => (h ^^^ UInt32.ofNat c.toNat) * 16777619) 2166136261).toNat

def slotOfText (t : Table) (key : String) : Nat := hash key % (t.mask + 1)

def slotOfNumber (t : Table) (key : Int) : Nat := (key % (t.mask + 1 : Int)).toNat

def size (t : Table) : Nat := t.cells.size

def opened (t : Table) : Table :=
  if t.byText.size = t.mask + 1 then t
  else { t with
    byText := Array.replicate (t.mask + 1) []
    byNumber := Array.replicate (t.mask + 1) [] }

def spread (t : Table) : Table :=
  if t.dense = 0 then t.opened
  else
    let grow (mask : Nat) : Nat := if (mask + 1) * maxLength < t.dense then mask * 2 + 1 else mask
    let mask := (List.range 20).foldl (fun mask _ => grow mask) t.mask
    let t := { t with mask := mask }.opened
    (List.range' 1 t.dense).foldl (fun t n =>
      { t with byNumber := t.byNumber.modify (n % (t.mask + 1)) ((n : Int) :: ·) }) { t with dense := 0 }

def withTexts (t : Table) : Table :=
  let t := t.spread
  if t.hasTexts then t
  else
    t.byNumber.foldl (fun t keys => keys.foldl (fun t n =>
      let key := toString n
      { t with byText := t.byText.modify (t.slotOfText key) (key :: ·) }) t) { t with hasTexts := true }

/-- Twice as many lists, if the keys are too many for those there are. -/
def widened (t : Table) (count : Nat) : Table :=
  if count ≤ (t.mask + 1) * maxLength then t
  else
    let old := t.mask + 1
    let t := { t with mask := t.mask * 2 + 1 }
    let texts := t.byText ++ t.byText.mapIdx fun i keys => keys.filter fun k => t.slotOfText k != i
    let numbers := t.byNumber ++ t.byNumber.mapIdx fun i keys => keys.filter fun k => t.slotOfNumber k != i
    { t with
      byText := texts.mapIdx fun i keys => if i < old then keys.filter fun k => t.slotOfText k = i else keys
      byNumber := numbers.mapIdx fun i keys =>
        if i < old then keys.filter fun k => t.slotOfNumber k = i else keys }

def toFront [BEq α] (key : α) (keys : List α) : List α := key :: keys.erase key

def touchText (t : Table) (key : String) : Table :=
  let t := t.withTexts
  if t.cells.contains key then
    { t with byText := t.byText.modify (t.slotOfText key) (toFront key) }
  else
    let t := t.widened (t.size + 1)
    { t with
      cells := t.cells.insert key .nothing
      byText := t.byText.modify (t.slotOfText key) (key :: ·) }

def touchNumber (t : Table) (key : Int) : Table :=
  if 1 ≤ key && key ≤ t.dense then t
  else
    let t := t.spread
    let isListed := ((t.byNumber[t.slotOfNumber key]?).getD []).contains key
    if isListed then { t with byNumber := t.byNumber.modify (t.slotOfNumber key) (toFront key) }
    else
      let t := if t.hasTexts then t.touchText (toString key)
        else
          let t := t.widened (t.size + 1)
          { t with cells := t.cells.insert (toString key) .nothing }
      { t with byNumber := t.byNumber.modify (t.slotOfNumber key) (key :: ·) }

def touch (t : Table) (key : String ⊕ Int) : Table :=
  match key with
  | .inl s => t.touchText s
  | .inr n => t.touchNumber n

def keyText : String ⊕ Int → String
  | .inl s => s
  | .inr n => toString n

def get (t : Table) (key : String ⊕ Int) : Value := t.cells[keyText key]?.getD .nothing

def contains (t : Table) (key : String ⊕ Int) : Bool := t.cells.contains (keyText key)

def set (t : Table) (key : String ⊕ Int) (v : Value) : Table :=
  { t with cells := t.cells.insert (keyText key) v }

def remove (t : Table) (key : String ⊕ Int) : Table :=
  let text := keyText key
  if !t.cells.contains text then t
  else
    let t := t.spread
    let cells := t.cells.erase text
    if cells.isEmpty then {}
    else { t with
      cells := cells
      byText := t.byText.modify (t.slotOfText text) (·.erase text)
      byNumber := match text.toInt? with
        | some n => t.byNumber.modify (t.slotOfNumber n) (·.erase n)
        | none => t.byNumber }

def ofList (vs : List Value) : Table where
  cells := (vs.mapIdx fun i v => (toString (i + 1), v)).foldl (fun m (k, v) => m.insert k v) {}
  dense := vs.length

/-- The keys in the order in which they are visited, and the table after that. -/
def keys (t : Table) : List String × Table :=
  if t.cells.isEmpty then ([], t)
  else
    let t := t.withTexts
    (t.byText.toList.flatten, t)

end Table

end PartitionTest.Shell.Records
