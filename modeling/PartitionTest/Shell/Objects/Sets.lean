import PartitionTest.Shell.Objects.Value

/-! The order in which the items of a set are visited, as far as they are numbers
or tuples of numbers: that of their places in a table. -/
namespace PartitionTest.Shell.Objects.Sets

def modulus : Nat := Nat.pow 2 61 - 1

def word (n : Int) : Nat := (n % (18446744073709551616 : Int)).toNat

def powerRest : Nat → Nat → Nat → Nat → Nat
  | 0, _, _, acc => acc
  | n + 1, base, e, acc =>
    if e = 0 then acc
    else powerRest n (base * base % modulus) (e / 2) (if e % 2 = 1 then acc * base % modulus else acc)

/-- The hash value of a fraction; what cannot be divided by counts as endless. -/
def ofFraction (num : Int) (den : Nat) : Int :=
  let rest := den % modulus
  let m : Nat := if rest = 0 then 314159
    else num.natAbs % modulus * powerRest 64 rest (modulus - 2) 1 % modulus
  let h : Int := if num < 0 then -(m : Int) else m
  if h = -1 then -2 else h

def ofNumber? (n : Numbers.Num) : Option Int :=
  match n.fraction?, n with
  | some (num, den), _ => some (ofFraction num den)
  | none, .float x => if x.isNaN then none else some (if x < 0.0 then -314159 else 314159)
  | none, .decimal (.infinite s) => some (if s then -314159 else 314159)
  | none, _ => none

def turned (n : Nat) : Nat := n <<< 31 % Nat.pow 2 64 + n >>> 33

def ofTuple (hashes : List Nat) : Nat :=
  let acc := hashes.foldl (fun acc h =>
    turned ((acc + h * 14029467366897019727) % Nat.pow 2 64) * 11400714785074694791 % Nat.pow 2 64) 2870177450012600261
  let acc := (acc + Nat.xor hashes.length (Nat.xor 2870177450012600261 3527539)) % Nat.pow 2 64
  if acc = Nat.pow 2 64 - 1 then 1546275796 else acc

mutual

/-- The hash value of a value as a machine word, if it is the same in all runs. -/
def hash? : Value → Option Nat
  | .tuple items => (hashes? items).map ofTuple
  | v => (v.num?.bind ofNumber?).map word

def hashes? : List Value → Option (List Nat)
  | [] => some []
  | v :: vs => do return (← hash? v) :: (← hashes? vs)

end

abbrev Table := Array (Option (Nat × Value))

def rowLength : Nat := 9

def freePlace (t : Table) : Nat → Nat → Nat → Nat
  | 0, i, _ => i
  | n + 1, i, perturb =>
    let mask := t.size - 1
    let row := if i + rowLength ≤ mask then rowLength else 0
    match (List.range (row + 1)).find? fun k => (t[i + k]?).all Option.isNone with
    | some k => i + k
    | none =>
      let perturb := perturb / 32
      freePlace t n ((i * 5 + 1 + perturb) % t.size) perturb

def put (t : Table) (e : Nat × Value) : Table :=
  t.setIfInBounds (freePlace t (t.size * 8) (e.1 % t.size) e.1) (some e)

def sizeAbove (least : Nat) : Nat → Nat → Nat
  | 0, size => size
  | n + 1, size => if size ≤ least then sizeAbove least n (size * 2) else size

/-- Puts in a value; a table that has become too full gets larger. -/
def add (t : Table) (count : Nat) (e : Nat × Value) : Table :=
  let t := put t e
  if count * 5 < (t.size - 1) * 3 then t
  else
    let size := sizeAbove (if 50000 < count then count * 2 else count * 4) 64 8
    (t.toList.filterMap fun e => e).foldl put (Array.replicate size none)

def ordered (es : List (Nat × Value)) : List Value :=
  let (t, _) := es.foldl (fun (t, count) e => (add t (count + 1) e, count + 1))
    ((Array.replicate 8 none : Table), 0)
  t.toList.filterMap fun e => e.map (·.2)

def items (d : Dict) : List Value :=
  let vs := d.firsts
  match hashes? vs with
  | some hs => ordered (hs.zip vs)
  | none => vs

end PartitionTest.Shell.Objects.Sets
