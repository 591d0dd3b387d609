import PartitionTest.Json.Decoder

/-! Records: objects with known members. A record is put together from its
fields like a function from its arguments; it is read from an object in any
order of members, or from an array in the order of its fields. -/
namespace PartitionTest.Json

structure Field (State : Type) where
  name : String
  isSet : State → Bool
  read : Context → Draft → State → Except DecodeError State
  /-- What an array that ends before this field leaves in it. -/
  whenShort : Option (State → State)

structure Record (α : Type) where
  State : Type
  start : State
  fields : List (Field State)
  finish : State → Except DecodeError α

def Field.left (f : Field σ) : Field (σ × τ) where
  name := f.name
  isSet s := f.isSet s.1
  read ctx d s := (f.read ctx d s.1).map fun a => (a, s.2)
  whenShort := f.whenShort.map fun g s => (g s.1, s.2)

def Field.right (f : Field τ) : Field (σ × τ) where
  name := f.name
  isSet s := f.isSet s.2
  read ctx d s := (f.read ctx d s.2).map fun b => (s.1, b)
  whenShort := f.whenShort.map fun g s => (s.1, g s.2)

namespace Record

def single (name : String) (decode : Decoder α) (short : Option α)
    (finish : Option α → Except DecodeError α) : Record α where
  State := Option α
  start := none
  fields := [{
    name := name
    isSet := Option.isSome
    read := fun ctx d _ => (decode ctx d).map some
    whenShort := short.map fun a _ => some a }]
  finish := finish

def required (name : String) (decode : Decoder α) : Record α :=
  single name decode none fun
    | some a => .ok a
    | none => .error (.missingField name)

/-- A field that may be left out of an object. -/
def optional (name : String) (decode : Decoder α) : Record (Option α) :=
  single name (Decoder.option decode) none fun
    | some a => .ok a
    | none => .ok none

def defaulted (name : String) (decode : Decoder α) (default : α) : Record α :=
  single name decode (some default) fun
    | some a => .ok a
    | none => .ok default

def map (f : α → β) (r : Record α) : Record β where
  State := r.State
  start := r.start
  fields := r.fields
  finish s := (r.finish s).map f

def apply (f : Record (α → β)) (r : Record α) : Record β where
  State := f.State × r.State
  start := (f.start, r.start)
  fields := f.fields.map Field.left ++ r.fields.map Field.right
  finish s := do
    let g ← f.finish s.1
    let a ← r.finish s.2
    return g a

instance : Functor Record where
  map := map

instance : Seq Record where
  seq f r := f.apply (r ())

/-- Members in the order of the text. Unknown ones are skipped, a known one
may not come twice. -/
def readMembers (fields : List (Field σ)) (ctx : Context) :
    List (Draft × Draft) → σ → Except DecodeError σ
  | [], s => .ok s
  | (k, d) :: ms, s => do
    let k ← k.nameOf
    match fields.find? (·.name == k) with
    | none =>
      unstopped d.skip
      readMembers fields ctx ms s
    | some f =>
      if f.isSet s then .error (.duplicateField k)
      else readMembers fields ctx ms (← f.read ctx d s)

/-- Items for the fields in order; `index` counts the ones read. What is left
over is returned with the state. -/
def readItems (expected : String) (ctx : Context) (stop : Option Fault) (index : Nat) :
    List (Field σ) → List Draft → σ → Except DecodeError (σ × List Draft)
  | [], ds, s => .ok (s, ds)
  | f :: fs, d :: ds, s => do
    readItems expected ctx stop (index + 1) fs ds (← f.read ctx d s)
  | f :: fs, [], s => do
    unstopped stop
    match f.whenShort with
    | some g => readItems expected ctx stop (index + 1) fs [] (g s)
    | none => .error (.wrongLength index expected)

def decoder (name : String) (r : Record α) : Decoder α
  | ctx, .object members stop => do
    let ctx ← ctx.enter
    let s ← readMembers r.fields ctx members r.start
    unstopped stop
    r.finish s
  | ctx, .array items stop => do
    let ctx ← ctx.enter
    let count := r.fields.length
    let (s, rest) ← readItems (name ++ " with " ++ Decoder.elements count) ctx stop 0
      r.fields items r.start
    let a ← r.finish s
    match ctx.source, rest with
    | .text, _ :: _ => .error (.fault .trailingCharacters)
    | .tree, _ :: _ => .error (.wrongLength items.length "fewer elements in array")
    | .buffer, _ :: _ =>
      .error (.wrongLength items.length (Decoder.elements count ++ " in sequence"))
    | _, [] =>
      unstopped stop
      return a
  | _, d => .error (d.mismatch name)

end Record

end PartitionTest.Json
