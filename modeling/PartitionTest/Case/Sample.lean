import PartitionTest.Case.ChaCha
import PartitionTest.Case.Plan
import PartitionTest.Failure
import PartitionTest.Model.Edit

/-! Samples: whole tuples drawn at random, added after the planned cases. Of
the source of randomness only this is used: asked for an index below `k`, which
is positive, it gives one. -/
namespace PartitionTest

/-- A source of indices. Its type promises that each is in range and that it
is never asked to choose among nothing. -/
structure IndexSource where
  State : Type
  draw : (k : Nat) → 0 < k → State → Fin k × State

namespace ChaCha

def zone (k : Nat) : Nat :=
  k <<< (63 - Nat.log2 k) - 1

/-- The high half of a product with a random word, redrawn while the low half
lies outside the zone. A draw lies inside at least every other time. -/
def index (k : Nat) (positive : 0 < k) : Nat → Stream → Fin k × Stream
  | 0, s => (⟨0, positive⟩, s)
  | tries + 1, s =>
    let (w, s) := s.next
    let product := w.toNat * k
    if product % UInt64.size ≤ zone k then
      (⟨product / UInt64.size, by
        have h : w.toNat < UInt64.size := w.toNat_lt
        exact Nat.div_lt_of_lt_mul (Nat.mul_lt_mul_of_pos_right h positive)⟩, s)
    else index k positive tries s

/-- Draws are refused less than every other time, so that all of these are is out of
the question; only then is the index 0 by default. -/
def maxTries : Nat := 4096

def source : IndexSource :=
  { State := Stream, draw := fun k h s => index k h maxTries s }

end ChaCha

structure Sampling where
  seed : Nat
  count : Nat
deriving DecidableEq, Repr, Inhabited

def defaultSeed : Nat := 42

namespace Plan

def drawTuple (source : IndexSource) :
    List (Array Scalar) → source.State → List Scalar × source.State
  | [], s => ([], s)
  | domain :: rest, s =>
    if h : 0 < domain.size then
      let (i, s) := source.draw domain.size h s
      let (vs, s) := drawTuple source rest s
      (domain[i] :: vs, s)
    else drawTuple source rest s

def drawTuples (source : IndexSource) (domains : List (Array Scalar)) (n : Nat)
    (s : source.State) : List (List Scalar) :=
  (go n s []).reverse
where
  go : Nat → source.State → List (List Scalar) → List (List Scalar)
    | 0, _, drawn => drawn
    | n + 1, s, drawn =>
      let (t, s) := drawTuple source domains s
      go n s (t :: drawn)

/-- The planned cases, then the tuples drawn that are not among those before
them. Numbers go on from the planned cases. -/
def sampledCases (p : Plan) (source : IndexSource) (start : source.State) (count : Nat) :
    List Case :=
  let planned := p.cases
  let domains := p.axes.map fun a => a.subject.domain.values.toArray
  let drawn := drawTuples source domains count start
  let fresh := (distinct (planned.map Case.values ++ drawn)).drop planned.length
  planned ++ fresh.zipIdx.map fun (values, i) =>
    p.makeCase (planned.length + i) none .sampled values

def generate (p : Plan) : Option Sampling → List Case
  | none => p.cases
  | some s => p.sampledCases ChaCha.source (ChaCha.Stream.ofSeed s.seed) s.count

end Plan

def Document.load (files : FileView) (path : String) : Except Failure Document := do
  let text ← (files.text path).mapError (.unreadable path)
  (Document.parse text).mapError .document

def Document.validModel (d : Document) : Except Failure Model := do
  let m ← (Model.ofDocument d).mapError .model
  match m.validate with
  | (.ok (), m) => return m
  | (.error errors, _) => throw (.validation errors)

def Model.load (files : FileView) (path : String) (limits : Limits) : Except Failure Model := do
  let size ← (files.size path).mapError (.file path)
  liftLimit (limits.checkDocumentSize size)
  let d ← Document.load files path
  d.validModel

def Model.buildCases (m : Model) (sampling : Option Sampling) (limits : Limits) :
    Except Failure (List Case) := do
  let plan ← (Plan.ofModel m).mapError .model
  match sampling with
  | some s => liftLimit (limits.checkCases s.count)
  | none => pure ()
  let cases := plan.generate sampling
  liftLimit (limits.checkCases cases.length)
  return cases

end PartitionTest
