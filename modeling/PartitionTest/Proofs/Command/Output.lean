import PartitionTest.Command.Ending
import PartitionTest.Proofs.Normalization
import PartitionTest.Proofs.Text.Utf8

/-! What is made of the output of a command. As much is kept of it as there is
room for, however it arrives. It is compared as the text it is read as, so
exact comparison is one of bytes as far as the bytes are UTF-8. -/
namespace PartitionTest

namespace Capture

structure Reading.Holds (r : Reading) (cap : Nat) (bytes : List UInt8) : Prop where
  size : r.size = min cap bytes.length
  kept : r.chunks.reverse.flatten = bytes.take cap
  truncated : r.truncated = decide (cap < bytes.length)

theorem Reading.Holds.push {r : Reading} {cap : Nat} {bytes : List UInt8} (h : r.Holds cap bytes)
    (chunk : List UInt8) : (r.push cap chunk).Holds cap (bytes ++ chunk) := by
  have size := h.size
  have room : cap - r.size = cap - bytes.length := by omega
  refine ⟨?_, ?_, ?_⟩
  · simp only [Reading.push, List.length_take, List.length_append]
    omega
  · simp only [Reading.push, room, List.reverse_cons, List.flatten_append, List.flatten_singleton,
      h.kept, List.take_append]
  · simp only [Reading.push, h.truncated, List.length_append]
    grind

theorem Reading.holds_foldl_push {r : Reading} {cap : Nat} {bytes : List UInt8}
    (h : r.Holds cap bytes) (chunks : List (List UInt8)) :
    (chunks.foldl (Reading.push cap) r).Holds cap (bytes ++ chunks.flatten) := by
  induction chunks generalizing r bytes with
  | nil => simpa using h
  | cons chunk chunks ih => simpa using ih (h.push chunk)

/-- The chunks do not matter, only what they make up. -/
theorem holds_ofChunks (cap : Nat) (chunks : List (List UInt8)) :
    (chunks.foldl (Reading.push cap) {}).Holds cap chunks.flatten := by
  have start : ({} : Reading).Holds cap [] := ⟨by simp, by simp, by simp⟩
  exact Reading.holds_foldl_push start chunks

theorem kept_ofChunks {cap : Nat} {chunks : List (List UInt8)} (h : chunks.flatten.length ≤ cap) :
    (ofChunks cap chunks).kept = chunks.flatten :=
  (holds_ofChunks cap chunks).kept.trans (List.take_of_length_le h)

/-- What a reader with room for so many bytes at a time may get of a stream: never
nothing before the end, and never more than there is room for. -/
structure Delivers (room : Nat) (bytes : List UInt8) (chunks : List (List UInt8)) : Prop where
  whole : chunks.flatten = bytes
  nonempty : ∀ chunk ∈ chunks, chunk ≠ []
  fits : ∀ chunk ∈ chunks, chunk.length ≤ room

theorem delivers_bytewise {room : Nat} (pos : 0 < room) (bytes : List UInt8) :
    Delivers room bytes (bytes.map fun b => [b]) where
  whole := by rw [← List.flatMap_def, List.flatMap_singleton']
  nonempty := List.forall_mem_map.mpr fun b _ => List.cons_ne_nil b []
  fits := List.forall_mem_map.mpr fun _ _ => pos

/-- Of a stream read through a buffer of 8192 bytes, the first `cap` bytes are kept,
or all there are, and the capture says so just when there were more. Where one
read ends and the next begins does not show. -/
theorem ofChunks_keeps_beginning (cap : Nat) (bytes : List UInt8) :
    (∃ chunks, Delivers 8192 bytes chunks) ∧
    ∀ chunks, Delivers 8192 bytes chunks →
      (ofChunks cap chunks).kept = bytes.take (min cap bytes.length) ∧
      (ofChunks cap chunks).kept.length = min cap bytes.length ∧
      ((ofChunks cap chunks).truncated = true ↔ cap < bytes.length) ∧
      ∀ others, Delivers 8192 bytes others → ofChunks cap others = ofChunks cap chunks := by
  have captured {chunks : List (List UInt8)} (h : Delivers 8192 bytes chunks) :
      ofChunks cap chunks = ⟨bytes.take cap, decide (cap < bytes.length)⟩ := by
    have holds := holds_ofChunks cap chunks
    rw [h.whole] at holds
    rw [ofChunks, holds.kept, holds.truncated]
  refine ⟨⟨_, delivers_bytewise (by decide) bytes⟩, fun chunks h => ?_⟩
  rw [captured h]
  refine ⟨List.take_eq_take_min, List.length_take, decide_eq_true_iff, fun others ho => ?_⟩
  exact captured ho

theorem ofChunks_keeps_beginning_of_five :
    Delivers 8192 [1, 2, 3, 4, 5] [[1, 2], [3], [4, 5]] ∧
      Delivers 8192 [1, 2, 3, 4, 5] [[1, 2, 3, 4], [5]] ∧
      ofChunks 3 [[1, 2], [3], [4, 5]] = ⟨[1, 2, 3], true⟩ ∧
      ofChunks 3 [[1, 2, 3, 4], [5]] = ⟨[1, 2, 3], true⟩ :=
  have between : Delivers 8192 [1, 2, 3, 4, 5] [[1, 2], [3], [4, 5]] :=
    ⟨rfl, by decide, by decide⟩
  have inside : Delivers 8192 [1, 2, 3, 4, 5] [[1, 2, 3, 4], [5]] := ⟨rfl, by decide, by decide⟩
  have kept : ofChunks 3 [[1, 2], [3], [4, 5]] = ⟨[1, 2, 3], true⟩ := by decide
  ⟨between, inside, kept,
    (((ofChunks_keeps_beginning 3 _).2 _ between).2.2.2 _ inside).trans kept⟩

end Capture

open Text

/-- A command that ended by itself and in time, with an output that is kept. -/
structure Exited where
  command : Command
  timeout : Duration
  code : Int32
  output : List (List UInt8)
  errors : Output
  fits : output.flatten.length ≤ command.settings.maxOutputBytes

namespace Exited

def bytes (x : Exited) : List UInt8 := x.output.flatten

def observation (x : Exited) : Observation :=
  x.command.observe x.timeout (.ended (.code x.code) (some x.output) x.errors)

variable {x y : Exited}

theorem status_observation (x : Exited) : x.observation.status = .completed := rfl

theorem exitCode_observation (x : Exited) : x.observation.exitCode = some x.code := rfl

theorem output_observation (x : Exited) :
    x.observation.output = String.ofList (Utf8.decode x.bytes) := by
  rw [bytes, ← Capture.kept_ofChunks x.fits]
  rfl

def Agrees (x y : Exited) : Prop :=
  Verdict.classify x.observation y.observation .exact = .agree

theorem agrees_iff :
    x.Agrees y ↔ x.code = y.code ∧ Utf8.decode x.bytes = Utf8.decode y.bytes := by
  rw [Agrees, Verdict.classify_eq_agree_iff, Observation.Agrees, exitCode_observation,
    exitCode_observation, Option.some_inj]
  simp only [status_observation, Normalization.apply, output_observation, String.ofList_inj,
    true_and]

def printing (bytes : List UInt8) (code : Int32) : Exited where
  command := { name := "print", program := "print", args := [],
               settings := { maxOutputBytes := bytes.length } }
  timeout := .ofMillis 1000
  code := code
  output := [bytes]
  errors := some []
  fits := by simp

theorem bytes_printing (bytes : List UInt8) (code : Int32) :
    (printing bytes code).bytes = bytes :=
  List.flatten_singleton

/-- Exact comparison compares codes and the texts that the outputs are read as.
For outputs in UTF-8 that is a comparison byte for byte. An output is told
apart from all others, in UTF-8 or not, just when it is in UTF-8 and without the
replacement character. -/
theorem agrees_exactly (x : Exited) :
    (∀ y, x.Agrees y ↔ x.code = y.code ∧ Utf8.decode x.bytes = Utf8.decode y.bytes) ∧
      (∀ y s t, x.bytes = Utf8.encode s → y.bytes = Utf8.encode t →
        (x.Agrees y ↔ x.bytes = y.bytes ∧ x.code = y.code)) ∧
      ((∀ y, x.Agrees y ↔ x.bytes = y.bytes ∧ x.code = y.code) ↔
        ∃ s, Utf8.replacement ∉ s ∧ x.bytes = Utf8.encode s) := by
  refine ⟨fun y => agrees_iff, fun y s t hs ht => ?_, ?_⟩
  · rw [agrees_iff, hs, ht, Utf8.decode_encode, Utf8.decode_encode, and_comm]
    exact and_congr_left fun _ => ⟨congrArg _, fun same => by
      rw [← Utf8.decode_encode s, same, Utf8.decode_encode]⟩
  · rw [← Utf8.eq_of_decode_eq_iff]
    constructor
    · intro bytewise other same
      have agrees : x.Agrees (printing other x.code) := by
        rw [agrees_iff, bytes_printing]
        exact ⟨rfl, same⟩
      rw [← bytes_printing other x.code]
      exact ((bytewise _).mp agrees).1
    · intro apart y
      rw [agrees_iff, and_comm]
      exact and_congr_left fun _ => ⟨apart _, congrArg _⟩

/-- Two bytes that begin no character are taken for each other. -/
theorem agrees_printing_unreadable :
    ¬ ∀ x y : Exited, x.Agrees y ↔ x.bytes = y.bytes ∧ x.code = y.code := by
  intro bytewise
  have agrees : (printing [0xFF] 0).Agrees (printing [0xFE] 0) := by
    rw [agrees_iff]
    decide
  exact absurd ((bytewise _ _).mp agrees).1 (by decide)

end Exited

end PartitionTest
