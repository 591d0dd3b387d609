import PartitionTest.Case

/-! Observations: what one implementation did with one case. -/
namespace PartitionTest

structure Duration where
  nanoseconds : Nat
deriving DecidableEq, Repr, Inhabited

namespace Duration

def ofMillis (n : Nat) : Duration := ⟨n * 1000000⟩
def ofMicros (n : Nat) : Duration := ⟨n * 1000⟩
def ofSeconds (n : Nat) : Duration := ⟨n * 1000000000⟩

def millis (d : Duration) : Nat := d.nanoseconds / 1000000

/-- Whole milliseconds, at most what 64 bits hold. -/
def cappedMillis (d : Duration) : Nat := Nat.min d.millis (UInt64.size - 1)

end Duration

inductive Status where
  | completed
  | crashed
  | timedOut
deriving DecidableEq, Repr, Inhabited

namespace Status

def name : Status → String
  | .completed => "completed"
  | .crashed => "crashed"
  | .timedOut => "timed_out"

def decoder : Json.Decoder Status :=
  .choice [("completed", .completed), ("crashed", .crashed), ("timed_out", .timedOut)]

end Status

structure Observation where
  status : Status
  /-- What was printed or returned; nothing unless completed. -/
  output : String
  /-- Processes that exit have one. -/
  exitCode : Option Int32
  /-- Why it failed, or a note on what it printed. -/
  detail : Option String
  durationMs : Nat
deriving DecidableEq, Inhabited

namespace Observation

def completed (output : String) (exitCode : Option Int32) (elapsed : Duration) : Observation :=
  ⟨.completed, output, exitCode, none, elapsed.cappedMillis⟩

def crashed (detail : String) (elapsed : Duration) : Observation :=
  ⟨.crashed, "", none, some detail, elapsed.cappedMillis⟩

def timedOut (timeout elapsed : Duration) : Observation :=
  ⟨.timedOut, "", none, some ("exceeded " ++ toString timeout.millis ++ " ms"),
    elapsed.cappedMillis⟩

def withDetail (o : Observation) (detail : Option String) : Observation :=
  { o with detail := detail }

def isCompleted (o : Observation) : Bool := o.status == .completed

def ending (o : Observation) : String :=
  match o.detail with
  | some detail => o.status.name ++ " (" ++ detail ++ ")"
  | none => o.status.name

open Json

def toJson (o : Observation) : Value :=
  .object [("status", .string o.status.name), ("output", .string o.output),
    ("exit_code", .option (fun c => .int c.toInt) o.exitCode),
    ("detail", .option .string o.detail), ("duration_ms", .nat o.durationMs)]

def decoder : Decoder Observation :=
  Record.decoder "struct ExecutionResult"
    (Observation.mk <$> Record.required "status" Status.decoder <*>
      Record.required "output" Decoder.string <*>
      Record.optional "exit_code" Decoder.int32 <*>
      Record.optional "detail" Decoder.string <*>
      Record.required "duration_ms" Decoder.quantity)

end Observation

end PartitionTest
