import PartitionTest.Observation

/-! Limits on the size of a run, checked before anything is executed. -/
namespace PartitionTest

structure Limits where
  maxWorkers : Nat := 64
  maxTimeoutMs : Nat := 600000
  /-- Samples included. -/
  maxCases : Nat := 1000000
  /-- The size of a partition document. -/
  maxDocumentBytes : Nat := 16777216
deriving DecidableEq, Inhabited

/-- What a run exceeds or lacks. -/
inductive LimitError where
  | noWorkers
  | noTimeout
  | workers (count max : Nat)
  | timeout (ms max : Nat)
  | cases (count max : Nat)
  | documentBytes (bytes max : Nat)
deriving DecidableEq, Repr

namespace LimitError

def isInvalid : LimitError → Bool
  | .noWorkers | .noTimeout => true
  | _ => false

def reason : LimitError → String
  | .noWorkers => "worker count must be at least 1"
  | .noTimeout => "timeout must be at least 1 ms"
  | .workers n max => toString n ++ " workers (max " ++ toString max ++ ")"
  | .timeout ms max => "timeout " ++ toString ms ++ " ms (max " ++ toString max ++ " ms)"
  | .cases n max => toString n ++ " cases (max " ++ toString max ++ ")"
  | .documentBytes n max =>
    "partition config is " ++ toString n ++ " bytes (max " ++ toString max ++ ")"

end LimitError

namespace Limits

def checkWorkers (l : Limits) (workers : Nat) : Except LimitError Unit :=
  if workers = 0 then .error .noWorkers
  else if l.maxWorkers < workers then .error (.workers workers l.maxWorkers)
  else .ok ()

/-- A timeout below one millisecond is allowed as long as it is not zero. -/
def checkTimeout (l : Limits) (timeout : Duration) : Except LimitError Unit :=
  if timeout.nanoseconds = 0 then .error .noTimeout
  else if l.maxTimeoutMs < timeout.millis then .error (.timeout timeout.millis l.maxTimeoutMs)
  else .ok ()

def checkCases (l : Limits) (count : Nat) : Except LimitError Unit :=
  if l.maxCases < count then .error (.cases count l.maxCases) else .ok ()

def checkDocumentSize (l : Limits) (bytes : Nat) : Except LimitError Unit :=
  if l.maxDocumentBytes < bytes then .error (.documentBytes bytes l.maxDocumentBytes)
  else .ok ()

open Json

def toJson (l : Limits) : Value :=
  .object [("max_workers", .nat l.maxWorkers), ("max_timeout_ms", .nat l.maxTimeoutMs),
    ("max_cases", .nat l.maxCases), ("max_config_bytes", .nat l.maxDocumentBytes)]

def decoder : Decoder Limits :=
  Record.decoder "struct RunLimits"
    (Limits.mk <$> Record.required "max_workers" Decoder.size <*>
      Record.required "max_timeout_ms" Decoder.quantity <*>
      Record.required "max_cases" Decoder.size <*>
      Record.required "max_config_bytes" Decoder.quantity)

end Limits

end PartitionTest
