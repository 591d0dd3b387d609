import PartitionTest.Json.Record

/-! The log of a run: one JSON object a line. Lines below the log's level are
left out; those without a trace of their own are numbered in the order written. -/
namespace PartitionTest

inductive LogLevel where
  | trace
  | debug
  | info
  | warn
  | error
deriving DecidableEq, Repr, Inhabited

namespace LogLevel

def name : LogLevel → String
  | .trace => "trace"
  | .debug => "debug"
  | .info => "info"
  | .warn => "warn"
  | .error => "error"

def all : List LogLevel := [.trace, .debug, .info, .warn, .error]

def severity : LogLevel → Nat
  | .trace => 0
  | .debug => 1
  | .info => 2
  | .warn => 3
  | .error => 4

def atLeast (l min : LogLevel) : Bool := min.severity ≤ l.severity

def ofName? (name : String) : Option LogLevel :=
  all.find? (·.name == name)

def decoder : Json.Decoder LogLevel :=
  .choice (all.map fun l => (l.name, l))

end LogLevel

structure LogEntry where
  timestamp : String := ""
  trace : String := ""
  level : LogLevel
  event : String
  suite : Option String := none
  caseId : Option Nat := none
  inputs : Option String := none
  verdict : Option String := none
  durationMs : Option Nat := none
  details : Option Json.Value := none
deriving Inhabited

namespace LogEntry

open Json

/-- Members of details are written in name order. -/
def toJson (e : LogEntry) : Value :=
  .object ([("timestamp", .string e.timestamp), ("trace_id", .string e.trace),
      ("level", .string e.level.name), ("event", .string e.event)] ++
    Value.optionalMember "suite" .string e.suite ++
    Value.optionalMember "case_id" .nat e.caseId ++
    Value.optionalMember "inputs" .string e.inputs ++
    Value.optionalMember "verdict" .string e.verdict ++
    Value.optionalMember "duration_ms" .nat e.durationMs ++
    Value.optionalMember "details" Value.sorted e.details)

def decoder : Decoder LogEntry :=
  Record.decoder "struct LogEntry"
    (LogEntry.mk <$> Record.required "timestamp" Decoder.string <*>
      Record.required "trace_id" Decoder.string <*>
      Record.required "level" LogLevel.decoder <*>
      Record.required "event" Decoder.string <*>
      Record.optional "suite" Decoder.string <*>
      Record.optional "case_id" Decoder.size <*>
      Record.optional "inputs" Decoder.string <*>
      Record.optional "verdict" Decoder.string <*>
      Record.optional "duration_ms" Decoder.quantity <*>
      Record.optional "details" Decoder.value)

def line (e : LogEntry) : String := e.toJson.compact

end LogEntry

structure Log where
  runId : String
  minLevel : LogLevel := .info
  /-- The time of new entries. -/
  clock : String := ""
  /-- How many entries have been numbered. A counter of 64 bits would do. -/
  numbered : Nat := 0
  /-- The lines written, last first. -/
  written : List String := []
deriving Inhabited

namespace Log

def enabled (l : Log) (level : LogLevel) : Bool := level.atLeast l.minLevel

/-- At least three digits. -/
def paddedNumber (n : Nat) : String :=
  let digits := Nat.toDigits 10 n
  String.ofList (List.replicate (3 - digits.length) '0' ++ digits)

def traceId (l : Log) (n : Nat) : String := l.runId ++ "::" ++ paddedNumber n

/-- Writes an entry of sufficient level, numbered if it has no trace. -/
def emit (l : Log) (e : LogEntry) : Log :=
  if !l.enabled e.level then l
  else
    if e.trace.isEmpty then
      let n := l.numbered + 1
      { l with numbered := n, written := { e with trace := l.traceId n }.line :: l.written }
    else { l with written := e.line :: l.written }

def note (l : Log) (e : LogEntry) : Log := l.emit { e with timestamp := l.clock }

def lines (l : Log) : List String := l.written.reverse

def text (l : Log) : String :=
  String.join (l.lines.map fun line => line ++ "\n")

end Log

end PartitionTest
