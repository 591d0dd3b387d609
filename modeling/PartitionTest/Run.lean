import PartitionTest.Failure
import PartitionTest.Log.Journal
import PartitionTest.Report

/-! Runs: every case given to both implementations, compared and reported. An
implementation may act on the world it runs in, of any type; that a run has no
other effects shows in the type. -/
namespace PartitionTest

/-- Something that turns a case into an observation within a time limit. -/
structure Implementation (World : Type) where
  name : String
  execute : Case → Duration → StateM World Observation

inductive Call where
  | returns (output : String)
  /-- With a message, if it carries one. -/
  | panics (message : Option String)
  /-- There is no answer in time. -/
  | hangs
deriving Repr, Inhabited

namespace Implementation

def observe (call : Call) (timeout : Duration) : Observation :=
  match call with
  | .returns output => .completed output none ⟨0⟩
  | .panics message =>
    .crashed ("panicked: " ++ message.getD "non-string panic payload") ⟨0⟩
  | .hangs => .timedOut timeout ⟨0⟩

def ofFunction (name : String) (f : Case → Call) : Implementation World where
  name := name
  execute c timeout := pure (observe (f c) timeout)

end Implementation

structure RunConfig where
  timeout : Duration := .ofMillis 1000
  workers : Nat := 1
  normalization : Normalization := .exact
  limits : Limits := {}
deriving Inhabited

/-- Two implementations to be compared, and how. -/
structure Trial (World : Type) where
  reference : Implementation World
  subject : Implementation World
  config : RunConfig

namespace Trial

variable {World : Type}

def checkLimits (t : Trial World) (cases : List Case) : Except LimitError Unit := do
  t.config.limits.checkWorkers t.config.workers
  t.config.limits.checkTimeout t.config.timeout
  t.config.limits.checkCases cases.length

def compare (t : Trial World) (c : Case) : StateM World Comparison := do
  let reference ← t.reference.execute c t.config.timeout
  let subject ← t.subject.execute c t.config.timeout
  return ⟨c, Verdict.classify reference subject t.config.normalization, reference, subject⟩

def header (t : Trial World) : RunHeader where
  reference := t.reference.name
  subject := t.subject.name
  timeoutMs := t.config.timeout.millis
  workers := t.config.workers
  normalization := t.config.normalization.name

open Json (Value)

def startEntry (t : Trial World) (count : Nat) : LogEntry where
  level := .info
  event := "run_start"
  details := some (.object [
    ("reference", .string t.reference.name),
    ("subject", .string t.subject.name),
    ("cases", .nat count),
    ("workers", .nat t.config.workers),
    ("timeout_ms", .nat t.config.timeout.millis),
    ("normalization", .string t.config.normalization.name)])

def caseEntry (c : Comparison) : LogEntry where
  level := match c.verdict with
    | .agree => .debug
    | _ => .warn
  event := match c.verdict with
    | .agree => "case_verdict"
    | .differ => "case_mismatch"
    | .error _ => "case_error"
  caseId := some c.case.id
  inputs := some c.case.label
  verdict := some c.verdict.label
  durationMs := some (c.reference.durationMs + c.subject.durationMs)
  details := c.reason.map fun reason => .object [("reason", .string reason)]

def completeEntry (r : Report) : LogEntry where
  level := .info
  event := "run_complete"
  verdict := some r.status.label
  durationMs := some 0
  details := some (.object [
    ("total", .nat r.total),
    ("matched", .nat r.matched),
    ("mismatched", .nat r.mismatched),
    ("errored", .nat r.errored)])

def note (log : Option (Journal World)) (e : LogEntry) : StateM World (Option (Journal World)) :=
  log.mapM (·.note e)

def visit (t : Trial World) (log : Option (Journal World)) :
    List Case → StateM World (List Comparison × Option (Journal World))
  | [] => return ([], log)
  | c :: cs => do
    let comparison ← t.compare c
    let log ← note log (caseEntry comparison)
    let (rest, log) ← t.visit log cs
    return (comparison :: rest, log)

def complete (log : Option (Journal World)) (r : Report) :
    StateM World (Option (Journal World)) := do
  let log ← note log (completeEntry r)
  log.mapM (·.flush)

/-- Compares on every case, given in the order in which they are visited.
Nothing is executed when a limit is exceeded. -/
def run (t : Trial World) (cases : List Case) (log : Option (Journal World)) :
    StateM World (Except Failure Report × Option (Journal World)) := do
  match t.checkLimits cases with
  | .error e => return (.error (.limit e), log)
  | .ok () =>
    let log ← note log (t.startEntry cases.length)
    let (comparisons, log) ← t.visit log cases
    let report := Report.of t.header comparisons
    return (.ok report, ← complete log report)

end Trial

end PartitionTest
