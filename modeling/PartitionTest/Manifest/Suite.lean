import PartitionTest.Case.Sample
import PartitionTest.Command.Ending
import PartitionTest.Manifest
import PartitionTest.Report.Suite

/-! Running the suites of a manifest. All of them are prepared before the
first one runs, so a faulty suite keeps every program from being started. -/
namespace PartitionTest

variable {World : Type}

structure PreparedSuite (World : Type) where
  name : String
  cases : List Case
  trial : Trial World
  referenceFragment : Option String
  subjectFragment : Option String

namespace SuiteEntry

def fragment (files : FileView) (base : String) : Option String → Except Failure (Option String)
  | none => .ok none
  | some source => do
    let path := Path.join base source
    let text ← (files.text path).mapError (.file path)
    return Fragment.extract? text

def runConfig (s : SuiteEntry) (config : RunConfig) : RunConfig :=
  match s.timeoutMs with
  | some ms => { config with timeout := .ofMillis ms }
  | none => config

def sampling (s : SuiteEntry) : Option Sampling :=
  s.sample.map fun count => ⟨s.seed.getD defaultSeed, count⟩

/-- Loads and checks a suite; nothing is started. -/
def prepare (host : Host World) (files : FileView) (base : String) (config : RunConfig)
    (s : SuiteEntry) : Except Failure (PreparedSuite World) := do
  let m ← Model.load files (Path.join base s.document) config.limits
  let cases ← m.buildCases s.sampling config.limits
  let config := s.runConfig config
  liftLimit (config.limits.checkWorkers config.workers)
  liftLimit (config.limits.checkTimeout config.timeout)
  let reference := s.reference.command base (s.name ++ "/reference")
  let subject := s.subject.command base (s.name ++ "/subject")
  return {
    name := s.name
    cases := cases
    trial := ⟨host.implementation reference, host.implementation subject, config⟩
    referenceFragment := ← fragment files base s.reference.source
    subjectFragment := ← fragment files base s.subject.source }

end SuiteEntry

namespace PreparedSuite

def startEntry (s : PreparedSuite World) : LogEntry where
  level := .info
  event := "suite_start"
  suite := some s.name

def reportOn (s : PreparedSuite World) (report : Report) : SuiteReport :=
  ⟨s.name, s.referenceFragment, s.subjectFragment, report⟩

def runAll : List (PreparedSuite World) → Option (Journal World) →
    StateM World (Except Failure (List SuiteReport) × Option (Journal World))
  | [], log => return (.ok [], log)
  | s :: rest, log => do
    let log ← Trial.note log s.startEntry
    match ← s.trial.run s.cases log with
    | (.error e, log) => return (.error e, log)
    | (.ok report, log) =>
      let (reports, log) ← runAll rest log
      return (reports.map (s.reportOn report :: ·), log)

end PreparedSuite

namespace Manifest

def prepare (m : Manifest) (host : Host World) (files : FileView) (base : String)
    (config : RunConfig) : Except Failure (List (PreparedSuite World)) :=
  m.suites.mapM (SuiteEntry.prepare host files base config)

/-- Loads a manifest and runs its suites in order. -/
def run (host : Host World) (path : String) (config : RunConfig) (log : Option (Journal World)) :
    StateM World (Except Failure (List SuiteReport) × Option (Journal World)) := do
  let files := host.files (← get)
  let prepared := do
    let m ← load files path
    m.prepare host files (baseOf path) config
  match prepared with
  | .error e => return (.error e, log)
  | .ok suites => PreparedSuite.runAll suites log

end Manifest

end PartitionTest
