import PartitionTest.CommandLine.Options
import PartitionTest.Manifest.Suite

/-! The command line: what is printed, what is written, and the exit code. It
is 0 when all programs agree, 1 when some do not, and 2 when no report comes
about. -/
namespace PartitionTest.CommandLine

variable {World : Type}

inductive Panic where
  | width
  | print (stream : String) (e : FileError)

def Panic.message : Panic → String
  | .width => "Formatting argument out of range"
  | .print stream e => "failed printing to " ++ stream ++ ": " ++ e.message

/-- Why work ends early. A panic has been told by then, a failure has not. -/
inductive Stop where
  | failure (e : Failure)
  | panic

abbrev Work (World : Type) := ExceptT Stop (StateM World)

namespace Work

def check : Except Failure α → Work World α
  | .ok a => return a
  | .error e => throw (.failure e)

def fromFiles (host : Host World) (f : FileView → Except Failure α) : Work World α := do
  check (f (host.files (← get)))

/-- Whether anybody can read why makes no difference. -/
def abort (host : Host World) (p : Panic) : Work World α := do
  let _ ← (host.put .stderr (p.message ++ "\n") : StateM World _)
  throw .panic

def print (host : Host World) (text : String) : Work World Unit := do
  match ← (host.put .stdout text : StateM World _) with
  | .ok () => return ()
  | .error e => abort host (.print "stdout" e)

def writeFile (host : Host World) (path text : String) : Work World Unit := do
  match ← (host.write path text : StateM World _) with
  | .ok () => return ()
  | .error e => throw (.failure (.file path e))

def andLast (x : Work World α) (last : StateM World Unit) : Work World α :=
  ExceptT.mk do
    let result ← x.run
    last
    return result

end Work

open Work

def chosenLevel (o : OutputOptions) : Except Failure (Option LogLevel) :=
  match o.logLevel with
  | none => .ok none
  | some text =>
    match LogLevel.ofName? text with
    | some level => .ok (some level)
    | none => .error (.unknownLevel text)

def openNew (host : Host World) (o : OutputOptions) (new : Log) :
    Work World (Option (Journal World)) :=
  match o.log with
  | some path => do
    match ← (host.create path : StateM World _) with
    | .ok d => return some ⟨new, host.blocks d, ""⟩
    | .error e => throw (.failure (.file path e))
  | none => return o.logLevel.map fun _ => ⟨new, host.direct .stderr, ""⟩

/-- A log goes to its file, or to the standard error when only a level is given.
The level is looked at before the file. -/
def openLog (host : Host World) (o : OutputOptions) (runId clock : String) :
    Work World (Option (Journal World)) := do
  let level ← check (chosenLevel o)
  openNew host o { runId := runId, minLevel := level.getD .info, clock := clock }

/-- Whatever is held back at last is written, or lost. -/
def closeLog (log : Option (Journal World)) : StateM World Unit := do
  let _ ← log.mapM (·.flush)

def layOut (host : Host World) : Option String → Work World String
  | some text => return text
  | none => abort host .width

def ended (text : String) : String := if text.endsWith "\n" then text else text ++ "\n"

def writeOutput (host : Host World) (o : OutputOptions) (text : String) : Work World Unit :=
  match o.output with
  | some path => writeFile host path text
  | none => print host (ended text)

def deliver (host : Host World) (o : OutputOptions) (text : Option String) (status : RunStatus) :
    Work World RunStatus := do
  writeOutput host o (← layOut host text)
  return status

def ReportFormat.report (f : ReportFormat) (r : Report) : Option String :=
  match f with
  | .table => r.table
  | .json => some r.toJson.pretty

def ReportFormat.suites (f : ReportFormat) (rs : List SuiteReport) : Option String :=
  match f with
  | .table => SuiteReport.tables rs
  | .json => some (Json.Value.list SuiteReport.toJson rs).pretty

def sampling (o : CaseOptions) : Option Sampling :=
  o.sample.map fun count => ⟨o.seed, count⟩

def buildCases (host : Host World) (o : CaseOptions) : Work World (List Case) :=
  fromFiles host fun files => do
    let m ← Model.load files o.config {}
    m.buildCases (sampling o) {}

def logged (run : StateM World (Except Failure α × Option (Journal World)))
    (next : α → Work World β) : Work World β := do
  let (result, log) ← (run : StateM World _)
  (check result >>= next).andLast (closeLog log)

def RunOptions.trial (o : RunOptions) (host : Host World) (reference subject : Command) :
    Trial World where
  reference := host.implementation { reference with settings := { input := o.input } }
  subject := host.implementation { subject with settings := { input := o.input } }
  config := {
    timeout := .ofMillis o.timeoutMs
    workers := o.workers
    normalization := o.normalization }

def prepareRun (host : Host World) (clock : String) (o : RunOptions) :
    Work World (Trial World × List Case × Option (Journal World)) := do
  let cases ← buildCases host o.cases
  let reference ← check (Command.ofLine o.reference)
  let subject ← check (Command.ofLine o.subject)
  let log ← openLog host o.out "run" clock
  return (o.trial host reference subject, cases, log)

def run (host : Host World) (clock : String) (o : RunOptions) : Work World RunStatus := do
  let (trial, cases, log) ← prepareRun host clock o
  logged (trial.run cases log) fun report =>
    deliver host o.out (o.out.format.report report) report.status

def cases (host : Host World) (o : CaseOptions) : Work World RunStatus := do
  let cases ← buildCases host o
  print host ((Json.Value.list Case.toJson cases).pretty ++ "\n")
  return .pass

def suite (host : Host World) (clock : String) (o : SuiteOptions) : Work World RunStatus := do
  let log ← openLog host o.out "suite" clock
  logged (Manifest.run host o.manifest { workers := o.workers } log) fun reports =>
    deliver host o.out (o.out.format.suites reports) (SuiteReport.overall reports)

def carryOut (host : Host World) (clock : String) : Subcommand → Work World RunStatus
  | .run o => run host clock o
  | .cases o => cases host o
  | .suite o => suite host clock o

def exitCode : RunStatus → Nat
  | .pass => 0
  | .fail => 1

def panicCode : Nat := 101

def errorText (e : Failure) : String := "error: " ++ e.message ++ "\n"

/-- Carries out a command, and comes to the exit code. A failure is told on the
standard error. -/
def execute (host : Host World) (clock : String) (command : Subcommand) : StateM World Nat := do
  match ← (carryOut host clock command).run with
  | .ok status => return exitCode status
  | .error .panic => return panicCode
  | .error (.failure e) =>
    match ← host.put .stderr (errorText e) with
    | .ok () => return 2
    | .error refused =>
      let _ ← host.put .stderr ((Panic.print "stderr" refused).message ++ "\n")
      return panicCode

end PartitionTest.CommandLine
