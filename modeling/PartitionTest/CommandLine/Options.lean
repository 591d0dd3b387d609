import PartitionTest.Command
import PartitionTest.Case.Sample
import PartitionTest.Verdict

/-! Options of the command line. Each subcommand takes named options with a
value, in any order and at most once; nothing else may follow it. -/
namespace PartitionTest.CommandLine

inductive ReportFormat where
  | table
  | json
deriving DecidableEq, Repr, Inhabited

structure CaseOptions where
  /-- The path of the partition document. -/
  config : String
  sample : Option Nat
  seed : Nat

structure OutputOptions where
  format : ReportFormat
  /-- Where the report goes instead of the standard output. -/
  output : Option String
  /-- Where the log goes; with a level alone it goes to the standard error. -/
  log : Option String
  logLevel : Option String

structure RunOptions where
  cases : CaseOptions
  reference : String
  subject : String
  timeoutMs : Nat
  workers : Nat
  input : InputMode
  normalization : Normalization
  out : OutputOptions

structure SuiteOptions where
  manifest : String
  workers : Nat
  out : OutputOptions

inductive Subcommand where
  /-- Runs two programs over the cases of a document. -/
  | run (o : RunOptions)
  /-- Shows the cases of a document. -/
  | cases (o : CaseOptions)
  /-- Runs the suites of a manifest. -/
  | suite (o : SuiteOptions)

abbrev Values := List (String × String)

def inline? (arg : String) : Option (String × String) :=
  let cs := arg.toList
  let name := cs.takeWhile (· != '=')
  match cs.drop name.length with
  | _ :: value => some (String.ofList name, String.ofList value)
  | [] => none

def isValue (arg : String) : Bool := arg == "-" || !arg.startsWith "-"

/-- The options among the arguments, if all are known and none is repeated. -/
def collect (names : List String) : List String → Values → Option Values
  | [], values => some values
  | ["--"], values => some values
  | arg :: rest, values =>
    let fresh (name : String) := names.contains name && (values.lookup name).isNone
    match inline? arg with
    | some (name, value) =>
      if fresh name then collect names rest ((name, value) :: values) else none
    | none =>
      match rest with
      | value :: rest =>
        if fresh arg && isValue value then collect names rest ((arg, value) :: values) else none
      | [] => none

/-- Digits, perhaps after a plus sign, of a number below `2 ^ 64`. -/
def number? (s : String) : Option Nat :=
  let digits := match s.toList with
    | '+' :: ds => ds
    | ds => ds
  if digits.isEmpty || !digits.all Char.isDigit then none
  else
    let n := digits.foldl (fun n c => n * 10 + (c.toNat - '0'.toNat)) 0
    if n < UInt64.size then some n else none

def path? (s : String) : Option String := if s.isEmpty then none else some s

namespace Values

def optional (vs : Values) (name : String) (read : String → Option α) : Option (Option α) :=
  match vs.lookup name with
  | none => some none
  | some s => (read s).map some

def required (vs : Values) (name : String) (read : String → Option α) : Option α :=
  (vs.lookup name).bind read

def defaulted (vs : Values) (name : String) (read : String → Option α) (default : α) :
    Option α :=
  (vs.optional name read).map fun a => a.getD default

def choice (vs : Values) (name : String) (choices : List (String × α)) (default : α) :
    Option α :=
  vs.defaulted name (fun s => choices.lookup s) default

end Values

def caseOptions (vs : Values) : Option CaseOptions := do
  return {
    config := ← vs.required "--config" path?
    sample := ← vs.optional "--sample" number?
    seed := ← vs.defaulted "--seed" number? defaultSeed }

def outputOptions (vs : Values) : Option OutputOptions := do
  return {
    format := ← vs.choice "--format" [("table", .table), ("json", .json)] .table
    output := ← vs.optional "--output" path?
    log := ← vs.optional "--log" path?
    logLevel := ← vs.optional "--log-level" some }

def runOptions (vs : Values) : Option RunOptions := do
  return {
    cases := ← caseOptions vs
    reference := ← vs.required "--reference" some
    subject := ← vs.required "--subject" some
    timeoutMs := ← vs.defaulted "--timeout" number? 1000
    workers := ← vs.defaulted "--workers" number? 1
    input := ← vs.choice "--input" [("stdin", .stdin), ("args", .args)] .stdin
    normalization := ← vs.choice "--normalize"
      [("exact", .exact), ("trim", .trim), ("collapse", .collapse)] .exact
    out := ← outputOptions vs }

def suiteOptions (vs : Values) : Option SuiteOptions := do
  return {
    manifest := ← vs.required "--manifest" path?
    workers := ← vs.defaulted "--workers" number? 1
    out := ← outputOptions vs }

def caseNames : List String := ["--config", "--sample", "--seed"]

def outputNames : List String := ["--format", "--output", "--log", "--log-level"]

/-- The subcommand that arguments ask for, if they are in order. -/
def parse : List String → Option Subcommand
  | "run" :: args => do
    let names := ["--reference", "--subject", "--timeout", "--workers", "--input", "--normalize"]
    return .run (← runOptions (← collect (caseNames ++ names ++ outputNames) args []))
  | "cases" :: args => do return .cases (← caseOptions (← collect caseNames args []))
  | "suite" :: args => do
    return .suite (← suiteOptions (← collect (["--manifest", "--workers"] ++ outputNames) args []))
  | _ => none

end PartitionTest.CommandLine
