import PartitionTest.Report

/-! Suite reports: a report with a name and the fragments that decide, which are
the parts of source texts between two lines that carry markers. -/
namespace PartitionTest

namespace Fragment

def startMarker : String := "Start Semantic Matching"
def endMarker : String := "End Semantic Matching"

def occursIn (pattern : List Char) : List Char → Bool
  | [] => pattern.isEmpty
  | c :: cs => pattern.isPrefixOf (c :: cs) || occursIn pattern cs

/-- What stands strictly between the first element that satisfies `start` and
the first one after it that satisfies `stop`. -/
def between? (start stop : α → Bool) (as : List α) : Option (List α) :=
  match as.dropWhile fun a => !start a with
  | [] => none
  | _ :: rest =>
    if rest.any stop then some (rest.takeWhile fun a => !stop a) else none

/-- The lines between the markers, each ended by a line feed. -/
def extract? (source : String) : Option String :=
  (between? (occursIn startMarker.toList) (occursIn endMarker.toList)
    (Text.lines source.toList)).map fun lines =>
      String.ofList (lines.flatMap fun line => line ++ ['\n'])

end Fragment

structure SuiteReport where
  name : String
  referenceFragment : Option String
  subjectFragment : Option String
  report : Report
deriving DecidableEq, Inhabited

namespace SuiteReport

def fragmentText (role : String) : Option String → String
  | none => ""
  | some text =>
    "-- " ++ role ++ " fragment --\n" ++ text ++ (if text.endsWith "\n" then "" else "\n")

def table (s : SuiteReport) : Option String := do
  let table ← s.report.table
  return "== " ++ s.name ++ " ==\n" ++ fragmentText "reference" s.referenceFragment ++
    fragmentText "subject" s.subjectFragment ++ table

def tables (suites : List SuiteReport) : Option String :=
  (suites.mapM table).map (String.intercalate "\n")

open Json

def toJson (s : SuiteReport) : Value :=
  .object ([("name", .string s.name)] ++
    Value.optionalMember "reference_fragment" .string s.referenceFragment ++
    Value.optionalMember "subject_fragment" .string s.subjectFragment ++
    [("report", s.report.toJson)])

def decoder : Decoder SuiteReport :=
  Record.decoder "struct SuiteReport"
    (SuiteReport.mk <$> Record.required "name" Decoder.string <*>
      Record.optional "reference_fragment" Decoder.string <*>
      Record.optional "subject_fragment" Decoder.string <*>
      Record.required "report" Report.decoder)

def overall (suites : List SuiteReport) : RunStatus :=
  if suites.all (·.report.passed) then .pass else .fail

end SuiteReport

end PartitionTest
