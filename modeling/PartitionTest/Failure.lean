import PartitionTest.Files
import PartitionTest.Limits
import PartitionTest.Model.Basic

/-! Failures: everything that stops a run before it has a report. What goes
wrong with a single case is a verdict and not a failure. -/
namespace PartitionTest

inductive Failure where
  /-- A partition document that is no JSON or not a partition document. -/
  | document (e : Json.DecodeError)
  | unreadable (path : String) (e : FileError)
  | model (e : ModelError)
  /-- Every violation of an invalid model. -/
  | validation (errors : List ModelError)
  | emptyCommand
  | manifest (path reason : String)
  | file (path : String) (e : FileError)
  | unknownLevel (text : String)
  | limit (e : LimitError)

namespace Failure

/-- All violations in one line, the first in front. -/
def violations : List ModelError → String
  | [] => ""
  | [e] => ": " ++ e.message
  | e :: es =>
    ": " ++ e.message ++ " (and " ++ toString es.length ++ " more: " ++
      String.intercalate "; " (es.map ModelError.message) ++ ")"

def unknownLevelText (text : String) : String :=
  "unknown log level '" ++ text ++ "'"

def documentMessage (e : Json.DecodeError) : String :=
  "JSON parse error: " ++ e.message

def unreadableMessage (path : String) (e : FileError) : String :=
  "cannot read " ++ path ++ ": " ++ e.message

def message : Failure → String
  | .document e => "Partition config error: " ++ documentMessage e
  | .unreadable path e => "Partition config error: " ++ unreadableMessage path e
  | .model e => "Partition model error: " ++ e.message
  | .validation errors => "Partition validation failed" ++ violations errors
  | .emptyCommand => "Implementation error: empty command line"
  | .manifest path reason => "Manifest error in " ++ path ++ ": " ++ reason
  | .file path e => "cannot access " ++ path ++ ": " ++ e.message
  | .unknownLevel text => "Invalid run configuration: " ++ unknownLevelText text
  | .limit e =>
    (if e.isInvalid then "Invalid run configuration: " else "Limit exceeded: ") ++ e.reason

end Failure

/-- A limit error is a failure of the run. -/
def liftLimit (r : Except LimitError α) : Except Failure α :=
  r.mapError .limit

end PartitionTest
