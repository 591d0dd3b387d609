import PartitionTest.Observation
import PartitionTest.Text.Blank

/-! Verdicts: whether two implementations agree on a case, up to what a
normalization takes away, and why not. -/
namespace PartitionTest

inductive Normalization where
  /-- Every character counts. -/
  | exact
  /-- Blanks at the end of lines and of the text do not count. -/
  | trim
  /-- Blanks count as one space between words. -/
  | collapse
  | custom (f : String → String)
deriving Inhabited

namespace Normalization

def trimmed (s : List Char) : List Char :=
  Text.trimEnd (Text.join ['\n'] ((Text.lines s).map Text.trimEnd))

def collapsed (s : List Char) : List Char :=
  Text.join [' '] (Text.words s)

def apply (n : Normalization) (output : String) : String :=
  match n with
  | .exact => output
  | .trim => String.ofList (trimmed output.toList)
  | .collapse => String.ofList (collapsed output.toList)
  | .custom f => f output

def name : Normalization → String
  | .exact => "exact"
  | .trim => "trim"
  | .collapse => "collapse"
  | .custom _ => "custom"

end Normalization

inductive Side where
  | reference
  | subject
  | both
deriving DecidableEq, Repr, Inhabited

namespace Side

def name : Side → String
  | .reference => "reference"
  | .subject => "subject"
  | .both => "both"

def decoder : Json.Decoder Side :=
  .choice [("reference", .reference), ("subject", .subject), ("both", .both)]

end Side

inductive Verdict where
  | agree
  | differ
  | error (side : Side)
deriving DecidableEq, Repr, Inhabited

namespace Verdict

def label : Verdict → String
  | .agree => "MATCH"
  | .differ => "MISMATCH"
  | .error _ => "ERROR"

def isMatch (v : Verdict) : Bool := v == .agree

/-- Two completed implementations agree when their exit codes do and their
outputs do up to normalization. -/
def classify (reference subject : Observation) (n : Normalization) : Verdict :=
  match reference.isCompleted, subject.isCompleted with
  | false, false => .error .both
  | false, true => .error .reference
  | true, false => .error .subject
  | true, true =>
    if reference.exitCode = subject.exitCode ∧
        n.apply reference.output = n.apply subject.output then .agree
    else .differ

open Json

def toJson : Verdict → Value
  | .agree => .object [("outcome", .string "match")]
  | .differ => .object [("outcome", .string "mismatch")]
  | .error side => .object [("outcome", .string "error"), ("side", .string side.name)]

def decoder : Decoder Verdict :=
  .tagged "Verdict" "outcome" [
    ("match", Decoder.noFields .agree),
    ("mismatch", Decoder.noFields .differ),
    ("error", Record.decoder "struct variant Verdict::Error"
      (Verdict.error <$> Record.required "side" Side.decoder))]

end Verdict

structure Comparison where
  case : Case
  verdict : Verdict
  reference : Observation
  subject : Observation
deriving DecidableEq, Inhabited

namespace Comparison

def codeText : Option Int32 → String
  | none => "none"
  | some c => String.ofList (Json.intChars c.toInt)

/-- Why the implementations do not agree, if so: what differs, or how the side
that did not complete ended. -/
def reason (c : Comparison) : Option String :=
  match c.verdict with
  | .agree => none
  | .differ =>
    if c.reference.exitCode ≠ c.subject.exitCode then
      some ("exit code " ++ codeText c.reference.exitCode ++ " vs " ++
        codeText c.subject.exitCode)
    else
      some ("output " ++ Text.quote c.reference.output ++ " vs " ++ Text.quote c.subject.output)
  | .error .reference => some ("reference " ++ c.reference.ending)
  | .error .subject => some ("subject " ++ c.subject.ending)
  | .error .both =>
    some ("reference " ++ c.reference.ending ++ ", subject " ++ c.subject.ending)

open Json

def toJson (c : Comparison) : Value :=
  .object [("case", c.case.toJson), ("verdict", c.verdict.toJson),
    ("reference", c.reference.toJson), ("subject", c.subject.toJson)]

def decoder : Decoder Comparison :=
  Record.decoder "struct CaseVerdict"
    (Comparison.mk <$> Record.required "case" Case.decoder <*>
      Record.required "verdict" Verdict.decoder <*>
      Record.required "reference" Observation.decoder <*>
      Record.required "subject" Observation.decoder)

end Comparison

end PartitionTest
