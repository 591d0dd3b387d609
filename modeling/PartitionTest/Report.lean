import PartitionTest.Verdict

/-! Reports: the comparisons of one run in the order of their cases, counted,
with the failures laid out as a table. -/
namespace PartitionTest

inductive RunStatus where
  | pass
  | fail
deriving DecidableEq, Repr, Inhabited

namespace RunStatus

def label : RunStatus → String
  | .pass => "PASS"
  | .fail => "FAIL"

def name : RunStatus → String
  | .pass => "pass"
  | .fail => "fail"

def decoder : Json.Decoder RunStatus :=
  .choice [("pass", .pass), ("fail", .fail)]

end RunStatus

structure Report where
  status : RunStatus
  reference : String
  subject : String
  total : Nat
  matched : Nat
  mismatched : Nat
  errored : Nat
  timeoutMs : Nat
  workers : Nat
  normalization : String
  comparisons : List Comparison
deriving DecidableEq, Inhabited

structure RunHeader where
  reference : String
  subject : String
  timeoutMs : Nat
  workers : Nat
  normalization : String
deriving DecidableEq, Inhabited

namespace Report

/-- Comparisons in any order; those of equal case numbers keep theirs. -/
def of (h : RunHeader) (comparisons : List Comparison) : Report :=
  let sorted := comparisons.mergeSort fun a b => a.case.id ≤ b.case.id
  let matched := sorted.countP (·.verdict.isMatch)
  let mismatched := sorted.countP (·.verdict == .differ)
  { status := if matched = sorted.length then .pass else .fail
    reference := h.reference
    subject := h.subject
    total := sorted.length
    matched := matched
    mismatched := mismatched
    errored := sorted.length - matched - mismatched
    timeoutMs := h.timeoutMs
    workers := h.workers
    normalization := h.normalization
    comparisons := sorted }

def passed (r : Report) : Bool := r.status == .pass

def failures (r : Report) : List Comparison :=
  r.comparisons.filter fun c => !c.verdict.isMatch

/-- Halves `[base, base + size)` until one position is left: the last one whose
key does not exceed `key`, if the keys ascend and there is one. -/
def search (keyAt : Nat → Nat) (key base size : Nat) : Nat :=
  if _h : size ≤ 1 then base
  else
    let half := size / 2
    let base := if key < keyAt (base + half) then base else base + half
    search keyAt key base (size - half)
termination_by size
decreasing_by omega

def find? (r : Report) (id : Nat) : Option Comparison :=
  let cs := r.comparisons.toArray
  let i := search (fun i => (cs[i]?.map (·.case.id)).getD 0) id 0 cs.size
  match cs[i]? with
  | some c => if c.case.id = id then some c else none
  | none => none

structure Row where
  id : String
  verdict : String
  inputs : String
  detail : String

namespace Row

def header : Row := ⟨"ID", "VERDICT", "INPUTS", "DETAIL"⟩

def of (c : Comparison) : Row :=
  ⟨toString c.case.id, c.verdict.label, c.case.label, c.reason.getD ""⟩

def cells (r : Row) : List String := [r.id, r.verdict, r.inputs, r.detail]

def maxWidth : Nat := 65535

def pad (s : String) (width : Nat) : List Char :=
  s.toList ++ List.replicate (width - s.length) ' '

/-- Cells two spaces apart, without blanks at the end. -/
def chars (widths : List Nat) (r : Row) : List Char :=
  Text.trimEnd (Text.join [' ', ' '] (List.zipWith pad r.cells widths)) ++ ['\n']

def widths (rows : List Row) : List Nat :=
  rows.foldl (fun ws r => List.zipWith Nat.max ws (r.cells.map String.utf8ByteSize)) [0, 0, 0, 0]

def fits (widths : List Nat) : Bool := widths.all (· ≤ maxWidth)

end Row

/-- Two lines of summary; if there are failures, an empty line, the header and
a row for each. There is no table if a column is too wide. -/
def table (r : Report) : Option String :=
  let summary :=
    r.status.label ++ "  reference=" ++ r.reference ++ "  subject=" ++ r.subject ++ "\n" ++
    "cases=" ++ toString r.total ++ " matched=" ++ toString r.matched ++
    " mismatched=" ++ toString r.mismatched ++ " errored=" ++ toString r.errored ++
    " timeout=" ++ toString r.timeoutMs ++ "ms workers=" ++ toString r.workers ++
    " normalize=" ++ r.normalization ++ "\n"
  match r.failures with
  | [] => some summary
  | failures =>
    let rows := Row.header :: failures.map Row.of
    let widths := Row.widths rows
    if Row.fits widths then
      some (summary ++ "\n" ++ String.ofList (rows.flatMap (Row.chars widths)))
    else none

open Json

def toJson (r : Report) : Value :=
  .object [("status", .string r.status.name), ("reference", .string r.reference),
    ("subject", .string r.subject), ("total", .nat r.total), ("matched", .nat r.matched),
    ("mismatched", .nat r.mismatched), ("errored", .nat r.errored),
    ("timeout_ms", .nat r.timeoutMs), ("workers", .nat r.workers),
    ("normalization", .string r.normalization),
    ("verdicts", .list Comparison.toJson r.comparisons)]

def decoder : Decoder Report :=
  Record.decoder "struct RunReport"
    (Report.mk <$> Record.required "status" RunStatus.decoder <*>
      Record.required "reference" Decoder.string <*>
      Record.required "subject" Decoder.string <*>
      Record.required "total" Decoder.size <*>
      Record.required "matched" Decoder.size <*>
      Record.required "mismatched" Decoder.size <*>
      Record.required "errored" Decoder.size <*>
      Record.required "timeout_ms" Decoder.quantity <*>
      Record.required "workers" Decoder.size <*>
      Record.required "normalization" Decoder.string <*>
      Record.required "verdicts" (Decoder.list Comparison.decoder))

end Report

end PartitionTest
