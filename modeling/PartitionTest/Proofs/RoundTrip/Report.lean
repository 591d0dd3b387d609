import PartitionTest.Manifest
import PartitionTest.Proofs.RoundTrip.Case
import PartitionTest.Report.Suite

/-! Reports and manifests restored from what they are written as, and the texts
of both layouts read back. -/
namespace PartitionTest

open Json

variable {depth : Nat}

theorem Side.restores (s : Side) : decoder.Restores depth (.string s.name) s := by
  cases s <;> exact .choice rfl

theorem Verdict.restores (v : Verdict) : decoder.Restores (depth + 1) v.toJson v := by
  cases v with
  | agree => exact .tagged _ rfl (.noFields _) nofun
  | differ => exact .tagged _ rfl (.noFields _) nofun
  | error side =>
    exact .tagged _ rfl (Record.Reads.required "side" side.restores
      |>.map Verdict.error
      |>.restores _ (by decide)) (by simp)

theorem Status.restores (s : Status) : decoder.Restores depth (.string s.name) s := by
  cases s <;> exact .choice rfl

def Observation.Fits64 (o : Observation) : Prop := o.durationMs < UInt64.size

theorem Observation.restores {o : Observation} (h : o.Fits64) :
    decoder.Restores (depth + 1) o.toJson o :=
  Record.Reads.required "status" o.status.restores
    |>.map Observation.mk
    |>.seq (.required "output" (.string o.output))
    |>.seq (.optional "exit_code" (.option (fun code _ => .int32 code) nofun))
    |>.seq (.optional "detail" (.option (fun text _ => .string text) nofun))
    |>.seq (.required "duration_ms" (.nat h "u64"))
    |>.restores _ (by decide)

structure Comparison.Fits64 (c : Comparison) : Prop where
  case : c.case.Fits64
  reference : c.reference.Fits64
  subject : c.subject.Fits64

theorem Comparison.restores {c : Comparison} (h : c.Fits64) :
    decoder.Restores (depth + 4) c.toJson c :=
  Record.Reads.required "case" (Case.restores h.case)
    |>.map Comparison.mk
    |>.seq (.required "verdict" c.verdict.restores)
    |>.seq (.required "reference" (Observation.restores h.reference))
    |>.seq (.required "subject" (Observation.restores h.subject))
    |>.restores _ (by decide)

theorem RunStatus.restores (s : RunStatus) : decoder.Restores depth (.string s.name) s := by
  cases s <;> exact .choice rfl

structure Report.Fits64 (r : Report) : Prop where
  total : r.total < UInt64.size
  matched : r.matched < UInt64.size
  mismatched : r.mismatched < UInt64.size
  errored : r.errored < UInt64.size
  timeoutMs : r.timeoutMs < UInt64.size
  workers : r.workers < UInt64.size
  comparisons : ∀ c ∈ r.comparisons, c.Fits64

theorem Report.restores {r : Report} (h : r.Fits64) : decoder.Restores (depth + 6) r.toJson r :=
  Record.Reads.required "status" r.status.restores
    |>.map Report.mk
    |>.seq (.required "reference" (.string r.reference))
    |>.seq (.required "subject" (.string r.subject))
    |>.seq (.required "total" (.nat h.total "usize"))
    |>.seq (.required "matched" (.nat h.matched "usize"))
    |>.seq (.required "mismatched" (.nat h.mismatched "usize"))
    |>.seq (.required "errored" (.nat h.errored "usize"))
    |>.seq (.required "timeout_ms" (.nat h.timeoutMs "u64"))
    |>.seq (.required "workers" (.nat h.workers "usize"))
    |>.seq (.required "normalization" (.string r.normalization))
    |>.seq (.required "verdicts" (.list fun c hc => Comparison.restores (h.comparisons c hc)))
    |>.restores _ (by decide)

theorem SuiteReport.restores {s : SuiteReport} (h : s.report.Fits64) :
    decoder.Restores (depth + 7) s.toJson s :=
  Record.Reads.required "name" (.string s.name)
    |>.map SuiteReport.mk
    |>.seq (.optionalMember "reference_fragment" (fun text _ => .string text) nofun)
    |>.seq (.optionalMember "subject_fragment" (fun text _ => .string text) nofun)
    |>.seq (.required "report" (Report.restores h))
    |>.restores _ (by decide)

theorem InputMode.restores (m : InputMode) : decoder.Restores depth m.toJson m := by
  cases m <;> exact .choice rfl

theorem ProgramSpec.restores (p : ProgramSpec) : decoder.Restores (depth + 2) p.toJson p :=
  Record.Reads.required "program" (.string p.program)
    |>.map ProgramSpec.mk
    |>.seq (.defaulted "args" [] (.list fun arg _ => .string arg))
    |>.seq (.defaulted "input" .stdin p.input.restores)
    |>.seq (.defaulted "source" none (.option (fun file _ => .path file) nofun))
    |>.restores _ (by decide)

structure SuiteEntry.Fits64 (s : SuiteEntry) : Prop where
  timeoutMs : ∀ n ∈ s.timeoutMs, n < UInt64.size
  sample : ∀ n ∈ s.sample, n < UInt64.size
  seed : ∀ n ∈ s.seed, n < UInt64.size

theorem SuiteEntry.restores {s : SuiteEntry} (h : s.Fits64) :
    decoder.Restores (depth + 3) s.toJson s :=
  Record.Reads.required "name" (.string s.name)
    |>.map SuiteEntry.mk
    |>.seq (.required "partition" (.path s.document))
    |>.seq (.required "reference" s.reference.restores)
    |>.seq (.required "subject" s.subject.restores)
    |>.seq (.defaulted "timeout_ms" none (.optionNat h.timeoutMs "u64"))
    |>.seq (.defaulted "sample" none (.optionNat h.sample "usize"))
    |>.seq (.defaulted "seed" none (.optionNat h.seed "u64"))
    |>.restores _ (by decide)

def Manifest.Fits64 (m : Manifest) : Prop := ∀ s ∈ m.suites, s.Fits64

theorem Manifest.restores {m : Manifest} (h : m.Fits64) :
    decoder.Restores (depth + 5) m.toJson m :=
  Record.Reads.required "suites" (.list fun s hs => SuiteEntry.restores (h s hs))
    |>.map Manifest.mk
    |>.restores _ (by decide)

/-- Whatever texts, scalars and numbers of 64 bits they hold, suite reports, lists of
cases and manifests are read back from both of their texts. -/
theorem readsBack_of_fits64 :
    (∀ s : SuiteReport, s.report.Fits64 → SuiteReport.decoder.ReadsBack s.toJson s) ∧
    (∀ cs : List Case, (∀ c ∈ cs, c.Fits64) →
      (Decoder.list Case.decoder).ReadsBack (.list Case.toJson cs) cs) ∧
    ∀ m : Manifest, m.Fits64 → Manifest.decoder.ReadsBack m.toJson m :=
  ⟨fun _ h => (SuiteReport.restores h).readsBack,
    fun _ h => (Decoder.Restores.list fun c hc => Case.restores (h c hc)).readsBack,
    fun _ h => (Manifest.restores h).readsBack⟩

/-- A case whose texts look like JSON and whose numbers are extreme. -/
def awkwardCase : Case where
  id := UInt64.size - 1
  focus := some "\"\\\u0000\u001f"
  kind := .boundary
  assignments := [⟨"", .char '"', "é\u2028", .invalid⟩, ⟨"1", .char '1', "\x7f", .valid⟩,
    ⟨"null", .int Int64.minValue, "😀", .valid⟩, ⟨"\t\r\n", .bool false, "/", .valid⟩]

def awkwardReport : SuiteReport where
  name := "]\x7d,\n"
  referenceFragment := none
  subjectFragment := some ""
  report :=
    { status := .fail
      reference := "a"
      subject := "b"
      total := 1
      matched := 0
      mismatched := 0
      errored := 1
      timeoutMs := UInt64.size - 1
      workers := 1
      normalization := "none"
      comparisons := [⟨awkwardCase, .error .both,
        ⟨.crashed, "", some Int32.minValue, none, UInt64.size - 1⟩,
        ⟨.timedOut, "\u000b", none, some "null", 0⟩⟩] }

def awkwardManifest : Manifest where
  suites := [⟨"", ".", ⟨"p", ["\"", "-"], .args, none⟩, ⟨"q", [], .stdin, some "s"⟩, none,
    some 0, some (UInt64.size - 1)⟩]

theorem readsBack_awkward :
    awkwardReport.report.Fits64 ∧ awkwardManifest.Fits64 ∧
      SuiteReport.decoder.ReadsBack awkwardReport.toJson awkwardReport ∧
      (Decoder.list Case.decoder).ReadsBack (.list Case.toJson [awkwardCase]) [awkwardCase] ∧
      Manifest.decoder.ReadsBack awkwardManifest.toJson awkwardManifest := by
  have case : ∀ c ∈ [awkwardCase], c.Fits64 :=
    List.forall_mem_singleton.mpr (show UInt64.size - 1 < UInt64.size by decide)
  have report : awkwardReport.report.Fits64 := by
    refine ⟨by decide, by decide, by decide, by decide, by decide, by decide, ?_⟩
    exact List.forall_mem_singleton.mpr
      ⟨case _ List.mem_cons_self, show UInt64.size - 1 < UInt64.size by decide,
        show 0 < UInt64.size by decide⟩
  have manifest : awkwardManifest.Fits64 :=
    List.forall_mem_singleton.mpr ⟨nofun, by decide, by decide⟩
  exact ⟨report, manifest, readsBack_of_fits64.1 _ report, readsBack_of_fits64.2.1 _ case,
    readsBack_of_fits64.2.2 _ manifest⟩

end PartitionTest
