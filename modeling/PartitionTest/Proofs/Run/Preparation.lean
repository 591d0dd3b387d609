import PartitionTest.Manifest.Suite
import PartitionTest.Proofs.Case.Assignments
import PartitionTest.Proofs.Except
import PartitionTest.Proofs.Run.Ends

/-! What a suite needs before it can be run. Preparing it asks for exactly that,
and whatever a run checks once more has been seen to by then. -/
namespace PartitionTest

theorem liftLimit_eq_ok_iff {α : Type} {x : Except LimitError α} {a : α} :
    liftLimit x = .ok a ↔ x = .ok a :=
  mapError_eq_ok_iff

/-- The file at this path holds a document that is no larger than allowed and
whose classes partition the domains of their variables. Its validated model is
the given one. -/
def Model.Loads (files : FileView) (path : String) (limits : Limits) (m : Model) : Prop :=
  ∃ size text d built, files.size path = .ok size ∧ size ≤ limits.maxDocumentBytes ∧
    files.text path = .ok text ∧ Document.parse text = .ok d ∧ Model.ofDocument d = .ok built ∧
    (∀ x ∈ built.vars, x.IsPartition) ∧ m = built.validate.2

theorem Document.load_eq_ok_iff {files : FileView} {path : String} {d : Document} :
    Document.load files path = .ok d ↔
      ∃ text, files.text path = .ok text ∧ Document.parse text = .ok d := by
  simp only [Document.load, bind_eq_ok_iff, mapError_eq_ok_iff]

theorem Document.validModel_eq_ok_iff {d : Document} {m : Model} :
    d.validModel = .ok m ↔ ∃ built, Model.ofDocument d = .ok built ∧
      (∀ x ∈ built.vars, x.IsPartition) ∧ m = built.validate.2 := by
  unfold Document.validModel
  rw [bind_eq_ok_iff]
  refine exists_congr fun built => ?_
  rw [mapError_eq_ok_iff, ← Model.violations_eq_nil_iff, ← Model.validate_eq_ok_iff]
  refine and_congr_right fun _ => ?_
  match built.validate with
  | (.ok (), m') => exact ⟨fun h => ⟨rfl, (Except.ok.inj h).symm⟩, fun h => by rw [h.2]; rfl⟩
  | (.error _, m') => exact iff_of_false nofun fun h => nomatch h.1

theorem Limits.checkDocumentSize_eq_ok_iff {l : Limits} {bytes : Nat} :
    l.checkDocumentSize bytes = .ok () ↔ bytes ≤ l.maxDocumentBytes := by
  grind [checkDocumentSize]

theorem Model.load_eq_ok_iff {files : FileView} {path : String} {limits : Limits} {m : Model} :
    Model.load files path limits = .ok m ↔ m.Loads files path limits := by
  unfold Model.load Model.Loads
  rw [bind_eq_ok_iff]
  refine exists_congr fun size => ?_
  rw [mapError_eq_ok_iff, check_bind_eq_ok_iff, liftLimit_eq_ok_iff,
    Limits.checkDocumentSize_eq_ok_iff, bind_eq_ok_iff]
  simp only [Document.load_eq_ok_iff, Document.validModel_eq_ok_iff]
  constructor
  · rintro ⟨measured, fits, d, ⟨text, read, parsed⟩, built, rest⟩
    exact ⟨text, d, built, measured, fits, read, parsed, rest⟩
  · rintro ⟨text, d, built, measured, fits, read, parsed, rest⟩
    exact ⟨measured, fits, d, ⟨text, read, parsed⟩, built, rest⟩

theorem Model.Loads.plan {files : FileView} {path : String} {limits : Limits} {m : Model}
    (h : m.Loads files path limits) : Plan.ofModel m = .ok (Plan.ofVars m.vars) := by
  obtain ⟨_, _, _, built, -, -, -, -, read, parts, rfl⟩ := h
  have sound := ((Reachable.ofDocument read).step .validate).sound
  have valid := validate_of_violations_eq_nil (violations_eq_nil_iff.mpr parts)
  exact sound.plan (by rw [Operation.apply, valid]; rfl)

theorem Model.buildCases_eq_ok_iff {m : Model} {p : Plan} (plan : Plan.ofModel m = .ok p)
    {sampling : Option Sampling} {limits : Limits} {cases : List Case} :
    m.buildCases sampling limits = .ok cases ↔ (∀ s ∈ sampling, s.count ≤ limits.maxCases) ∧
      (p.generate sampling).length ≤ limits.maxCases ∧ cases = p.generate sampling := by
  have rest : (do
      liftLimit (limits.checkCases (p.generate sampling).length)
      return p.generate sampling) = Except.ok cases ↔
      (p.generate sampling).length ≤ limits.maxCases ∧ cases = p.generate sampling := by
    rw [check_bind_eq_ok_iff, liftLimit_eq_ok_iff, Limits.checkCases_eq_ok_iff]
    exact and_congr_right fun _ => ⟨fun h => (Except.ok.inj h).symm, fun h => h ▸ rfl⟩
  unfold buildCases
  rw [plan, ← rest]
  cases sampling with
  | none => exact (and_iff_right nofun).symm
  | some s =>
    show (liftLimit (limits.checkCases s.count) >>= fun _ => _) = _ ↔ _
    rw [check_bind_eq_ok_iff, liftLimit_eq_ok_iff, Limits.checkCases_eq_ok_iff]
    simp only [Option.mem_some_iff, forall_eq']

theorem Manifest.flaw?_eq_none_iff {m : Manifest} :
    m.flaw? = none ↔ m.suites ≠ [] ∧ (m.suites.map (·.name)).Nodup := by
  unfold flaw?
  split
  · rename_i empty
    exact iff_of_false nofun fun h => h.1 (List.isEmpty_iff.mp empty)
  · rename_i listed
    rw [Option.map_eq_none_iff, firstRepeated?, firstRepeatedBy?_eq_none_iff, List.map_id]
    exact (and_iff_right fun empty => listed (List.isEmpty_iff.mpr empty)).symm

/-- A manifest is read from a well-formed text that lists suites, no two of them
under one name. -/
theorem Manifest.load_eq_ok_iff {files : FileView} {path : String} {m : Manifest} :
    load files path = .ok m ↔ ∃ text, files.text path = .ok text ∧
      decoder.ofText text = .ok m ∧ m.suites ≠ [] ∧ (m.suites.map (·.name)).Nodup := by
  unfold load
  rw [bind_eq_ok_iff, ← flaw?_eq_none_iff]
  refine exists_congr fun text => ?_
  rw [mapError_eq_ok_iff, bind_eq_ok_iff]
  refine and_congr_right fun _ => ?_
  simp only [mapError_eq_ok_iff]
  constructor
  · rintro ⟨other, parsed, passed⟩
    cases sound : other.flaw? with
    | none =>
      rw [sound] at passed
      obtain rfl := Except.ok.inj passed
      exact ⟨parsed, sound⟩
    | some reason =>
      rw [sound] at passed
      nomatch passed
  · rintro ⟨parsed, sound⟩
    refine ⟨m, parsed, ?_⟩
    rw [sound]
    rfl

namespace SuiteEntry

def Readable (files : FileView) (base : String) (source : Option String) : Prop :=
  ∀ name ∈ source, ∃ text, files.text (Path.join base name) = .ok text

/-- What the files and the settings must be like for a suite to be run. -/
structure Ready (s : SuiteEntry) (files : FileView) (base : String) (config : RunConfig) :
    Prop where
  cases : ∃ m : Model, m.Loads files (Path.join base s.document) config.limits ∧
    ((Plan.ofVars m.vars).generate s.sampling).length ≤ config.limits.maxCases
  samples_le : ∀ n ∈ s.sample, n ≤ config.limits.maxCases
  workers_pos : 0 < config.workers
  workers_le : config.workers ≤ config.limits.maxWorkers
  timeout_pos : 0 < (s.runConfig config).timeout.nanoseconds
  timeout_le : (s.runConfig config).timeout.millis ≤ config.limits.maxTimeoutMs
  reference : Readable files base s.reference.source
  subject : Readable files base s.subject.source

theorem exists_fragment_eq_ok_iff {files : FileView} {base : String} {source : Option String} :
    (∃ f, fragment files base source = .ok f) ↔ Readable files base source := by
  cases source with
  | none => exact iff_of_true ⟨none, rfl⟩ nofun
  | some name =>
    simp only [fragment, Readable, bind_eq_ok_iff, mapError_eq_ok_iff, Option.mem_some_iff,
      forall_eq']
    constructor
    · rintro ⟨_, text, read, -⟩
      exact ⟨text, read⟩
    · rintro ⟨text, read⟩
      exact ⟨_, text, read, rfl⟩

variable {World : Type} {s : SuiteEntry} {host : Host World} {files : FileView} {base : String}
  {config : RunConfig} {p : PreparedSuite World}

@[simp] theorem runConfig_limits : (s.runConfig config).limits = config.limits := by
  unfold runConfig
  split <;> rfl

@[simp] theorem runConfig_workers : (s.runConfig config).workers = config.workers := by
  unfold runConfig
  split <;> rfl

variable (s host base config) in
def trial : Trial World where
  reference := host.implementation (s.reference.command base (s.name ++ "/reference"))
  subject := host.implementation (s.subject.command base (s.name ++ "/subject"))
  config := s.runConfig config

theorem prepare_eq_ok_iff : s.prepare host files base config = .ok p ↔
    ∃ m, Model.load files (Path.join base s.document) config.limits = .ok m ∧
      ∃ cases, m.buildCases s.sampling config.limits = .ok cases ∧
        config.limits.checkWorkers config.workers = .ok () ∧
        config.limits.checkTimeout (s.runConfig config).timeout = .ok () ∧
        ∃ reference, fragment files base s.reference.source = .ok reference ∧
          ∃ subject, fragment files base s.subject.source = .ok subject ∧
            p = ⟨s.name, cases, s.trial host base config, reference, subject⟩ := by
  unfold prepare
  rw [bind_eq_ok_iff]
  refine exists_congr fun m => and_congr_right fun _ => ?_
  rw [bind_eq_ok_iff]
  refine exists_congr fun cases => and_congr_right fun _ => ?_
  dsimp only
  rw [check_bind_eq_ok_iff, liftLimit_eq_ok_iff, runConfig_limits, runConfig_workers,
    check_bind_eq_ok_iff, liftLimit_eq_ok_iff]
  refine and_congr_right fun _ => and_congr_right fun _ => ?_
  rw [bind_eq_ok_iff]
  refine exists_congr fun reference => and_congr_right fun _ => ?_
  rw [bind_eq_ok_iff]
  refine exists_congr fun subject => and_congr_right fun _ => ?_
  exact ⟨fun h => (Except.ok.inj h).symm, fun h => h ▸ rfl⟩

theorem forall_mem_sampling {n : Nat} :
    (∀ x ∈ s.sampling, x.count ≤ n) ↔ ∀ count ∈ s.sample, count ≤ n := by
  simp [sampling]

/-- A suite can be prepared just when all it needs is there. -/
theorem exists_prepare_eq_ok_iff (s : SuiteEntry) (host : Host World) :
    (∃ p, s.prepare host files base config = .ok p) ↔ s.Ready files base config := by
  simp only [prepare_eq_ok_iff]
  constructor
  · rintro ⟨p, m, loaded, cases, built, workers, timeout, reference, first, subject, second, -⟩
    have loads := Model.load_eq_ok_iff.mp loaded
    obtain ⟨samples, fits, -⟩ := (Model.buildCases_eq_ok_iff loads.plan).mp built
    obtain ⟨workers_pos, workers_le⟩ := Limits.checkWorkers_eq_ok_iff.mp workers
    obtain ⟨timeout_pos, timeout_le⟩ := Limits.checkTimeout_eq_ok_iff.mp timeout
    exact ⟨⟨m, loads, fits⟩, forall_mem_sampling.mp samples, workers_pos, workers_le, timeout_pos,
      timeout_le, exists_fragment_eq_ok_iff.mp ⟨_, first⟩, exists_fragment_eq_ok_iff.mp ⟨_, second⟩⟩
  · intro h
    obtain ⟨m, loads, fits⟩ := h.cases
    obtain ⟨reference, first⟩ := exists_fragment_eq_ok_iff.mpr h.reference
    obtain ⟨subject, second⟩ := exists_fragment_eq_ok_iff.mpr h.subject
    exact ⟨_, m, Model.load_eq_ok_iff.mpr loads, _,
      (Model.buildCases_eq_ok_iff loads.plan).mpr ⟨forall_mem_sampling.mpr h.samples_le, fits, rfl⟩,
      Limits.checkWorkers_eq_ok_iff.mpr ⟨h.workers_pos, h.workers_le⟩,
      Limits.checkTimeout_eq_ok_iff.mpr ⟨h.timeout_pos, h.timeout_le⟩,
      reference, first, subject, second, rfl⟩

theorem exists_prepare_eq_error (host : Host World) (h : ¬ s.Ready files base config) :
    ∃ e, s.prepare host files base config = .error e := by
  cases failed : s.prepare host files base config with
  | error e => exact ⟨e, rfl⟩
  | ok p => exact absurd ((s.exists_prepare_eq_ok_iff host).mp ⟨p, failed⟩) h

theorem name_of_prepare (h : s.prepare host files base config = .ok p) : p.name = s.name := by
  obtain ⟨_, -, _, -, -, -, _, -, _, -, rfl⟩ := prepare_eq_ok_iff.mp h
  rfl

/-- Whatever a run of a prepared suite checks has been seen to. -/
theorem checkLimits_of_prepare (h : s.prepare host files base config = .ok p) :
    p.trial.checkLimits p.cases = .ok () := by
  obtain ⟨m, loaded, cases, built, workers, timeout, -, -, -, -, rfl⟩ := prepare_eq_ok_iff.mp h
  obtain ⟨-, fits, rfl⟩ :=
    (Model.buildCases_eq_ok_iff (Model.load_eq_ok_iff.mp loaded).plan).mp built
  obtain ⟨workers_pos, workers_le⟩ := Limits.checkWorkers_eq_ok_iff.mp workers
  obtain ⟨timeout_pos, timeout_le⟩ := Limits.checkTimeout_eq_ok_iff.mp timeout
  rw [Trial.checkLimits_eq_ok_iff]
  refine ⟨?_, ?_, timeout_pos, ?_, ?_⟩ <;> simpa [trial]

end SuiteEntry

end PartitionTest
