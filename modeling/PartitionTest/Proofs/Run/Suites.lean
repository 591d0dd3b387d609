import PartitionTest.Proofs.Case.Sequence
import PartitionTest.Proofs.RoundTrip.Document
import PartitionTest.Proofs.RoundTrip.Report
import PartitionTest.Proofs.Run.Preparation

/-! Runs of manifests. All suites are reported on, or the first one that cannot
be prepared is what the run fails with, and nothing has been executed. -/
namespace PartitionTest

variable {World : Type}

namespace PreparedSuite

/-- The results, logs and worlds that prepared suites can end with, run one
after another by workers that share the cases of a suite. -/
inductive Ends : List (PreparedSuite World) → Option (Journal World) → World →
    Except Failure (List SuiteReport) → Option (Journal World) → World → Prop where
  | done {log : Option (Journal World)} {w : World} : Ends [] log w (.ok []) log w
  | failed {s : PreparedSuite World} {rest : List (PreparedSuite World)}
      {log log₁ log' : Option (Journal World)} {w w₁ w' : World} {e : Failure}
      (announced : (Trial.note log s.startEntry).run w = (log₁, w₁))
      (first : s.trial.Ends s.cases log₁ w₁ (.error e) log' w') :
      Ends (s :: rest) log w (.error e) log' w'
  | reported {s : PreparedSuite World} {rest : List (PreparedSuite World)}
      {log log₁ log₂ log' : Option (Journal World)} {w w₁ w₂ w' : World} {report : Report}
      {result : Except Failure (List SuiteReport)}
      (announced : (Trial.note log s.startEntry).run w = (log₁, w₁))
      (first : s.trial.Ends s.cases log₁ w₁ (.ok report) log₂ w₂)
      (others : Ends rest log₂ w₂ result log' w') :
      Ends (s :: rest) log w (result.map (s.reportOn report :: ·)) log' w'

theorem run_runAll_cons {s : PreparedSuite World} {rest : List (PreparedSuite World)}
    {log log₁ log₂ : Option (Journal World)} {w w₁ w₂ : World} {r : Except Failure Report}
    (announced : (Trial.note log s.startEntry).run w = (log₁, w₁)) :
    (s.trial.run s.cases log₁).run w₁ = ((r, log₂), w₂) →
    (runAll (s :: rest) log).run w = match r with
      | .error e => ((.error e, log₂), w₂)
      | .ok report =>
        let others := (runAll rest log₂).run w₂
        ((others.1.1.map (s.reportOn report :: ·), others.1.2), others.2) := by
  intro ran
  rw [runAll, StateT.run_bind, announced]
  show (s.trial.run s.cases log₁ >>= _).run w₁ = _
  rw [StateT.run_bind, ran]
  cases r <;> rfl

theorem runAll_ends (suites : List (PreparedSuite World)) (log : Option (Journal World))
    (w : World) : Ends suites log w ((runAll suites log).run w).1.1
      ((runAll suites log).run w).1.2 ((runAll suites log).run w).2 := by
  induction suites generalizing log w with
  | nil => exact .done
  | cons s rest ih =>
    rcases announced : (Trial.note log s.startEntry).run w with ⟨log₁, w₁⟩
    have first := s.trial.run_ends (.refl s.cases) log₁ w₁
    rcases ran : (s.trial.run s.cases log₁).run w₁ with ⟨⟨r, log₂⟩, w₂⟩
    rw [ran] at first
    rw [run_runAll_cons announced ran]
    cases r with
    | error e => exact .failed announced first
    | ok report => exact .reported announced first (ih log₂ w₂)

end PreparedSuite

/-- A report on a suite that was prepared: it has the name and the fragments of
the suite, and the suite's run, which no limit refuses, can end with it. -/
def SuiteEntry.Reports (s : SuiteEntry) (host : Host World) (files : FileView) (base : String)
    (config : RunConfig) (r : SuiteReport) : Prop :=
  r.name = s.name ∧ ∃ p report, s.prepare host files base config = .ok p ∧
    p.trial.checkLimits p.cases = .ok () ∧ r = p.reportOn report ∧
      ∃ log w log' w', p.trial.Ends p.cases log w (.ok report) log' w'

theorem names_of_reports {host : Host World} {files : FileView} {base : String}
    {config : RunConfig} {entries : List SuiteEntry} {reports : List SuiteReport}
    (h : List.Forall₂ (fun s r => s.Reports host files base config r) entries reports) :
    reports.map (·.name) = entries.map (·.name) := by
  symm
  rw [← List.forall₂_eq_eq_eq, List.forall₂_map_left_iff, List.forall₂_map_right_iff]
  exact h.imp fun _ _ reported => reported.1.symm

/-- Prepared suites are all reported on, in order. -/
theorem PreparedSuite.Ends.reports {host : Host World} {files : FileView} {base : String}
    {config : RunConfig} {entries : List SuiteEntry} {suites : List (PreparedSuite World)}
    {log log' : Option (Journal World)} {w w' : World} {result : Except Failure (List SuiteReport)}
    (h : Ends suites log w result log' w')
    (prepared : List.Forall₂ (fun s p => s.prepare host files base config = .ok p) entries suites) :
    ∃ reports, result = .ok reports ∧
      List.Forall₂ (fun s r => s.Reports host files base config r) entries reports := by
  -- the induction goes along the runs; none of them can be refused
  induction h generalizing entries with
  | done =>
    cases prepared
    exact ⟨[], rfl, .nil⟩
  | failed _ first =>
    cases prepared with
    | cons head _ =>
      cases first with
      | refused limit =>
        exact absurd ((SuiteEntry.checkLimits_of_prepare head).symm.trans limit) (by simp)
  | reported _ first _ ih =>
    cases prepared with
    | cons head others =>
      obtain ⟨reports, rfl, each⟩ := ih others
      exact ⟨_, rfl, .cons ⟨SuiteEntry.name_of_prepare head, _, _, head,
        SuiteEntry.checkLimits_of_prepare head, rfl, _, _, _, _, first⟩ each⟩

namespace Manifest

def prepared (host : Host World) (files : FileView) (path : String) (config : RunConfig) :
    Except Failure (List (PreparedSuite World)) := do
  let m ← load files path
  m.prepare host files (baseOf path) config

inductive Ends (host : Host World) (path : String) (config : RunConfig)
    (log : Option (Journal World)) (w : World) :
    Except Failure (List SuiteReport) → Option (Journal World) → World → Prop where
  | refused {e : Failure} (failed : prepared host (host.files w) path config = .error e) :
      Ends host path config log w (.error e) log w
  | ran {suites : List (PreparedSuite World)} {log' : Option (Journal World)} {w' : World}
      {result : Except Failure (List SuiteReport)}
      (passed : prepared host (host.files w) path config = .ok suites)
      (runs : PreparedSuite.Ends suites log w result log' w') :
      Ends host path config log w result log' w'

theorem run_eq (host : Host World) (path : String) (config : RunConfig)
    (log : Option (Journal World)) (w : World) :
    (run host path config log).run w =
      StateT.run (match prepared host (host.files w) path config with
        | .error e => pure (.error e, log)
        | .ok suites => PreparedSuite.runAll suites log) w :=
  rfl

/-- The manifest runs in one of these ways. -/
theorem run_ends (host : Host World) (path : String) (config : RunConfig)
    (log : Option (Journal World)) (w : World) :
    Ends host path config log w ((run host path config log).run w).1.1
      ((run host path config log).run w).1.2 ((run host path config log).run w).2 := by
  rw [run_eq]
  cases h : prepared host (host.files w) path config with
  | error e => exact .refused h
  | ok suites => exact .ran h (PreparedSuite.runAll_ends suites log w)

section Outcomes

variable {host : Host World} {path : String} {config : RunConfig}
  {log log' : Option (Journal World)} {w w' : World} {m : Manifest}
  {result : Except Failure (List SuiteReport)}

theorem prepared_of_load {files : FileView} (read : load files path = .ok m) :
    prepared host files path config =
      m.suites.mapM (SuiteEntry.prepare host files (baseOf path) config) := by
  rw [prepared, read]
  rfl

/-- If preparing fails, the run fails with that and leaves log and world alone. -/
theorem Ends.eq_of_error {e : Failure}
    (failed : prepared host (host.files w) path config = .error e)
    (h : Ends host path config log w result log' w') :
    result = .error e ∧ log' = log ∧ w' = w := by
  cases h with
  | refused other =>
    obtain rfl := Except.error.inj (failed.symm.trans other)
    exact ⟨rfl, rfl, rfl⟩
  | ran passed => exact absurd (failed.symm.trans passed) (by simp)

theorem Ends.reports (read : load (host.files w) path = .ok m)
    (ready : ∀ s ∈ m.suites, s.Ready (host.files w) (baseOf path) config)
    (h : Ends host path config log w result log' w') :
    ∃ reports, result = .ok reports ∧ List.Forall₂
      (fun s r => s.Reports host (host.files w) (baseOf path) config r) m.suites reports := by
  cases h with
  | refused failed =>
    rw [prepared_of_load read] at failed
    obtain ⟨suites, all⟩ := exists_mapM_eq_ok fun s hs =>
      (SuiteEntry.exists_prepare_eq_ok_iff s host).mpr (ready s hs)
    exact absurd (failed.symm.trans all) (by simp)
  | ran passed runs =>
    rw [prepared_of_load read] at passed
    exact runs.reports (mapM_eq_ok_iff.mp passed)

end Outcomes

/-- What comes of running a manifest: the first suite that is not ready makes
the run fail before anything is executed, in a world that may well record what
is. If all are ready, no limit stands in the way of a run any more, and there is
a report on every suite, in order and under its name. -/
structure Settles (m : Manifest) (host : Host World) (path : String) (config : RunConfig)
    (log : Option (Journal World)) (w : World) : Prop where
  aborts : ∀ before s after, m.suites = before ++ s :: after →
    (∀ r ∈ before, r.Ready (host.files w) (baseOf path) config) →
      ¬ s.Ready (host.files w) (baseOf path) config →
        ∃ e, s.prepare host (host.files w) (baseOf path) config = .error e ∧
          ∀ result log' w', Ends host path config log w result log' w' →
            result = .error e ∧ log' = log ∧ w' = w
  reports : (∀ s ∈ m.suites, s.Ready (host.files w) (baseOf path) config) →
    ∀ result log' w', Ends host path config log w result log' w' →
      ∃ reports, result = .ok reports ∧ List.Forall₂
        (fun s r => s.Reports host (host.files w) (baseOf path) config r) m.suites reports
  runs : Ends host path config log w ((run host path config log).run w).1.1
    ((run host path config log).run w).1.2 ((run host path config log).run w).2

/-- A manifest that can be read is run as a whole or not at all. -/
theorem settles_of_load {m : Manifest} {host : Host World} {path : String} {w : World}
    (read : load (host.files w) path = .ok m) (config : RunConfig) (log : Option (Journal World)) :
    m.Settles host path config log w where
  aborts before s after split ready unready := by
    obtain ⟨e, failed⟩ := SuiteEntry.exists_prepare_eq_error host unready
    have stopped : prepared host (host.files w) path config = .error e := by
      rw [prepared_of_load read, split]
      exact mapM_append_cons_eq_error
        (fun r hr => (r.exists_prepare_eq_ok_iff host).mpr (ready r hr)) failed
    exact ⟨e, failed, fun _ _ _ h => h.eq_of_error stopped⟩
  reports ready _ _ _ h := h.reports read ready
  runs := run_ends host path config log w

end Manifest

def FileView.ofTexts (texts : List (String × String)) : FileView where
  size path := (texts.lookup path).elim (.error .notFound) fun text => .ok text.utf8ByteSize
  bytes path := (texts.lookup path).elim (.error .notFound) fun text => .ok text.toUTF8

theorem FileView.text_ofTexts {texts : List (String × String)} {path text : String}
    (h : texts.lookup path = some text) : (ofTexts texts).text path = .ok text := by
  have decoded : String.fromUTF8? text.toUTF8 = some text := dif_pos text.isValidUTF8
  have stored : (ofTexts texts).bytes path = .ok text.toUTF8 := by
    show (texts.lookup path).elim _ _ = _
    rw [h]
    rfl
  rw [FileView.text, stored, bind_eq_ok_iff]
  refine ⟨_, rfl, ?_⟩
  rw [decoded]
  rfl

namespace Bench

def document : Document where
  vars := [⟨"on", .bool, none, [⟨some "any", .valid, .oneOf [.bool true, .bool false], [], false⟩]⟩]

def model : Model where
  vars := [⟨"on", .bool, none, [⟨"any", .valid, .oneOf [.bool true, .bool false], [], false⟩]⟩]

def suite (name document : String) : SuiteEntry where
  name := name
  document := document
  reference := ⟨"cat", [], .stdin, none⟩
  subject := ⟨"tac", [], .stdin, none⟩
  timeoutMs := some 20
  sample := none
  seed := none

def manifest (document : String) : Manifest :=
  ⟨[suite "first" "switch.json", suite "second" document]⟩

def files : FileView := .ofTexts [("switch.json", document.toJson.compact),
  ("complete.json", (manifest "switch.json").toJson.compact),
  ("incomplete.json", (manifest "absent.json").toJson.compact)]

def host : Host Nat where
  files _ := files
  create _ := return .ok 3
  put _ _ := return .ok ()
  execute _ _ := do
    modify (· + 1)
    return .ended (.code 0) (some []) (some [])

theorem length_cases : (Plan.ofVars model.vars).cases.length ≤ 1 := by
  have firsts (t : Table) : t.representatives =
      firstsBy (·.value) ((List.range t.classCount).flatMap t.candidates) :=
    distinctBy_eq_firstsBy _
  rw [Plan.length_cases]
  simp only [Plan.firstVariations, Plan.variations, Plan.ofVars, Variable.axis, Axis.of, model,
    List.map_cons, List.map_nil, firsts]
  decide

theorem loads : Model.Loads files "switch.json" {} model.validate.2 := by
  have plain : ¬ document.HasExpr := by simp [Document.HasExpr, document, Predicate.IsExpr]
  have valid : model.validate.1 = .ok () := by rfl
  exact ⟨_, _, document, model, rfl, by decide +kernel, FileView.text_ofTexts rfl,
    (Document.restores plain).readsBack.compact, by rfl,
    Model.violations_eq_nil_iff.mp (Model.validate_eq_ok_iff.mp valid), rfl⟩

theorem ready (name : String) : (suite name "switch.json").Ready files "" {} where
  cases := by
    have here : Path.join "" "switch.json" = "switch.json" := by rfl
    refine ⟨model.validate.2, ?_, Nat.le_trans length_cases (by decide)⟩
    rw [suite, here]
    exact loads
  samples_le := nofun
  workers_pos := by decide
  workers_le := by decide
  timeout_pos := (by decide : 0 < (Duration.ofMillis 20).nanoseconds)
  timeout_le := (by decide : (Duration.ofMillis 20).millis ≤ 600000)
  reference := nofun
  subject := nofun

theorem not_ready (name : String) : ¬ (suite name "absent.json").Ready files "" {} := by
  intro h
  obtain ⟨_, ⟨size, _, _, _, measured, -⟩, -⟩ := h.cases
  have absent : files.size (Path.join "" "absent.json") = .error .notFound := by rfl
  exact absurd (absent.symm.trans measured) (by simp)

theorem load_eq_ok {path document : String}
    (stored : files.text path = .ok (manifest document).toJson.compact) :
    Manifest.load files path = .ok (manifest document) := by
  have plain (name document : String) : (suite name document).Fits64 :=
    ⟨fun n hn => Option.mem_some_iff.mp hn ▸ by decide, nofun, nofun⟩
  have all : (manifest document).Fits64 := List.forall_mem_cons.mpr
    ⟨plain .., List.forall_mem_singleton.mpr (plain ..)⟩
  exact Manifest.load_eq_ok_iff.mpr
    ⟨_, stored, (Manifest.restores all).readsBack.compact, List.cons_ne_nil _ _,
      (by decide : ["first", "second"].Nodup)⟩

theorem manifests_settle :
    (Manifest.load (host.files 0) "complete.json" = .ok (manifest "switch.json") ∧
      ∃ reports, ((Manifest.run host "complete.json" {} none).run 0).1.1 = .ok reports ∧
        reports.map (·.name) = ["first", "second"]) ∧
    (Manifest.load (host.files 0) "incomplete.json" = .ok (manifest "absent.json") ∧
      ∃ e, (Manifest.run host "incomplete.json" {} none).run 0 = ((.error e, none), 0)) := by
  have complete : Manifest.load (host.files 0) "complete.json" = .ok (manifest "switch.json") :=
    load_eq_ok (FileView.text_ofTexts rfl)
  have incomplete : Manifest.load (host.files 0) "incomplete.json" = .ok (manifest "absent.json") :=
    load_eq_ok (FileView.text_ofTexts rfl)
  refine ⟨⟨complete, ?_⟩, incomplete, ?_⟩
  · have settles : (manifest "switch.json").Settles host "complete.json" {} none 0 :=
      Manifest.settles_of_load complete {} none
    have all : ∀ s ∈ (manifest "switch.json").suites, s.Ready files "" {} :=
      List.forall_mem_cons.mpr ⟨ready _, List.forall_mem_singleton.mpr (ready _)⟩
    obtain ⟨reports, ran, each⟩ := settles.reports all _ _ _ settles.runs
    exact ⟨reports, ran, names_of_reports each⟩
  · have settles : (manifest "absent.json").Settles host "incomplete.json" {} none 0 :=
      Manifest.settles_of_load incomplete {} none
    obtain ⟨e, -, aborted⟩ := settles.aborts [suite "first" "switch.json"] _ [] rfl
      (List.forall_mem_singleton.mpr (ready "first")) (not_ready "second")
    obtain ⟨failed, quiet, still⟩ := aborted _ _ _ settles.runs
    exact ⟨e, Prod.ext (Prod.ext failed quiet) still⟩

end Bench

end PartitionTest
