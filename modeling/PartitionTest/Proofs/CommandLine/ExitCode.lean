import PartitionTest.Proofs.CommandLine.Work
import PartitionTest.Proofs.Report.Table
import PartitionTest.Proofs.Run.Events
import PartitionTest.Proofs.Run.Suites

/-! What the exit code of a command says. It is 0 or 1 just when the command
comes to its reports and gets rid of them, and tells then whether all verdicts in
all of them are matches. If it does not, the code is 2, and 101 if the program
panics over it. What becomes of the log makes no difference once it is open. -/
namespace PartitionTest

variable {World : Type}

/-- The report has a comparison for every case, each of what both
implementations did. -/
structure Trial.Covers (t : Trial World) (cases : List Case) (r : Report) : Prop where
  cases : (r.comparisons.map (·.case)).Perm cases
  compares : ∀ x ∈ r.comparisons, t.Compares x

def Report.AllAgree (r : Report) : Prop :=
  ∀ x ∈ r.comparisons, x.verdict = .agree

theorem Report.status_of_eq_pass_iff (h : RunHeader) (cs : List Comparison) :
    (of h cs).status = .pass ↔ (of h cs).AllAgree := by
  rw [status_of, AllAgree]
  constructor
  · exact fun all x hx => beq_iff_eq.mp (all x ((comparisons_of_perm h cs).mem_iff.mp hx))
  · exact fun all x hx => beq_iff_eq.mpr (all x ((comparisons_of_perm h cs).mem_iff.mpr hx))

theorem RunStatus.eq_of_iff {s t : RunStatus} (h : s = .pass ↔ t = .pass) : s = t := by
  cases s <;> cases t <;> simp_all

namespace Trial.Ends

variable {t : Trial World} {cases : List Case} {log log' : Option (Journal World)}
  {w w' : World} {r : Report}

theorem of_run {result : Except Failure Report}
    (ran : (t.run cases log).run w = ((result, log'), w')) : t.Ends cases log w result log' w' := by
  have ends := t.run_ends (.refl cases) log w
  rwa [ran] at ends

theorem covers (h : t.Ends cases log w (.ok r) log' w') : t.Covers cases r := by
  cases h with
  | @finished p delivered _ _ _ _ _ _ steps done delivery =>
    have order := (Report.comparisons_of_perm t.header delivered).trans delivery
    refine ⟨?_, fun x hx => (steps.genuine (genuine_start ..)).sent x (order.mem_iff.mp hx)⟩
    have each := steps.cases_perm
    rw [Pool.cases_start, done.cases] at each
    exact (order.map _).trans each

theorem within (h : t.Ends cases log w (.ok r) log' w') : t.WithinLimits cases := by
  cases h with
  | finished within => exact checkLimits_eq_ok_iff.mp within

theorem status (h : t.Ends cases log w (.ok r) log' w') : r.status = .pass ↔ r.AllAgree := by
  cases h with
  | finished => exact Report.status_of_eq_pass_iff _ _

end Trial.Ends

def SuiteEntry.Covered (s : SuiteEntry) (host : Host World) (files : FileView) (base : String)
    (config : RunConfig) (r : SuiteReport) : Prop :=
  r.name = s.name ∧ ∃ p, s.prepare host files base config = .ok p ∧ p.trial.Covers p.cases r.report

namespace SuiteEntry.Reports

variable {s : SuiteEntry} {host : Host World} {files : FileView} {base : String}
  {config : RunConfig} {r : SuiteReport}

theorem covered (h : s.Reports host files base config r) : s.Covered host files base config r := by
  obtain ⟨name, p, report, prepared, -, rfl, _, _, _, _, ends⟩ := h
  exact ⟨name, p, prepared, ends.covers⟩

theorem status (h : s.Reports host files base config r) :
    r.report.status = .pass ↔ r.report.AllAgree := by
  obtain ⟨-, p, report, -, -, rfl, _, _, _, _, ends⟩ := h
  exact ends.status

end SuiteEntry.Reports

theorem SuiteReport.overall_eq_pass_iff {host : Host World} {files : FileView} {base : String}
    {config : RunConfig} {entries : List SuiteEntry} {reports : List SuiteReport}
    (h : List.Forall₂ (fun s r => s.Reports host files base config r) entries reports) :
    overall reports = .pass ↔ ∀ r ∈ reports.map (·.report), r.AllAgree := by
  have each : ∀ r ∈ reports, (r.report.status = .pass ↔ r.report.AllAgree) := by
    induction h with
    | nil => exact nofun
    | cons head _ ih => exact List.forall_mem_cons.mpr ⟨head.status, ih⟩
  rw [List.forall_mem_map, ← forall₂_congr each]
  simp [overall, Report.passed]

theorem Manifest.Ends.of_run {host : Host World} {path : String} {config : RunConfig}
    {log log' : Option (Journal World)} {w w' : World} {result : Except Failure (List SuiteReport)}
    (ran : (run host path config log).run w = ((result, log'), w')) :
    Ends host path config log w result log' w' := by
  have ends := run_ends host path config log w
  rwa [ran] at ends

theorem Manifest.Ends.ready {host : Host World} {path : String} {config : RunConfig}
    {log log' : Option (Journal World)} {w w' : World} {reports : List SuiteReport}
    (h : Ends host path config log w (.ok reports) log' w') :
    ∃ m, load (host.files w) path = .ok m ∧
      ∀ s ∈ m.suites, s.Ready (host.files w) (baseOf path) config := by
  cases h with
  | ran passed _ =>
    obtain ⟨m, read, prepared⟩ := bind_eq_ok_iff.mp passed
    exact ⟨m, read, fun s hs =>
      (s.exists_prepare_eq_ok_iff host).mp (exists_of_mapM_eq_ok prepared s hs)⟩

namespace CommandLine

open Work

variable {host : Host World} {clock : String}

def CaseOptions.generated (o : CaseOptions) (m : Model) : List Case :=
  (Plan.ofVars m.vars).generate (sampling o)

/-- Reports come about without any error of configuration or of input and output:
what is read is there and in order, limits are kept, and the log can be opened.
Their text can be laid out or not, and the log may hold something back. -/
inductive Reports (host : Host World) (clock : String) : Subcommand → World →
    List Report → Option String → Option (Journal World) → World → Prop where
  | run {o : RunOptions} {m : Model} {reference subject : Command} {report : Report}
      {log log' : Option (Journal World)} {w w₁ w' : World}
      (loads : m.Loads (host.files w) o.cases.config {})
      (samples : ∀ n ∈ o.cases.sample, n ≤ ({} : Limits).maxCases)
      (first : Command.ofLine o.reference = .ok reference)
      (second : Command.ofLine o.subject = .ok subject)
      (level : o.out.LevelKnown)
      (opened : o.out.Opens host (o.out.newLog "run" clock) w log w₁)
      (within : (o.trial host reference subject).WithinLimits (o.cases.generated m))
      (ran : ((o.trial host reference subject).run (o.cases.generated m) log).run w₁ =
        ((.ok report, log'), w'))
      (covers : (o.trial host reference subject).Covers (o.cases.generated m) report) :
      Reports host clock (.run o) w [report] (o.out.format.report report) log' w'
  | suite {o : SuiteOptions} {m : Manifest} {reports : List SuiteReport}
      {log log' : Option (Journal World)} {w w₁ w' : World}
      (level : o.out.LevelKnown)
      (opened : o.out.Opens host (o.out.newLog "suite" clock) w log w₁)
      (read : Manifest.load (host.files w₁) o.manifest = .ok m)
      (ready : ∀ s ∈ m.suites, s.Ready (host.files w₁) (Manifest.baseOf o.manifest)
        { workers := o.workers })
      (ran : (Manifest.run host o.manifest { workers := o.workers } log).run w₁ =
        ((.ok reports, log'), w'))
      (covers : List.Forall₂ (fun s r => s.Covered host (host.files w₁)
        (Manifest.baseOf o.manifest) { workers := o.workers } r) m.suites reports) :
      Reports host clock (.suite o) w (reports.map (·.report)) (o.out.format.suites reports) log' w'

def Subcommand.output : Subcommand → Option String
  | .run o => o.out.output
  | .suite o => o.out.output
  | .cases _ => none

/-- A command comes to reports, and their text gets to where it belongs. What the
log holds back then is written, or lost. -/
def Completes (host : Host World) (clock : String) (command : Subcommand) (w : World)
    (reports : List Report) (w' : World) : Prop :=
  ∃ text log w₁ w₂, Reports host clock command w reports (some text) log w₁ ∧
    WritesTo host command.output text w₁ w₂ ∧ w' = ((closeLog log).run w₂).2

/-- A command comes to reports, but it panics because they cannot be laid out, or
because they are to be printed and the standard output does not take them. -/
def Jams (host : Host World) (clock : String) (command : Subcommand) (w : World) : Prop :=
  ∃ reports text log w', Reports host clock command w reports text log w' ∧
    (text = none ∨ ∃ t, text = some t ∧ Unprinted host command.output t w')

theorem does_buildCases (host : Host World) (o : CaseOptions) :
    (buildCases host o).DoesCalmly fun w cases w' => ∃ m : Model,
      m.Loads (host.files w) o.config {} ∧ (∀ n ∈ o.sample, n ≤ ({} : Limits).maxCases) ∧
      (o.generated m).length ≤ ({} : Limits).maxCases ∧ cases = o.generated m ∧ w' = w := by
  refine (does_fromFiles host _).congr (fun w cases w' => ?_) fun _ => .rfl
  have counts : (∀ s ∈ sampling o, s.count ≤ ({} : Limits).maxCases) ↔
      ∀ n ∈ o.sample, n ≤ ({} : Limits).maxCases := by
    simp [sampling]
  simp only [bind_eq_ok_iff, Model.load_eq_ok_iff, ← counts]
  constructor
  · rintro ⟨⟨m, loads, built⟩, same⟩
    obtain ⟨samples, fits, generated⟩ := (Model.buildCases_eq_ok_iff loads.plan).mp built
    exact ⟨m, loads, samples, fits, generated, same⟩
  · rintro ⟨m, loads, samples, fits, generated, same⟩
    exact ⟨⟨m, loads, (Model.buildCases_eq_ok_iff loads.plan).mpr ⟨samples, fits, generated⟩⟩, same⟩

def Reported (host : Host World) (clock : String) (command : Subcommand) (w : World)
    (status : RunStatus) (w' : World) : Prop :=
  ∃ reports, Completes host clock command w reports w' ∧
    (status = .pass ↔ ∀ r ∈ reports, r.AllAgree)

theorem Completes.exists_reported {command : Subcommand} {w w' : World} {reports : List Report}
    (h : Completes host clock command w reports w') :
    ∃ status, Reported host clock command w status w' ∧
      (status = .pass ↔ ∀ r ∈ reports, r.AllAgree) := by
  by_cases all : ∀ r ∈ reports, r.AllAgree
  · exact ⟨.pass, ⟨reports, h, iff_of_true rfl all⟩, iff_of_true rfl all⟩
  · exact ⟨.fail, ⟨reports, h, iff_of_false nofun all⟩, iff_of_false nofun all⟩

/-- Work that reports, once what it takes has been prepared. -/
theorem does_reporting {α β : Type} {command : Subcommand} {out : OutputOptions}
    {x : Work World β} {P : World → β → World → Prop} (hx : x.DoesCalmly P)
    (run : β → StateM World (Except Failure α × Option (Journal World)))
    (reports : α → List Report) (text : α → Option String) (status : α → RunStatus)
    (output : command.output = out.output)
    (comes : ∀ {w rs t log w'}, Reports host clock command w rs t log w' ↔
      ∃ b w₁ a, P w b w₁ ∧ (run b).run w₁ = ((.ok a, log), w') ∧ rs = reports a ∧ t = text a)
    (judged : ∀ {b w a log w'}, (run b).run w = ((.ok a, log), w') →
      (status a = .pass ↔ ∀ r ∈ reports a, r.AllAgree)) :
    (x >>= fun b => logged (run b) fun a => deliver host out (text a) (status a)).Does
      (Reported host clock command) (Jams host clock command) := by
  refine (hx.after fun b => does_logged fun a =>
    does_deliver host out (text a) (status a)).congr (fun w s w' => ?_) fun w => ?_
  · constructor
    · rintro ⟨b, w₁, prepared, a, log, w₂, w₃, ran, ⟨rfl, t, laid, written⟩, rfl⟩
      have reported := comes.mpr ⟨b, w₁, a, prepared, ran, rfl, laid.symm⟩
      exact ⟨_, ⟨t, log, w₂, w₃, reported, output ▸ written, rfl⟩, judged ran⟩
    · rintro ⟨_, ⟨t, log, w₂, w₃, reported, written, rfl⟩, told⟩
      obtain ⟨b, w₁, a, prepared, ran, rfl, laid⟩ := comes.mp reported
      have same := RunStatus.eq_of_iff (told.trans (judged ran).symm)
      exact ⟨b, w₁, prepared, a, log, w₂, w₃, ran, ⟨same, t, laid.symm, output ▸ written⟩, rfl⟩
  · constructor
    · rintro ⟨b, w₁, prepared, a, log, w₂, ran, panics⟩
      exact ⟨_, _, log, w₂, comes.mpr ⟨b, w₁, a, prepared, ran, rfl, rfl⟩, output ▸ panics⟩
    · rintro ⟨_, _, log, w₂, reported, panics⟩
      obtain ⟨b, w₁, a, prepared, ran, rfl, rfl⟩ := comes.mp reported
      exact ⟨b, w₁, prepared, a, log, w₂, ran, output ▸ panics⟩

def RunOptions.Prepares (o : RunOptions) (host : Host World) (clock : String) (w : World)
    (b : Trial World × List Case × Option (Journal World)) (w' : World) : Prop :=
  ∃ (m : Model) (reference subject : Command), m.Loads (host.files w) o.cases.config {} ∧
    (∀ n ∈ o.cases.sample, n ≤ ({} : Limits).maxCases) ∧
    (o.cases.generated m).length ≤ ({} : Limits).maxCases ∧
    Command.ofLine o.reference = .ok reference ∧ Command.ofLine o.subject = .ok subject ∧
    o.out.LevelKnown ∧ o.out.Opens host (o.out.newLog "run" clock) w b.2.2 w' ∧
    b.1 = o.trial host reference subject ∧ b.2.1 = o.cases.generated m

theorem does_prepareRun (host : Host World) (clock : String) (o : RunOptions) :
    (prepareRun host clock o).DoesCalmly (o.Prepares host clock) := by
  refine ((does_buildCases host o.cases).after fun cases => (does_check _).after fun reference =>
    (does_check _).after fun subject => (does_openLog host o.out "run" clock).after fun log =>
      Does.pure _).congr (fun w b w' => ?_) fun w => by simp
  constructor
  · rintro ⟨_, _, ⟨m, loads, samples, fits, rfl, rfl⟩, reference, _, ⟨first, rfl⟩, subject, _,
      ⟨second, rfl⟩, log, _, ⟨level, opened⟩, rfl, rfl⟩
    exact ⟨m, reference, subject, loads, samples, fits, first, second, level, opened, rfl, rfl⟩
  · obtain ⟨trial, cases, log⟩ := b
    rintro ⟨m, reference, subject, loads, samples, fits, first, second, level, opened, rfl, rfl⟩
    exact ⟨_, w, ⟨m, loads, samples, fits, rfl, rfl⟩, reference, w, ⟨first, rfl⟩, subject, w,
      ⟨second, rfl⟩, log, w', ⟨level, opened⟩, rfl, rfl⟩

theorem does_run (host : Host World) (clock : String) (o : RunOptions) :
    (carryOut host clock (.run o)).Does (Reported host clock (.run o))
      (Jams host clock (.run o)) := by
  refine does_reporting (does_prepareRun host clock o) (fun b => b.1.run b.2.1 b.2.2)
    (fun report => [report]) o.out.format.report Report.status rfl ?_ fun ran => ?_
  · intro w _ _ log' w'
    constructor
    · rintro (@⟨_, m, reference, subject, report, log, _, _, w₁, _, loads, samples, first, second,
        level, opened, within, ran, _⟩)
      exact ⟨⟨_, _, log⟩, w₁, report, ⟨m, reference, subject, loads, samples, within.cases_le,
        first, second, level, opened, rfl, rfl⟩, ran, rfl, rfl⟩
    · rintro ⟨⟨_, _, log⟩, w₁, report, ⟨m, reference, subject, loads, samples, -, first, second,
        level, opened, rfl, rfl⟩, ran, rfl, rfl⟩
      have ends := Trial.Ends.of_run ran
      exact .run loads samples first second level opened ends.within ran ends.covers
  · rw [List.forall_mem_singleton]
    exact (Trial.Ends.of_run ran).status

theorem does_suite (host : Host World) (clock : String) (o : SuiteOptions) :
    (carryOut host clock (.suite o)).Does (Reported host clock (.suite o))
      (Jams host clock (.suite o)) := by
  refine does_reporting (does_openLog host o.out "suite" clock)
    (Manifest.run host o.manifest { workers := o.workers }) (List.map (·.report))
    o.out.format.suites SuiteReport.overall rfl ?_ fun ran => ?_
  · intro w _ _ log' w'
    constructor
    · rintro (_ | @⟨_, m, reports, log, _, _, w₁, _, level, opened, read, ready, ran, _⟩)
      exact ⟨log, w₁, reports, ⟨level, opened⟩, ran, rfl, rfl⟩
    · rintro ⟨log, w₁, reports, ⟨level, opened⟩, ran, rfl, rfl⟩
      have ends := Manifest.Ends.of_run ran
      obtain ⟨m, read, ready⟩ := ends.ready
      obtain ⟨_, ⟨⟩, each⟩ := ends.reports read ready
      exact .suite level opened read ready ran (each.imp fun _ _ r => r.covered)
  · have ends := Manifest.Ends.of_run ran
    obtain ⟨m, read, ready⟩ := ends.ready
    obtain ⟨_, ⟨⟩, each⟩ := ends.reports read ready
    exact SuiteReport.overall_eq_pass_iff each

def Untold (host : Host World) (clock : String) (command : Subcommand) (w : World) : Prop :=
  ∃ e w₁ refused w₂, (carryOut host clock command).on w = (.error (.failure e), w₁) ∧
    (host.put .stderr (errorText e)).run w₁ = (.error refused, w₂)

/-- The program panics: over its output or over an error message. -/
def Panics (host : Host World) (clock : String) (command : Subcommand) (w : World) : Prop :=
  Jams host clock command w ∨ Untold host clock command w

variable {command : Subcommand} {w w' : World}

theorem execute_of_ok {status : RunStatus}
    (done : (carryOut host clock command).on w = (.ok status, w')) :
    (execute host clock command).run w = (exitCode status, w') := by
  rw [execute, StateT.run_bind, show StateT.run (carryOut host clock command).run w = _ from done]
  rfl

theorem execute_of_panic (done : (carryOut host clock command).on w = (.error .panic, w')) :
    (execute host clock command).run w = (panicCode, w') := by
  rw [execute, StateT.run_bind, show StateT.run (carryOut host clock command).run w = _ from done]
  rfl

theorem execute_of_failure {e : Failure}
    (done : (carryOut host clock command).on w = (.error (.failure e), w')) :
    ((execute host clock command).run w).1 =
      if ((host.put .stderr (errorText e)).run w').1 = .ok () then 2 else panicCode := by
  rw [execute, StateT.run_bind, show StateT.run (carryOut host clock command).run w = _ from done]
  show (((host.put .stderr (errorText e)) >>= _).run w').1 = _
  rw [StateT.run_bind]
  rcases (host.put .stderr (errorText e)).run w' with ⟨_ | _, _⟩ <;> rfl

theorem code_of_does {P : World → RunStatus → World → Prop}
    (h : (carryOut host clock command).Does P (Jams host clock command)) (w : World) :
    (∃ status, P w status ((execute host clock command).run w).2 ∧
        ((execute host clock command).run w).1 = exitCode status ∧
        (∀ other w', P w other w' →
          other = status ∧ w' = ((execute host clock command).run w).2) ∧
        ¬ Panics host clock command w) ∨
      (((execute host clock command).run w).1 = panicCode ∧ Panics host clock command w ∨
        ((execute host clock command).run w).1 = 2 ∧ ¬ Panics host clock command w) ∧
        ∀ status w', ¬ P w status w' := by
  have succeeds := h.succeeds w
  have jams := h.panics w
  rcases done : (carryOut host clock command).on w with ⟨(e | _) | status, w₁⟩ <;>
    rw [done] at succeeds jams
  · -- the failure is told or not
    have calm : ¬ Jams host clock command w := fun jammed => nomatch jams.mpr jammed
    refine .inr ⟨?_, fun status w' holds => nomatch (succeeds status w').mpr holds⟩
    rw [execute_of_failure done]
    rcases told : (host.put .stderr (errorText e)).run w₁ with ⟨refused | _, w₂⟩
    · exact .inl ⟨if_neg nofun, .inr ⟨e, w₁, refused, w₂, done, told⟩⟩
    · refine .inr ⟨if_pos rfl, ?_⟩
      rintro (jammed | ⟨_, _, _, _, stopped, refused⟩)
      · exact calm jammed
      · obtain ⟨⟨⟩⟩ := done.symm.trans stopped
        nomatch told.symm.trans refused
  · rw [execute_of_panic done]
    exact .inr ⟨.inl ⟨rfl, .inl (jams.mp ⟨w₁, rfl⟩)⟩,
      fun status w' holds => nomatch (succeeds status w').mpr holds⟩
  · rw [execute_of_ok done]
    refine .inl ⟨status, (succeeds status w₁).mp rfl, rfl, fun other w' holds => ?_, ?_⟩
    · obtain ⟨⟨⟩⟩ := (succeeds other w').mpr holds
      exact ⟨rfl, rfl⟩
    · rintro (jammed | ⟨_, _, _, _, stopped, _⟩)
      · nomatch jams.mpr jammed
      · nomatch done.symm.trans stopped

theorem exitCode_eq_zero_iff {s : RunStatus} : exitCode s = 0 ↔ s = .pass := by
  cases s <;> decide

theorem exitCode_eq_one_iff {s : RunStatus} : exitCode s = 1 ↔ s ≠ .pass := by
  cases s <;> decide

theorem exitCode_lt_two (s : RunStatus) : exitCode s < 2 := by
  cases s <;> decide

/-- What the exit code of a command tells: 0 and 1 that it has come to reports and
has got rid of them, and whether every verdict in them is a match; and 2, as long
as the program does not panic, that it has not. -/
structure CodeTells (host : Host World) (clock : String) (command : Subcommand) (w : World) :
    Prop where
  pass : ((execute host clock command).run w).1 = 0 ↔ ∃ reports,
    Completes host clock command w reports ((execute host clock command).run w).2 ∧
      ∀ r ∈ reports, ∀ x ∈ r.comparisons, x.verdict = .agree
  fail : ((execute host clock command).run w).1 = 1 ↔ ∃ reports,
    Completes host clock command w reports ((execute host clock command).run w).2 ∧
      ∃ r ∈ reports, ∃ x ∈ r.comparisons, x.verdict ≠ .agree
  error : ¬ Panics host clock command w → (((execute host clock command).run w).1 = 2 ↔
    ∀ reports w', ¬ Completes host clock command w reports w')
  world : ∀ reports w', Completes host clock command w reports w' →
    w' = ((execute host clock command).run w).2

theorem exists_disagreement {reports : List Report} :
    (¬ ∀ r ∈ reports, r.AllAgree) ↔ ∃ r ∈ reports, ∃ x ∈ r.comparisons, x.verdict ≠ .agree := by
  simp only [Report.AllAgree]
  push Not
  rfl

theorem codeTells_of_does (h : (carryOut host clock command).Does
    (Reported host clock command) (Jams host clock command)) (w : World) :
    CodeTells host clock command w := by
  rcases code_of_does h w with
    ⟨status, ⟨reports, completes, judged⟩, code, unique, -⟩ | ⟨codes, none⟩
  · have same {others : List Report} {w' : World}
        (h : Completes host clock command w others w') :
        (status = .pass ↔ ∀ r ∈ others, r.AllAgree) ∧
          w' = ((execute host clock command).run w).2 := by
      obtain ⟨other, reported, told⟩ := h.exists_reported
      obtain ⟨rfl, world⟩ := unique other w' reported
      exact ⟨told, world⟩
    refine ⟨?_, ?_, fun _ => ?_, fun _ _ h => (same h).2⟩
    · rw [code, exitCode_eq_zero_iff]
      exact ⟨fun pass => ⟨reports, completes, judged.mp pass⟩,
        fun ⟨_, h, all⟩ => (same h).1.mpr all⟩
    · rw [code, exitCode_eq_one_iff]
      constructor
      · intro fail
        exact ⟨reports, completes, exists_disagreement.mp (judged.not.mp fail)⟩
      · rintro ⟨_, h, some⟩
        exact (same h).1.not.mpr (exists_disagreement.mpr some)
    · rw [code]
      exact iff_of_false (Nat.ne_of_lt (exitCode_lt_two status)) fun never => never _ _ completes
  · have never (reports : List Report) (w' : World) :
        ¬ Completes host clock command w reports w' := by
      intro completes
      obtain ⟨status, reported, -⟩ := completes.exists_reported
      exact none status w' reported
    refine ⟨iff_of_false ?_ fun ⟨_, completes, _⟩ => never _ _ completes,
      iff_of_false ?_ fun ⟨_, completes, _⟩ => never _ _ completes,
      fun calm => iff_of_true ?_ never, fun _ _ completes => absurd completes (never _ _)⟩
    · rcases codes with ⟨code, -⟩ | ⟨code, -⟩ <;> rw [code] <;> decide
    · rcases codes with ⟨code, -⟩ | ⟨code, -⟩ <;> rw [code] <;> decide
    · exact (codes.resolve_left fun ⟨_, panics⟩ => calm panics).1

theorem code_eq_panicCode_iff (h : (carryOut host clock command).Does
    (Reported host clock command) (Jams host clock command)) (w : World) :
    ((execute host clock command).run w).1 = panicCode ↔ Panics host clock command w := by
  rcases code_of_does h w with
    ⟨status, -, code, -, calm⟩ | ⟨⟨code, panics⟩ | ⟨code, calm⟩, -⟩ <;> rw [code]
  · refine iff_of_false (Nat.ne_of_lt ((exitCode_lt_two status).trans ?_)) calm
    decide
  · exact iff_of_true rfl panics
  · exact iff_of_false (by decide) calm

/-- A panic, and nothing else, has a code of its own. -/
theorem execute_eq_panicCode_iff (host : Host World) (clock : String) (w : World) :
    (∀ o, ((execute host clock (.run o)).run w).1 = panicCode ↔ Panics host clock (.run o) w) ∧
      ∀ o, ((execute host clock (.suite o)).run w).1 = panicCode ↔
        Panics host clock (.suite o) w :=
  ⟨fun o => code_eq_panicCode_iff (does_run host clock o) w,
    fun o => code_eq_panicCode_iff (does_suite host clock o) w⟩

/-- On every host and in every world the exit code of a run, and that of the
suites of a manifest, tells what came of it. -/
theorem execute_codeTells (host : Host World) (clock : String) (w : World) :
    (∀ o, CodeTells host clock (.run o) w) ∧ ∀ o, CodeTells host clock (.suite o) w :=
  ⟨fun o => codeTells_of_does (does_run host clock o) w,
    fun o => codeTells_of_does (does_suite host clock o) w⟩

namespace Bench

open PartitionTest.Bench

def fullDevice : Descriptor := 3

def full : Host (List FileError) where
  files _ := files
  create path := return .ok (if path = "/dev/full" then fullDevice else 4)
  put d text :=
    if d = fullDevice ∧ text ≠ "" then do
      modify (.noSpace :: ·)
      return .error .noSpace
    else return .ok ()
  execute _ _ := return .ended (.code 0) (some []) (some [])

def logging : RunOptions where
  cases := ⟨"switch.json", none, 0⟩
  reference := "true"
  subject := "true"
  timeoutMs := 1000
  workers := 1
  input := .stdin
  normalization := .exact
  out := ⟨.table, none, some "/dev/full", none⟩

def trial : Trial (List FileError) :=
  logging.trial full (.ofWords "true" []) (.ofWords "true" [])

theorem execute_true (c : Case) (timeout : Duration) (errors : List FileError) :
    ((full.implementation (.ofWords "true" [])).execute c timeout).run errors =
      (.completed "" (some 0) ⟨0⟩, errors) := by
  have clean : ((Command.ofWords "true" []).launch c).hasZero = false := by
    simp [Launch.hasZero, Command.launch, Command.ofWords]
  simp only [Host.implementation, clean]
  rfl

theorem agree_of_compares {x : Comparison} (h : trial.Compares x) : x.verdict = .agree := by
  obtain ⟨_, reference⟩ := h.reference
  obtain ⟨_, subject⟩ := h.subject
  have first : x.reference = _ := reference.trans (congrArg Prod.fst (execute_true ..))
  have second : x.subject = _ := subject.trans (congrArg Prod.fst (execute_true ..))
  rw [h.verdict, first, second]
  rfl

abbrev blocks : Channel (List FileError) := full.blocks fullDevice

theorem put_blocks {text : String} (something : text ≠ "") (errors : List FileError) :
    (blocks.put text).run errors = (.error .noSpace, .noSpace :: errors) := by
  show StateT.run (if fullDevice = fullDevice ∧ text ≠ "" then _ else _) errors = _
  rw [if_pos ⟨rfl, something⟩]
  rfl

theorem put_stdout (text : String) (errors : List FileError) :
    (full.put .stdout text).run errors = (.ok (), errors) := by
  have elsewhere : ¬ (Descriptor.stdout = fullDevice ∧ text ≠ "") :=
    fun h => absurd h.1 (by decide)
  dsimp only [full]
  rw [if_neg elsewhere]
  rfl

theorem run_drain (held : String) (errors : List FileError) :
    (blocks.drain held).run errors =
      if held = "" then ((true, held), errors) else ((false, held), .noSpace :: errors) := by
  unfold Channel.drain
  by_cases nothing : held = ""
  · rw [if_pos nothing, if_pos (String.isEmpty_iff.mpr nothing)]
    rfl
  · rw [if_neg nothing, if_neg (mt String.isEmpty_iff.mp nothing), StateT.run_bind,
      put_blocks nothing]
    rfl

theorem run_makeRoom (held : String) (size : Nat) (errors : List FileError) :
    (blocks.makeRoom held size).run errors = ((true, held), errors) ∨
      (blocks.makeRoom held size).run errors = ((false, held), .noSpace :: errors) := by
  unfold Channel.makeRoom
  split
  · exact .inl rfl
  · rw [run_drain]
    split
    · exact .inl rfl
    · exact .inr rfl

/-- Whatever is taken is held back, and what is not taken is lost. -/
theorem run_write (held piece : String) (errors : List FileError) :
    (∃ kept, (blocks.write held piece).run errors = ((true, kept), errors) ∧
      (piece ≠ "" → kept ≠ "")) ∨
      ∃ kept, (blocks.write held piece).run errors = ((false, kept), .noSpace :: errors) := by
  rw [Channel.write, StateT.run_bind]
  rcases run_makeRoom held piece.utf8ByteSize errors with clear | full
  · rw [clear]
    by_cases small : piece.utf8ByteSize < blocks.room
    · refine .inl ⟨held ++ piece, ?_, fun something nothing => something ?_⟩
      · show StateT.run (if piece.utf8ByteSize < blocks.room then _ else _) errors = _
        rw [if_pos small]
        rfl
      · exact (String.append_eq_empty_iff.mp nothing).2
    · have something : piece ≠ "" := by
        rintro rfl
        exact small (by decide)
      refine .inr ⟨held, ?_⟩
      show StateT.run (if piece.utf8ByteSize < blocks.room then _ else _) errors = _
      rw [if_neg small, StateT.run_bind, put_blocks something]
      rfl
  · rw [full]
    exact .inr ⟨held, rfl⟩

theorem run_writeLine (held line : String) (errors : List FileError) :
    (∃ kept, (blocks.writeLine held line).run errors = (kept, errors) ∧ kept ≠ "") ∨
      ∃ kept, (blocks.writeLine held line).run errors = (kept, .noSpace :: errors) := by
  rcases run_write held line errors with ⟨kept, taken, -⟩ | ⟨kept, lost⟩
  · have both : (blocks.writeLine held line).run errors =
        (((blocks.write kept "\n").run errors).1.2, ((blocks.write kept "\n").run errors).2) := by
      rw [Channel.writeLine, StateT.run_bind, taken]
      rfl
    rw [both]
    rcases run_write kept "\n" errors with ⟨kept', taken', held⟩ | ⟨kept', lost⟩
    · rw [taken']
      exact .inl ⟨kept', rfl, held (by decide)⟩
    · rw [lost]
      exact .inr ⟨kept', rfl⟩
  · rw [Channel.writeLine, StateT.run_bind, lost]
    exact .inr ⟨kept, rfl⟩

theorem exists_complete {j : Journal (List FileError)} (channel : j.channel = blocks)
    (level : j.log.minLevel = .info) (r : Report) (errors : List FileError) :
    ∃ j' errors', (Trial.complete (some j) r).run errors = (some j', errors') ∧
      j'.channel = blocks ∧ .noSpace ∈ errors' := by
  let e : LogEntry := { Trial.completeEntry r with timestamp := j.log.clock }
  have admits : j.log.enabled e.level = true := by
    rw [Log.enabled, level]
    rfl
  rcases put : (blocks.writeLine j.held ((j.log.emit e).written.headD "")).run errors with
    ⟨kept, errors₁⟩
  have noted : (j.note (Trial.completeEntry r)).run errors = _ :=
    Journal.run_emit admits (channel ▸ put)
  refine ⟨_, _, Trial.run_complete noted, channel, ?_⟩
  show .noSpace ∈ ((j.channel.drain kept).run errors₁).2
  rw [channel, run_drain]
  rcases run_writeLine j.held ((j.log.emit e).written.headD "") errors with
    ⟨_, held, something⟩ | ⟨_, lost⟩
  · obtain ⟨rfl, rfl⟩ := Prod.mk.inj (put.symm.trans held)
    rw [if_neg something]
    exact List.mem_cons_self
  · obtain ⟨rfl, rfl⟩ := Prod.mk.inj (put.symm.trans lost)
    split
    · exact List.mem_cons_self
    · exact List.mem_cons_of_mem _ List.mem_cons_self

theorem mem_closeLog {j : Journal (List FileError)} (channel : j.channel = blocks)
    {errors : List FileError} (lost : .noSpace ∈ errors) :
    .noSpace ∈ ((closeLog (some j)).run errors).2 := by
  show .noSpace ∈ ((j.channel.drain j.held).run errors).2
  rw [channel, run_drain]
  split
  · exact lost
  · exact List.mem_cons_self

theorem mem_of_ends {j : Journal (List FileError)} (channel : j.channel = blocks)
    (level : j.log.minLevel = .info) {cases : List Case} {log' : Option (Journal (List FileError))}
    {report : Report} {errors errors' : List FileError}
    (h : trial.Ends cases (some j) errors (.ok report) log' errors') :
    .noSpace ∈ ((closeLog log').run errors').2 := by
  cases h with
  | finished _ started steps done _ ended =>
    obtain ⟨-, -, last, _, _, here, same, -, told, -⟩ := steps.events started done
    rw [here] at ended
    obtain ⟨j', _, closed, same', lost⟩ :=
      exists_complete (same.trans channel) (told.minLevel.trans level) _ _
    obtain ⟨rfl, rfl⟩ := Prod.mk.inj (closed.symm.trans ended)
    exact mem_closeLog same' lost

theorem exists_completes :
    ∃ report errors, Completes full "" (.run logging) [] [report] errors ∧
      report.AllAgree ∧ .noSpace ∈ errors := by
  have within : trial.WithinLimits (logging.cases.generated model.validate.2) :=
    ⟨by decide, by decide, by decide, by decide, Nat.le_trans length_cases (by decide)⟩
  let new : Journal (List FileError) := ⟨logging.out.newLog "run" "", blocks, ""⟩
  rcases ran : (trial.run (logging.cases.generated model.validate.2) (some new)).run [] with
    ⟨⟨result, log'⟩, errors⟩
  have ends := Trial.Ends.of_run ran
  have opened : logging.out.Opens full (logging.out.newLog "run" "") [] (some new) [] :=
    ⟨fullDevice, rfl, rfl⟩
  cases result with
  | error e =>
    cases ends with
    | refused limit =>
      exact absurd (limit.symm.trans (Trial.checkLimits_eq_ok_iff.mpr within)) nofun
  | ok report =>
    have agree : report.AllAgree := fun x hx => agree_of_compares (ends.covers.compares x hx)
    have reported : Reports full "" (.run logging) [] [report] report.table log' errors :=
      .run loads nofun rfl rfl nofun opened within ran ends.covers
    rw [Report.table_eq_some_iff.mpr
      ⟨Report.fits_of_match (Report.failures_eq_nil_iff.mpr agree), rfl⟩] at reported
    exact ⟨report, _, ⟨_, log', errors, errors, reported, put_stdout _ errors, rfl⟩, agree,
      mem_of_ends rfl rfl ends⟩

/-- The log cannot be written, and the code is 0 all the same. -/
theorem execute_full :
    ((execute full "" (.run logging)).run []).1 = 0 ∧
      .noSpace ∈ ((execute full "" (.run logging)).run []).2 := by
  obtain ⟨report, errors, completes, agree, lost⟩ := exists_completes
  have tells := codeTells_of_does (does_run full "" logging) []
  have world := tells.world _ _ completes
  rw [world] at completes lost
  exact ⟨tells.pass.mpr ⟨_, completes, List.forall_mem_singleton.mpr agree⟩, lost⟩

end Bench

end CommandLine

end PartitionTest
