import PartitionTest.Proofs.Log
import PartitionTest.Proofs.Run.Ends

/-! What a run tells its log. The workers write as they go, when there is no
report yet. In the end the log tells the same as the report. -/
namespace PartitionTest

open Json (Value maxDepth)

inductive Event where
  | started (header : RunHeader) (cases : Nat)
  | compared (x : Comparison)
  | completed (r : Report)

namespace Event

def level : Event → LogLevel
  | .compared x => if x.verdict = .agree then .debug else .warn
  | .started .. | .completed _ => .info

def isComparison : Event → Bool
  | .compared _ => true
  | .started .. | .completed _ => false

/-- The entry of an event, with any time and any trace. How long a run took is
open as well. -/
inductive ShownBy : Event → LogEntry → Prop where
  | started {header : RunHeader} {cases : Nat} {timestamp trace : String} :
    ShownBy (.started header cases) {
      timestamp := timestamp, trace := trace, level := .info, event := "run_start"
      details := some (.object [
        ("reference", .string header.reference), ("subject", .string header.subject),
        ("cases", .nat cases), ("workers", .nat header.workers),
        ("timeout_ms", .nat header.timeoutMs),
        ("normalization", .string header.normalization)]) }
  | matched {x : Comparison} {timestamp trace : String} (agree : x.verdict = .agree) :
    ShownBy (.compared x) {
      timestamp := timestamp, trace := trace, level := .debug, event := "case_verdict"
      caseId := some x.case.id, inputs := some x.case.label, verdict := some "MATCH"
      durationMs := some (x.reference.durationMs + x.subject.durationMs) }
  | mismatched {x : Comparison} {timestamp trace reason : String} (differ : x.verdict = .differ)
    (why : x.reason = some reason) :
    ShownBy (.compared x) {
      timestamp := timestamp, trace := trace, level := .warn, event := "case_mismatch"
      caseId := some x.case.id, inputs := some x.case.label, verdict := some "MISMATCH"
      durationMs := some (x.reference.durationMs + x.subject.durationMs)
      details := some (.object [("reason", .string reason)]) }
  | errored {x : Comparison} {side : Side} {timestamp trace reason : String}
    (error : x.verdict = .error side) (why : x.reason = some reason) :
    ShownBy (.compared x) {
      timestamp := timestamp, trace := trace, level := .warn, event := "case_error"
      caseId := some x.case.id, inputs := some x.case.label, verdict := some "ERROR"
      durationMs := some (x.reference.durationMs + x.subject.durationMs)
      details := some (.object [("reason", .string reason)]) }
  | completed {r : Report} {timestamp trace : String} {ms : Nat} (small : ms < UInt64.size) :
    ShownBy (.completed r) {
      timestamp := timestamp, trace := trace, level := .info, event := "run_complete"
      verdict := some r.status.label, durationMs := some ms
      details := some (.object [("total", .nat r.total), ("matched", .nat r.matched),
        ("mismatched", .nat r.mismatched), ("errored", .nat r.errored)]) }

def Narrow : Event → Prop
  | .started header cases =>
    cases < UInt64.size ∧ header.workers < UInt64.size ∧ header.timeoutMs < UInt64.size
  | .compared x => x.case.id < UInt64.size ∧
    x.reference.durationMs + x.subject.durationMs < UInt64.size
  | .completed r => r.total < UInt64.size ∧ r.matched < UInt64.size ∧
    r.mismatched < UInt64.size ∧ r.errored < UInt64.size

namespace ShownBy

variable {v : Event} {e : LogEntry}

theorem level_eq (h : v.ShownBy e) : e.level = v.level := by
  cases h <;> simp_all [Event.level]

theorem isSome_caseId (h : v.ShownBy e) : e.caseId.isSome = v.isComparison := by
  cases h <;> rfl

theorem stamp (h : v.ShownBy e) (timestamp trace : String) :
    v.ShownBy { e with timestamp := timestamp, trace := trace } := by
  cases h with
  | started => exact .started
  | matched agree => exact .matched agree
  | mismatched differ why => exact .mismatched differ why
  | errored error why => exact .errored error why
  | completed small => exact .completed small

theorem whole (h : v.ShownBy e) (narrow : v.Narrow) : e.Whole := by
  have number {n : Nat} (small : n < UInt64.size) : (Value.nat n).Fits (maxDepth - 2) :=
    .int (Int.le_trans (by decide) (Int.natCast_nonneg n)) (Int.ofNat_lt.mpr small)
  have string (s : String) : (Value.string s).Fits (maxDepth - 2) := .string s
  have details {ms : List (String × Value)} (each : ∀ m ∈ ms, m.2.Fits (maxDepth - 2)) :
      ∀ w, some (Value.object ms) = some w → (Value.object [("details", w)]).Fits maxDepth := by
    rintro _ ⟨⟩
    exact .object (List.forall_mem_singleton.mpr (.object each))
  have only {m n : Nat} (small : n < UInt64.size) : some n = some m → m < UInt64.size := by
    rintro ⟨⟩
    exact small
  cases h with
  | started =>
    obtain ⟨cases, workers, timeoutMs⟩ := narrow
    refine ⟨nofun, nofun, details ?_⟩
    simp [string, number, cases, workers, timeoutMs]
  | matched => exact ⟨fun _ => only narrow.1, fun _ => only narrow.2, nofun⟩
  | mismatched | errored =>
    refine ⟨fun _ => only narrow.1, fun _ => only narrow.2, details ?_⟩
    simp [string]
  | completed small =>
    obtain ⟨total, matched, mismatched, errored⟩ := narrow
    refine ⟨nofun, fun _ => only small, details ?_⟩
    simp [number, total, matched, mismatched, errored]

end ShownBy

theorem shownBy_startEntry {World : Type} (t : Trial World) (cases : Nat) :
    (started t.header cases).ShownBy (t.startEntry cases) := .started

theorem exists_reason {x : Comparison} (failed : x.verdict ≠ .agree) :
    ∃ reason, x.reason = some reason := by
  unfold Comparison.reason
  cases v : x.verdict with
  | agree => contradiction
  | differ =>
    dsimp only
    split <;> exact ⟨_, rfl⟩
  | error side => cases side <;> exact ⟨_, rfl⟩

theorem shownBy_caseEntry (x : Comparison) : (compared x).ShownBy (Trial.caseEntry x) := by
  cases v : x.verdict with
  | agree =>
    have none : x.reason = none := by rw [Comparison.reason, v]
    simp only [Trial.caseEntry, v, none, Verdict.label]
    exact .matched v
  | differ =>
    obtain ⟨reason, why⟩ := exists_reason (x := x) (by rw [v]; decide)
    simp only [Trial.caseEntry, v, why, Verdict.label]
    exact .mismatched v why
  | error side =>
    obtain ⟨reason, why⟩ := exists_reason (x := x) (by rw [v]; nofun)
    simp only [Trial.caseEntry, v, why, Verdict.label]
    exact .errored v why

theorem shownBy_completeEntry (r : Report) : (completed r).ShownBy (Trial.completeEntry r) :=
  .completed (by decide)

end Event

namespace Worker

def case? : Worker → Option Case
  | .idle => none
  | .started c | .answered c _ => some c
  | .compared x | .noted x => some x.case

def noted? : Worker → Option Comparison
  | .noted x => some x
  | _ => none

end Worker

namespace Pool

variable {World : Type}

def cases (p : Pool World) : List Case :=
  p.pending ++ p.workers.filterMap Worker.case? ++ p.sent.map (·.case)

def noted (p : Pool World) : List Comparison :=
  p.workers.filterMap Worker.noted? ++ p.sent

theorem cases_start (workers : Nat) (cases : List Case) (log : Option (Journal World)) (w : World) :
    (start workers cases log w).cases = cases := by
  simp [Pool.cases, start, Worker.case?]

theorem noted_start (workers : Nat) (cases : List Case) (log : Option (Journal World)) (w : World) :
    (start workers cases log w).noted = [] := by
  simp [noted, start, Worker.noted?]

variable {p : Pool World}

theorem Finished.filterMap_workers {α : Type} (h : p.Finished) {f : Worker → Option α}
    (quiet : f .idle = none) : p.workers.filterMap f = [] := by
  rw [List.filterMap_eq_nil_iff]
  intro k hk
  rw [h.2 k hk, quiet]

theorem Finished.cases (h : p.Finished) : p.cases = p.sent.map (·.case) := by
  rw [Pool.cases, h.1, h.filterMap_workers rfl]
  rfl

theorem Finished.noted (h : p.Finished) : p.noted = p.sent := by
  rw [Pool.noted, h.filterMap_workers rfl]
  rfl

end Pool

namespace Trial

variable {World : Type} {t : Trial World} {p q : Pool World}

structure Compares (t : Trial World) (x : Comparison) : Prop where
  reference : ∃ w, x.reference = ((t.reference.execute x.case t.config.timeout).run w).1
  subject : ∃ w, x.subject = ((t.subject.execute x.case t.config.timeout).run w).1
  verdict : x.verdict = Verdict.classify x.reference x.subject t.config.normalization

def Asked (t : Trial World) : Worker → Prop
  | .idle | .started _ => True
  | .answered c o => ∃ w, o = ((t.reference.execute c t.config.timeout).run w).1
  | .compared x | .noted x => t.Compares x

/-- All answers and comparisons there are were asked for. -/
structure Genuine (t : Trial World) (p : Pool World) : Prop where
  workers : ∀ k ∈ p.workers, t.Asked k
  sent : ∀ x ∈ p.sent, t.Compares x

theorem genuine_start (t : Trial World) (workers : Nat) (cases : List Case)
    (log : Option (Journal World)) (w : World) : t.Genuine (.start workers cases log w) where
  workers k hk := by
    change k ∈ List.replicate workers .idle at hk
    rw [List.eq_of_mem_replicate hk]
    trivial
  sent x hx := absurd hx List.not_mem_nil

theorem forall_mem_replace {P : Worker → Prop} {before after : List Worker} {k k' : Worker}
    (h : ∀ x ∈ before ++ k :: after, P x) (step : P k → P k') :
    ∀ x ∈ before ++ k' :: after, P x := by
  obtain ⟨early, rest⟩ := List.forall_mem_append.mp h
  obtain ⟨here, late⟩ := List.forall_mem_cons.mp rest
  exact List.forall_mem_append.mpr ⟨early, List.forall_mem_cons.mpr ⟨step here, late⟩⟩

theorem Step.genuine (h : t.Step p q) (genuine : t.Genuine p) : t.Genuine q := by
  obtain ⟨workers, sent⟩ := genuine
  cases h with
  | take => exact ⟨forall_mem_replace workers fun _ => trivial, sent⟩
  | @reference _ c o _ _ _ _ w _ answer =>
    exact ⟨forall_mem_replace workers fun _ => ⟨w, by rw [answer]⟩, sent⟩
  | @subject _ c r o _ _ _ _ w _ answer =>
    refine ⟨forall_mem_replace workers ?_, sent⟩
    rintro ⟨w₀, asked⟩
    exact ⟨⟨w₀, asked⟩, ⟨w, by rw [answer]⟩, rfl⟩
  | note => exact ⟨forall_mem_replace workers id, sent⟩
  | @send _ x before after =>
    have held : t.Asked (.noted x) :=
      workers _ (List.mem_append_right before List.mem_cons_self)
    exact ⟨forall_mem_replace workers fun _ => trivial,
      List.forall_mem_append.mpr ⟨sent, List.forall_mem_singleton.mpr held⟩⟩

/-- No case is lost or taken twice. -/
theorem Step.cases_perm (h : t.Step p q) : q.cases.Perm p.cases := by
  rw [List.perm_iff_count]
  intro c
  cases h <;>
    simp [Pool.cases, Worker.case?, List.filterMap_cons, List.count_append, List.count_cons] <;>
      omega

theorem exists_of_note {j : Journal World} {log' : Option (Journal World)} {e : LogEntry}
    {w w' : World} (told : (note (some j) e).run w = (log', w')) :
    ∃ j', log' = some j' ∧ j'.log = j.log.note e ∧ j'.channel = j.channel ∧
      ∀ contents, j.channel.Adds contents → j.Advances contents w j' w' := by
  obtain ⟨rfl, rfl⟩ := Prod.mk.inj told
  exact ⟨_, rfl, j.log_emit .., j.channel_emit .., fun _ adds => j.advances_emit adds ..⟩

theorem run_complete {j j₁ : Journal World} {r : Report} {w w₁ : World}
    (noted : (j.note (completeEntry r)).run w = (j₁, w₁)) :
    (complete (some j) r).run w = (some (j₁.flush.run w₁).1, (j₁.flush.run w₁).2) := by
  show ((some <$> j.note (completeEntry r)) >>= _).run w = _
  rw [StateT.run_bind, StateT.run_map, noted]
  rfl

theorem exists_of_complete {j : Journal World} {log' : Option (Journal World)} {r : Report}
    {w w' : World} (told : (complete (some j) r).run w = (log', w')) :
    ∃ j', log' = some j' ∧ j'.log = j.log.note (completeEntry r) ∧
      ∀ contents, j.channel.Adds contents → j.Advances contents w j' w' ∧ j'.held = "" := by
  rcases ended : (j.note (completeEntry r)).run w with ⟨j₁, w₁⟩
  obtain ⟨rfl, rfl⟩ := Prod.mk.inj ((run_complete ended).symm.trans told)
  refine ⟨_, rfl, (congrArg (·.1.log) ended).symm.trans (j.log_emit ..), fun contents adds => ?_⟩
  have noted := j.advances_emit adds { completeEntry r with timestamp := j.log.clock } w
  rw [show (j.emit _).run w = _ from ended] at noted
  obtain ⟨flushed, -, none⟩ := j₁.advances_flush (noted.channel ▸ adds) w₁
  exact ⟨noted.trans flushed, none⟩

/-- A step tells the log of one comparison or leaves it. -/
theorem Step.noted (h : t.Step p q) :
    q.log = p.log ∧ q.noted.Perm p.noted ∨
      ∃ x, (Trial.note p.log (caseEntry x)).run p.world = (q.log, q.world) ∧
        q.noted.Perm (p.noted ++ [x]) := by
  cases h with
  | take | reference | subject =>
    exact .inl ⟨rfl, .of_eq (by simp [Pool.noted, Worker.noted?, List.filterMap_cons])⟩
  | send =>
    refine .inl ⟨rfl, List.perm_iff_count.mpr fun y => ?_⟩
    simp [Pool.noted, Worker.noted?, List.filterMap_cons, List.count_append, List.count_cons]
    omega
  | @note _ x _ _ _ _ _ _ _ told =>
    refine .inr ⟨x, told, List.perm_iff_count.mpr fun y => ?_⟩
    simp [Pool.noted, Worker.noted?, List.filterMap_cons, List.count_append, List.count_cons]
    omega

/-- A journal that started as `new` shows the first event and then the comparisons
that it was told of, in some order. -/
def Tells (new : Journal World) (first : Event) (p : Pool World) : Prop :=
  ∃ (j : Journal World) (xs : List Comparison) (es : List LogEntry), p.log = some j ∧
    j.channel = new.channel ∧ xs.Perm p.noted ∧ new.log.Extends es j.log ∧
      List.Forall₂ Event.ShownBy (first :: xs.map .compared) es

theorem Step.tells {new : Journal World} {first : Event} (h : t.Step p q)
    (tells : Tells new first p) : Tells new first q := by
  obtain ⟨j, xs, es, here, channel, perm, told, shown⟩ := tells
  rcases h.noted with ⟨same, noted⟩ | ⟨x, noting, noted⟩
  · exact ⟨j, xs, es, same.trans here, channel, perm.trans noted.symm, told, shown⟩
  · have entry := (Event.shownBy_caseEntry x).stamp new.log.clock (caseEntry x).trace
    rw [here] at noting
    obtain ⟨j', now, logged, kept, -⟩ := exists_of_note noting
    refine ⟨j', xs ++ [x], es ++ [_], now, kept.trans channel,
      (perm.append_right [x]).trans noted.symm, logged ▸ told.note _, ?_⟩
    rw [List.map_append, ← List.cons_append]
    exact List.rel_append shown (.cons entry .nil)

theorem Steps.cases_perm (h : t.Steps p q) : q.cases.Perm p.cases := by
  induction h with
  | refl => exact .refl _
  | tail _ step ih => exact step.cases_perm.trans ih

theorem Steps.genuine (h : t.Steps p q) (genuine : t.Genuine p) : t.Genuine q := by
  induction h with
  | refl => exact genuine
  | tail _ step ih => exact step.genuine ih

theorem Steps.tells {new : Journal World} {first : Event} (h : t.Steps p q)
    (tells : Tells new first p) : Tells new first q := by
  induction h with
  | refl => exact tells
  | tail _ step ih => exact step.tells ih

structure Narrow (t : Trial World) (cases : List Case) : Prop where
  maxWorkers : t.config.limits.maxWorkers < UInt64.size
  maxTimeoutMs : t.config.limits.maxTimeoutMs < UInt64.size
  maxCases : t.config.limits.maxCases < UInt64.size
  ids : ∀ c ∈ cases, c.id < UInt64.size
  durations : ∀ c ∈ cases, ∀ w w', ((t.reference.execute c t.config.timeout).run w).1.durationMs +
    ((t.subject.execute c t.config.timeout).run w').1.durationMs < UInt64.size

variable {cases : List Case}

/-- When the workers are done, the log shows each comparison sent, and each of a
case of its own. -/
theorem Steps.events {t : Trial World} {j : Journal World} {log₁ : Option (Journal World)}
    {w w₁ : World} {p : Pool World}
    (started : (Trial.note (some j) (t.startEntry cases.length)).run w = (log₁, w₁))
    (h : t.Steps (.start t.config.workers cases log₁ w₁) p) (done : p.Finished) :
    (p.sent.map (·.case)).Perm cases ∧ (∀ x ∈ p.sent, t.Compares x) ∧
      Tells j (.started t.header cases.length) p := by
  refine ⟨?_, (h.genuine (t.genuine_start ..)).sent, h.tells ?_⟩
  · rw [← done.cases]
    simpa [Pool.cases_start] using h.cases_perm
  · have entry := (Event.shownBy_startEntry t cases.length).stamp j.log.clock ""
    obtain ⟨j₁, now, logged, kept, -⟩ := exists_of_note started
    refine ⟨j₁, [], _, now, kept, ?_, logged ▸ (j.log.extends_foldl_emit []).note (t.startEntry _),
      .cons entry .nil⟩
    rw [Pool.noted_start]

theorem narrow_of_compares {x : Comparison} (narrow : t.Narrow cases) (known : x.case ∈ cases)
    (h : t.Compares x) : (Event.compared x).Narrow := by
  obtain ⟨w, reference⟩ := h.reference
  obtain ⟨w', subject⟩ := h.subject
  refine ⟨narrow.ids _ known, ?_⟩
  rw [reference, subject]
  exact narrow.durations _ known w w'

theorem narrow_completed (header : RunHeader) {xs : List Comparison}
    (small : xs.length < UInt64.size) : (Event.completed (Report.of header xs)).Narrow := by
  have parts := Report.length_eq_countP_verdict xs
  rw [Event.Narrow, Report.total_of, Report.matched_of, Report.mismatched_of, Report.errored_of]
  omega

theorem narrow_started (within : t.WithinLimits cases) (narrow : t.Narrow cases) :
    (Event.started t.header cases.length).Narrow :=
  ⟨Nat.lt_of_le_of_lt within.cases_le narrow.maxCases,
    Nat.lt_of_le_of_lt within.workers_le narrow.maxWorkers,
    Nat.lt_of_le_of_lt within.timeout_le narrow.maxTimeoutMs⟩

end Trial

theorem forall₂_comp {α β γ : Type} {R : α → β → Prop} {S : β → γ → Prop} {T : α → γ → Prop}
    {as : List α} {bs : List β} {cs : List γ} (h : List.Forall₂ R as bs)
    (h' : List.Forall₂ S bs cs) (comp : ∀ a b c, R a b → S b c → T a c) :
    List.Forall₂ T as cs := by
  induction h generalizing cs with
  | nil =>
    cases h'
    exact .nil
  | cons first _ ih =>
    cases h' with
    | cons second others => exact .cons (comp _ _ _ first second) (ih others)

namespace Event

def ofRun (header : RunHeader) (xs : List Comparison) (r : Report) : List Event :=
  .started header xs.length :: xs.map .compared ++ [.completed r]

variable {min : LogLevel} {vs : List Event} {es ws : List LogEntry} {runId : String} {n : Nat}

theorem forall₂_shownBy_written (h : List.Forall₂ ShownBy vs es)
    (numbered : Log.Numbered runId n (Log.admitted min es) ws) :
    List.Forall₂ ShownBy (vs.filter (·.level.atLeast min)) ws := by
  have levels : ∀ ⦃v e⦄, ShownBy v e →
      (v.level.atLeast min = true ↔ e.level.atLeast min = true) := fun _ _ shown => by
    rw [shown.level_eq]
  have admitted : List.Forall₂ ShownBy (vs.filter (·.level.atLeast min)) (Log.admitted min es) :=
    List.rel_filter levels h
  refine forall₂_comp admitted numbered.kept fun v e w shown written => ?_
  rw [written.1]
  exact shown.stamp e.timestamp w.trace

theorem countP_isSome_caseId (h : List.Forall₂ ShownBy vs ws) :
    ws.countP (·.caseId.isSome) = vs.countP (·.isComparison) := by
  have kinds : ∀ ⦃v e⦄, ShownBy v e → (v.isComparison = true ↔ e.caseId.isSome = true) :=
    fun _ _ shown => by rw [shown.isSome_caseId]
  rw [List.countP_eq_length_filter, List.countP_eq_length_filter]
  exact (List.rel_filter kinds h).length_eq.symm

theorem countP_isComparison_ofRun (header : RunHeader) (xs : List Comparison) (r : Report) :
    ((ofRun header xs r).filter (·.level.atLeast min)).countP (·.isComparison) =
      xs.countP fun x => (compared x).level.atLeast min := by
  simp [ofRun, List.countP_filter, List.countP_append, List.countP_map, isComparison,
    Function.comp_def]

theorem atLeast_info_compared (x : Comparison) :
    (compared x).level.atLeast .info = !x.verdict.isMatch := by
  obtain ⟨c, verdict, reference, subject⟩ := x
  cases verdict <;> rfl

theorem atLeast_debug_compared (x : Comparison) : (compared x).level.atLeast .debug = true := by
  obtain ⟨c, verdict, reference, subject⟩ := x
  cases verdict <;> rfl

end Event

namespace Trial

variable {World : Type} {t : Trial World} {cases : List Case}

/-- The entries of a log that show a run and its report: the start, the
comparisons of the report, one for each case, in the order in which they were
noted, and the completion; of these all that are of sufficient level. -/
structure Shows (t : Trial World) (cases : List Case) (min : LogLevel) (r : Report)
    (xs : List Comparison) (written : List LogEntry) : Prop where
  comparisons : xs.Perm r.comparisons
  cases : (xs.map (·.case)).Perm cases
  compares : ∀ x ∈ xs, t.Compares x
  shown : List.Forall₂ Event.ShownBy ((Event.ofRun t.header xs r).filter (·.level.atLeast min))
    written
  lines : ∀ e ∈ written, e.IsLine e.line
  info : min = .info → written.countP (·.caseId.isSome) = r.mismatched + r.errored
  debug : min = .debug → written.countP (·.caseId.isSome) = r.total

theorem narrow_ofRun (within : t.WithinLimits cases) (narrow : t.Narrow cases)
    {xs delivered : List Comparison} (same : xs.Perm delivered)
    (own : (xs.map (·.case)).Perm cases) (compares : ∀ x ∈ xs, t.Compares x) :
    ∀ v ∈ Event.ofRun t.header xs (Report.of t.header delivered), v.Narrow := by
  have size : xs.length = cases.length := by simpa using own.length_eq
  have started := narrow_started within narrow
  rw [← size] at started
  refine List.forall_mem_append.mpr ⟨List.forall_mem_cons.mpr ⟨started, ?_⟩,
    List.forall_mem_singleton.mpr (narrow_completed _ (same.length_eq ▸ started.1))⟩
  refine List.forall_mem_map.mpr fun x hx => narrow_of_compares narrow ?_ (compares x hx)
  exact own.subset (List.mem_map_of_mem hx)

theorem shows_of_shown (within : t.WithinLimits cases) (narrow : t.Narrow cases)
    {min : LogLevel} {xs delivered : List Comparison} {written : List LogEntry}
    (same : xs.Perm delivered) (own : (xs.map (·.case)).Perm cases)
    (compares : ∀ x ∈ xs, t.Compares x)
    (shown : List.Forall₂ Event.ShownBy
      ((Event.ofRun t.header xs (Report.of t.header delivered)).filter (·.level.atLeast min))
      written) :
    t.Shows cases min (Report.of t.header delivered) xs written := by
  have count := Event.countP_isSome_caseId shown
  rw [Event.countP_isComparison_ofRun] at count
  refine ⟨same.trans (Report.comparisons_of_perm ..).symm, own, compares, shown, ?_, ?_, ?_⟩
  · have small : ∀ v ∈ (Event.ofRun t.header xs (Report.of t.header delivered)).filter
        (·.level.atLeast min), v.Narrow := fun v hv =>
      narrow_ofRun within narrow same own compares v (List.mem_filter.mp hv).1
    exact forall₂_forall_right shown small fun v e shows narrow => (shows.whole narrow).isLine
  · rintro rfl
    simp only [Event.atLeast_info_compared] at count
    rw [count, same.countP_eq, Report.countP_not_isMatch]
  · rintro rfl
    simp only [Event.atLeast_debug_compared, List.countP_true] at count
    rw [count, same.length_eq, Report.total_of]

def LeavesAlone (t : Trial World) (contents : World → String) : Prop :=
  ∀ c w, contents ((t.reference.execute c t.config.timeout).run w).2 = contents w ∧
    contents ((t.subject.execute c t.config.timeout).run w).2 = contents w

section Through

variable {contents : World → String} {j : Journal World}

/-- While the workers act, what they note comes through or is held back. -/
theorem Step.advances (h : t.Step p q) (alone : t.LeavesAlone contents)
    (adds : j.channel.Adds contents) (here : p.log = some j) :
    ∃ j', q.log = some j' ∧ j.Advances contents p.world j' q.world := by
  cases h with
  | take | send => exact ⟨j, here, .of_eq rfl⟩
  | @reference _ c _ _ _ _ _ w _ answer =>
    exact ⟨j, here, .of_eq (congrArg (contents ·.2) answer ▸ (alone c w).1)⟩
  | @subject _ c _ _ _ _ _ _ w _ answer =>
    exact ⟨j, here, .of_eq (congrArg (contents ·.2) answer ▸ (alone c w).2)⟩
  | note told =>
    obtain rfl := here
    obtain ⟨j', now, -, -, advances⟩ := exists_of_note told
    exact ⟨j', now, advances contents adds⟩

theorem Steps.advances (h : t.Steps p q) (alone : t.LeavesAlone contents)
    (adds : j.channel.Adds contents) (here : p.log = some j) :
    ∃ j', q.log = some j' ∧ j.Advances contents p.world j' q.world := by
  induction h with
  | refl => exact ⟨j, here, .of_eq rfl⟩
  | tail _ step ih =>
    obtain ⟨j₁, there, before⟩ := ih
    obtain ⟨j', now, after⟩ := step.advances alone (before.channel ▸ adds) there
    exact ⟨j', now, before.trans after⟩

theorem Ends.through {log' : Option (Journal World)} {w w' : World} {r : Report}
    (ends : t.Ends cases (some j) w (.ok r) log' w') (alone : t.LeavesAlone contents)
    (adds : j.channel.Adds contents) (new : j.log.text = "") (empty : j.held = "") :
    ∃ j', log' = some j' ∧ contents w' = contents w ++ j'.log.text := by
  cases ends with
  | finished _ started steps _ _ ended =>
    obtain ⟨j₁, begun, -, -, first⟩ := exists_of_note started
    have start := first contents adds
    obtain ⟨j₂, there, middle⟩ := steps.advances alone (start.channel ▸ adds) begun
    rw [there] at ended
    obtain ⟨j', now, -, last⟩ := exists_of_complete ended
    obtain ⟨last, none⟩ := last contents (middle.channel ▸ start.channel ▸ adds)
    exact ⟨j', now, ((start.trans middle).trans last).through new empty none⟩

end Through

/-- However the workers take turns, the log of a run shows the run and agrees
with the report. A channel that takes everything has got the whole of it then. -/
theorem Ends.shows {runId clock : String} {min : LogLevel} {channel : Channel World} {w w' : World}
    {result : Except Failure Report} {log' : Option (Journal World)}
    (within : t.WithinLimits cases) (narrow : t.Narrow cases)
    (ends : t.Ends cases
      (some ⟨{ runId := runId, minLevel := min, clock := clock }, channel, ""⟩) w result log' w') :
    ∃ r j xs written, result = .ok r ∧ log' = some j ∧
      j.log.text = Text.ended (written.map LogEntry.line) ∧ t.Shows cases min r xs written ∧
      ∀ contents, channel.Adds contents → t.LeavesAlone contents →
        contents w' = contents w ++ Text.ended (written.map LogEntry.line) := by
  have through := ends
  cases ends with
  | refused exceeded =>
    exact absurd (checkLimits_eq_ok_iff.mpr within) (by rw [exceeded]; nofun)
  | @finished p delivered _ _ _ _ _ started steps done delivery ended =>
    obtain ⟨sent, compares, j, xs, es, here, -, noted, told, shown⟩ := steps.events started done
    rw [done.noted] at noted
    rw [here] at ended
    obtain ⟨j', now, logged, -⟩ := exists_of_complete ended
    have own := (noted.map (·.case)).trans sent
    have complete := (Event.shownBy_completeEntry (Report.of t.header delivered)).stamp clock ""
    obtain ⟨written, numbered, text⟩ :=
      (told.note (completeEntry (Report.of t.header delivered))).text
    rw [← logged] at text
    refine ⟨_, j', xs, written, rfl, now, text, ?_, fun contents adds alone => ?_⟩
    · refine shows_of_shown within narrow (noted.trans delivery.symm) own
        (fun x hx => compares x (noted.subset hx)) (Event.forall₂_shownBy_written ?_ numbered)
      have size : xs.length = cases.length := by simpa using own.length_eq
      rw [Event.ofRun, size]
      exact List.rel_append shown (.cons complete .nil)
    · obtain ⟨_, same, all⟩ := through.through alone adds rfl rfl
      obtain rfl := Option.some.inj (now.symm.trans same)
      rw [all, text]

def numbers : List Case := [⟨2, none, .sampled, []⟩, ⟨1, none, .sampled, []⟩]

def appending : Channel String where
  put text := do
    modify (· ++ text)
    return .ok ()
  room := 8192

def parity : Trial String where
  reference := .ofFunction "number" fun c => .returns (toString c.id)
  subject := .ofFunction "parity" fun c => .returns (toString (c.id % 2))
  config := {}

theorem Ends.shows_parity :
    parity.WithinLimits numbers ∧ parity.Narrow numbers ∧
      ∃ (result : Except Failure Report) (log' : Option (Journal String)) (w' : String),
        parity.Ends numbers (some ⟨{ runId := "r", minLevel := .debug, clock := "now" },
          appending, ""⟩) "" result log' w' ∧
        ∃ r j xs written, result = .ok r ∧ log' = some j ∧
          j.log.text = Text.ended (written.map LogEntry.line) ∧
          parity.Shows numbers .debug r xs written ∧
          w' = Text.ended (written.map LogEntry.line) := by
  have within : parity.WithinLimits numbers :=
    ⟨by decide, by decide, by decide, by decide, by decide⟩
  have narrow : parity.Narrow numbers := by
    refine ⟨by decide, by decide, by decide, by decide, fun c _ w w' => ?_⟩
    show 0 + 0 < UInt64.size
    decide
  have ends := parity.run_ends (.refl numbers)
    (some ⟨{ runId := "r", minLevel := .debug, clock := "now" }, appending, ""⟩) ""
  obtain ⟨r, j, xs, written, ok, log, text, shows, through⟩ := ends.shows within narrow
  have all := through id (fun text w => ⟨w ++ text, rfl, rfl⟩) fun _ _ => ⟨rfl, rfl⟩
  exact ⟨within, narrow, _, _, _, ends, r, j, xs, written, ok, log, text, shows,
    all.trans String.empty_append⟩

end Trial

end PartitionTest
