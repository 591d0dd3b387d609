import PartitionTest.Proofs.Run.Pool

/-! All ends a run can come to. They differ in the log and the world, but there
is one report, whatever the number of workers and the order of their steps. -/
namespace PartitionTest

namespace Limits

variable {l : Limits}

theorem checkWorkers_eq_ok_iff {workers : Nat} :
    l.checkWorkers workers = .ok () ↔ 0 < workers ∧ workers ≤ l.maxWorkers := by
  grind [checkWorkers]

theorem checkTimeout_eq_ok_iff {timeout : Duration} :
    l.checkTimeout timeout = .ok () ↔
      0 < timeout.nanoseconds ∧ timeout.millis ≤ l.maxTimeoutMs := by
  grind [checkTimeout]

theorem checkCases_eq_ok_iff {count : Nat} : l.checkCases count = .ok () ↔ count ≤ l.maxCases := by
  grind [checkCases]

end Limits

namespace Trial

variable {World : Type} {t : Trial World} {cases : List Case}

structure WithinLimits (t : Trial World) (cases : List Case) : Prop where
  workers_pos : 0 < t.config.workers
  workers_le : t.config.workers ≤ t.config.limits.maxWorkers
  timeout_pos : 0 < t.config.timeout.nanoseconds
  timeout_le : t.config.timeout.millis ≤ t.config.limits.maxTimeoutMs
  cases_le : cases.length ≤ t.config.limits.maxCases

def Violates (t : Trial World) (cases : List Case) : LimitError → Prop
  | .noWorkers => t.config.workers = 0
  | .noTimeout => t.config.timeout.nanoseconds = 0
  | .workers count max =>
    count = t.config.workers ∧ max = t.config.limits.maxWorkers ∧ max < count
  | .timeout ms max =>
    ms = t.config.timeout.millis ∧ max = t.config.limits.maxTimeoutMs ∧ max < ms
  | .cases count max => count = cases.length ∧ max = t.config.limits.maxCases ∧ max < count
  | .documentBytes .. => False

theorem checkLimits_eq_ok_iff : t.checkLimits cases = .ok () ↔ t.WithinLimits cases := by
  have all : t.checkLimits cases = .ok () ↔
      t.config.limits.checkWorkers t.config.workers = .ok () ∧
        t.config.limits.checkTimeout t.config.timeout = .ok () ∧
          t.config.limits.checkCases cases.length = .ok () := by
    unfold checkLimits
    cases t.config.limits.checkWorkers t.config.workers <;>
      cases t.config.limits.checkTimeout t.config.timeout <;>
        simp [bind, Except.bind]
  rw [all, Limits.checkWorkers_eq_ok_iff, Limits.checkTimeout_eq_ok_iff,
    Limits.checkCases_eq_ok_iff]
  constructor
  · rintro ⟨⟨h₁, h₂⟩, ⟨h₃, h₄⟩, h₅⟩
    exact ⟨h₁, h₂, h₃, h₄, h₅⟩
  · intro h
    exact ⟨⟨h.workers_pos, h.workers_le⟩, ⟨h.timeout_pos, h.timeout_le⟩, h.cases_le⟩

/-- The check names a limit that does not hold. -/
theorem violates_of_checkLimits {e : LimitError} (h : t.checkLimits cases = .error e) :
    t.Violates cases e := by
  unfold checkLimits at h
  cases workers : t.config.limits.checkWorkers t.config.workers with
  | error _ =>
    rw [workers] at h
    obtain rfl := Except.error.inj h
    grind [Limits.checkWorkers, Violates]
  | ok _ =>
    cases timeout : t.config.limits.checkTimeout t.config.timeout with
    | error _ =>
      rw [workers, timeout] at h
      obtain rfl := Except.error.inj h
      grind [Limits.checkTimeout, Violates]
    | ok _ =>
      rw [workers, timeout] at h
      change t.config.limits.checkCases cases.length = .error e at h
      grind [Limits.checkCases, Violates]

theorem checkLimits_of_perm (t : Trial World) {visited : List Case} (order : visited.Perm cases) :
    t.checkLimits visited = t.checkLimits cases := by
  rw [checkLimits, checkLimits, order.length_eq]

/-- The result, log and world a run can end with. Comparisons may be delivered
in any order. -/
inductive Ends (t : Trial World) (cases : List Case) (log : Option (Journal World)) (w : World) :
    Except Failure Report → Option (Journal World) → World → Prop where
  | refused {e : LimitError} (limit : t.checkLimits cases = .error e) :
      t.Ends cases log w (.error (.limit e)) log w
  | finished {p : Pool World} {delivered : List Comparison} {log₁ log' : Option (Journal World)}
      {w₁ w' : World}
      (within : t.checkLimits cases = .ok ())
      (started : (note log (t.startEntry cases.length)).run w = (log₁, w₁))
      (steps : t.Steps (.start t.config.workers cases log₁ w₁) p)
      (done : p.Finished) (delivery : delivered.Perm p.sent)
      (ended : (complete p.log (Report.of t.header delivered)).run p.world = (log', w')) :
      t.Ends cases log w (.ok (Report.of t.header delivered)) log' w'

theorem steps_compare {c : Case} {x : Comparison} {w w' : World}
    {log log' : Option (Journal World)} {w'' : World} (h : (t.compare c).run w = (x, w'))
    (told : (note log (caseEntry x)).run w' = (log', w'')) (early late : List Case)
    (after : List Worker) (sent : List Comparison) :
    t.Steps ⟨early ++ c :: late, .idle :: after, sent, log, w⟩
      ⟨early ++ late, .idle :: after, sent ++ [x], log', w''⟩ := by
  rcases answer : (t.reference.execute c t.config.timeout).run w with ⟨r, w₁⟩
  rcases reply : (t.subject.execute c t.config.timeout).run w₁ with ⟨s, w₂⟩
  have both : (t.compare c).run w =
      (⟨c, Verdict.classify r s t.config.normalization, r, s⟩, w₂) := by
    rw [compare, StateT.run_bind, answer]
    show (t.subject.execute c t.config.timeout >>= _).run w₁ = _
    rw [StateT.run_bind, reply]
    rfl
  obtain ⟨rfl, rfl⟩ := Prod.mk.inj (both.symm.trans h)
  have taken : t.Step ⟨early ++ c :: late, [] ++ .idle :: after, sent, log, w⟩ _ := .take
  exact .head taken <| .head (.reference answer) <| .head (.subject reply) <|
    .head (.note told) (.single .send)

theorem steps_visit (t : Trial World) {pending visited : List Case}
    (order : visited.Perm pending) (after : List Worker) (sent : List Comparison)
    (log : Option (Journal World)) (w : World) :
    t.Steps ⟨pending, .idle :: after, sent, log, w⟩
      ⟨[], .idle :: after, sent ++ ((t.visit log visited).run w).1.1,
        ((t.visit log visited).run w).1.2, ((t.visit log visited).run w).2⟩ := by
  induction visited generalizing pending sent log w with
  | nil =>
    obtain rfl := order.symm.eq_nil
    show t.Steps _ ⟨[], .idle :: after, sent ++ [], log, w⟩
    rw [List.append_nil]
  | cons c visited ih =>
    obtain ⟨early, late, rfl⟩ := List.append_of_mem (order.subset List.mem_cons_self)
    have rest : visited.Perm (early ++ late) := (order.trans List.perm_middle).cons_inv
    rcases first : (t.compare c).run w with ⟨x, w₁⟩
    rcases told : (note log (caseEntry x)).run w₁ with ⟨log₁, w₂⟩
    have others := ih rest (sent ++ [x]) log₁ w₂
    have visit : (t.visit log (c :: visited)).run w =
        ((x :: ((t.visit log₁ visited).run w₂).1.1, ((t.visit log₁ visited).run w₂).1.2),
          ((t.visit log₁ visited).run w₂).2) := by
      rw [Trial.visit, StateT.run_bind, first]
      show (note log (caseEntry x) >>= _).run w₁ = _
      rw [StateT.run_bind, told]
      rfl
    rw [List.append_assoc] at others
    rw [visit]
    exact (steps_compare first told early late after sent).trans others

/-- A run is one of the ends, in whatever order it visits the cases. -/
theorem run_ends (t : Trial World) {visited : List Case} (order : visited.Perm cases)
    (log : Option (Journal World)) (w : World) :
    t.Ends cases log w ((t.run visited log).run w).1.1 ((t.run visited log).run w).1.2
      ((t.run visited log).run w).2 := by
  have limits := t.checkLimits_of_perm order
  unfold run
  cases checked : t.checkLimits cases with
  | error e =>
    rw [limits, checked]
    exact .refused checked
  | ok _ =>
    rw [limits, checked, order.length_eq]
    have within := checkLimits_eq_ok_iff.mp checked
    obtain ⟨k, hk⟩ := Nat.exists_eq_succ_of_ne_zero (Nat.ne_of_gt within.workers_pos)
    rcases started : (note log (t.startEntry cases.length)).run w with ⟨log₁, w₁⟩
    have steps := t.steps_visit order (List.replicate k .idle) [] log₁ w₁
    rw [← List.replicate_succ, ← Nat.succ_eq_add_one, ← hk] at steps
    dsimp only
    rw [StateT.run_bind, started]
    exact .finished checked started steps ⟨rfl, fun x hx => List.eq_of_mem_replicate hx⟩ (.refl _)
      rfl

def withWorkers (t : Trial World) (k : Nat) : Trial World :=
  { t with config := { t.config with workers := k } }

/-- What runs come to with any number of workers. Within limits all their
orders of steps end, and with one report. Otherwise a run ends with what is
exceeded and has no effects: as a program it is the one that does nothing. -/
structure Settles (t : Trial World) (cases : List Case) (r : Report) : Prop where
  halts : ∀ k, WellFounded fun q p => (t.withWorkers k).Step p q
  finishes : ∀ k log w p, (t.withWorkers k).WithinLimits cases →
    (t.withWorkers k).Steps (.start k cases log w) p →
      ∃ q, (t.withWorkers k).Steps p q ∧ q.Finished
  reports : ∀ k log w result log' w', (t.withWorkers k).WithinLimits cases →
    (t.withWorkers k).Ends cases log w result log' w' → result = .ok { r with workers := k }
  refuses : ∀ k, ¬ (t.withWorkers k).WithinLimits cases →
    ∃ e, (t.withWorkers k).Violates cases e ∧
      (∀ visited log, visited.Perm cases →
        (t.withWorkers k).run visited log = pure (.error (.limit e), log)) ∧
      ∀ log w result log' w', (t.withWorkers k).Ends cases log w result log' w' →
        result = .error (.limit e) ∧ log' = log ∧ w' = w
  runs : ∀ k log w visited, visited.Perm cases →
    (t.withWorkers k).Ends cases log w
      (((t.withWorkers k).run visited log).run w).1.1
      (((t.withWorkers k).run visited log).run w).1.2
      (((t.withWorkers k).run visited log).run w).2

theorem Ends.eq_of_error {e : LimitError} (limit : t.checkLimits cases = .error e)
    {log log' : Option (Journal World)} {w w' : World} {result : Except Failure Report}
    (h : t.Ends cases log w result log' w') :
    result = .error (.limit e) ∧ log' = log ∧ w' = w := by
  cases h with
  | refused other =>
    obtain rfl := Except.error.inj (limit.symm.trans other)
    exact ⟨rfl, rfl, rfl⟩
  | finished within => exact absurd (limit.symm.trans within) (by simp)

/-- Delivered in any order, the comparisons of a finished pool make the report
of the cases as they are listed. -/
theorem Ends.eq_of_ok {f g : Case → Observation}
    (reference : t.reference.Computes t.config.timeout f)
    (subject : t.subject.Computes t.config.timeout g) (ids : (cases.map (·.id)).Nodup)
    (within : t.checkLimits cases = .ok ()) {log log' : Option (Journal World)} {w w' : World}
    {result : Except Failure Report} (h : t.Ends cases log w result log' w') :
    result = .ok (Report.of t.header (cases.map (.ofFunctions f g t.config.normalization))) := by
  cases h with
  | refused limit => exact absurd (within.symm.trans limit) (by simp)
  | finished _ _ steps done delivery =>
    have once := delivery.trans (steps.sent_perm reference subject done)
    have apart := (once.map (·.case.id)).nodup_iff.mpr (by rw [List.map_map]; exact ids)
    rw [Report.of_eq_of_perm once apart]

/-- With case numbers distinct and implementations that are functions of the
case there is one report, and it says what the functions do. -/
theorem exists_report_settles {f g : Case → Observation} (ids : (cases.map (·.id)).Nodup)
    (reference : t.reference.Computes t.config.timeout f)
    (subject : t.subject.Computes t.config.timeout g) :
    ∃ r : Report, r.Describes cases f g t.config.normalization ∧ t.Settles cases r := by
  refine ⟨_, Report.describes_of ids f g t.config.normalization t.header,
    fun k => wellFounded_step _, ?_, ?_, ?_, fun k log w visited order => run_ends _ order log w⟩
  · intro k log w p within steps
    have staffed : p.workers ≠ [] := by
      rw [← List.length_pos_iff, steps.workers_length, Pool.start, List.length_replicate]
      exact within.workers_pos
    exact exists_finished _ p staffed
  · intro k log w result log' w' within ends
    have checked := checkLimits_eq_ok_iff.mpr within
    exact Ends.eq_of_ok (t := t.withWorkers k) reference subject ids checked ends
  · intro k beyond
    cases checked : (t.withWorkers k).checkLimits cases with
    | ok _ => exact absurd (checkLimits_eq_ok_iff.mp checked) beyond
    | error e =>
      refine ⟨e, violates_of_checkLimits checked, fun visited log order => ?_,
        fun log w result log' w' ends => ends.eq_of_error checked⟩
      rw [run, checkLimits_of_perm _ order, checked]

def counting : Trial Nat where
  reference := .ofFunction "number" fun c => .returns (toString c.id)
  subject := ⟨"parity", fun c timeout => do
    modify (· + 1)
    return Implementation.observe (.returns (toString (c.id % 2))) timeout⟩
  config := {}

theorem exists_report_settles_counting :
    [2, 1].Nodup ∧ ∃ r : Report,
      r.Describes [⟨2, none, .sampled, []⟩, ⟨1, none, .sampled, []⟩]
        (fun c => Implementation.observe (.returns (toString c.id)) (.ofMillis 1000))
        (fun c => Implementation.observe (.returns (toString (c.id % 2))) (.ofMillis 1000))
        .exact ∧
      counting.Settles [⟨2, none, .sampled, []⟩, ⟨1, none, .sampled, []⟩] r :=
  have ids : [2, 1].Nodup := by decide
  ⟨ids, exists_report_settles (t := counting) ids (Implementation.computes_ofFunction _ _ _)
    fun _ _ => rfl⟩

end Trial

end PartitionTest
