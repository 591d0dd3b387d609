import Mathlib.Algebra.GroupWithZero.Nat
import Mathlib.Data.List.Perm.Basic
import Mathlib.Logic.Relation
import PartitionTest.Proofs.Report
import PartitionTest.Run

/-! A run shared by workers. Each takes a case, asks the reference and then the
subject, writes to the log and sends the comparison; in between any other may
act. Whatever the order, nothing is compared twice or lost. -/
namespace PartitionTest

inductive Worker where
  | idle
  | started (c : Case)
  | answered (c : Case) (reference : Observation)
  | compared (x : Comparison)
  | noted (x : Comparison)

/-- The cases nobody has taken, the workers, the comparisons they have sent,
and the log and the world all of them share. -/
structure Pool (World : Type) where
  pending : List Case
  workers : List Worker
  sent : List Comparison
  log : Option (Journal World)
  world : World

namespace Pool

variable {World : Type}

def start (workers : Nat) (cases : List Case) (log : Option (Journal World)) (w : World) :
    Pool World :=
  ⟨cases, List.replicate workers .idle, [], log, w⟩

def Finished (p : Pool World) : Prop :=
  p.pending = [] ∧ ∀ w ∈ p.workers, w = .idle

end Pool

/-- One worker acts. Which one, and which case it takes, is left open. -/
inductive Trial.Step {World : Type} (t : Trial World) : Pool World → Pool World → Prop where
  | take {early late : List Case} {c : Case} {before after : List Worker}
      {sent : List Comparison} {log : Option (Journal World)} {w : World} :
      t.Step ⟨early ++ c :: late, before ++ .idle :: after, sent, log, w⟩
        ⟨early ++ late, before ++ .started c :: after, sent, log, w⟩
  | reference {pending : List Case} {c : Case} {o : Observation} {before after : List Worker}
      {sent : List Comparison} {log : Option (Journal World)} {w w' : World}
      (answer : (t.reference.execute c t.config.timeout).run w = (o, w')) :
      t.Step ⟨pending, before ++ .started c :: after, sent, log, w⟩
        ⟨pending, before ++ .answered c o :: after, sent, log, w'⟩
  | subject {pending : List Case} {c : Case} {r o : Observation} {before after : List Worker}
      {sent : List Comparison} {log : Option (Journal World)} {w w' : World}
      (answer : (t.subject.execute c t.config.timeout).run w = (o, w')) :
      t.Step ⟨pending, before ++ .answered c r :: after, sent, log, w⟩
        ⟨pending, before ++ .compared ⟨c, Verdict.classify r o t.config.normalization, r, o⟩ ::
          after, sent, log, w'⟩
  | note {pending : List Case} {x : Comparison} {before after : List Worker}
      {sent : List Comparison} {log log' : Option (Journal World)} {w w' : World}
      (told : (note log (caseEntry x)).run w = (log', w')) :
      t.Step ⟨pending, before ++ .compared x :: after, sent, log, w⟩
        ⟨pending, before ++ .noted x :: after, sent, log', w'⟩
  | send {pending : List Case} {x : Comparison} {before after : List Worker}
      {sent : List Comparison} {log : Option (Journal World)} {w : World} :
      t.Step ⟨pending, before ++ .noted x :: after, sent, log, w⟩
        ⟨pending, before ++ .idle :: after, sent ++ [x], log, w⟩

abbrev Trial.Steps {World : Type} (t : Trial World) : Pool World → Pool World → Prop :=
  Relation.ReflTransGen t.Step

section Outcomes

variable {World : Type} {t : Trial World} {f g : Case → Observation} {n : Normalization}
  {p q : Pool World}

def Implementation.Computes (i : Implementation World) (timeout : Duration)
    (f : Case → Observation) : Prop :=
  ∀ c w, ((i.execute c timeout).run w).1 = f c

theorem Implementation.computes_ofFunction (name : String) (f : Case → Call)
    (timeout : Duration) :
    (ofFunction name f : Implementation World).Computes timeout fun c => observe (f c) timeout :=
  fun _ _ => rfl

def Worker.outcome (f g : Case → Observation) (n : Normalization) : Worker → Option Comparison
  | .idle => none
  | .started c => some (.ofFunctions f g n c)
  | .answered c r => some ⟨c, Verdict.classify r (g c) n, r, g c⟩
  | .compared x | .noted x => some x

/-- The comparisons a pool has sent or is yet to send. -/
def Pool.outcomes (f g : Case → Observation) (n : Normalization) (p : Pool World) :
    List Comparison :=
  p.pending.map (.ofFunctions f g n) ++ p.workers.filterMap (Worker.outcome f g n) ++ p.sent

/-- No step changes what will have been sent in the end. -/
theorem Trial.Step.outcomes_perm (reference : t.reference.Computes t.config.timeout f)
    (subject : t.subject.Computes t.config.timeout g) (h : t.Step p q) :
    (q.outcomes f g t.config.normalization).Perm (p.outcomes f g t.config.normalization) := by
  rw [List.perm_iff_count]
  intro x
  cases h with
  | take =>
    simp [Pool.outcomes, Worker.outcome, List.filterMap_cons, List.count_append, List.count_cons]
    omega
  | @reference _ c o _ _ _ _ w _ answer =>
    obtain rfl : o = f c := by rw [← reference c w, answer]
    simp [Pool.outcomes, Worker.outcome, Comparison.ofFunctions]
  | @subject _ c _ o _ _ _ _ w _ answer =>
    obtain rfl : o = g c := by rw [← subject c w, answer]
    simp [Pool.outcomes, Worker.outcome]
  | note => simp [Pool.outcomes, Worker.outcome]
  | send =>
    simp [Pool.outcomes, Worker.outcome, List.filterMap_cons, List.count_append, List.count_cons]
    omega

theorem Trial.Steps.outcomes_perm (reference : t.reference.Computes t.config.timeout f)
    (subject : t.subject.Computes t.config.timeout g) (h : t.Steps p q) :
    (q.outcomes f g t.config.normalization).Perm (p.outcomes f g t.config.normalization) := by
  induction h with
  | refl => exact .refl _
  | tail _ step ih => exact (step.outcomes_perm reference subject).trans ih

theorem Pool.outcomes_start (workers : Nat) (cases : List Case) (log : Option (Journal World))
    (w : World) : (start workers cases log w).outcomes f g n = cases.map (.ofFunctions f g n) := by
  simp [outcomes, start, Worker.outcome]

theorem Pool.Finished.outcomes (h : p.Finished) : p.outcomes f g n = p.sent := by
  have quiet : p.workers.filterMap (Worker.outcome f g n) = [] := by
    rw [List.filterMap_eq_nil_iff]
    intro w hw
    rw [h.2 w hw]
    rfl
  rw [Pool.outcomes, h.1, quiet]
  rfl

theorem Trial.Steps.sent_perm {workers : Nat} {cases : List Case} {log : Option (Journal World)}
    {w : World} (reference : t.reference.Computes t.config.timeout f)
    (subject : t.subject.Computes t.config.timeout g)
    (h : t.Steps (.start workers cases log w) p) (finished : p.Finished) :
    p.sent.Perm (cases.map (.ofFunctions f g t.config.normalization)) := by
  have same := h.outcomes_perm reference subject
  rwa [Pool.outcomes_start, finished.outcomes] at same

end Outcomes

section Progress

variable {World : Type} {t : Trial World} {p q : Pool World}

def Worker.stepsLeft : Worker → Nat
  | .idle => 0
  | .started _ => 4
  | .answered .. => 3
  | .compared _ => 2
  | .noted _ => 1

def Pool.stepsLeft (p : Pool World) : Nat :=
  5 * p.pending.length + (p.workers.map Worker.stepsLeft).sum

theorem Trial.Step.stepsLeft (h : t.Step p q) : q.stepsLeft + 1 = p.stepsLeft := by
  cases h <;> simp [Pool.stepsLeft, Worker.stepsLeft] <;> omega

theorem Trial.Step.workers_length (h : t.Step p q) : q.workers.length = p.workers.length := by
  cases h <;> simp

theorem Trial.Steps.workers_length (h : t.Steps p q) : q.workers.length = p.workers.length := by
  induction h with
  | refl => rfl
  | tail _ step ih => exact step.workers_length.trans ih

/-- No order of steps goes on for ever. -/
theorem Trial.wellFounded_step (t : Trial World) : WellFounded fun q p => t.Step p q :=
  Subrelation.wf (fun step => Nat.lt_of_succ_le (Nat.le_of_eq step.stepsLeft))
    (InvImage.wf Pool.stepsLeft Nat.lt_wfRel.wf)

theorem Trial.exists_step_of_busy (t : Trial World) {x : Worker} (hx : x ∈ p.workers)
    (busy : x ≠ .idle) : ∃ q, t.Step p q := by
  obtain ⟨pending, workers, sent, log, w⟩ := p
  obtain ⟨before, after, rfl⟩ := List.append_of_mem hx
  cases x with
  | idle => contradiction
  | started c => exact ⟨_, .reference rfl⟩
  | answered c r => exact ⟨_, .subject rfl⟩
  | compared x => exact ⟨_, .note rfl⟩
  | noted x => exact ⟨_, .send⟩

theorem Trial.exists_step (t : Trial World) (staffed : p.workers ≠ [])
    (unfinished : ¬ p.Finished) : ∃ q, t.Step p q := by
  by_cases quiet : ∀ x ∈ p.workers, x = .idle
  · have waiting : p.pending ≠ [] := fun none => unfinished ⟨none, quiet⟩
    obtain ⟨pending, workers, sent, log, w⟩ := p
    obtain ⟨c, late, rfl⟩ := List.exists_cons_of_ne_nil waiting
    obtain ⟨x, after, rfl⟩ := List.exists_cons_of_ne_nil staffed
    obtain rfl := quiet x List.mem_cons_self
    have first : t.Step ⟨[] ++ c :: late, [] ++ .idle :: after, sent, log, w⟩ _ := .take
    exact ⟨_, first⟩
  · push Not at quiet
    obtain ⟨x, hx, busy⟩ := quiet
    exact t.exists_step_of_busy hx busy

/-- However far a pool has come, its workers can finish. -/
theorem Trial.exists_finished (t : Trial World) (p : Pool World) (staffed : p.workers ≠ []) :
    ∃ q, t.Steps p q ∧ q.Finished := by
  by_cases done : p.Finished
  · exact ⟨p, .refl, done⟩
  · obtain ⟨q, step⟩ := t.exists_step staffed done
    have still : q.workers ≠ [] := by
      rw [← List.length_pos_iff, step.workers_length]
      exact List.length_pos_iff.mpr staffed
    have fewer : q.stepsLeft < p.stepsLeft := by
      have := step.stepsLeft
      omega
    obtain ⟨r, steps, finished⟩ := t.exists_finished q still
    exact ⟨r, .head step steps, finished⟩
termination_by p.stepsLeft

end Progress

end PartitionTest
