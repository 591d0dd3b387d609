import Mathlib.Logic.Function.Iterate
import PartitionTest.Proofs.Case.Sequence

/-! Sampled cases. Sampling is a loop: each round draws a tuple, which makes a
case unless some case has its values already. What one round keeps holds after
any number of them, and fewer rounds give the beginning of what more give. -/
namespace PartitionTest

namespace Plan

variable {p : Plan} {xs : List Variable} {source : IndexSource} {start : source.State}
  {n : Nat}

def pools (p : Plan) : List (Array Scalar) :=
  p.axes.map fun a => a.subject.domain.values.toArray

/-- A tuple is drawn with one index for each pool, in order. The source is only
asked for an index below the size of a pool that has values: from a pool
without any there is no way to draw. -/
inductive Draws (source : IndexSource) :
    List (Array Scalar) → source.State → List Scalar → source.State → Prop where
  | nil {s : source.State} : Draws source [] s [] s
  | cons {pool : Array Scalar} {pools : List (Array Scalar)} {s s₁ s₂ : source.State}
      {vs : List Scalar} {i : Nat} (positive : 0 < pool.size) (below : i < pool.size)
      (drawn : source.draw pool.size positive s = (⟨i, below⟩, s₁))
      (rest : Draws source pools s₁ vs s₂) : Draws source (pool :: pools) s (pool[i] :: vs) s₂

theorem draws_drawTuple {pools : List (Array Scalar)} (stocked : ∀ pool ∈ pools, 0 < pool.size)
    (s : source.State) :
    Draws source pools s (drawTuple source pools s).1 (drawTuple source pools s).2 := by
  induction pools generalizing s with
  | nil => exact .nil
  | cons pool pools ih =>
    have positive := stocked pool List.mem_cons_self
    rw [drawTuple, dif_pos positive]
    exact .cons positive (Fin.isLt _) rfl
      (ih (fun q hq => stocked q (List.mem_cons_of_mem _ hq)) _)

/-- The cases after a number of rounds, and the state the source is left in.
Every round draws, also one whose tuple is dropped as a repetition. -/
inductive Rounds (p : Plan) (source : IndexSource) (start : source.State) :
    Nat → List Case → source.State → Prop where
  | none : Rounds p source start 0 p.cases start
  | repeated {n : Nat} {cs : List Case} {s s' : source.State} {t : List Scalar}
      (before : Rounds p source start n cs s) (drawn : Draws source p.pools s t s')
      (old : t ∈ cs.map Case.values) : Rounds p source start (n + 1) cs s'
  | fresh {n : Nat} {cs : List Case} {s s' : source.State} {t : List Scalar}
      (before : Rounds p source start n cs s) (drawn : Draws source p.pools s t s')
      (new : t ∉ cs.map Case.values) :
      Rounds p source start (n + 1) (cs ++ [p.makeCase cs.length none .sampled t]) s'

def stateAfter (source : IndexSource) (pools : List (Array Scalar)) (n : Nat)
    (s : source.State) : source.State :=
  Nat.iterate (fun s => (drawTuple source pools s).2) n s

theorem drawTuples_go_succ (pools : List (Array Scalar)) (n : Nat) (s : source.State)
    (drawn : List (List Scalar)) :
    drawTuples.go source pools (n + 1) s drawn =
      (drawTuple source pools (stateAfter source pools n s)).1 ::
        drawTuples.go source pools n s drawn := by
  induction n generalizing s drawn with
  | zero => rfl
  | succ n ih => exact ih (drawTuple source pools s).2 ((drawTuple source pools s).1 :: drawn)

theorem drawTuples_succ (pools : List (Array Scalar)) (n : Nat) (s : source.State) :
    drawTuples source pools (n + 1) s = drawTuples source pools n s ++
      [(drawTuple source pools (stateAfter source pools n s)).1] := by
  rw [drawTuples, drawTuples_go_succ, List.reverse_cons]
  rfl

theorem stateAfter_succ (pools : List (Array Scalar)) (n : Nat) (s : source.State) :
    stateAfter source pools (n + 1) s =
      (drawTuple source pools (stateAfter source pools n s)).2 :=
  Function.iterate_succ_apply' ..

theorem pools_ofVars (xs : List Variable) :
    (ofVars xs).pools = xs.map fun x => x.domain.values.toArray := by
  rw [pools, ofVars, List.map_map]
  rfl

theorem Draws.admits {s s' : source.State} {t : List Scalar}
    (h : Draws source (ofVars xs).pools s t s') : Admits xs t := by
  rw [pools_ofVars] at h
  induction xs generalizing s t with
  | nil =>
    cases h
    exact .nil
  | cons x xs ih =>
    cases h with
    | cons _ _ _ rest => exact .cons (by simp) (ih rest)

def tuples (p : Plan) (source : IndexSource) (start : source.State) (n : Nat) :
    List (List Scalar) :=
  distinct (p.cases.map Case.values ++ drawTuples source p.pools n start)

theorem tuples_succ (p : Plan) (source : IndexSource) (start : source.State) (n : Nat) :
    p.tuples source start (n + 1) =
      let t := (drawTuple source p.pools (stateAfter source p.pools n start)).1
      if t ∈ p.tuples source start n then p.tuples source start n
      else p.tuples source start n ++ [t] := by
  simp only [tuples, drawTuples_succ, ← List.append_assoc, distinct_concat, mem_distinct]

theorem sampledCases_eq (p : Plan) (source : IndexSource) (start : source.State) (n : Nat) :
    p.sampledCases source start n =
      p.cases ++ ((p.tuples source start n).drop p.cases.length).zipIdx.map
        fun (vs, i) => p.makeCase (p.cases.length + i) none .sampled vs := rfl

theorem length_sampledCases (h : p.cases.length ≤ (p.tuples source start n).length) :
    (p.sampledCases source start n).length = (p.tuples source start n).length := by
  rw [sampledCases_eq, List.length_append, List.length_map, List.length_zipIdx,
    List.length_drop, Nat.add_sub_cancel' h]

theorem sampledCases_succ (h : p.cases.length ≤ (p.tuples source start n).length) :
    p.sampledCases source start (n + 1) =
      let t := (drawTuple source p.pools (stateAfter source p.pools n start)).1
      if t ∈ p.tuples source start n then p.sampledCases source start n
      else p.sampledCases source start n ++
        [p.makeCase (p.sampledCases source start n).length none .sampled t] := by
  dsimp only
  rw [length_sampledCases h, sampledCases_eq, tuples_succ]
  dsimp only
  split
  · rfl
  · rw [List.drop_append_of_le_length h, List.zipIdx_append, List.map_append,
      ← List.append_assoc, ← sampledCases_eq]
    simp [Nat.add_sub_cancel' h]

section Valid

variable (parts : ∀ x ∈ xs, x.IsPartition) (sound : ∀ x ∈ xs, x.Sound)

include parts in
theorem stocked_ofVars : ∀ pool ∈ (ofVars xs).pools, 0 < pool.size := by
  rw [pools_ofVars, List.forall_mem_map]
  intro x hx
  have part := parts x hx
  obtain ⟨v, hv, -⟩ := part.inhabited 0 (List.length_pos_iff.mpr part.classes_ne_nil)
  rw [List.size_toArray]
  exact List.length_pos_of_mem hv

include parts sound

theorem tuples_zero (source : IndexSource) (start : source.State) :
    (ofVars xs).tuples source start 0 = (ofVars xs).cases.map Case.values := by
  rw [tuples, show drawTuples source (ofVars xs).pools 0 start = [] from rfl, List.append_nil]
  exact distinct_of_nodup (nodup_map_values_cases parts sound)

theorem length_cases_le_tuples (source : IndexSource) (start : source.State) (n : Nat) :
    (ofVars xs).cases.length ≤ ((ofVars xs).tuples source start n).length := by
  have planned := (distinct_prefix_append ((ofVars xs).cases.map Case.values)
    (drawTuples source (ofVars xs).pools n start)).length_le
  rwa [distinct_of_nodup (nodup_map_values_cases parts sound), List.length_map] at planned

theorem sampledCases_zero (source : IndexSource) (start : source.State) :
    (ofVars xs).sampledCases source start 0 = (ofVars xs).cases := by
  rw [sampledCases_eq, tuples_zero parts sound, List.drop_of_length_le (by simp)]
  exact List.append_nil _

theorem map_values_sampledCases (source : IndexSource) (start : source.State) (n : Nat) :
    ((ofVars xs).sampledCases source start n).map Case.values =
      (ofVars xs).tuples source start n := by
  induction n with
  | zero => rw [sampledCases_zero parts sound, tuples_zero parts sound]
  | succ n ih =>
    have admits := (draws_drawTuple (stocked_ofVars parts)
      (stateAfter source (ofVars xs).pools n start)).admits
    rw [sampledCases_succ (length_cases_le_tuples parts sound ..), tuples_succ]
    dsimp only
    split
    · exact ih
    · rw [List.map_append, ih, List.map_singleton, values_makeCase admits]

theorem rounds_sampledCases (source : IndexSource) (start : source.State) (n : Nat) :
    (ofVars xs).Rounds source start n ((ofVars xs).sampledCases source start n)
      (stateAfter source (ofVars xs).pools n start) := by
  induction n with
  | zero =>
    rw [sampledCases_zero parts sound]
    exact .none
  | succ n ih =>
    have drawn := draws_drawTuple (stocked_ofVars parts)
      (stateAfter source (ofVars xs).pools n start)
    rw [sampledCases_succ (length_cases_le_tuples parts sound ..), stateAfter_succ,
      ← map_values_sampledCases parts sound]
    dsimp only
    split
    · rename_i old
      exact .repeated ih drawn old
    · rename_i new
      exact .fresh ih drawn new

/-- Fewer draws give the beginning of what more of them give. -/
theorem sampledCases_mono (source : IndexSource) (start : source.State) {m n : Nat} (h : m ≤ n) :
    (ofVars xs).sampledCases source start m <+: (ofVars xs).sampledCases source start n := by
  induction h with
  | refl => exact List.prefix_refl _
  | step _ ih =>
    rw [sampledCases_succ (length_cases_le_tuples parts sound ..)]
    dsimp only
    split
    · exact ih
    · exact ih.trans (List.prefix_append ..)

end Valid

/-- The planned cases with cases from `n` rounds behind them: the cases are
numbered by position, no two have equal values, and those behind are marked as
sampled, without a focus, and give each variable one of its domain values. -/
structure Extension (p : Plan) (xs : List Variable) (n : Nat) (cs : List Case) : Prop where
  planned : p.cases <+: cs
  ids : cs.map (·.id) = List.range cs.length
  values : (cs.map Case.values).Nodup
  sampled : ∀ c ∈ cs.drop p.cases.length,
    c.kind = .sampled ∧ c.focus = none ∧ Admits xs c.values
  length : (cs.drop p.cases.length).length ≤ n

namespace Extension

variable {cs : List Case} {t : List Scalar}

theorem mono {m : Nat} (h : p.Extension xs n cs) (le : n ≤ m) : p.Extension xs m cs :=
  { h with length := Nat.le_trans h.length le }

theorem concat (h : (ofVars xs).Extension xs n cs) (admits : Admits xs t)
    (new : t ∉ cs.map Case.values) :
    (ofVars xs).Extension xs (n + 1)
      (cs ++ [(ofVars xs).makeCase cs.length none .sampled t]) where
  planned := h.planned.trans (List.prefix_append ..)
  ids := by
    rw [List.map_append, h.ids, List.length_append, List.length_singleton, List.range_succ]
    rfl
  values := by
    rw [List.map_append, List.map_singleton, values_makeCase admits, ← List.concat_eq_append,
      List.nodup_concat]
    exact ⟨new, h.values⟩
  sampled c hc := by
    rw [List.drop_append_of_le_length h.planned.length_le] at hc
    rcases List.mem_append.mp hc with earlier | last
    · exact h.sampled c earlier
    · obtain rfl := List.mem_singleton.mp last
      exact ⟨rfl, rfl, (values_makeCase admits ..).symm ▸ admits⟩
  length := by
    rw [List.drop_append_of_le_length h.planned.length_le, List.length_append]
    exact Nat.succ_le_succ h.length

end Extension

theorem Rounds.extension (parts : ∀ x ∈ xs, x.IsPartition) (sound : ∀ x ∈ xs, x.Sound)
    {cs : List Case} {s : source.State} (h : (ofVars xs).Rounds source start n cs s) :
    (ofVars xs).Extension xs n cs := by
  induction h with
  | none => exact {
      planned := List.prefix_refl _
      ids := map_id_cases _
      values := nodup_map_values_cases parts sound
      sampled := by simp
      length := by simp }
  | repeated _ _ _ ih => exact ih.mono (Nat.le_succ _)
  | fresh _ drawn new ih => exact ih.concat drawn.admits new

/-- Lists of cases by the number of draws from one start. Each comes about in
rounds, is the beginning of every later one, and extends the planned cases. -/
structure Grows (p : Plan) (xs : List Variable) (source : IndexSource) (start : source.State)
    (cases : Nat → List Case) : Prop where
  rounds : ∀ n, ∃ s, p.Rounds source start n (cases n) s
  mono : ∀ m n, m ≤ n → cases m <+: cases n
  extension : ∀ n, p.Extension xs n (cases n)

theorem grows_sampledCases (parts : ∀ x ∈ xs, x.IsPartition) (sound : ∀ x ∈ xs, x.Sound)
    (source : IndexSource) (start : source.State) :
    (ofVars xs).Grows xs source start ((ofVars xs).sampledCases source start) where
  rounds n := ⟨_, rounds_sampledCases parts sound source start n⟩
  mono _ _ := sampledCases_mono parts sound source start
  extension n := (rounds_sampledCases parts sound source start n).extension parts sound

end Plan

namespace Model

/-- The cases of a valid model grow with the number of samples asked for, from
every seed and with any other source of indices as well. -/
theorem generate_grows {m : Model} (reachable : m.Reachable) (valid : m.isValidated = true) :
    ∃ p, Plan.ofModel m = .ok p ∧ p.axes.map (·.subject) = m.vars ∧
      (∀ seed, p.Grows m.vars ChaCha.source (.ofSeed seed)
        fun count => p.generate (some ⟨seed, count⟩)) ∧
      ∀ (source : IndexSource) (start : source.State),
        p.Grows m.vars source start (p.sampledCases source start) := by
  have sound := reachable.sound
  have grows := Plan.grows_sampledCases (sound.tables_eq valid).2 sound.vars
  refine ⟨Plan.ofVars m.vars, sound.plan valid, ?_, fun seed => grows ChaCha.source _, grows⟩
  rw [Plan.ofVars, List.map_map]
  exact List.map_id _

theorem generate_grows_gauge :
    gauge.validate.2.Reachable ∧ gauge.validate.2.isValidated = true ∧
      ∃ p, Plan.ofModel gauge.validate.2 = .ok p ∧ p.axes.map (·.subject) = gauge.vars ∧
        (∀ seed, p.Grows gauge.vars ChaCha.source (.ofSeed seed)
          fun count => p.generate (some ⟨seed, count⟩)) ∧
        ∀ (source : IndexSource) (start : source.State),
          p.Grows gauge.vars source start (p.sampledCases source start) :=
  ⟨reachable_gauge, isValidated_gauge, generate_grows reachable_gauge isValidated_gauge⟩

end Model

end PartitionTest
