import Mathlib.Data.List.Basic
import Mathlib.Data.List.Pairwise
import PartitionTest.Report

/-! What a report says of its comparisons. It depends on which comparisons were
made and, as long as case numbers differ, not on the order in which they came.
Looking a case up in it ends at the last of its comparisons. -/
namespace PartitionTest

/-- Both completed, with equal exit codes and with outputs that normalization
does not tell apart. -/
def Observation.Agrees (a b : Observation) (n : Normalization) : Prop :=
  a.status = .completed ∧ b.status = .completed ∧ a.exitCode = b.exitCode ∧
    n.apply a.output = n.apply b.output

theorem Verdict.isMatch_classify {a b : Observation} {n : Normalization} :
    (classify a b n).isMatch = true ↔ a.Agrees b n := by
  have ended (o : Observation) : o.isCompleted = true ↔ o.status = .completed := beq_iff_eq
  unfold classify Observation.Agrees
  rw [← ended a, ← ended b]
  cases a.isCompleted <;> cases b.isCompleted <;> simp [isMatch]

def Verdict.isError (v : Verdict) : Bool := !v.isMatch && v != .differ

theorem Verdict.isError_classify {a b : Observation} {n : Normalization} :
    (classify a b n).isError = !(a.isCompleted && b.isCompleted) := by
  unfold classify
  cases a.isCompleted <;> cases b.isCompleted <;> simp [isError, isMatch]

def Comparison.ofFunctions (f g : Case → Observation) (n : Normalization) (c : Case) :
    Comparison :=
  ⟨c, Verdict.classify (f c) (g c) n, f c, g c⟩

namespace Report

variable {h : RunHeader} {cs ds : List Comparison}

/-- No comparison is lost or made up. -/
theorem comparisons_of_perm (h : RunHeader) (cs : List Comparison) :
    (of h cs).comparisons.Perm cs :=
  List.mergeSort_perm ..

theorem pairwise_le_comparisons_of (h : RunHeader) (cs : List Comparison) :
    (of h cs).comparisons.Pairwise fun a b => a.case.id ≤ b.case.id := by
  have sorted : (of h cs).comparisons.Pairwise fun a b => decide (a.case.id ≤ b.case.id) :=
    List.pairwise_mergeSort (fun _ _ _ => by simpa using Nat.le_trans)
      (fun _ _ => by simpa using Nat.le_total ..) cs
  exact sorted.imp of_decide_eq_true

theorem pairwise_lt_comparisons_of (ids : (cs.map (·.case.id)).Nodup) :
    (of h cs).comparisons.Pairwise fun a b => a.case.id < b.case.id := by
  have apart := ((comparisons_of_perm h cs).map (·.case.id)).nodup_iff.mpr ids
  exact (pairwise_le_comparisons_of h cs).imp₂ (fun _ _ le ne => Nat.lt_of_le_of_ne le ne)
    (List.pairwise_map.mp apart)

/-- Comparisons with distinct case numbers make one report in every order. -/
theorem of_eq_of_perm (perm : cs.Perm ds) (ids : (cs.map (·.case.id)).Nodup) :
    of h cs = of h ds := by
  have both := ((comparisons_of_perm h cs).trans perm).trans (comparisons_of_perm h ds).symm
  have sorted : (of h cs).comparisons = (of h ds).comparisons :=
    both.eq_of_pairwise (fun a b _ _ lt gt => absurd gt (Nat.lt_asymm lt))
      (pairwise_lt_comparisons_of ids)
      (pairwise_lt_comparisons_of ((perm.map _).nodup_iff.mp ids))
  change cs.mergeSort _ = ds.mergeSort _ at sorted
  unfold of
  rw [sorted]

theorem length_eq_countP_verdict (cs : List Comparison) :
    cs.length = cs.countP (·.verdict.isMatch) + cs.countP (·.verdict == .differ) +
      cs.countP (·.verdict.isError) := by
  induction cs with
  | nil => rfl
  | cons x cs ih =>
    simp only [List.length_cons, List.countP_cons, ih]
    cases x.verdict <;> simp [Verdict.isError, Verdict.isMatch] <;> omega

theorem total_of (h : RunHeader) (cs : List Comparison) : (of h cs).total = cs.length :=
  (comparisons_of_perm h cs).length_eq

theorem matched_of (h : RunHeader) (cs : List Comparison) :
    (of h cs).matched = cs.countP (·.verdict.isMatch) :=
  (comparisons_of_perm h cs).countP_eq _

theorem mismatched_of (h : RunHeader) (cs : List Comparison) :
    (of h cs).mismatched = cs.countP (·.verdict == .differ) :=
  (comparisons_of_perm h cs).countP_eq _

theorem errored_of (h : RunHeader) (cs : List Comparison) :
    (of h cs).errored = cs.countP (·.verdict.isError) := by
  have parts := length_eq_countP_verdict cs
  have rest : (of h cs).errored = (of h cs).total - (of h cs).matched - (of h cs).mismatched :=
    rfl
  rw [rest, total_of, matched_of, mismatched_of]
  omega

theorem countP_not_isMatch (h : RunHeader) (cs : List Comparison) :
    cs.countP (!·.verdict.isMatch) = (of h cs).mismatched + (of h cs).errored := by
  have all := List.length_eq_countP_add_countP (·.verdict.isMatch) (l := cs)
  have parts := length_eq_countP_verdict cs
  simp only [Bool.not_eq_true, Bool.decide_eq_false] at all
  rw [mismatched_of, errored_of]
  omega

theorem status_of (h : RunHeader) (cs : List Comparison) :
    (of h cs).status = .pass ↔ ∀ x ∈ cs, x.verdict.isMatch = true := by
  have decided : (of h cs).status =
      if (of h cs).matched = (of h cs).total then .pass else .fail := rfl
  rw [decided, matched_of, total_of, ← List.countP_eq_length]
  split <;> simp_all

theorem mem_failures_of {x : Comparison} :
    x ∈ (of h cs).failures ↔ x ∈ cs ∧ x.verdict.isMatch = false := by
  rw [failures, List.mem_filter, (comparisons_of_perm h cs).mem_iff, Bool.not_eq_true']

/-- The report of cases on which the implementations do as `f` and `g`: a
comparison for each case, in the order of their numbers, correctly counted. -/
structure Describes (r : Report) (cases : List Case) (f g : Case → Observation)
    (n : Normalization) : Prop where
  comparisons : r.comparisons.Perm (cases.map (.ofFunctions f g n))
  ascending : r.comparisons.Pairwise fun a b => a.case.id < b.case.id
  total : r.total = cases.length
  counted : r.total = r.matched + r.mismatched + r.errored
  errored : r.errored = cases.countP fun c => !((f c).isCompleted && (g c).isCompleted)
  status : r.status = .pass ↔ ∀ c ∈ cases, (f c).Agrees (g c) n
  failures : ∀ x, x ∈ r.failures ↔
    ∃ c ∈ cases, ¬ (f c).Agrees (g c) n ∧ x = .ofFunctions f g n c
  failures_ascending : r.failures.Pairwise fun a b => a.case.id < b.case.id

theorem describes_of {cases : List Case} (ids : (cases.map (·.id)).Nodup)
    (f g : Case → Observation) (n : Normalization) (h : RunHeader) :
    (of h (cases.map (.ofFunctions f g n))).Describes cases f g n := by
  have ascending : (of h (cases.map (.ofFunctions f g n))).comparisons.Pairwise
      fun a b => a.case.id < b.case.id :=
    pairwise_lt_comparisons_of (by rw [List.map_map]; exact ids)
  refine ⟨comparisons_of_perm .., ascending, ?_, ?_, ?_, ?_, fun x => ?_, ascending.filter _⟩
  · rw [total_of, List.length_map]
  · rw [total_of, matched_of, mismatched_of, errored_of]
    exact length_eq_countP_verdict _
  · rw [errored_of, List.countP_map]
    exact List.countP_congr fun c _ => by
      rw [Function.comp_apply, Comparison.ofFunctions, Verdict.isError_classify]
  · rw [status_of, List.forall_mem_map]
    exact forall₂_congr fun c _ => Verdict.isMatch_classify
  · have failed (c : Case) : (Comparison.ofFunctions f g n c).verdict.isMatch = false ↔
        ¬ (f c).Agrees (g c) n := by
      rw [← Bool.not_eq_true]
      exact Verdict.isMatch_classify.not
    rw [mem_failures_of, List.mem_map]
    constructor
    · rintro ⟨⟨c, hc, rfl⟩, no⟩
      exact ⟨c, hc, (failed c).mp no, rfl⟩
    · rintro ⟨c, hc, apart, rfl⟩
      exact ⟨⟨c, hc, rfl⟩, (failed c).mpr apart⟩

section Halving

variable {keyAt : Nat → Nat} {key base size n : Nat}

/-- The keys below `n` from the end of an interval on are too large, and that at
its start is not, unless there is none before it. -/
structure Brackets (keyAt : Nat → Nat) (key n base size : Nat) : Prop where
  pos : 0 < size
  inside : base + size ≤ n
  reached : base = 0 ∨ keyAt base ≤ key
  beyond : ∀ i, base + size ≤ i → i < n → key < keyAt i

theorem brackets_all (keyAt : Nat → Nat) (key : Nat) (pos : 0 < n) :
    Brackets keyAt key n 0 n where
  pos := pos
  inside := by omega
  reached := .inl rfl
  beyond i past before := by omega

/-- The half that the search goes on with, as long as the keys ascend. -/
theorem Brackets.halve (h : Brackets keyAt key n base size) (large : 1 < size)
    (mono : ∀ i j, i ≤ j → j < n → keyAt i ≤ keyAt j) :
    Brackets keyAt key n (if key < keyAt (base + size / 2) then base else base + size / 2)
      (size - size / 2) := by
  have inside := h.inside
  by_cases low : key < keyAt (base + size / 2)
  · rw [if_pos low]
    refine ⟨by omega, by omega, h.reached, fun i past before => ?_⟩
    exact Nat.lt_of_lt_of_le low (mono _ i (by omega) before)
  · rw [if_neg low]
    refine ⟨by omega, by omega, .inr (Nat.le_of_not_lt low), fun i past before => ?_⟩
    exact h.beyond i (by omega) before

theorem Brackets.search (h : Brackets keyAt key n base size)
    (mono : ∀ i j, i ≤ j → j < n → keyAt i ≤ keyAt j) :
    Brackets keyAt key n (search keyAt key base size) 1 := by
  fun_induction Report.search keyAt key base size with
  | case1 base size small =>
    obtain rfl : size = 1 := by
      have := h.pos
      omega
    exact h
  | case2 base size large half base' ih => exact ih (h.halve (by omega) mono)

end Halving

def idAt (cs : List Comparison) (i : Nat) : Nat := (cs[i]?.map (·.case.id)).getD 0

theorem find?_eq (r : Report) (id : Nat) :
    r.find? id = r.comparisons[search (idAt r.comparisons) id 0 r.comparisons.length]?.filter
      (·.case.id = id) := by
  have keys : (fun i => (r.comparisons[i]?.map (·.case.id)).getD 0) = idAt r.comparisons := rfl
  simp only [find?, List.getElem?_toArray, List.size_toArray, keys]
  cases r.comparisons[search (idAt r.comparisons) id 0 r.comparisons.length]? with
  | none => rfl
  | some c => simp [Option.filter]

variable {id i : Nat}

theorem idAt_mono (sorted : cs.Pairwise fun a b => a.case.id ≤ b.case.id) (i j : Nat)
    (le : i ≤ j) (hj : j < cs.length) : idAt cs i ≤ idAt cs j := by
  rcases Nat.lt_or_eq_of_le le with lt | rfl
  · have hi : i < cs.length := by omega
    simpa [idAt, hi, hj] using List.pairwise_iff_getElem.mp sorted i j hi hj lt
  · exact Nat.le_refl _

theorem idAt_eq (hi : i < cs.length) : idAt cs i = cs[i].case.id := by
  rw [idAt, List.getElem?_eq_getElem hi]
  rfl

theorem getLast?_filter_eq (sorted : cs.Pairwise fun a b => a.case.id ≤ b.case.id)
    (h : Brackets (idAt cs) id cs.length i 1) :
    (cs.filter (·.case.id = id)).getLast? = cs[i]?.filter (·.case.id = id) := by
  have hi : i < cs.length := h.inside
  have later : (cs.drop (i + 1)).filter (·.case.id = id) = [] := by
    simp only [List.filter_eq_nil_iff, decide_eq_true_eq]
    intro c hc
    obtain ⟨j, hj, rfl⟩ := List.mem_drop_iff_getElem.mp hc
    have := h.beyond (i + 1 + j) (by omega) (by omega)
    rw [idAt_eq (by omega)] at this
    omega
  have cut : cs.filter (·.case.id = id) =
      (cs.take i).filter (·.case.id = id) ++ [cs[i]].filter (·.case.id = id) := by
    conv_lhs => rw [← List.take_append_drop i cs, List.drop_eq_getElem_cons hi]
    rw [List.filter_append, ← List.singleton_append, List.filter_append, later, List.append_nil]
  rw [cut, List.getElem?_eq_getElem hi]
  by_cases here : cs[i].case.id = id
  · simp [here, Option.filter]
  · have earlier : (cs.take i).filter (·.case.id = id) = [] := by
      simp only [List.filter_eq_nil_iff, decide_eq_true_eq]
      intro c hc
      obtain ⟨j, hj, rfl⟩ := List.mem_take_iff_getElem.mp hc
      have up := idAt_mono sorted j i (by omega) hi
      rw [idAt_eq (by omega), idAt_eq hi] at up
      rcases h.reached with rfl | reached
      · omega
      · rw [idAt_eq hi] at reached
        omega
    simp [here, earlier, Option.filter]

/-- The last of the comparisons of a case is found. -/
theorem find?_eq_getLast? {r : Report}
    (sorted : r.comparisons.Pairwise fun a b => a.case.id ≤ b.case.id) (id : Nat) :
    r.find? id = (r.comparisons.filter (·.case.id = id)).getLast? := by
  rw [find?_eq]
  by_cases empty : r.comparisons = []
  · rw [empty]
    rfl
  · have all := brackets_all (idAt r.comparisons) id (List.length_pos_iff.mpr empty)
    exact (getLast?_filter_eq sorted (all.search (idAt_mono sorted))).symm

theorem filter_comparisons_of (h : RunHeader) (cs : List Comparison) (id : Nat) :
    (of h cs).comparisons.filter (·.case.id = id) = cs.filter (·.case.id = id) := by
  have alike : (cs.filter (·.case.id = id)).Pairwise
      fun a b => decide (a.case.id ≤ b.case.id) = true := by
    refine List.pairwise_filter.mpr (List.pairwise_of_forall fun a b ha hb => ?_)
    rw [of_decide_eq_true ha, of_decide_eq_true hb]
    exact decide_eq_true (Nat.le_refl id)
  have kept : (cs.filter (·.case.id = id)).Sublist (of h cs).comparisons :=
    List.sublist_mergeSort (fun _ _ _ => by simpa using Nat.le_trans)
      (fun _ _ => by simpa using Nat.le_total ..) alike List.filter_sublist
  have inside := kept.filter (·.case.id = id)
  simp only [List.filter_filter, Bool.and_self] at inside
  exact (inside.eq_of_length ((comparisons_of_perm h cs).filter _).length_eq.symm).symm

/-- A report as an index of comparisons: by case number, those of one case in
the order in which they came, and a look-up that leads to one of the case as long
as there is any. -/
structure Indexes (r : Report) (cs : List Comparison) : Prop where
  perm : r.comparisons.Perm cs
  ascending : r.comparisons.Pairwise fun a b => a.case.id ≤ b.case.id
  stable : ∀ id, r.comparisons.filter (·.case.id = id) = cs.filter (·.case.id = id)
  found : ∀ id, (∃ c ∈ cs, c.case.id = id) →
    ∃ c ∈ r.comparisons, c.case.id = id ∧ r.find? id = some c
  missing : ∀ id, (∀ c ∈ cs, c.case.id ≠ id) → r.find? id = none

theorem indexes_of (h : RunHeader) (cs : List Comparison) : (of h cs).Indexes cs := by
  have ascending := pairwise_le_comparisons_of h cs
  have last (id : Nat) : (of h cs).find? id = (cs.filter (·.case.id = id)).getLast? := by
    rw [find?_eq_getLast? ascending, filter_comparisons_of]
  refine ⟨comparisons_of_perm h cs, ascending, filter_comparisons_of h cs, ?_, ?_⟩
  · rintro id ⟨c, hc, same⟩
    have some_left : cs.filter (·.case.id = id) ≠ [] :=
      List.ne_nil_of_mem (List.mem_filter.mpr ⟨hc, decide_eq_true same⟩)
    obtain ⟨mem, belongs⟩ := List.mem_filter.mp (List.getLast_mem some_left)
    refine ⟨_, (comparisons_of_perm h cs).mem_iff.mpr mem, of_decide_eq_true belongs, ?_⟩
    rw [last, List.getLast?_eq_some_getLast some_left]
  · intro id none_of
    have nothing : cs.filter (·.case.id = id) = [] := by
      simpa [List.filter_eq_nil_iff] using none_of
    rw [last, nothing]
    rfl

end Report

end PartitionTest
