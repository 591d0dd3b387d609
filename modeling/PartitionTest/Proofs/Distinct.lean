import Mathlib.Data.List.Induction
import Mathlib.Data.List.Nodup
import PartitionTest.Model.Basic

/-! What a sieve keeps. One equation is behind it all: an element at the end of
a list is kept unless its key has occurred before. -/
namespace PartitionTest

variable {α κ : Type} [BEq κ] [Hashable κ] {key : α → κ}

@[simp] theorem distinctBy_nil : distinctBy key [] = [] := rfl

def freshBy (key : α → κ) (seen : Std.HashSet κ) : List α → List α
  | [] => []
  | a :: as =>
    if seen.contains (key a) then freshBy key seen as
    else a :: freshBy key (seen.insert (key a)) as

/-- A sieve keeps what is fresh to it. -/
theorem kept_foldl_push (as : List α) (s : Sieve κ α) :
    (as.foldl (Sieve.push key) s).kept = (freshBy key s.seen as).reverse ++ s.kept := by
  induction as generalizing s with
  | nil => rfl
  | cons a as ih =>
    rw [List.foldl_cons, ih, freshBy, Sieve.push]
    split
    · rfl
    · rw [List.reverse_cons, List.append_assoc, List.singleton_append]

theorem distinctBy_eq_freshBy (as : List α) : distinctBy key as = freshBy key {} as := by
  rw [distinctBy, kept_foldl_push, List.reverse_append, List.reverse_reverse]
  rfl

variable [LawfulBEq κ]

theorem contains_seen_foldl_push (as : List α) (s : Sieve κ α) (k : κ) :
    (as.foldl (Sieve.push key) s).seen.contains k ↔ s.seen.contains k ∨ k ∈ as.map key := by
  induction as generalizing s with
  | nil => simp
  | cons a as ih =>
    rw [List.foldl_cons, ih, List.map_cons, List.mem_cons, ← or_assoc]
    apply or_congr_left
    unfold Sieve.push
    split
    · rename_i h
      exact ⟨.inl, fun hk => hk.elim id fun e => e ▸ h⟩
    · rw [Std.HashSet.contains_insert, Bool.or_eq_true, beq_iff_eq]
      exact ⟨fun hk => hk.symm.imp_right Eq.symm, fun hk => hk.symm.imp_left Eq.symm⟩

theorem distinctBy_concat (as : List α) (a : α) :
    distinctBy key (as ++ [a]) =
      if key a ∈ as.map key then distinctBy key as else distinctBy key as ++ [a] := by
  have seen : (as.foldl (Sieve.push key) {}).seen.contains (key a) ↔ _ :=
    contains_seen_foldl_push as {} (key a)
  unfold distinctBy
  rw [List.foldl_append, List.foldl_cons, List.foldl_nil, Sieve.push]
  by_cases h : key a ∈ as.map key
  · rw [if_pos (seen.mpr (.inr h)), if_pos h]
  · have fresh : ¬ (({} : Std.HashSet κ).contains (key a) = true) := by simp
    rw [if_neg fun c => (seen.mp c).elim fresh h, if_neg h, List.reverse_cons]

theorem mem_map_distinctBy {as : List α} {k : κ} :
    k ∈ (distinctBy key as).map key ↔ k ∈ as.map key := by
  induction as using List.reverseRecOn with
  | nil => simp
  | append_singleton as a ih =>
    rw [distinctBy_concat, List.map_append, List.mem_append, List.map_singleton,
      List.mem_singleton]
    split
    · rename_i h
      rw [ih]
      exact ⟨.inl, fun hk => hk.elim id fun e => e ▸ h⟩
    · rw [List.map_append, List.mem_append, ih, List.map_singleton, List.mem_singleton]

theorem nodup_map_distinctBy (as : List α) : ((distinctBy key as).map key).Nodup := by
  induction as using List.reverseRecOn with
  | nil => simp
  | append_singleton as a ih =>
    rw [distinctBy_concat]
    split
    · exact ih
    · rename_i h
      rw [List.map_append, List.map_singleton, ← List.concat_eq_append, List.nodup_concat]
      exact ⟨mem_map_distinctBy.not.mpr h, ih⟩

theorem mem_of_mem_distinctBy {as : List α} {a : α} (h : a ∈ distinctBy key as) : a ∈ as := by
  induction as using List.reverseRecOn with
  | nil => exact h
  | append_singleton as b ih =>
    rw [distinctBy_concat] at h
    split at h
    · exact List.mem_append_left _ (ih h)
    · exact (List.mem_append.mp h).elim (List.mem_append_left _ ∘ ih) (List.mem_append_right _)

def firstsBy (key : α → κ) (as : List α) : List α :=
  (as.zipIdx.filter fun (a, i) => key a ∉ (as.take i).map key).map (·.1)

omit [Hashable κ] in
theorem firstsBy_concat (as : List α) (a : α) :
    firstsBy key (as ++ [a]) =
      if key a ∈ as.map key then firstsBy key as else firstsBy key as ++ [a] := by
  -- what precedes an element is the same with or without the last one
  have before : as.zipIdx.filter (fun (b, i) => key b ∉ ((as ++ [a]).take i).map key) =
      as.zipIdx.filter fun (b, i) => key b ∉ (as.take i).map key := by
    refine List.filter_congr fun (b, i) hb => ?_
    have bound : i < as.length := by simpa using List.snd_lt_of_mem_zipIdx hb
    dsimp only
    rw [List.take_append_of_le_length (Nat.le_of_lt bound)]
  rw [firstsBy, firstsBy, List.zipIdx_append, List.filter_append, before, List.map_append]
  by_cases h : key a ∈ as.map key <;> simp [h]

theorem distinctBy_eq_firstsBy (as : List α) : distinctBy key as = firstsBy key as := by
  induction as using List.reverseRecOn with
  | nil => rfl
  | append_singleton as a ih => rw [distinctBy_concat, firstsBy_concat, ih]

theorem mem_distinct {as : List κ} {a : κ} : a ∈ distinct as ↔ a ∈ as := by
  have kept : a ∈ (distinctBy id as).map id ↔ a ∈ as.map id := mem_map_distinctBy
  rwa [List.map_id, List.map_id] at kept

theorem distinct_concat (as : List κ) (a : κ) :
    distinct (as ++ [a]) = if a ∈ as then distinct as else distinct as ++ [a] := by
  have step : distinctBy id (as ++ [a]) =
      if id a ∈ as.map id then distinctBy id as else distinctBy id as ++ [a] :=
    distinctBy_concat as a
  rwa [List.map_id] at step

theorem distinct_of_nodup {as : List κ} (h : as.Nodup) : distinct as = as := by
  induction as using List.reverseRecOn with
  | nil => rfl
  | append_singleton as a ih =>
    rw [← List.concat_eq_append, List.nodup_concat] at h
    rw [distinct_concat, if_neg h.1, ih h.2]

theorem nodup_distinct (as : List κ) : (distinct as).Nodup := by
  have kept : ((distinctBy id as).map id).Nodup := nodup_map_distinctBy as
  rwa [List.map_id] at kept

theorem map_distinctBy (as : List α) : (distinctBy key as).map key = distinct (as.map key) := by
  induction as using List.reverseRecOn with
  | nil => rfl
  | append_singleton as a ih =>
    rw [distinctBy_concat, List.map_append, List.map_singleton, distinct_concat]
    split
    · exact ih
    · rw [List.map_append, ih, List.map_singleton]

/-- Of a second list there stays what the first does not have. -/
theorem distinct_append (as bs : List κ) :
    distinct (as ++ bs) = distinct as ++ (distinct bs).filter (· ∉ as) := by
  induction bs using List.reverseRecOn with
  | nil => simp [distinct]
  | append_singleton bs b ih =>
    rw [← List.append_assoc, distinct_concat, distinct_concat, ih]
    by_cases earlier : b ∈ as <;> by_cases before : b ∈ bs <;>
      simp [earlier, before, List.filter_append]

theorem distinct_prefix_append (as bs : List κ) : distinct as <+: distinct (as ++ bs) :=
  ⟨_, (distinct_append as bs).symm⟩

theorem firstRepeatedBy?_go_eq_none_iff {as : List α} {seen : Std.HashSet κ} :
    firstRepeatedBy?.go key seen as = none ↔
      (∀ k ∈ as.map key, ¬ seen.contains k = true) ∧ (as.map key).Nodup := by
  induction as generalizing seen with
  | nil => simp [firstRepeatedBy?.go]
  | cons a as ih =>
    rw [firstRepeatedBy?.go, List.map_cons, List.nodup_cons, List.forall_mem_cons]
    split
    · rename_i old
      exact iff_of_false (by simp) fun h => h.1.1 old
    · rename_i new
      rw [ih]
      simp only [Std.HashSet.contains_insert, Bool.or_eq_true, beq_iff_eq, not_or]
      constructor
      · rintro ⟨apart, nodup⟩
        exact ⟨⟨new, fun k hk => (apart k hk).2⟩, fun h => (apart _ h).1 rfl, nodup⟩
      · rintro ⟨⟨-, apart⟩, once, nodup⟩
        exact ⟨fun k hk => ⟨fun e => once (e ▸ hk), apart k hk⟩, nodup⟩

theorem firstRepeatedBy?_eq_none_iff {as : List α} :
    firstRepeatedBy? key as = none ↔ (as.map key).Nodup := by
  rw [firstRepeatedBy?, firstRepeatedBy?_go_eq_none_iff, and_iff_right]
  simp

theorem firstRepeatedBy?_go_eq_some_iff {as : List α} {seen : Std.HashSet κ} {a : α} :
    firstRepeatedBy?.go key seen as = some a ↔ ∃ before after, as = before ++ a :: after ∧
      (∀ k ∈ before.map key, ¬ seen.contains k = true) ∧ (before.map key).Nodup ∧
        (seen.contains (key a) = true ∨ key a ∈ before.map key) := by
  induction as generalizing seen with
  | nil => simp [firstRepeatedBy?.go]
  | cons b as ih =>
    rw [firstRepeatedBy?.go]
    split
    · rename_i old
      constructor
      · rintro ⟨⟩
        exact ⟨[], as, rfl, nofun, List.nodup_nil, .inl old⟩
      · rintro ⟨before, after, split, new, -, -⟩
        cases before with
        | nil => rw [(List.cons.inj split).1]
        | cons c before =>
          obtain rfl := (List.cons.inj split).1
          exact absurd old (new _ List.mem_cons_self)
    · rename_i new
      rw [ih]
      simp only [Std.HashSet.contains_insert, Bool.or_eq_true, beq_iff_eq, not_or]
      constructor
      · rintro ⟨before, after, rfl, apart, nodup, again⟩
        refine ⟨b :: before, after, rfl, ?_, ?_, ?_⟩
        · exact List.forall_mem_cons.mpr ⟨new, fun k hk => (apart k hk).2⟩
        · exact List.nodup_cons.mpr ⟨fun h => (apart _ h).1 rfl, nodup⟩
        · rcases again with (same | old) | inside
          · exact .inr (List.mem_cons.mpr (.inl same.symm))
          · exact .inl old
          · exact .inr (List.mem_cons_of_mem _ inside)
      · rintro ⟨before, after, split, apart, nodup, again⟩
        cases before with
        | nil =>
          obtain rfl := (List.cons.inj split).1
          exact absurd (again.resolve_right List.not_mem_nil) new
        | cons c before =>
          obtain ⟨rfl, rfl⟩ := List.cons.inj split
          obtain ⟨-, others⟩ := List.forall_mem_cons.mp apart
          obtain ⟨once, distinct⟩ := List.nodup_cons.mp nodup
          refine ⟨before, after, rfl, fun k hk => ⟨fun e => once (e ▸ hk), others k hk⟩,
            distinct, ?_⟩
          rcases again with old | inside
          · exact .inl (.inr old)
          · exact (List.mem_cons.mp inside).elim (fun same => .inl (.inl same.symm)) .inr

/-- The first repetition: the elements before it have distinct keys, one of them its own. -/
theorem firstRepeatedBy?_eq_some_iff {as : List α} {a : α} :
    firstRepeatedBy? key as = some a ↔ ∃ before after, as = before ++ a :: after ∧
      (before.map key).Nodup ∧ key a ∈ before.map key := by
  rw [firstRepeatedBy?, firstRepeatedBy?_go_eq_some_iff]
  simp

end PartitionTest
