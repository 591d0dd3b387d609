import PartitionTest.Proofs.Model.Reachable

/-! The boundary points of the classes of a valid model. Declared points stand
first. Derived ones are the values next to the places where, in domain order,
the members of a class begin or end. -/
namespace PartitionTest

def runEnd (owners : List Nat) (c i : Nat) : Nat :=
  if h : i + 1 < owners.length then
    if owners[i + 1] = c then runEnd owners c (i + 1) else i
  else i
termination_by owners.length - i

theorem le_runEnd (owners : List Nat) (c i : Nat) : i ≤ runEnd owners c i := by
  fun_induction runEnd owners c i <;> omega

def scanRuns (owners : List Nat) (c i : Nat) : List (Nat × Nat) :=
  if h : i < owners.length then
    if owners[i] = c then
      (i, runEnd owners c i) :: scanRuns owners c (runEnd owners c i + 1)
    else scanRuns owners c (i + 1)
  else []
termination_by owners.length - i
decreasing_by
  · have := le_runEnd owners c i
    omega
  · omega

section Runs

variable {owners : List Nat} {c i p : Nat}

theorem runEnd_of_next (h : owners[i + 1]? = some c) :
    runEnd owners c i = runEnd owners c (i + 1) := by
  obtain ⟨inside, same⟩ := List.getElem?_eq_some_iff.mp h
  rw [runEnd, dif_pos inside, if_pos same]

theorem runEnd_of_next_ne (h : owners[i + 1]? ≠ some c) : runEnd owners c i = i := by
  rw [runEnd]
  split
  · rename_i inside
    exact if_neg fun same => h (List.getElem?_eq_some_iff.mpr ⟨inside, same⟩)
  · rfl

theorem runEnd_spec (h : owners[i]? = some c) :
    (∀ q, i ≤ q → q ≤ runEnd owners c i → owners[q]? = some c) ∧
      owners[runEnd owners c i + 1]? ≠ some c := by
  fun_induction runEnd owners c i with
  | case1 i inside same ih =>
    obtain ⟨within, stop⟩ := ih (List.getElem?_eq_some_iff.mpr ⟨inside, same⟩)
    refine ⟨fun q lower upper => ?_, stop⟩
    rcases Nat.eq_or_lt_of_le lower with rfl | later
    · exact h
    · exact within q later upper
  | case2 i inside other =>
    refine ⟨fun q lower upper => Nat.le_antisymm upper lower ▸ h, fun next => other ?_⟩
    exact (List.getElem?_eq_some_iff.mp next).2
  | case3 i outside =>
    refine ⟨fun q lower upper => Nat.le_antisymm upper lower ▸ h, fun next => outside ?_⟩
    exact (List.getElem?_eq_some_iff.mp next).1

theorem exists_mem_scanRuns_first {s : Nat} :
    (∃ e, (s, e) ∈ scanRuns owners c i) ↔
      i ≤ s ∧ owners[s]? = some c ∧ (s = i ∨ owners[s - 1]? ≠ some c) := by
  fun_induction scanRuns owners c i with
  | case1 i inside same ih =>
    have here : owners[i]? = some c := List.getElem?_eq_some_iff.mpr ⟨inside, same⟩
    obtain ⟨within, stop⟩ := runEnd_spec here
    have reach := le_runEnd owners c i
    -- `c` fills the run and does not follow on it, so no run begins in it or right behind it
    simp only [List.mem_cons, Prod.mk.injEq, exists_or, ih, exists_and_left, exists_eq, and_true]
    constructor
    · rintro (rfl | ⟨later, at_s, rfl | before⟩)
      · exact ⟨Nat.le_refl _, here, .inl rfl⟩
      · exact absurd at_s stop
      · exact ⟨by omega, at_s, .inr before⟩
    · rintro ⟨lower, at_s, rfl | before⟩
      · exact .inl rfl
      · by_cases inner : s ≤ runEnd owners c i
        · refine .inl (by_contra fun apart => before (within (s - 1) ?_ ?_)) <;> omega
        · exact .inr ⟨by omega, at_s, .inr before⟩
  | case2 i inside other ih =>
    have gap : owners[i]? ≠ some c := fun h => other (List.getElem?_eq_some_iff.mp h).2
    rw [ih]
    constructor
    · rintro ⟨later, at_s, rfl | before⟩
      · exact ⟨by omega, at_s, .inr gap⟩
      · exact ⟨by omega, at_s, .inr before⟩
    · rintro ⟨lower, at_s, first⟩
      have apart : s ≠ i := fun same => gap (same ▸ at_s)
      exact ⟨by omega, at_s, .inr (first.resolve_left apart)⟩
  | case3 i outside =>
    refine iff_of_false (by simp) fun ⟨lower, at_s, _⟩ => outside ?_
    exact Nat.lt_of_le_of_lt lower (List.getElem?_eq_some_iff.mp at_s).1

theorem exists_mem_scanRuns_last {e : Nat} :
    (∃ s, (s, e) ∈ scanRuns owners c i) ↔
      i ≤ e ∧ owners[e]? = some c ∧ owners[e + 1]? ≠ some c := by
  fun_induction scanRuns owners c i with
  | case1 i inside same ih =>
    have here : owners[i]? = some c := List.getElem?_eq_some_iff.mpr ⟨inside, same⟩
    obtain ⟨within, stop⟩ := runEnd_spec here
    have reach := le_runEnd owners c i
    simp only [List.mem_cons, Prod.mk.injEq, exists_or, ih, exists_and_right, exists_eq, true_and]
    constructor
    · rintro (rfl | ⟨later, ends⟩)
      · exact ⟨reach, within _ reach (Nat.le_refl _), stop⟩
      · exact ⟨by omega, ends⟩
    · rintro ⟨lower, at_e, behind⟩
      rcases Nat.lt_trichotomy e (runEnd owners c i) with inner | same | later
      · exact absurd (within (e + 1) (by omega) inner) behind
      · exact .inl same
      · exact .inr ⟨later, at_e, behind⟩
  | case2 i inside other ih =>
    have gap : owners[i]? ≠ some c := fun h => other (List.getElem?_eq_some_iff.mp h).2
    rw [ih]
    constructor
    · rintro ⟨later, ends⟩
      exact ⟨by omega, ends⟩
    · rintro ⟨lower, at_e, behind⟩
      have apart : e ≠ i := fun same => gap (same ▸ at_e)
      exact ⟨by omega, at_e, behind⟩
  | case3 i outside =>
    refine iff_of_false (by simp) fun ⟨lower, at_e, _⟩ => outside ?_
    exact Nat.lt_of_le_of_lt lower (List.getElem?_eq_some_iff.mp at_e).1

def prependRun (i : Nat) : List (Nat × Nat) → List (Nat × Nat)
  | (first, last) :: rest =>
    if first = i + 1 then (i, last) :: rest else (i, i) :: (first, last) :: rest
  | [] => [(i, i)]

theorem scanRuns_of_getElem? (h : owners[i]? = some c) :
    scanRuns owners c i = prependRun i (scanRuns owners c (i + 1)) := by
  obtain ⟨inside, same⟩ := List.getElem?_eq_some_iff.mp h
  by_cases next : owners[i + 1]? = some c
  · obtain ⟨within, goes⟩ := List.getElem?_eq_some_iff.mp next
    rw [scanRuns, dif_pos inside, if_pos same, runEnd_of_next next,
      scanRuns.eq_def owners c (i + 1), dif_pos within, if_pos goes, prependRun, if_pos rfl]
  · rw [scanRuns, dif_pos inside, if_pos same, runEnd_of_next_ne next]
    cases found : scanRuns owners c (i + 1) with
    | nil => rfl
    | cons run rest =>
      -- a run that began right behind would make the next owner `c`
      have apart : run.1 ≠ i + 1 := by
        intro joined
        have member : (run.1, run.2) ∈ scanRuns owners c (i + 1) := found ▸ List.mem_cons_self
        exact next (joined ▸ (exists_mem_scanRuns_first.mp ⟨_, member⟩).2.1)
      rw [prependRun, if_neg apart]

theorem scanRuns_of_getElem?_ne (h : owners[i]? ≠ some c) (inside : i < owners.length) :
    scanRuns owners c i = scanRuns owners c (i + 1) := by
  have other : owners[i] ≠ c := fun same =>
    h (List.getElem?_eq_some_iff.mpr ⟨inside, same⟩)
  rw [scanRuns, dif_pos inside, if_neg other]

theorem foldr_prependRun_drop (owners : List Nat) (c i : Nat) :
    (owners.zipIdx.drop i).foldr
      (fun a found => if a.1 == c then prependRun a.2 found else found) [] =
        scanRuns owners c i := by
  induction left : owners.length - i generalizing i with
  | zero =>
    have outside : ¬ i < owners.length := by omega
    rw [List.drop_of_length_le (by simp; omega), scanRuns, dif_neg outside]
    rfl
  | succ n ih =>
    have inside : i < owners.length := by omega
    rw [List.drop_eq_getElem_cons (by simpa using inside), List.foldr_cons,
      ih (i + 1) (by omega), List.getElem_zipIdx, Nat.zero_add]
    by_cases same : owners[i] = c
    · have here : owners[i]? = some c := List.getElem?_eq_some_iff.mpr ⟨inside, same⟩
      rw [if_pos (beq_iff_eq.mpr same), scanRuns_of_getElem? here]
    · have gap : owners[i]? ≠ some c := fun h => same (List.getElem?_eq_some_iff.mp h).2
      rw [if_neg (by simpa using same), scanRuns_of_getElem?_ne gap inside]

/-- Walking over the positions finds all runs. -/
theorem scanRuns_eq_runs (owners : List Nat) (c : Nat) :
    scanRuns owners c 0 = runs (· == c) owners := by
  rw [← foldr_prependRun_drop, List.drop_zero, runs]
  congr 1
  funext a found
  cases found <;> rfl

def Adjacent (p q : Nat) : Prop := p + 1 = q ∨ q + 1 = p

/-- Among `size` positions, one that is owned at an end of them or beside one that
is not, or one that is not owned beside one that is. -/
def Edge (Owned : Nat → Prop) (size p : Nat) : Prop :=
  (Owned p ∧ (p = 0 ∨ p + 1 = size ∨ ∃ q < size, Adjacent p q ∧ ¬ Owned q)) ∨
    (¬ Owned p ∧ ∃ q < size, Adjacent p q ∧ Owned q)

theorem mem_runEnds {size : Nat} {run : Nat × Nat} :
    p ∈ runEnds size run ↔
      p + 1 = run.1 ∨ p = run.1 ∨ p = run.2 ∨ (p = run.2 + 1 ∧ p < size) := by
  unfold runEnds
  split <;> split <;> simp <;> omega

theorem mem_flatMap_runEnds (inside : p < owners.length) :
    p ∈ (scanRuns owners c 0).flatMap (runEnds owners.length) ↔
      (∃ e, (p + 1, e) ∈ scanRuns owners c 0) ∨ (∃ e, (p, e) ∈ scanRuns owners c 0) ∨
        (∃ s, (s, p) ∈ scanRuns owners c 0) ∨
          ∃ e, p = e + 1 ∧ ∃ s, (s, e) ∈ scanRuns owners c 0 := by
  simp only [List.mem_flatMap, Prod.exists, mem_runEnds, and_iff_left inside]
  constructor
  · rintro ⟨s, e, found, rfl | rfl | rfl | rfl⟩
    · exact .inl ⟨e, found⟩
    · exact .inr (.inl ⟨e, found⟩)
    · exact .inr (.inr (.inl ⟨s, found⟩))
    · exact .inr (.inr (.inr ⟨e, rfl, s, found⟩))
  · rintro (⟨e, found⟩ | ⟨e, found⟩ | ⟨s, found⟩ | ⟨e, rfl, s, found⟩)
    · exact ⟨p + 1, e, found, .inl rfl⟩
    · exact ⟨p, e, found, .inr (.inl rfl)⟩
    · exact ⟨s, p, found, .inr (.inr (.inl rfl))⟩
    · exact ⟨s, e, found, .inr (.inr (.inr rfl))⟩

/-- The positions read off for the runs are exactly the edges. -/
theorem mem_flatMap_runEnds_iff (inside : p < owners.length) :
    p ∈ (scanRuns owners c 0).flatMap (runEnds owners.length) ↔
      Edge (fun q => owners[q]? = some c) owners.length p := by
  have bound : ∀ {q}, owners[q]? = some c → q < owners.length := fun h =>
    (List.getElem?_eq_some_iff.mp h).1
  simp only [mem_flatMap_runEnds inside, exists_mem_scanRuns_first, exists_mem_scanRuns_last,
    Nat.zero_le, true_and, Edge, Adjacent]
  constructor
  · rintro (⟨behind, first⟩ | ⟨here, first⟩ | ⟨here, last⟩ | ⟨e, rfl, before, last⟩)
    · refine .inr ⟨first.resolve_left (Nat.succ_ne_zero p), p + 1, bound behind, .inl rfl, behind⟩
    · by_cases zero : p = 0
      · exact .inl ⟨here, .inl zero⟩
      · exact .inl ⟨here, .inr (.inr ⟨p - 1, by omega, .inr (by omega), first.resolve_left zero⟩)⟩
    · by_cases final : p + 1 = owners.length
      · exact .inl ⟨here, .inr (.inl final)⟩
      · exact .inl ⟨here, .inr (.inr ⟨p + 1, by omega, .inl rfl, last⟩)⟩
    · exact .inr ⟨last, e, bound before, .inr rfl, before⟩
  · rintro (⟨here, zero | final | ⟨q, -, rfl | rfl, gap⟩⟩ | ⟨gap, q, -, rfl | rfl, owned⟩)
    · exact .inr (.inl ⟨here, .inl zero⟩)
    · exact .inr (.inr (.inl ⟨here, fun next => Nat.ne_of_lt (bound next) final⟩))
    · exact .inr (.inr (.inl ⟨here, gap⟩))
    · exact .inr (.inl ⟨here, .inr gap⟩)
    · exact .inl ⟨owned, .inr gap⟩
    · exact .inr (.inr (.inr ⟨q, rfl, owned, gap⟩))

example : (runs (· == 0) [0, 1, 0, 0]).map (runEnds 4) = [[0, 0, 1], [1, 2, 3]] := by decide

theorem lt_of_mem_flatMap_runEnds
    (h : p ∈ (scanRuns owners c 0).flatMap (runEnds owners.length)) : p < owners.length := by
  simp only [List.mem_flatMap, Prod.exists, mem_runEnds] at h
  obtain ⟨s, e, found, place⟩ := h
  have first := (exists_mem_scanRuns_first.mp ⟨e, found⟩).2.1
  have last := (exists_mem_scanRuns_last.mp ⟨s, found⟩).2.1
  have bound_s := (List.getElem?_eq_some_iff.mp first).1
  have bound_e := (List.getElem?_eq_some_iff.mp last).1
  omega

end Runs

theorem mapM_eq_some_filterMap {α β : Type} {f : α → Option β} {as : List α}
    (h : ∀ a ∈ as, (f a).isSome) : as.mapM f = some (as.filterMap f) := by
  induction as with
  | nil => rfl
  | cons a as ih =>
    obtain ⟨b, hb⟩ := Option.isSome_iff_exists.mp (h a List.mem_cons_self)
    rw [List.mapM_cons, ih fun a' ha => h a' (List.mem_cons_of_mem a ha),
      List.filterMap_cons_some hb, hb]
    rfl

namespace Variable

variable {x : Variable} {i p : Nat} {v : Scalar}

def owners (x : Variable) : List Nat :=
  x.domain.values.map fun v => (x.selecting v).headD 0

theorem length_owners (x : Variable) : x.owners.length = x.domain.values.length :=
  List.length_map _

def OwnsAt (x : Variable) (i p : Nat) : Prop :=
  ∃ v, x.domain.values[p]? = some v ∧ x.Owns i v

theorem IsPartition.getElem?_owners_eq_some (h : x.IsPartition) :
    x.owners[p]? = some i ↔ x.OwnsAt i p := by
  simp only [owners, List.getElem?_map, Option.map_eq_some_iff, OwnsAt]
  refine exists_congr fun v => and_congr_right fun at_p => ?_
  have unique := h.owner v (List.mem_of_getElem? at_p)
  constructor
  · have ⟨j, owns, _⟩ := unique
    rw [owns.selecting_eq unique]
    exact fun same => same ▸ owns
  · intro owns
    rw [owns.selecting_eq unique, List.headD_cons]

def edges (x : Variable) (i : Nat) : List Nat :=
  (scanRuns x.owners i 0).flatMap (runEnds x.domain.values.length)

theorem filterMap_edges (x : Variable) (i : Nat) :
    (x.edges i).filterMap (x.domain.values[·]?) =
      derivedBoundaries x.domain.values.toArray x.owners i := by
  rw [edges, scanRuns_eq_runs, derivedBoundaries, List.filterMap_flatMap]
  simp

theorem mapM_edges (x : Variable) (i : Nat) :
    (x.edges i).mapM (x.domain.values[·]?) =
      some ((x.edges i).filterMap (x.domain.values[·]?)) := by
  refine mapM_eq_some_filterMap fun p hp => ?_
  rw [edges, ← length_owners] at hp
  rw [isSome_getElem?, ← length_owners]
  exact lt_of_mem_flatMap_runEnds hp

theorem IsPartition.mem_edges_iff (h : x.IsPartition) (inside : p < x.domain.values.length) :
    p ∈ x.edges i ↔ Edge (x.OwnsAt i) x.domain.values.length p := by
  rw [← length_owners] at inside
  rw [edges, ← length_owners, mem_flatMap_runEnds_iff inside]
  simp only [h.getElem?_owners_eq_some]

theorem boundariesOf_table {c : Class} (hc : x.classes[i]? = some c) :
    x.table.boundariesOf i = firstsBy id (c.boundaries ++
      if c.autoBoundaries then (x.edges i).filterMap (x.domain.values[·]?) else []) := by
  rw [filterMap_edges, ← distinctBy_eq_firstsBy]
  simp only [Table.boundariesOf, table, List.getElem?_map, List.getElem?_zipIdx, hc,
    Option.map_some, Option.getD_some, Nat.zero_add]
  rfl

theorem nodup_boundariesOf_table (x : Variable) (i : Nat) : (x.table.boundariesOf i).Nodup := by
  cases hc : x.classes[i]? with
  | none => simp [Table.boundariesOf, table, hc]
  | some c =>
    rw [boundariesOf_table hc, ← distinctBy_eq_firstsBy]
    exact nodup_distinct _

end Variable

/-- The boundary points that a table has for a class. Each occurs once, the
declared ones come first, and others are there only if the class asks for them.
These make up, with the declared ones, the values at the edges of its members.
They are found by a walk over the runs of the class that reads inside the domain
alone. -/
structure Table.Bounds (t : Table) (x : Variable) (i : Nat) (c : Class) : Prop where
  nodup : (t.boundariesOf i).Nodup
  mem_domain : ∀ v ∈ t.boundariesOf i, v ∈ x.domain.values
  declared_first : firstsBy id c.boundaries <+: t.boundariesOf i
  eq_declared : c.autoBoundaries = false → t.boundariesOf i = firstsBy id c.boundaries
  mem_iff : c.autoBoundaries = true → ∀ p v, x.domain.values[p]? = some v →
    (v ∈ t.boundariesOf i ↔ v ∈ c.boundaries ∨
      Edge (x.OwnsAt i) x.domain.values.length p)
  scan : ∃ points, ((scanRuns t.owners.toList i 0).flatMap
      (runEnds x.domain.values.length)).mapM (x.domain.values[·]?) = some points ∧
    t.boundariesOf i = firstsBy id (c.boundaries ++ if c.autoBoundaries then points else [])

namespace Variable

theorem Sound.bounds {x : Variable} (sound : x.Sound) (part : x.IsPartition) {i : Nat} {c : Class}
    (hc : x.classes[i]? = some c) : x.table.Bounds x i c := by
  have points := boundariesOf_table hc
  have declared : ∀ b ∈ c.boundaries, b ∈ x.domain.values := fun b hb =>
    Domain.mem_values.mpr (sound.boundaries c (List.mem_of_getElem? hc) b hb)
  have mem : ∀ v, v ∈ x.table.boundariesOf i ↔ v ∈ c.boundaries ∨ c.autoBoundaries = true ∧
      ∃ p ∈ x.edges i, x.domain.values[p]? = some v := by
    intro v
    rw [points, ← distinctBy_eq_firstsBy]
    refine mem_distinct.trans ?_
    cases c.autoBoundaries <;> simp
  refine ⟨x.nodup_boundariesOf_table i, fun v hv => ?_, ?_, fun none => ?_,
    fun auto p v at_p => ?_, _, x.mapM_edges i, points⟩
  · rcases (mem v).mp hv with hb | ⟨-, p, -, at_p⟩
    · exact declared v hb
    · exact List.mem_of_getElem? at_p
  · rw [points, ← distinctBy_eq_firstsBy, ← distinctBy_eq_firstsBy]
    exact distinct_prefix_append ..
  · rw [points, none]
    simp
  · have inside := (List.getElem?_eq_some_iff.mp at_p).1
    have distinct := (Domain.flaw?_eq_none_iff.mp sound.domain).2.1
    rw [mem v, and_iff_right auto, ← part.mem_edges_iff inside]
    refine or_congr_right ⟨?_, fun edge => ⟨p, edge, at_p⟩⟩
    -- a value has one position, so the one it is read off at is its own
    rintro ⟨q, edge, at_q⟩
    rwa [(List.getElem?_inj inside distinct).mp (at_p.trans at_q.symm)]

end Variable

namespace Model

/-- The tables of a valid model hold the boundary points of every class: the
declared ones and, where asked for, those at the edges of its members. -/
theorem boundaries_at_edges {m : Model} (reachable : m.Reachable)
    (valid : m.isValidated = true) :
    ∃ ts, m.tables? = .ok ts ∧ List.Forall₂
      (fun t x => ∀ i c, x.classes[i]? = some c → t.Bounds x i c) ts m.vars :=
  reachable.forall₂_tables valid fun _ sound part _ _ hc => sound.bounds part hc

theorem boundaries_at_edges_gauge :
    gauge.validate.2.Reachable ∧ gauge.validate.2.isValidated = true ∧
      ∃ ts, gauge.validate.2.tables? = .ok ts ∧ List.Forall₂
        (fun t x => ∀ i c, x.classes[i]? = some c → t.Bounds x i c) ts gauge.vars :=
  ⟨reachable_gauge, isValidated_gauge, boundaries_at_edges reachable_gauge isValidated_gauge⟩

end Model

end PartitionTest
