import Mathlib.Data.Finset.Card
import Mathlib.Data.Finset.Dedup
import PartitionTest.Proofs.Case.Axes
import PartitionTest.Proofs.Model.Boundaries

/-! The representatives of a valid variable. They are its boundary points, each
where the first class that has it lists it, and behind those of a class the
middle one of the members that are no boundary points. A variable that names no
base takes one of them. -/
namespace PartitionTest

namespace Table

variable {t : Table} {c : Nat} {v : Scalar}

def boundaryPoints (t : Table) : Finset Scalar := t.boundaries.flatten.toFinset

def inner (t : Table) (c : Nat) : List Scalar :=
  (t.membersOf c).filter (· ∉ t.boundaryPoints)

def middle? (t : Table) (c : Nat) : Option Scalar :=
  (t.inner c)[(t.inner c).length / 2]?

theorem mem_boundaryPoints : v ∈ t.boundaryPoints ↔ ∃ c, v ∈ t.boundariesOf c := by
  simp only [boundaryPoints, List.mem_toFinset, List.mem_flatten, boundariesOf]
  constructor
  · rintro ⟨points, hp, hv⟩
    obtain ⟨c, hc⟩ := List.mem_iff_getElem?.mp hp
    exact ⟨c, by rwa [hc]⟩
  · rintro ⟨c, hv⟩
    cases hc : t.boundaries[c]? with
    | none => simp [hc] at hv
    | some points => exact ⟨points, List.mem_of_getElem? hc, by simpa [hc] using hv⟩

theorem isBoundary_eq (t : Table) (v : Scalar) :
    t.isBoundary v = decide (v ∈ t.boundaryPoints) := by
  rw [Bool.eq_iff_iff]
  simp [isBoundary, boundaryPoints]

theorem interior?_eq_middle? (t : Table) (c : Nat) : t.interior? c = t.middle? c := by
  simp only [interior?, middle?, inner, isBoundary_eq, decide_not]

theorem isSome_middle?_iff :
    (t.middle? c).isSome ↔ ∃ v ∈ t.membersOf c, v ∉ t.boundaryPoints := by
  have nonempty : (t.middle? c).isSome ↔ t.inner c ≠ [] := by
    rw [middle?, isSome_getElem?, ← List.length_pos_iff]
    omega
  simp [nonempty, inner]

theorem mem_of_middle? (h : t.middle? c = some v) : v ∈ t.membersOf c ∧ v ∉ t.boundaryPoints := by
  simpa [inner] using List.mem_of_getElem? h

/-- What a class adds to the representatives: those of its boundary points that no
class before it has, and its interior member. -/
def adds (t : Table) (c : Nat) : List Scalar :=
  (t.boundariesOf c).filter (fun v => ∀ d < c, v ∉ t.boundariesOf d) ++ (t.middle? c).toList

theorem mem_candidates {r : Representative} :
    r ∈ t.candidates c ↔ (∃ v ∈ t.boundariesOf c, r = ⟨v, (t.classOf v).getD c, .boundary⟩) ∨
      ∃ v, t.middle? c = some v ∧ r = ⟨v, c, .interior⟩ := by
  simp only [candidates, interior?_eq_middle?, List.mem_append, List.mem_map, Option.mem_toList,
    Option.map_eq_some_iff, eq_comm (a := r)]

theorem kind_of_mem_representatives {r : Representative} (hr : r ∈ t.representatives) :
    r.kind = if r.value ∈ t.boundaryPoints then .boundary else .interior := by
  obtain ⟨c, -, hc⟩ := List.mem_flatMap.mp (mem_of_mem_distinctBy hr)
  obtain ⟨v, hv, rfl⟩ | ⟨v, middle, rfl⟩ := mem_candidates.mp hc
  · exact (if_pos (mem_boundaryPoints.mpr ⟨c, hv⟩)).symm
  · exact (if_neg (mem_of_middle? middle).2).symm

/-- Tables that list boundary points for their classes and no others, none twice
for a class, and whose classes share no interior member. -/
structure Tidy (t : Table) : Prop where
  boundaries_length : t.boundaries.length = t.classCount
  nodup : ∀ c, (t.boundariesOf c).Nodup
  apart : ∀ c d v, t.middle? c = some v → t.middle? d = some v → c = d

variable (tidy : t.Tidy)

include tidy

theorem Tidy.nodup_points (c : Nat) : (t.boundariesOf c ++ (t.middle? c).toList).Nodup := by
  rw [List.nodup_append]
  refine ⟨tidy.nodup c, by cases t.middle? c <;> simp, fun v hv w hw same => ?_⟩
  have outside := (mem_of_middle? (Option.mem_toList.mp hw)).2
  exact outside (mem_boundaryPoints.mpr ⟨c, same ▸ hv⟩)

theorem Tidy.filter_points (n : Nat) :
    (t.boundariesOf n ++ (t.middle? n).toList).filter
      (· ∉ (List.range n).flatMap fun c => t.boundariesOf c ++ (t.middle? c).toList) =
        t.adds n := by
  have earlier : ∀ v, v ∈ ((List.range n).flatMap fun c =>
      t.boundariesOf c ++ (t.middle? c).toList) ↔
        ∃ c < n, v ∈ t.boundariesOf c ∨ t.middle? c = some v := by
    simp
  rw [List.filter_append, adds]
  congr 1
  · refine List.filter_congr fun v hv => ?_
    have inner : ∀ c, t.middle? c ≠ some v := fun c h =>
      (mem_of_middle? h).2 (mem_boundaryPoints.mpr ⟨n, hv⟩)
    simp [earlier, inner]
  · refine List.filter_eq_self.mpr fun v hv => ?_
    have middle : t.middle? n = some v := Option.mem_toList.mp hv
    rw [decide_eq_true_eq, earlier]
    rintro ⟨c, hc, boundary | again⟩
    · exact (mem_of_middle? middle).2 (mem_boundaryPoints.mpr ⟨c, boundary⟩)
    · exact Nat.ne_of_lt hc (tidy.apart c n v again middle)

theorem Tidy.distinct_points (n : Nat) :
    distinct ((List.range n).flatMap fun c => t.boundariesOf c ++ (t.middle? c).toList) =
      (List.range n).flatMap t.adds := by
  induction n with
  | zero => rfl
  | succ n ih =>
    rw [List.range_succ, List.flatMap_append, List.flatMap_append, distinct_append, ih,
      List.flatMap_singleton, List.flatMap_singleton, distinct_of_nodup (tidy.nodup_points n),
      tidy.filter_points]

theorem Tidy.map_value_representatives :
    t.representatives.map (·.value) = (List.range t.classCount).flatMap t.adds := by
  rw [representatives, map_distinctBy, List.map_flatMap, ← tidy.distinct_points]
  simp only [map_value_candidates, interior?_eq_middle?]

omit tidy in
theorem filter_adds (t : Table) (c : Nat) :
    (t.adds c).filter (· ∉ t.boundaryPoints) = (t.middle? c).toList := by
  rw [adds, List.filter_append, List.filter_eq_nil_iff.mpr, List.nil_append,
    List.filter_eq_self.mpr]
  · intro v hv
    exact decide_eq_true (mem_of_middle? (Option.mem_toList.mp hv)).2
  · intro v hv
    simpa using mem_boundaryPoints.mpr ⟨c, (List.mem_filter.mp hv).1⟩

theorem Tidy.mem_map_value_representatives :
    v ∈ t.representatives.map (·.value) ↔
      v ∈ t.boundaryPoints ∨ ∃ c < t.classCount, t.middle? c = some v := by
  rw [Table.mem_map_value_representatives, mem_boundaryPoints]
  simp only [interior?_eq_middle?, and_or_left, exists_or]
  refine or_congr_left (exists_congr fun c => and_iff_right_of_imp fun hv => ?_)
  by_contra beyond
  rw [boundariesOf, List.getElem?_eq_none (by rw [tidy.boundaries_length]; omega)] at hv
  contradiction

theorem Tidy.length_representatives :
    t.representatives.length = t.boundaryPoints.card +
      (List.range t.classCount).countP fun c => ∃ v ∈ t.membersOf c, v ∉ t.boundaryPoints := by
  let values := t.representatives.map (·.value)
  have boundary : values.countP (· ∈ t.boundaryPoints) = t.boundaryPoints.card := by
    have nodup : values.Nodup := nodup_map_distinctBy _
    rw [List.countP_eq_length_filter, ← List.toFinset_card_of_nodup (nodup.filter _)]
    congr 1
    ext v
    simp only [List.mem_toFinset, List.mem_filter, decide_eq_true_eq]
    exact and_iff_right_of_imp fun hv => tidy.mem_map_value_representatives.mpr (.inl hv)
  have interior : values.countP (· ∉ t.boundaryPoints) =
      (List.range t.classCount).countP fun c => ∃ v ∈ t.membersOf c, v ∉ t.boundaryPoints := by
    rw [List.countP_eq_length_filter, show values = _ from tidy.map_value_representatives,
      List.filter_flatMap]
    simp only [filter_adds]
    rw [← List.filterMap_eq_flatMap_toList, List.length_filterMap_eq_countP]
    exact List.countP_congr fun c _ => by rw [isSome_middle?_iff, decide_eq_true_eq]
  calc t.representatives.length = values.length := (List.length_map _).symm
    _ = values.countP (· ∈ t.boundaryPoints) + values.countP (· ∉ t.boundaryPoints) := by
      simpa using List.length_eq_countP_add_countP (· ∈ t.boundaryPoints)
    _ = _ := by rw [boundary, interior]

end Table

/-- Representatives of the values of a table, told apart by their values. These
are the boundary points and the middle one of the other members of each class
that has such; the kind tells which, and the owner is the class that owns the
value. They stand in the order of the classes, the boundary points of a class
that none before it has in front of its interior member. -/
structure Table.Represented (t : Table) (x : Variable) (rs : List Representative) : Prop where
  nodup_values : (rs.map (·.value)).Nodup
  mem_values : ∀ v, v ∈ rs.map (·.value) ↔
    v ∈ t.boundaryPoints ∨ ∃ c < t.classCount, t.middle? c = some v
  kind : ∀ r ∈ rs, r.kind = if r.value ∈ t.boundaryPoints then .boundary else .interior
  owner : ∀ r ∈ rs, r.value ∈ x.domain.values ∧ x.Owns r.owner r.value
  length : rs.length = t.boundaryPoints.card +
    (List.range t.classCount).countP fun c => ∃ v ∈ t.membersOf c, v ∉ t.boundaryPoints
  order : rs.map (·.value) = (List.range t.classCount).flatMap t.adds

theorem Table.lt_of_mem_membersOf {t : Table} {c : Nat} {v : Scalar} (h : v ∈ t.membersOf c) :
    c < t.classCount := by
  by_contra beyond
  rw [membersOf, List.getElem?_eq_none (Nat.le_of_not_lt beyond)] at h
  contradiction

namespace Variable

variable {x : Variable}

theorem IsPartition.mem_membersOf_iff (part : x.IsPartition) {c : Nat} {v : Scalar} :
    v ∈ x.table.membersOf c ↔ v ∈ x.domain.values ∧ x.Owns c v := by
  rw [← part.classOf_table_eq_some]
  constructor
  · intro h
    exact ((mem_membersOf_table (x.classCount_table ▸ Table.lt_of_mem_membersOf h)).mp h).2
  · intro found
    obtain ⟨hv, owns⟩ := part.classOf_table_eq_some.mp found
    exact (mem_membersOf_table owns.lt).mpr ⟨hv, found⟩

theorem IsPartition.tidy (part : x.IsPartition) : x.table.Tidy where
  boundaries_length := by rw [boundaries_length_table, classCount_table]
  nodup := x.nodup_boundariesOf_table
  apart c d v hc hd := by
    obtain ⟨hv, owns⟩ := part.mem_membersOf_iff.mp (Table.mem_of_middle? hc).1
    exact (part.owner v hv).unique owns (part.mem_membersOf_iff.mp (Table.mem_of_middle? hd).1).2

theorem Sound.owner_of_mem_representatives (sound : x.Sound) (part : x.IsPartition)
    {r : Representative} (hr : r ∈ x.table.representatives) :
    r.value ∈ x.domain.values ∧ x.Owns r.owner r.value := by
  obtain ⟨c, -, hc⟩ := List.mem_flatMap.mp (mem_of_mem_distinctBy hr)
  obtain ⟨v, hv, rfl⟩ | ⟨v, middle, rfl⟩ := Table.mem_candidates.mp hc
  · -- a boundary point may belong to another class than the one that has it
    have inside := sound.mem_of_borders (mem_boundariesOf_table.mp hv)
    obtain ⟨j, owns, -⟩ := part.owner v inside
    rw [part.classOf_table_eq_some.mpr ⟨inside, owns⟩]
    exact ⟨inside, owns⟩
  · exact part.mem_membersOf_iff.mp (Table.mem_of_middle? middle).1

theorem Sound.represented (sound : x.Sound) (part : x.IsPartition) :
    x.table.Represented x x.table.representatives where
  nodup_values := nodup_map_distinctBy _
  mem_values _ := part.tidy.mem_map_value_representatives
  kind _ := Table.kind_of_mem_representatives
  owner _ := sound.owner_of_mem_representatives part
  length := part.tidy.length_representatives
  order := part.tidy.map_value_representatives

end Variable

namespace Model

theorem representatives_represent {m : Model} (reachable : m.Reachable)
    (valid : m.isValidated = true) :
    ∃ ts, m.tables? = .ok ts ∧
      List.Forall₂ (fun t x => t.Represented x t.representatives) ts m.vars :=
  reachable.forall₂_tables valid fun _ sound part => sound.represented part

theorem representatives_represent_gauge :
    gauge.validate.2.Reachable ∧ gauge.validate.2.isValidated = true ∧
      ∃ ts, gauge.validate.2.tables? = .ok ts ∧
        List.Forall₂ (fun t x => t.Represented x t.representatives) ts gauge.vars :=
  ⟨reachable_gauge, isValidated_gauge, representatives_represent reachable_gauge isValidated_gauge⟩

end Model

theorem mapM_eq_some_map {α β : Type} {f : α → Option β} {g : α → β} {as : List α}
    (h : ∀ a ∈ as, f a = some (g a)) : as.mapM f = some (as.map g) := by
  have succeeds : ∀ a ∈ as, (f a).isSome := fun a ha => by rw [h a ha]; rfl
  rw [mapM_eq_some_filterMap succeeds, List.filterMap_congr h]
  simp

theorem filterMap_getElem?_range {α : Type} (as : List α) :
    (List.range as.length).filterMap (as[·]?) = as := by
  induction as with
  | nil => rfl
  | cons a as ih =>
    have first : (a :: as)[0]? = some a := rfl
    rw [List.length_cons, List.range_succ_eq_map, List.filterMap_cons_some first,
      List.filterMap_map]
    exact congrArg (a :: ·) ih

namespace Table

def readPoints? (t : Table) : Option (List Scalar) :=
  ((List.range t.classCount).mapM (t.boundaries[·]?)).map List.flatten

def readInterior? (t : Table) (points : List Scalar) (c : Nat) : Option (Option Scalar) := do
  let members ← t.members[c]?
  let inner := members.filter fun v => !points.contains v
  return inner[inner.length / 2]?

def readCandidates? (t : Table) (points : List Scalar) (c : Nat) :
    Option (List Representative) := do
  let own ← t.boundaries[c]?
  let interior ← t.readInterior? points c
  return own.map (fun v => ⟨v, (t.classOf v).getD c, .boundary⟩) ++
    (interior.map fun v => ⟨v, c, .interior⟩).toList

def readRepresentatives? (t : Table) : Option (List Representative) := do
  let points ← t.readPoints?
  let candidates ← (List.range t.classCount).mapM (t.readCandidates? points)
  return distinctBy (·.value) candidates.flatten

def readNominal? (t : Table) (c : Nat) : Option Scalar := do
  let points ← t.readPoints?
  match ← t.readInterior? points c with
  | some v => some v
  | none =>
    let members ← t.members[c]?
    members[members.length / 2]?

end Table

namespace Axis

def readBase? (x : Variable) (t : Table) : Option Scalar :=
  match x.base with
  | some v => some v
  | none => t.readNominal? (anchor x)

def read? (x : Variable) (t : Table) : Option Axis := do
  let representatives ← t.readRepresentatives?
  let base ← readBase? x t
  return { subject := x, table := t, representatives, base }

end Axis

namespace Table

variable {t : Table} {c : Nat}

theorem getElem?_members (hc : c < t.classCount) : t.members[c]? = some (t.membersOf c) := by
  rw [membersOf, List.getElem?_eq_getElem hc, Option.getD_some]

theorem Tidy.getElem?_boundaries (tidy : t.Tidy) (hc : c < t.classCount) :
    t.boundaries[c]? = some (t.boundariesOf c) := by
  rw [boundariesOf, List.getElem?_eq_getElem (tidy.boundaries_length ▸ hc), Option.getD_some]

theorem Tidy.readPoints?_eq (tidy : t.Tidy) : t.readPoints? = some t.boundaries.flatten := by
  rw [readPoints?, ← tidy.boundaries_length, mapM_eq_some_filterMap, filterMap_getElem?_range]
  · rfl
  · intro c hc
    rw [isSome_getElem?]
    exact List.mem_range.mp hc

theorem readInterior?_eq (hc : c < t.classCount) :
    t.readInterior? t.boundaries.flatten c = some (t.interior? c) := by
  have same : ∀ v, t.boundaries.flatten.contains v = t.isBoundary v := by
    intro v
    rw [Bool.eq_iff_iff]
    simp [isBoundary]
  rw [readInterior?, getElem?_members hc]
  simp only [same]
  rfl

theorem Tidy.readCandidates?_eq (tidy : t.Tidy) (hc : c < t.classCount) :
    t.readCandidates? t.boundaries.flatten c = some (t.candidates c) := by
  rw [readCandidates?, tidy.getElem?_boundaries hc, readInterior?_eq hc]
  rfl

theorem Tidy.readRepresentatives?_eq (tidy : t.Tidy) :
    t.readRepresentatives? = some t.representatives := by
  have all : (List.range t.classCount).mapM (t.readCandidates? t.boundaries.flatten) =
      some ((List.range t.classCount).map t.candidates) :=
    mapM_eq_some_map fun c hc => tidy.readCandidates?_eq (List.mem_range.mp hc)
  rw [readRepresentatives?, tidy.readPoints?_eq]
  show ((List.range t.classCount).mapM (t.readCandidates? t.boundaries.flatten)).bind _ = _
  rw [all]
  rfl

theorem Tidy.readNominal?_eq (tidy : t.Tidy) (hc : c < t.classCount) :
    t.readNominal? c = t.nominal? c := by
  rw [readNominal?, nominal?, tidy.readPoints?_eq]
  show (t.readInterior? t.boundaries.flatten c).bind _ = _
  rw [readInterior?_eq hc]
  cases t.interior? c with
  | some v => rfl
  | none =>
    show (t.members[c]?).bind _ = _
    rw [getElem?_members hc]
    rfl

end Table

namespace Variable

variable {x : Variable}

theorem IsPartition.nominal?_eq_base (part : x.IsPartition) (none : x.base = none) :
    x.table.nominal? (Axis.anchor x) = some x.axis.base := by
  obtain ⟨v, -, nominal⟩ :=
    Table.exists_nominal? (part.represents.membersOf_ne_nil _ part.anchor_lt)
  show _ = some (Axis.baseOf x x.table)
  rw [Axis.baseOf, none, nominal]
  rfl

theorem IsPartition.readBase?_eq (part : x.IsPartition) :
    Axis.readBase? x x.table = some x.axis.base := by
  unfold Axis.readBase?
  cases own : x.base with
  | some v =>
    show some v = some (Axis.baseOf x x.table)
    rw [Axis.baseOf, own]
  | none =>
    dsimp only
    rw [part.tidy.readNominal?_eq (x.classCount_table ▸ part.anchor_lt), part.nominal?_eq_base own]

/-- Making the axis of a valid variable looks nothing up in vain. -/
theorem IsPartition.read?_eq (part : x.IsPartition) : Axis.read? x x.table = some x.axis := by
  rw [Axis.read?, part.tidy.readRepresentatives?_eq, part.readBase?_eq]
  rfl

/-- The class whose members a variable takes its base from by default: the first
valid one, or the first of all if none is valid. -/
inductive Anchors (x : Variable) : Nat → Prop
  | valid {c : Nat} {d : Class} (hd : x.classes[c]? = some d) (tag : d.tag = .valid)
      (first : ∀ j < c, ∀ e, x.classes[j]? = some e → e.tag ≠ .valid) : Anchors x c
  | first (none : ∀ d ∈ x.classes, d.tag ≠ .valid) : Anchors x 0

theorem anchors_anchor (x : Variable) : x.Anchors (Axis.anchor x) := by
  unfold Axis.anchor
  cases found : x.classes.findIdx? (·.tag == .valid) with
  | none =>
    refine .first fun d hd valid => ?_
    have other := List.findIdx?_eq_none_iff.mp found d hd
    exact absurd (beq_iff_eq.mpr valid) (by simp [other])
  | some c =>
    obtain ⟨bound, valid, before⟩ := List.findIdx?_eq_some_iff_getElem.mp found
    refine .valid (List.getElem?_eq_getElem bound) (beq_iff_eq.mp valid) fun j hj e he invalid => ?_
    obtain ⟨within, rfl⟩ := List.getElem?_eq_some_iff.mp he
    exact before j hj (beq_iff_eq.mpr invalid)

end Variable

/-- The base that an axis has for its variable: a domain value, the one the variable
names if it names one. Otherwise it is a member of the class that anchors the
variable and a representative, namely the interior one of that class if there is
one, and else the middle member. -/
structure Axis.Grounded (a : Axis) (x : Variable) : Prop where
  subject : a.subject = x
  base_mem : a.base ∈ x.domain.values
  base_eq : ∀ v, x.base = some v → a.base = v
  anchored : x.base = none → ∃ c, x.Anchors c ∧
    a.base ∈ a.table.membersOf c ∧ x.Owns c a.base ∧
    a.base ∈ a.representatives.map (·.value) ∧
    (∀ r ∈ a.representatives, r.kind = .interior → r.owner = c → a.base = r.value) ∧
    ((∀ r ∈ a.representatives, r.kind = .interior → r.owner ≠ c) →
      (a.table.membersOf c)[(a.table.membersOf c).length / 2]? = some a.base)

namespace Table

variable {t : Table} {c : Nat} {v : Scalar}

theorem middle?_of_mem_representatives {r : Representative} (hr : r ∈ t.representatives)
    (kind : r.kind = .interior) : t.middle? r.owner = some r.value := by
  obtain ⟨c, -, hc⟩ := List.mem_flatMap.mp (mem_of_mem_distinctBy hr)
  obtain ⟨v, -, rfl⟩ | ⟨v, middle, rfl⟩ := mem_candidates.mp hc
  · contradiction
  · exact middle

theorem Tidy.exists_of_middle? (tidy : t.Tidy) (h : t.middle? c = some v) :
    ∃ r ∈ t.representatives, r.kind = .interior ∧ r.owner = c ∧ r.value = v := by
  obtain ⟨member, outside⟩ := mem_of_middle? h
  obtain ⟨r, hr, rfl⟩ := List.mem_map.mp
    (tidy.mem_map_value_representatives.mpr (.inr ⟨c, lt_of_mem_membersOf member, h⟩))
  have kind : r.kind = .interior := (kind_of_mem_representatives hr).trans (if_neg outside)
  exact ⟨r, hr, kind, tidy.apart _ _ _ (middle?_of_mem_representatives hr kind) h, rfl⟩

theorem nominal?_of_middle? (h : t.middle? c = some v) : t.nominal? c = some v := by
  rw [nominal?, interior?_eq_middle?, h, Option.some_or]

theorem nominal?_of_middle?_eq_none (h : t.middle? c = none) :
    t.nominal? c = (t.membersOf c)[(t.membersOf c).length / 2]? := by
  rw [nominal?, interior?_eq_middle?, h, Option.none_or]

theorem Tidy.nominal?_mem_representatives (tidy : t.Tidy) (h : t.nominal? c = some v)
    (member : v ∈ t.membersOf c) : v ∈ t.representatives.map (·.value) := by
  rw [tidy.mem_map_value_representatives]
  by_cases boundary : v ∈ t.boundaryPoints
  · exact .inl boundary
  · obtain ⟨w, hw⟩ := Option.isSome_iff_exists.mp
      (isSome_middle?_iff.mpr ⟨v, member, boundary⟩)
    obtain rfl : v = w := Option.some.inj (h.symm.trans (nominal?_of_middle? hw))
    exact .inr ⟨c, lt_of_mem_membersOf member, hw⟩

end Table

theorem Variable.IsPartition.grounded {x : Variable} (part : x.IsPartition) :
    x.axis.Grounded x := by
  refine ⟨rfl, part.axis_base_mem, fun v own => ?_, fun none => ?_⟩
  · show Axis.baseOf x x.table = v
    rw [Axis.baseOf, own]
  · have nominal := part.nominal?_eq_base none
    obtain ⟨v, member, hv⟩ :=
      Table.exists_nominal? (part.represents.membersOf_ne_nil _ part.anchor_lt)
    obtain rfl : v = x.axis.base := Option.some.inj (hv.symm.trans nominal)
    refine ⟨Axis.anchor x, x.anchors_anchor, member, (part.mem_membersOf_iff.mp member).2,
      part.tidy.nominal?_mem_representatives nominal member, fun r hr kind owner => ?_,
      fun without => ?_⟩
    · have middle := Table.middle?_of_mem_representatives hr kind
      rw [owner] at middle
      exact Option.some.inj (nominal.symm.trans (Table.nominal?_of_middle? middle))
    · cases middle : x.table.middle? (Axis.anchor x) with
      | none => exact (Table.nominal?_of_middle?_eq_none middle).symm.trans nominal
      | some w =>
        obtain ⟨r, hr, kind, owner, -⟩ := part.tidy.exists_of_middle? middle
        exact absurd owner (without r hr kind)

namespace Model

/-- The plan of a valid model is made without looking up anything outside the tables,
and each of its axes has a well-grounded base. -/
theorem plan_grounded {m : Model} (reachable : m.Reachable) (valid : m.isValidated = true) :
    ∃ ts p, m.tables? = .ok ts ∧ Plan.ofModel m = .ok p ∧
      (m.vars.zip ts).mapM (fun (x, t) => Axis.read? x t) = some p.axes ∧
      List.Forall₂ Axis.Grounded p.axes m.vars := by
  have sound := reachable.sound
  obtain ⟨tables, parts⟩ := sound.tables_eq valid
  refine ⟨m.vars.map Variable.table, _, by rw [tables?, tables], sound.plan valid, ?_, ?_⟩
  · rw [← List.map_prod_left_eq_zip, List.mapM_map]
    exact mapM_eq_some_map fun x hx => (parts x hx).read?_eq
  · rw [List.forall₂_map_left_iff, List.forall₂_same]
    exact fun x hx => (parts x hx).grounded

theorem plan_grounded_gauge :
    gauge.validate.2.Reachable ∧ gauge.validate.2.isValidated = true ∧
      ∃ ts p, gauge.validate.2.tables? = .ok ts ∧ Plan.ofModel gauge.validate.2 = .ok p ∧
        (gauge.vars.zip ts).mapM (fun (x, t) => Axis.read? x t) = some p.axes ∧
        List.Forall₂ Axis.Grounded p.axes gauge.vars :=
  ⟨reachable_gauge, isValidated_gauge, plan_grounded reachable_gauge isValidated_gauge⟩

end Model

end PartitionTest
