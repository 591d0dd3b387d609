import Mathlib.Data.List.Forall2
import Mathlib.Logic.Unique

/-! Computations that may fail. They succeed just when each of their steps does,
and what goes wrong has gone wrong in one of the steps. -/
namespace PartitionTest

variable {ε δ α β : Type}

theorem exists_of_bind_eq_ok {x : Except ε α} {f : α → Except ε β} {b : β}
    (h : x.bind f = .ok b) : ∃ a, x = .ok a ∧ f a = .ok b := by
  cases x with
  | error e => nomatch h
  | ok a => exact ⟨a, rfl, h⟩

theorem bind_eq_ok_iff {x : Except ε α} {f : α → Except ε β} {b : β} :
    x >>= f = .ok b ↔ ∃ a, x = .ok a ∧ f a = .ok b := by
  constructor
  · exact exists_of_bind_eq_ok
  · rintro ⟨a, rfl, h⟩
    exact h

theorem check_bind_eq_ok_iff {x : Except ε Unit} {f : Unit → Except ε β} {b : β} :
    x >>= f = .ok b ↔ x = .ok () ∧ f () = .ok b := by
  rw [bind_eq_ok_iff]
  exact Unique.exists_iff

theorem bind_eq_error_iff {x : Except ε α} {f : α → Except ε β} {e : ε} :
    x >>= f = .error e ↔ x = .error e ∨ ∃ a, x = .ok a ∧ f a = .error e := by
  constructor
  · intro h
    cases x with
    | error d => exact .inl (congrArg _ (Except.error.inj h))
    | ok a => exact .inr ⟨a, rfl, h⟩
  · rintro (rfl | ⟨a, rfl, h⟩)
    · rfl
    · exact h

theorem map_eq_error_iff {x : Except ε α} {f : α → β} {e : ε} :
    f <$> x = .error e ↔ x = .error e := by
  cases x <;> simp [Functor.map, Except.map]

theorem exists_map_eq_ok {x : Except ε α} {f : α → β} (h : ∃ a, x = .ok a) :
    ∃ b, f <$> x = .ok b := by
  obtain ⟨a, rfl⟩ := h
  exact ⟨f a, rfl⟩

theorem mapError_eq_ok_iff {x : Except ε α} {f : ε → δ} {a : α} :
    x.mapError f = .ok a ↔ x = .ok a := by
  cases x <;> simp [Except.mapError]

/-- A list is gone through completely, one result for each element. -/
theorem mapM_eq_ok_iff {f : α → Except ε β} {as : List α} {bs : List β} :
    as.mapM f = .ok bs ↔ List.Forall₂ (fun a b => f a = .ok b) as bs := by
  induction as generalizing bs with
  | nil =>
    rw [List.mapM_nil, List.forall₂_nil_left_iff]
    exact ⟨fun h => (Except.ok.inj h).symm, fun h => by rw [h]; rfl⟩
  | cons a as ih =>
    rw [List.mapM_cons, bind_eq_ok_iff, List.forall₂_cons_left_iff]
    refine exists_congr fun b => ?_
    rw [bind_eq_ok_iff]
    constructor
    · rintro ⟨head, rest, tail, ⟨⟩⟩
      exact ⟨rest, head, ih.mp tail, rfl⟩
    · rintro ⟨rest, head, tail, rfl⟩
      exact ⟨head, rest, ih.mpr tail, rfl⟩

theorem exists_of_mapM_eq_ok {f : α → Except ε β} {as : List α} {bs : List β}
    (h : as.mapM f = .ok bs) : ∀ a ∈ as, ∃ b, f a = .ok b := by
  have each := mapM_eq_ok_iff.mp h
  clear h
  induction each with
  | nil => exact nofun
  | cons head _ ih => exact List.forall_mem_cons.mpr ⟨⟨_, head⟩, ih⟩

theorem exists_mapM_eq_ok {f : α → Except ε β} {as : List α}
    (passed : ∀ a ∈ as, ∃ b, f a = .ok b) : ∃ bs, as.mapM f = .ok bs := by
  simp only [mapM_eq_ok_iff]
  induction as with
  | nil => exact ⟨[], .nil⟩
  | cons a as ih =>
    obtain ⟨⟨b, head⟩, others⟩ := List.forall_mem_cons.mp passed
    obtain ⟨bs, tail⟩ := ih others
    exact ⟨b :: bs, .cons head tail⟩

theorem mapM_append_cons_eq_error {f : α → Except ε β} {before after : List α} {a : α} {e : ε}
    (passed : ∀ b ∈ before, ∃ c, f b = .ok c) (failed : f a = .error e) :
    (before ++ a :: after).mapM f = .error e := by
  induction before with
  | nil =>
    rw [List.nil_append, List.mapM_cons, failed]
    rfl
  | cons b before ih =>
    obtain ⟨⟨c, head⟩, others⟩ := List.forall_mem_cons.mp passed
    rw [List.cons_append, List.mapM_cons, head]
    show ((before ++ a :: after).mapM f >>= _) = _
    rw [ih others]
    rfl

section Questions

variable {p : α → Except ε Bool} {as bs cs : List α} {a : α} {e : ε}

theorem anyM_map {f : β → α} {bs : List β} : (bs.map f).anyM p = bs.anyM fun b => p (f b) := by
  induction bs with
  | nil => rfl
  | cons b bs ih => rw [List.map_cons, List.anyM_cons, List.anyM_cons, ih]

theorem allM_map {f : β → α} {bs : List β} : (bs.map f).allM p = bs.allM fun b => p (f b) := by
  simp only [List.allM_eq_not_anyM_not, anyM_map]

theorem not_allM : (!·) <$> as.allM p = as.anyM fun a => (!·) <$> p a := by
  simp [List.allM_eq_not_anyM_not]

theorem not_anyM : (!·) <$> as.anyM p = as.allM fun a => (!·) <$> p a := by
  simp [List.allM_eq_not_anyM_not]

theorem anyM_append :
    (as ++ bs).anyM p = (do if ← as.anyM p then return true else bs.anyM p) := by
  induction as with
  | nil => rfl
  | cons a as ih =>
    rw [List.cons_append, List.anyM_cons, List.anyM_cons, ih, bind_assoc]
    apply bind_congr
    intro decided
    cases decided <;> rfl

/-- A question that stands for several can give way to them. -/
theorem anyM_splice (h : p a = bs.anyM p) :
    (as ++ [a] ++ cs).anyM p = (as ++ bs ++ cs).anyM p := by
  have asked : [a].anyM p = bs.anyM p := by
    rw [List.anyM_cons, ← h]
    cases p a with
    | error e => rfl
    | ok decided => cases decided <;> rfl
  simp only [anyM_append, asked]

theorem allM_splice (h : p a = bs.allM p) :
    (as ++ [a] ++ cs).allM p = (as ++ bs ++ cs).allM p := by
  rw [List.allM_eq_not_anyM_not] at h
  simp only [List.allM_eq_not_anyM_not]
  rw [anyM_splice]
  simp [h]

theorem exists_of_anyM_eq_error (h : as.anyM p = .error e) : ∃ a ∈ as, p a = .error e := by
  induction as with
  | nil => nomatch h
  | cons a as ih =>
    rw [List.anyM_cons, bind_eq_error_iff] at h
    obtain failed | ⟨decided, -, later⟩ := h
    · exact ⟨a, List.mem_cons_self, failed⟩
    · cases decided with
      | true => nomatch later
      | false =>
        obtain ⟨b, hb, failed⟩ := ih later
        exact ⟨b, List.mem_cons_of_mem _ hb, failed⟩

theorem exists_of_allM_eq_error (h : as.allM p = .error e) : ∃ a ∈ as, p a = .error e := by
  rw [List.allM_eq_not_anyM_not, map_eq_error_iff] at h
  obtain ⟨a, ha, failed⟩ := exists_of_anyM_eq_error h
  exact ⟨a, ha, map_eq_error_iff.mp failed⟩

theorem exists_anyM_eq_ok (answered : ∀ a ∈ as, ∃ b, p a = .ok b) : ∃ b, as.anyM p = .ok b := by
  cases h : as.anyM p with
  | ok b => exact ⟨b, rfl⟩
  | error e =>
    obtain ⟨a, ha, failed⟩ := exists_of_anyM_eq_error h
    obtain ⟨b, hb⟩ := answered a ha
    nomatch failed.symm.trans hb

theorem exists_allM_eq_ok (answered : ∀ a ∈ as, ∃ b, p a = .ok b) : ∃ b, as.allM p = .ok b := by
  rw [List.allM_eq_not_anyM_not]
  exact exists_map_eq_ok (exists_anyM_eq_ok fun a ha => exists_map_eq_ok (answered a ha))

end Questions

end PartitionTest
