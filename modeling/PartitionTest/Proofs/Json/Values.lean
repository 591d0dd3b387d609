import Mathlib.Data.String.Basic
import PartitionTest.Proofs.Json.Restoring

/-! Values of any shape. Objects are written with their members in name order,
which says the same, and in compact text a value takes one line. -/
namespace PartitionTest.Json

theorem lookup_eq_none_of_not_mem {β : Type} {name : String} {ps : List (String × β)}
    (h : name ∉ ps.map (·.1)) : ps.lookup name = none := by
  rw [List.lookup_eq_none_iff]
  intro p hp
  exact bne_iff_ne.mpr fun same => h (List.mem_map.mpr ⟨p, hp, same.symm⟩)

theorem lookup_map_snd {β γ : Type} (f : β → γ) (name : String) (ps : List (String × β)) :
    (ps.map fun p => (p.1, f p.2)).lookup name = (ps.lookup name).map f := by
  induction ps with
  | nil => rfl
  | cons p ps ih =>
    rw [List.map_cons, List.lookup_cons, List.lookup_cons, ih]
    cases name == p.1 <;> rfl

namespace Value

variable {name key : String} {v : Value} {ms done : List (String × Value)}

def member? (name : String) (ms : List (String × Value)) : Option Value :=
  ms.reverse.lookup name

/-- Values that differ only in the order of members and in members that do not
count. -/
inductive Same : Value → Value → Prop
  | null : Same .null .null
  | bool (b : Bool) : Same (.bool b) (.bool b)
  | number (n : Number) : Same (.number n) (.number n)
  | string (s : String) : Same (.string s) (.string s)
  | array {vs ws : List Value} (each : List.Forall₂ Same vs ws) : Same (.array vs) (.array ws)
  | object {ms ns : List (String × Value)}
    (each : ∀ name, Option.Rel Same (member? name ms) (member? name ns)) :
    Same (.object ms) (.object ns)

theorem lookup_insertMember :
    (insertMember key v ms).lookup name = if name = key then some v else ms.lookup name := by
  induction ms with
  | nil => grind [insertMember]
  | cons m ms ih => grind [insertMember]

theorem mem_insertMember {m : String × Value} (h : m ∈ insertMember key v ms) :
    m = (key, v) ∨ m ∈ ms := by
  induction ms with
  | nil => exact .inl (List.mem_singleton.mp h)
  | cons _ ms ih => grind [insertMember]

def Ascending (ms : List (String × Value)) : Prop :=
  ms.Pairwise fun m n => m.1 < n.1

theorem Ascending.insertMember (h : Ascending ms) : Ascending (insertMember key v ms) := by
  induction ms with
  | nil => exact List.pairwise_singleton _ _
  | cons m ms ih =>
    obtain ⟨first, rest⟩ := List.pairwise_cons.mp h
    rw [Value.insertMember]
    split_ifs with before same
    · exact h.cons (List.forall_mem_cons.mpr ⟨before, fun n hn => before.trans (first n hn)⟩)
    · exact rest.cons fun n hn => same ▸ first n hn
    · have after : m.1 < key := lt_of_le_of_ne (not_lt.mp before) (Ne.symm same)
      refine (ih rest).cons fun n hn => ?_
      rcases mem_insertMember hn with rfl | old
      · exact after
      · exact first n old

theorem sortedItems_eq_map (vs : List Value) : sortedItems vs = vs.map sorted := by
  induction vs with
  | nil => rfl
  | cons v vs ih => rw [sortedItems, ih, List.map_cons]

theorem mem_sortedMembers {m : String × Value} (h : m ∈ sortedMembers ms done) :
    m ∈ done ∨ ∃ n ∈ ms, m = (n.1, n.2.sorted) := by
  induction ms generalizing done with
  | nil => exact .inl h
  | cons n ms ih =>
    rcases ih h with earlier | ⟨n', hn, rfl⟩
    · rcases mem_insertMember earlier with rfl | old
      · exact .inr ⟨n, List.mem_cons_self, rfl⟩
      · exact .inl old
    · exact .inr ⟨n', List.mem_cons_of_mem _ hn, rfl⟩

theorem Ascending.sortedMembers (h : Ascending done) (ms : List (String × Value)) :
    Ascending (sortedMembers ms done) := by
  induction ms generalizing done with
  | nil => exact h
  | cons m ms ih => exact ih h.insertMember

theorem member?_cons (name : String) (m : String × Value) (ms : List (String × Value)) :
    member? name (m :: ms) =
      (member? name ms).or (if name = m.1 then some m.2 else none) := by
  rw [member?, List.reverse_cons, List.lookup_append, member?]
  congr 1
  grind

theorem lookup_sortedMembers : (sortedMembers ms done).lookup name =
    ((member? name ms).map sorted).or (done.lookup name) := by
  induction ms generalizing done with
  | nil => rfl
  | cons m ms ih =>
    rw [sortedMembers, ih, lookup_insertMember, member?_cons]
    cases member? name ms with
    | some v => rfl
    | none => split_ifs <;> rfl

/-- Where no name is repeated, it does not matter which member counts. -/
theorem member?_of_nodup (h : (ms.map (·.1)).Nodup) : member? name ms = ms.lookup name := by
  induction ms with
  | nil => rfl
  | cons m ms ih =>
    obtain ⟨fresh, rest⟩ := List.nodup_cons.mp h
    rw [member?_cons, ih rest, List.lookup_cons]
    split_ifs with here
    · have absent : ms.lookup name = none := lookup_eq_none_of_not_mem (here ▸ fresh)
      rw [absent, beq_iff_eq.mpr here, Option.none_or]
    · rw [beq_eq_false_iff_ne.mpr here, Option.or_none]

theorem Ascending.nodup (h : Ascending ms) : (ms.map (·.1)).Nodup :=
  List.pairwise_map.mpr (h.imp fun before => before.ne)

theorem member?_sortedMembers (name : String) (ms : List (String × Value)) :
    member? name (sortedMembers ms []) = (member? name ms).map sorted := by
  have ascending : Ascending (sortedMembers ms []) := Ascending.sortedMembers .nil ms
  rw [member?_of_nodup ascending.nodup, lookup_sortedMembers, List.lookup_nil, Option.or_none]

theorem Fits.sorted {depth : Nat} (h : v.Fits depth) : v.sorted.Fits depth := by
  induction h with
  | null => exact .null
  | bool b => exact .bool b
  | int low high => exact .int low high
  | string s => exact .string s
  | array _ ih =>
    rw [Value.sorted, sortedItems_eq_map]
    exact .array (List.forall_mem_map.mpr ih)
  | object _ ih =>
    refine .object fun m hm => ?_
    rcases mem_sortedMembers hm with earlier | ⟨n, hn, rfl⟩
    · contradiction
    · exact ih n hn

mutual

theorem same_sorted (v : Value) : v.Same v.sorted := by
  match v with
  | .null => exact .null
  | .bool b => exact .bool b
  | .number n => exact .number n
  | .string s => exact .string s
  | .array vs => exact .array (same_sortedItems vs)
  | .object ms =>
    refine .object fun name => ?_
    rw [member?_sortedMembers]
    exact same_member? name ms

theorem same_sortedItems (vs : List Value) : List.Forall₂ Same vs (sortedItems vs) := by
  match vs with
  | [] => exact .nil
  | v :: vs => exact .cons (same_sorted v) (same_sortedItems vs)

theorem same_member? (name : String) (ms : List (String × Value)) :
    Option.Rel Same (member? name ms) ((member? name ms).map sorted) := by
  match ms with
  | [] => exact .none
  | (key, v) :: ms =>
    have later := same_member? name ms
    rw [member?_cons]
    cases found : member? name ms with
    | some w =>
      rw [found] at later
      exact later
    | none =>
      rw [Option.none_or]
      dsimp only
      split_ifs
      · exact .some (same_sorted v)
      · exact .none

end

theorem rel_same_sorted (o : Option Value) : Option.Rel Same o (o.map sorted) := by
  cases o with
  | none => exact .none
  | some v => exact .some v.same_sorted

end Value

theorem newline_not_mem_intChars (n : Int) : '\n' ∉ intChars n := by
  have digits : '\n' ∉ Nat.toDigits 10 n.natAbs := fun h =>
    absurd (Nat.isDigit_of_mem_toDigits (by decide) (by decide) h) (by decide)
  rw [intChars]
  split
  · exact fun h => (List.mem_cons.mp h).elim (by decide) digits
  · exact digits

theorem hexDigit_ne_newline {n : Nat} (h : n < 16) : '\n' ≠ Text.hexDigit n := by
  interval_cases n <;> decide

theorem newline_not_mem_escapeChar (c : Char) : '\n' ∉ escapeChar c := by
  unfold escapeChar
  split_ifs with quote backslash backspace tab feed page carriage control
  · decide
  · decide
  · decide
  · decide
  · decide
  · decide
  · decide
  · have high : c.toNat / 16 < 16 := by omega
    have low : c.toNat % 16 < 16 := by omega
    simp [hexDigit_ne_newline high, hexDigit_ne_newline low]
  · simpa [eq_comm] using feed

theorem newline_not_mem_stringChars (s : String) : '\n' ∉ stringChars s := by
  have inside : '\n' ∉ s.toList.flatMap escapeChar := by
    rw [List.mem_flatMap]
    rintro ⟨c, -, hc⟩
    exact newline_not_mem_escapeChar c hc
  simp [stringChars, inside]

namespace Layout

@[simp] theorem compact_lineBreak (level : Nat) : compact.lineBreak level = [] := rfl

@[simp] theorem compact_afterColon : compact.afterColon = [] := rfl

theorem newline_not_mem_itemChars {vs : List Value}
    (h : ∀ v ∈ vs, ∀ level, '\n' ∉ compact.chars level v) (level : Nat) :
    '\n' ∉ compact.itemChars level vs := by
  induction vs with
  | nil => simp [itemChars]
  | cons v vs ih =>
    obtain ⟨hv, hvs⟩ := List.forall_mem_cons.mp h
    simp [itemChars, hv level, ih hvs]

theorem newline_not_mem_memberChars {ms : List (String × Value)}
    (h : ∀ m ∈ ms, ∀ level, '\n' ∉ compact.chars level m.2) (level : Nat) :
    '\n' ∉ compact.memberChars level ms := by
  induction ms with
  | nil => simp [memberChars]
  | cons m ms ih =>
    obtain ⟨hm, hms⟩ := List.forall_mem_cons.mp h
    simp [memberChars, newline_not_mem_stringChars, hm level, ih hms]

end Layout

/-- The compact text of a value is on one line: a line feed in it is escaped. -/
theorem Value.Fits.newline_not_mem_chars {depth : Nat} {v : Value} (h : v.Fits depth)
    (level : Nat) : '\n' ∉ Layout.compact.chars level v := by
  induction h generalizing level with
  | null => simp [Layout.chars]
  | bool b => cases b <;> simp [Layout.chars]
  | int _ _ => simpa [Layout.chars, Value.int, Number.chars] using newline_not_mem_intChars _
  | string s => simpa [Layout.chars] using newline_not_mem_stringChars s
  | @array _ items _ ih =>
    cases items with
    | nil => simp [Layout.chars]
    | cons v vs =>
      obtain ⟨hv, hvs⟩ := List.forall_mem_cons.mp ih
      simp [Layout.chars, hv, Layout.newline_not_mem_itemChars hvs]
  | @object _ members _ ih =>
    cases members with
    | nil => simp [Layout.chars]
    | cons m ms =>
      obtain ⟨hm, hms⟩ := List.forall_mem_cons.mp ih
      simp [Layout.chars, newline_not_mem_stringChars, hm, Layout.newline_not_mem_memberChars hms]

end PartitionTest.Json
