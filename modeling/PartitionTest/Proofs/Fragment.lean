import PartitionTest.Report.Suite
import PartitionTest.Proofs.Text.Words

/-! Fragments of a source text. The lines with the markers are described by their
positions: the first line with a start marker, and the first one behind it with
an end marker. -/
namespace PartitionTest.Fragment

open Text (lines withReturns lines_withReturns)

variable {α : Type} {start stop : α → Bool} {as : List α}

theorem occursIn_iff {pattern s : List Char} : occursIn pattern s = true ↔ pattern <:+: s := by
  induction s with
  | nil => simp [occursIn]
  | cons c s ih =>
    rw [occursIn, Bool.or_eq_true, List.isPrefixOf_iff_prefix, ih, List.infix_cons_iff]

/-- The first element is looked for, then the other one behind it. -/
theorem between?_eq_bind (start stop : α → Bool) (as : List α) :
    between? start stop as = (as.findIdx? start).bind fun i =>
      ((as.drop (i + 1)).findIdx? stop).map fun n => (as.drop (i + 1)).take n := by
  have opening : (as.dropWhile fun a => !start a) = as.drop (as.findIdx start) := by
    simp [List.dropWhile_eq_drop_findIdx_not]
  have closing (rest : List α) :
      (if rest.any stop then some (rest.takeWhile fun a => !stop a) else none) =
        (rest.findIdx? stop).map fun n => rest.take n := by
    rw [← List.findIdx?_isSome]
    cases found : rest.findIdx? stop with
    | none => rfl
    | some n =>
      have here := (List.findIdx?_eq_some_iff_findIdx_eq.mp found).2
      simp [List.takeWhile_eq_take_findIdx_not, here]
  rw [between?, opening]
  cases found : as.findIdx? start with
  | none =>
    rw [List.findIdx?_eq_none_iff_findIdx_eq] at found
    rw [found, List.drop_length]
    rfl
  | some i =>
    obtain ⟨bound, here⟩ := List.findIdx?_eq_some_iff_findIdx_eq.mp found
    rw [here, List.drop_eq_getElem_cons bound]
    exact closing _

/-- `i` is the first position from `k` on where a line contains a marker. -/
structure IsNext (marker : String) (ls : List (List Char)) (k i : Nat) : Prop where
  le : k ≤ i
  holds : ∃ line, ls[i]? = some line ∧ marker.toList <:+: line
  first : ∀ m line, k ≤ m → m < i → ls[m]? = some line → ¬ marker.toList <:+: line

variable {marker : String} {ls : List (List Char)} {k i n : Nat}

theorem findIdx?_drop_eq_some_iff :
    (ls.drop k).findIdx? (occursIn marker.toList) = some n ↔ IsNext marker ls k (k + n) := by
  rw [List.findIdx?_eq_some_iff_getElem]
  constructor
  · rintro ⟨bound, here, before⟩
    refine ⟨Nat.le_add_right k n, ⟨_, ?_, occursIn_iff.mp here⟩, ?_⟩
    · rw [← List.getElem?_drop, List.getElem?_eq_getElem bound]
    · intro m line le lt hm inside
      obtain ⟨d, rfl⟩ := Nat.exists_eq_add_of_le le
      rw [← List.getElem?_drop, List.getElem?_eq_some_iff] at hm
      obtain ⟨hd, rfl⟩ := hm
      exact before d (by omega) (occursIn_iff.mpr inside)
  · rintro ⟨-, ⟨line, hn, here⟩, first⟩
    rw [← List.getElem?_drop, List.getElem?_eq_some_iff] at hn
    obtain ⟨bound, rfl⟩ := hn
    refine ⟨bound, occursIn_iff.mpr here, fun d hd inside => ?_⟩
    refine first (k + d) _ (Nat.le_add_right k d) (by omega) ?_ (occursIn_iff.mp inside)
    rw [← List.getElem?_drop, List.getElem?_eq_getElem]

theorem findIdx?_eq_some_iff :
    ls.findIdx? (occursIn marker.toList) = some i ↔ IsNext marker ls 0 i := by
  rw [← Nat.zero_add i, ← findIdx?_drop_eq_some_iff, List.drop_zero, Nat.zero_add]

theorem exists_isNext_iff :
    (∃ i, IsNext marker ls k i) ↔
      ∃ i line, k ≤ i ∧ ls[i]? = some line ∧ marker.toList <:+: line := by
  constructor
  · rintro ⟨i, next⟩
    obtain ⟨line, hi, inside⟩ := next.holds
    exact ⟨i, line, next.le, hi, inside⟩
  · rintro ⟨i, line, le, hi, inside⟩
    obtain ⟨d, rfl⟩ := Nat.exists_eq_add_of_le le
    rw [← List.getElem?_drop] at hi
    have found : ((ls.drop k).findIdx? (occursIn marker.toList)).isSome := by
      rw [List.findIdx?_isSome, List.any_eq_true]
      exact ⟨line, List.mem_of_getElem? hi, occursIn_iff.mpr inside⟩
    obtain ⟨n, hn⟩ := Option.isSome_iff_exists.mp found
    exact ⟨k + n, findIdx?_drop_eq_some_iff.mp hn⟩

def enclosed (ls : List (List Char)) (i j : Nat) : String :=
  String.ofList (((ls.drop (i + 1)).take (j - (i + 1))).flatMap fun line => line ++ ['\n'])

theorem extract?_eq_some_iff {source f : String} : extract? source = some f ↔
    ∃ i j, IsNext startMarker (lines source.toList) 0 i ∧
      IsNext endMarker (lines source.toList) (i + 1) j ∧
      f = enclosed (lines source.toList) i j := by
  rw [extract?, between?_eq_bind, Option.map_eq_some_iff]
  constructor
  · rintro ⟨inside, found, rfl⟩
    obtain ⟨i, hi, found⟩ := Option.bind_eq_some_iff.mp found
    obtain ⟨n, hn, rfl⟩ := Option.map_eq_some_iff.mp found
    refine ⟨i, i + 1 + n, findIdx?_eq_some_iff.mp hi, findIdx?_drop_eq_some_iff.mp hn, ?_⟩
    rw [enclosed, Nat.add_sub_cancel_left]
  · rintro ⟨i, j, opens, closes, rfl⟩
    obtain ⟨n, rfl⟩ := Nat.exists_eq_add_of_le closes.le
    have found := findIdx?_drop_eq_some_iff.mpr closes
    refine ⟨((lines source.toList).drop (i + 1)).take n, ?_, ?_⟩
    · rw [findIdx?_eq_some_iff.mpr opens, Option.bind_some, found, Option.map_some]
    · rw [enclosed, Nat.add_sub_cancel_left]

/-- There is a fragment just when the first line with the start marker has a line
with the end marker behind it. Then it is what stands between the first two such
lines, whatever else contains a marker, and whichever way the lines end. -/
theorem extract?_marked (source : String) :
    ((∃ f, extract? source = some f) ↔
      ∃ i, IsNext startMarker (lines source.toList) 0 i ∧
        ∃ j line, i < j ∧ (lines source.toList)[j]? = some line ∧
          endMarker.toList <:+: line) ∧
    (∀ f, extract? source = some f ↔
      ∃ i j, IsNext startMarker (lines source.toList) 0 i ∧
        IsNext endMarker (lines source.toList) (i + 1) j ∧
        f = enclosed (lines source.toList) i j) ∧
    ('\r' ∉ source.toList →
      extract? (String.ofList (withReturns source.toList)) = extract? source) := by
  refine ⟨?_, fun f => extract?_eq_some_iff, fun clear => ?_⟩
  · simp only [extract?_eq_some_iff]
    constructor
    · rintro ⟨f, i, j, opens, closes, -⟩
      exact ⟨i, opens, exists_isNext_iff.mp ⟨j, closes⟩⟩
    · rintro ⟨i, opens, later⟩
      obtain ⟨j, closes⟩ := exists_isNext_iff.mpr later
      exact ⟨_, i, j, opens, closes, rfl⟩
  · rw [extract?, String.toList_ofList, lines_withReturns clear, ← extract?]

/-- Neither the end markers before the first line in between nor the second start
marker mark anything. -/
def marked : String :=
  "End Semantic Matching\n# Start Semantic Matching, End Semantic Matching\n  x\n\n" ++
    "Start Semantic Matching\n# End Semantic Matching\ny"

theorem extract?_marked_twice :
    '\r' ∉ marked.toList ∧ extract? marked = some "  x\n\nStart Semantic Matching\n" ∧
      extract? (String.ofList (withReturns marked.toList)) =
        some "  x\n\nStart Semantic Matching\n" :=
  have clear : '\r' ∉ marked.toList := by decide +kernel
  have found : extract? marked = some "  x\n\nStart Semantic Matching\n" := by decide +kernel
  ⟨clear, found, ((extract?_marked marked).2.2 clear).trans found⟩

end PartitionTest.Fragment
