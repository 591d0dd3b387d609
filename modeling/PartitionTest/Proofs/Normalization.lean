import PartitionTest.Proofs.Report
import PartitionTest.Proofs.Text.Words

/-! Normalizations from exact to collapsed take ever more outputs as equal.
Collapsing forgets all but the words, and trimming keeps these. Texts that have the
same lines, but for blanks at the ends of lines and of the text, are trimmed to one
text: it consists of these lines, and trimming leaves it as it is. -/
namespace PartitionTest

namespace Text

variable {s line : List Char} {ls : List (List Char)}

theorem trimEnd_join (ends : ∀ line ∈ ls, trimEnd line = line) :
    trimEnd (join ['\n'] ls) = join ['\n'] (ls.rdropWhile List.isEmpty) := by
  induction ls using List.reverseRecOn with
  | nil => rfl
  | append_singleton ls line ih =>
    have before := ih fun l hl => ends l (List.mem_append_left _ hl)
    have last : ¬ EndsBlank line := trimEnd_eq_self_iff_not_endsBlank.mp (ends line (by simp))
    rw [List.rdropWhile_concat]
    by_cases empty : line = []
    · subst empty
      rw [List.isEmpty_nil, if_pos rfl, ← before]
      by_cases only : ls = []
      · subst only
        rfl
      · rw [join_concat _ _ only, List.append_nil, trimEnd_concat, if_pos (by decide)]
    · rw [if_neg (mt List.isEmpty_iff.mp empty)]
      by_cases only : ls = []
      · subst only
        rw [List.nil_append, join_singleton, ends line (by simp)]
      · rw [join_concat _ _ only]
        exact ((endsVisible_iff.mpr ⟨empty, last⟩).append _).trimEnd

/-- Lines with no blanks at their ends, the last of them not empty. -/
structure Stripped (ls : List (List Char)) : Prop where
  clear : ∀ line ∈ ls, '\n' ∉ line
  ends : ∀ line ∈ ls, trimEnd line = line
  full : ls.rdropWhile List.isEmpty = ls

theorem Stripped.last_ne_nil (h : Stripped ls) (line : List Char)
    (last : ls.getLast? = some line) : line ≠ [] := by
  obtain ⟨front, rfl⟩ := List.getLast?_eq_some_iff.mp last
  simpa using List.rdropWhile_eq_self_iff.mp h.full (by simp)

theorem Stripped.lines_join (h : Stripped ls) : lines (join ['\n'] ls) = ls :=
  Text.lines_join h.clear (fun line hl => dropReturn_eq_self (h.ends line hl)) h.last_ne_nil

theorem Stripped.trimEnd_join (h : Stripped ls) :
    trimEnd (join ['\n'] ls) = join ['\n'] ls := by
  rw [Text.trimEnd_join h.ends, h.full]

/-- The lines of a text without the blanks at their ends, up to the last that is
not empty then. -/
def strippedLines (s : List Char) : List (List Char) :=
  ((lines s).map trimEnd).rdropWhile List.isEmpty

theorem strippedLines_eq (s : List Char) :
    strippedLines s = ((s.splitOn '\n').map trimEnd).rdropWhile List.isEmpty := by
  obtain ⟨first, last, pieces⟩ : ∃ first last, s.splitOn '\n' = first ++ [last] :=
    ⟨_, _, (List.dropLast_concat_getLast (List.splitOn_ne_nil _ _)).symm⟩
  have returned : (first.map dropReturn).map trimEnd = first.map trimEnd := by
    rw [List.map_map]
    exact List.map_congr_left fun line _ => trimEnd_dropReturn line
  rw [strippedLines, lines_eq pieces, pieces, List.map_append, List.map_append, returned]
  split
  · subst last
    rw [List.map_nil, List.append_nil]
    exact (List.rdropWhile_concat_pos _ _ _ rfl).symm
  · rfl

theorem stripped_strippedLines (s : List Char) : Stripped (strippedLines s) := by
  have pieces {line : List Char} (h : line ∈ strippedLines s) :
      ∃ piece ∈ s.splitOn '\n', trimEnd piece = line := by
    rw [strippedLines_eq] at h
    exact List.mem_map.mp ((List.rdropWhile_prefix _ _).subset h)
  refine ⟨fun line hl => ?_, fun line hl => ?_, List.rdropWhile_idempotent ..⟩
  · obtain ⟨piece, hp, rfl⟩ := pieces hl
    have part := (List.rdropWhile_prefix isBlank piece).subset
    exact fun inside => newline_not_mem_of_mem_splitOn hp (part inside)
  · obtain ⟨piece, -, rfl⟩ := pieces hl
    exact trimEnd_trimEnd piece

/-- A carriage return before a line feed is a blank at the end of a line. -/
theorem strippedLines_return (s t : List Char) :
    strippedLines (s ++ '\r' :: '\n' :: t) = strippedLines (s ++ '\n' :: t) := by
  obtain ⟨first, last, pieces⟩ : ∃ first last, s.splitOn '\n' = first ++ [last] :=
    ⟨_, _, (List.dropLast_concat_getLast (List.splitOn_ne_nil _ _)).symm⟩
  have returned : (s ++ ['\r']).splitOn '\n' = first ++ [last ++ ['\r']] :=
    splitOn_append_of_not_mem pieces (by decide)
  have lost : trimEnd (last ++ ['\r']) = trimEnd last := by
    rw [trimEnd_concat, if_pos (by decide)]
  rw [← List.singleton_append (x := '\r'), ← List.append_assoc, strippedLines_eq,
    strippedLines_eq, List.splitOn_append_cons_self, List.splitOn_append_cons_self, returned,
    pieces]
  simp only [List.map_append, List.map_singleton, lost]

theorem strippedLines_withReturns (s t : List Char) :
    strippedLines (s ++ withReturns t) = strippedLines (s ++ t) :=
  apply_withReturns (p := fun _ => True) (fun s t _ => strippedLines_return s t) fun _ _ => trivial

variable {i j : Nat} {later : List Char}

theorem getElem?_rdropWhile {α : Type} {p : α → Bool} {l : List α} {a : α} (le : i ≤ j)
    (hj : l[j]? = some a) (ha : p a = false) : (l.rdropWhile p)[i]? = l[i]? := by
  have parts := List.rdropWhile_append_rtakeWhile (p := p) (l := l)
  have short : j < (l.rdropWhile p).length := by
    by_contra long
    rw [← parts, List.getElem?_append_right (Nat.le_of_not_lt long)] at hj
    exact absurd (List.mem_rtakeWhile_imp (List.mem_of_getElem? hj)) (by simp [ha])
  conv_rhs => rw [← parts, List.getElem?_append_left (Nat.lt_of_le_of_lt le short)]

theorem mem_trimEnd {c : Char} (hc : c ∈ line) (visible : isBlank c = false) :
    c ∈ trimEnd line := by
  rw [← List.rdropWhile_append_rtakeWhile (p := isBlank) (l := line), List.mem_append] at hc
  exact hc.resolve_right fun tail => absurd (List.mem_rtakeWhile_imp tail) (by simp [visible])

/-- Every line up to one that is not blank is kept, be it blank itself. -/
theorem getElem?_strippedLines (le : i ≤ j) (hj : (lines s)[j]? = some later)
    (full : ∃ c ∈ later, isBlank c = false) :
    (strippedLines s)[i]? = (lines s)[i]?.map trimEnd := by
  obtain ⟨c, hc, visible⟩ := full
  have shown : (trimEnd later).isEmpty = false :=
    List.isEmpty_eq_false_iff.mpr (List.ne_nil_of_mem (mem_trimEnd hc visible))
  have trimmed : ((lines s).map trimEnd)[j]? = some (trimEnd later) := by
    rw [List.getElem?_map, hj, Option.map_some]
  rw [strippedLines, getElem?_rdropWhile le trimmed shown, List.getElem?_map]

theorem takeWhile_trimEnd (full : ∃ c ∈ line, isBlank c = false) :
    (trimEnd line).takeWhile isBlank = line.takeWhile isBlank := by
  obtain ⟨c, hc, visible⟩ := full
  have stops : ((trimEnd line).takeWhile isBlank).length ≠ (trimEnd line).length := by
    intro all
    have blank := List.takeWhile_eq_self_iff.mp ((List.takeWhile_prefix isBlank).eq_of_length all)
    exact absurd (blank c (mem_trimEnd hc visible)) (by simp [visible])
  conv_rhs => rw [← List.rdropWhile_append_rtakeWhile (p := isBlank) (l := line)]
  exact (List.takeWhile_append.trans (if_neg stops)).symm

end Text

namespace Normalization

/-- Whatever the one normalization takes as equal the other does too. -/
def Refines (m n : Normalization) : Prop :=
  ∀ s t, m.apply s = m.apply t → n.apply s = n.apply t

theorem exact_refines (n : Normalization) : exact.Refines n :=
  fun _ _ => congrArg n.apply

theorem words_trimmed (s : List Char) : Text.words (trimmed s) = Text.words s := by
  rw [trimmed, Text.words_trimEnd, Text.words_join (c := '\n') (by decide), List.flatMap_map,
    ← Text.flatMap_words_lines s]
  exact List.flatMap_congr fun line _ => Text.words_trimEnd line

theorem words_collapsed (s : List Char) : Text.words (collapsed s) = Text.words s :=
  Text.words_join_of_isWord (by decide) fun _ => Text.isWord_of_mem_words

theorem newline_not_mem_collapsed (s : List Char) : '\n' ∉ collapsed s := by
  intro h
  rcases Text.mem_of_mem_join [' '] h with space | ⟨w, hw, inside⟩
  · simp at space
  · exact absurd ((Text.isWord_of_mem_words hw).not_blank _ inside) (by decide)

theorem trimmed_collapsed (s : List Char) : trimmed (collapsed s) = collapsed s := by
  by_cases empty : collapsed s = []
  · rw [empty]
    rfl
  · have kept : Text.trimEnd (collapsed s) = collapsed s :=
      Text.trimEnd_join_of_isWord [' '] fun _ => Text.isWord_of_mem_words
    rw [trimmed, Text.lines_of_not_mem (newline_not_mem_collapsed s) empty, List.map_singleton,
      Text.join_singleton, kept, kept]

theorem collapse_apply_trim (s : String) :
    collapse.apply (trim.apply s) = collapse.apply s := by
  rw [apply, apply, apply, String.toList_ofList, collapsed, words_trimmed]
  rfl

theorem trim_apply_collapse (s : String) :
    trim.apply (collapse.apply s) = collapse.apply s := by
  rw [apply, apply, String.toList_ofList, trimmed_collapsed]

theorem collapse_apply_collapse (s : String) :
    collapse.apply (collapse.apply s) = collapse.apply s := by
  rw [apply, apply, String.toList_ofList, collapsed, words_collapsed]
  rfl

theorem trim_refines_collapse : trim.Refines collapse := by
  intro s t same
  rw [← collapse_apply_trim s, same, collapse_apply_trim]

open Text (lines join trimEnd strippedLines)

theorem trimmed_eq_join (s : List Char) : trimmed s = join ['\n'] (strippedLines s) :=
  Text.trimEnd_join fun line hl => by
    obtain ⟨line, -, rfl⟩ := List.mem_map.mp hl
    exact Text.trimEnd_trimEnd line

theorem lines_trimmed (s : List Char) : lines (trimmed s) = strippedLines s := by
  rw [trimmed_eq_join]
  exact (Text.stripped_strippedLines s).lines_join

theorem strippedLines_trimmed (s : List Char) : strippedLines (trimmed s) = strippedLines s := by
  have stripped := Text.stripped_strippedLines s
  rw [strippedLines, lines_trimmed, List.map_congr_left stripped.ends, List.map_id', stripped.full]

theorem trimmed_eq_iff (s t : List Char) :
    trimmed s = trimmed t ↔ strippedLines s = strippedLines t := by
  constructor
  · intro same
    rw [← lines_trimmed s, same, lines_trimmed]
  · intro same
    rw [trimmed_eq_join, same, ← trimmed_eq_join]

theorem not_endsBlank_trimmed (s : List Char) : ¬ Text.EndsBlank (trimmed s) :=
  Text.trimEnd_eq_self_iff_not_endsBlank.mp (Text.trimEnd_trimEnd _)

theorem not_endsBlank_of_mem_splitOn_trimmed {s piece : List Char}
    (h : piece ∈ (trimmed s).splitOn '\n') : ¬ Text.EndsBlank piece := by
  have stripped := Text.stripped_strippedLines s
  rw [trimmed_eq_join] at h
  by_cases empty : strippedLines s = []
  · rw [empty] at h
    obtain rfl := List.mem_singleton.mp h
    simp [Text.EndsBlank]
  · rw [Text.splitOn_join stripped.clear empty] at h
    exact Text.trimEnd_eq_self_iff_not_endsBlank.mp (stripped.ends piece h)

/-- A text and what is left of it: its lines without the blanks at their ends and
without blank lines at its end, be they cut as lines or just at line feeds. Blanks at
the start of a line stay, and so do blank lines with others behind them. -/
structure Trims (s r : List Char) : Prop where
  pieces : strippedLines s = ((s.splitOn '\n').map trimEnd).rdropWhile List.isEmpty
  joined : r = join ['\n'] (strippedLines s)
  lines : lines r = strippedLines s
  line_ends : ∀ line ∈ r.splitOn '\n', ¬ Text.EndsBlank line
  ends : ¬ Text.EndsBlank r
  leading : ∀ (i : Nat) (line : List Char), (Text.lines s)[i]? = some line →
    (∃ c ∈ line, Text.isBlank c = false) →
      (Text.lines r)[i]? = some (trimEnd line) ∧
        (trimEnd line).takeWhile Text.isBlank = line.takeWhile Text.isBlank
  inner : ∀ (i j : Nat) (line later : List Char), i < j →
    (Text.lines s)[i]? = some line → (∀ c ∈ line, Text.isBlank c = true) →
      (Text.lines s)[j]? = some later → (∃ c ∈ later, Text.isBlank c = false) →
        (Text.lines r)[i]? = some []

theorem trims_trimmed (s : List Char) : Trims s (trimmed s) where
  pieces := Text.strippedLines_eq s
  joined := trimmed_eq_join s
  lines := lines_trimmed s
  line_ends _ h := not_endsBlank_of_mem_splitOn_trimmed h
  ends := not_endsBlank_trimmed s
  leading i line hi full := by
    rw [lines_trimmed, Text.getElem?_strippedLines (Nat.le_refl i) hi full, hi]
    exact ⟨rfl, Text.takeWhile_trimEnd full⟩
  inner i j line later lt hi blank hj full := by
    rw [lines_trimmed, Text.getElem?_strippedLines (Nat.le_of_lt lt) hj full, hi]
    exact congrArg some (List.rdropWhile_eq_nil_iff.mpr blank)

/-- Trimming chooses one of all texts with the same stripped lines, whichever way
their lines end. -/
theorem trim_canonical (s t : String) :
    Trims s.toList (trim.apply s).toList ∧
      trim.apply (trim.apply s) = trim.apply s ∧
      (trim.apply s = trim.apply t ↔ strippedLines s.toList = strippedLines t.toList) ∧
      trim.apply (String.ofList (Text.withReturns s.toList)) = trim.apply s ∧
      trim.apply (s ++ "\r\n" ++ t) = trim.apply (s ++ "\n" ++ t) := by
  have chars (s : String) : (trim.apply s).toList = trimmed s.toList := String.toList_ofList
  have same_iff (s t : String) : trim.apply s = trim.apply t ↔
      strippedLines s.toList = strippedLines t.toList := by
    rw [← String.toList_inj, chars, chars, trimmed_eq_iff]
  refine ⟨?_, ?_, same_iff s t, ?_, ?_⟩
  · rw [chars]
    exact trims_trimmed _
  · rw [same_iff, chars, strippedLines_trimmed]
  · rw [same_iff, String.toList_ofList]
    exact Text.strippedLines_withReturns [] _
  · rw [same_iff]
    simpa using Text.strippedLines_return s.toList t.toList

end Normalization

namespace Verdict

variable {a b : Observation} {m n : Normalization}

theorem classify_eq_agree_iff : classify a b n = .agree ↔ a.Agrees b n := by
  rw [← isMatch_classify, isMatch, beq_iff_eq]

theorem classify_eq_agree_of_refines (h : m.Refines n) (agree : classify a b m = .agree) :
    classify a b n = .agree := by
  rw [classify_eq_agree_iff] at agree ⊢
  exact ⟨agree.1, agree.2.1, agree.2.2.1, h _ _ agree.2.2.2⟩

def failing? (reference subject : Observation) : Option Side :=
  match reference.isCompleted, subject.isCompleted with
  | true, true => none
  | true, false => some .subject
  | false, true => some .reference
  | false, false => some .both

theorem classify_eq_error_iff {side : Side} :
    classify a b n = .error side ↔ failing? a b = some side := by
  unfold classify failing?
  cases a.isCompleted with
  | false => cases b.isCompleted <;> simp
  | true =>
    cases b.isCompleted with
    | false => simp
    | true =>
      dsimp only
      split <;> simp

theorem classify_coarsens (a b : Observation) :
    (classify a b .exact = .agree → classify a b .trim = .agree) ∧
      (classify a b .trim = .agree → classify a b .collapse = .agree) ∧
      (∀ (side : Side) (m n : Normalization),
        classify a b m = .error side ↔ classify a b n = .error side) ∧
      ∀ s : String,
        Normalization.collapse.apply (Normalization.trim.apply s) =
          Normalization.collapse.apply s ∧
        Normalization.trim.apply (Normalization.collapse.apply s) =
          Normalization.collapse.apply s ∧
        Normalization.collapse.apply (Normalization.collapse.apply s) =
          Normalization.collapse.apply s := by
  refine ⟨classify_eq_agree_of_refines (Normalization.exact_refines _),
    classify_eq_agree_of_refines Normalization.trim_refines_collapse,
    fun side m n => ?_, fun s => ?_⟩
  · rw [classify_eq_error_iff, classify_eq_error_iff]
  · exact ⟨Normalization.collapse_apply_trim s, Normalization.trim_apply_collapse s,
      Normalization.collapse_apply_collapse s⟩

def returned : Observation := .completed "one \r\n\u2028two\n" (some 0) ⟨0⟩

def plain : Observation := .completed "one\n\u2028two" (some 0) ⟨0⟩

theorem classify_coarsens_returned :
    classify returned plain .exact = .differ ∧ classify returned plain .trim = .agree ∧
      classify returned plain .collapse = .agree :=
  have trimmed : classify returned plain .trim = .agree := by decide
  ⟨by decide, trimmed, (classify_coarsens returned plain).2.1 trimmed⟩

end Verdict

end PartitionTest
