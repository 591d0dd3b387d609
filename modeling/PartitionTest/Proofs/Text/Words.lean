import Mathlib.Data.List.DropRight
import PartitionTest.Text.Blank

/-! Lines and words of a text. Words are parted by blanks of any kind, so a text
that is cut into lines, or loses blanks at an end, keeps its words. A carriage
return before a line feed is one more blank at the end of its line. A text put
together from lines with a line feed behind each gives them back, as long as none
holds a line feed of its own. -/
namespace PartitionTest.Text

variable {c : Char} {p s t w : List Char} {parts ls ws : List (List Char)}

theorem split_eq_splitOnP (p : Char → Bool) (s : List Char) : split p s = s.splitOnP p := by
  induction s with
  | nil => rfl
  | cons c s ih =>
    unfold split at ih ⊢
    rw [List.foldr_cons, ih, List.splitOnP_cons_eq_if_modifyHead]
    cases pieces : s.splitOnP p with
    | nil => exact absurd pieces (List.splitOnP_ne_nil _ _)
    | cons piece rest => rfl

theorem join_nil (sep : List Char) : join sep [] = [] := List.intercalate_nil

theorem join_singleton (sep s : List Char) : join sep [s] = s := List.intercalate_singleton

theorem join_cons (sep s : List Char) (h : parts ≠ []) :
    join sep (s :: parts) = s ++ sep ++ join sep parts := List.intercalate_cons_of_ne_nil h

theorem join_split (c : Char) (s : List Char) : join [c] (split (· == c) s) = s := by
  rw [split_eq_splitOnP, ← List.splitOn_eq_splitOnP]
  exact List.intercalate_splitOn c

theorem eq_false_of_mem_split {p : Char → Bool} {piece : List Char} (h : piece ∈ split p s)
    (hc : c ∈ piece) : p c = false := by
  rw [split_eq_splitOnP] at h
  induction s generalizing piece with
  | nil =>
    obtain rfl := List.mem_singleton.mp h
    contradiction
  | cons d s ih =>
    rw [List.splitOnP_cons_eq_if_modifyHead] at h
    cases pieces : s.splitOnP p with
    | nil => exact absurd pieces (List.splitOnP_ne_nil _ _)
    | cons first rest =>
      rw [pieces] at h ih
      by_cases cut : p d = true
      · rw [if_pos cut] at h
        rcases List.mem_cons.mp h with rfl | later
        · contradiction
        · exact ih later hc
      · rw [if_neg cut, List.modifyHead_cons] at h
        rcases List.mem_cons.mp h with rfl | later
        · rcases List.mem_cons.mp hc with rfl | inner
          · exact eq_false_of_ne_true cut
          · exact ih List.mem_cons_self inner
        · exact ih (List.mem_cons_of_mem _ later) hc

theorem mem_of_mem_join (sep : List Char) (h : c ∈ join sep parts) :
    c ∈ sep ∨ ∃ part ∈ parts, c ∈ part := by
  induction parts with
  | nil => contradiction
  | cons s parts ih =>
    cases parts with
    | nil => exact .inr ⟨s, List.mem_cons_self, join_singleton sep s ▸ h⟩
    | cons t parts =>
      rw [join_cons _ _ (List.cons_ne_nil _ _), List.mem_append, List.mem_append] at h
      rcases h with (first | between) | later
      · exact .inr ⟨s, List.mem_cons_self, first⟩
      · exact .inl between
      · refine (ih later).imp_right ?_
        rintro ⟨part, hp, hc⟩
        exact ⟨part, List.mem_cons_of_mem _ hp, hc⟩

theorem join_ne_nil (sep : List Char) (hw : w ∈ ws) (nonempty : w ≠ []) : join sep ws ≠ [] := by
  induction ws with
  | nil => contradiction
  | cons v ws ih =>
    cases ws with
    | nil =>
      obtain rfl := List.mem_singleton.mp hw
      rwa [join_singleton]
    | cons u ws =>
      rw [join_cons _ _ (List.cons_ne_nil _ _)]
      rcases List.mem_cons.mp hw with rfl | later
      · simp [nonempty]
      · simp [ih later]

theorem split_newline (s : List Char) : split (· == '\n') s = s.splitOn '\n' := by
  rw [split_eq_splitOnP, List.splitOn_eq_splitOnP]

theorem newline_not_mem_of_mem_splitOn (h : t ∈ s.splitOn '\n') : '\n' ∉ t := by
  rw [← split_newline] at h
  exact fun inside => absurd (eq_false_of_mem_split h inside) (by decide)

theorem join_concat (sep s : List Char) (h : parts ≠ []) :
    join sep (parts ++ [s]) = join sep parts ++ sep ++ s := by
  induction parts with
  | nil => contradiction
  | cons p parts ih =>
    by_cases last : parts = []
    · subst last
      rw [join_singleton, List.cons_append, List.nil_append, join_cons _ _ (List.cons_ne_nil _ _),
        join_singleton]
    · rw [List.cons_append, join_cons _ _ (by simp), ih last, join_cons _ _ last]
      simp only [List.append_assoc]

theorem join_concat_append (sep s t : List Char) (parts : List (List Char)) :
    join sep (parts ++ [s]) ++ t = join sep (parts ++ [s ++ t]) := by
  by_cases only : parts = []
  · subst only
    simp only [List.nil_append, join_singleton]
  · rw [join_concat _ _ only, join_concat _ _ only, List.append_assoc]

theorem count_join {sep : List Char} (h : c ∉ sep) (parts : List (List Char)) :
    (join sep parts).count c = parts.flatten.count c := by
  induction parts with
  | nil => rfl
  | cons part parts ih =>
    rw [List.flatten_cons, List.count_append]
    cases parts with
    | nil => simp [join_singleton]
    | cons next parts =>
      rw [join_cons _ _ (List.cons_ne_nil _ _), List.count_append, List.count_append,
        List.count_eq_zero.mpr h, ih, Nat.add_zero]

theorem subset_of_mem_splitOn (h : t ∈ s.splitOn '\n') : t ⊆ s := by
  intro c hc
  have other : c ∉ ['\n'] := fun feed =>
    newline_not_mem_of_mem_splitOn h (List.mem_singleton.mp feed ▸ hc)
  rw [← List.count_pos_iff, ← join_split '\n' s, split_newline, count_join other,
    List.count_pos_iff]
  exact List.mem_flatten_of_mem h hc

theorem splitOn_join (clear : ∀ line ∈ ls, '\n' ∉ line) (h : ls ≠ []) :
    (join ['\n'] ls).splitOn '\n' = ls :=
  List.splitOn_intercalate _ clear h

theorem splitOn_append_of_not_mem {first : List (List Char)} {last : List Char}
    (pieces : s.splitOn '\n' = first ++ [last]) (h : '\n' ∉ t) :
    (s ++ t).splitOn '\n' = first ++ [last ++ t] := by
  have clear : ∀ piece ∈ first ++ [last ++ t], '\n' ∉ piece := by
    intro piece hp
    rcases List.mem_append.mp hp with before | final
    · exact newline_not_mem_of_mem_splitOn (pieces ▸ List.mem_append_left _ before)
    · obtain rfl := List.mem_singleton.mp final
      have whole : last ∈ s.splitOn '\n' := pieces ▸ List.mem_append_right _ List.mem_cons_self
      simp [newline_not_mem_of_mem_splitOn whole, h]
  calc (s ++ t).splitOn '\n'
      = (join ['\n'] (s.splitOn '\n') ++ t).splitOn '\n' := by
        rw [join, List.intercalate_splitOn]
    _ = (join ['\n'] (first ++ [last ++ t])).splitOn '\n' := by rw [pieces, join_concat_append]
    _ = first ++ [last ++ t] := splitOn_join clear (by simp)

theorem length_splitOn (s : List Char) : (s.splitOn '\n').length = s.count '\n' + 1 := by
  induction s with
  | nil => rfl
  | cons c s ih =>
    rw [List.splitOn_cons_eq_if_modifyHead, List.count_cons]
    split
    · rw [List.length_cons, ih]
    · rw [List.length_modifyHead, ih]

theorem trimEnd_eq_self_iff : trimEnd s = s ↔ ∀ h : s ≠ [], isBlank (s.getLast h) = false := by
  simp only [← Bool.not_eq_true]
  exact List.rdropWhile_eq_self_iff

theorem trimEnd_concat (s : List Char) (c : Char) :
    trimEnd (s ++ [c]) = if isBlank c then trimEnd s else s ++ [c] :=
  List.rdropWhile_concat ..

def EndsBlank (s : List Char) : Prop := ∃ c, s.getLast? = some c ∧ isBlank c = true

theorem trimEnd_eq_self_iff_not_endsBlank : trimEnd s = s ↔ ¬ EndsBlank s := by
  rw [trimEnd_eq_self_iff]
  by_cases empty : s = []
  · simp [empty, EndsBlank]
  · simp [empty, EndsBlank, List.getLast?_eq_some_getLast]

theorem trimEnd_trimEnd (s : List Char) : trimEnd (trimEnd s) = trimEnd s :=
  List.rdropWhile_idempotent ..

theorem dropReturn_eq_self (h : trimEnd s = s) : dropReturn s = s := by
  unfold dropReturn
  rw [if_neg]
  exact fun last => trimEnd_eq_self_iff_not_endsBlank.mp h ⟨_, last, by decide⟩

theorem dropReturn_concat (line : List Char) : dropReturn (line ++ ['\r']) = line := by
  rw [dropReturn, if_pos List.getLast?_concat, List.dropLast_concat]

theorem dropReturn_of_not_mem (h : '\r' ∉ s) : dropReturn s = s :=
  if_neg fun last => h (List.mem_of_getLast? last)

def EndsVisible (s : List Char) : Prop := ∃ c, s.getLast? = some c ∧ isBlank c = false

theorem endsVisible_iff : EndsVisible s ↔ s ≠ [] ∧ ¬ EndsBlank s := by
  by_cases empty : s = []
  · simp [empty, EndsVisible]
  · simp [empty, EndsVisible, EndsBlank, List.getLast?_eq_some_getLast]

theorem EndsVisible.append (h : EndsVisible t) (s : List Char) : EndsVisible (s ++ t) := by
  obtain ⟨c, last, visible⟩ := h
  exact ⟨c, by rw [List.getLast?_append, last, Option.some_or], visible⟩

theorem EndsVisible.trimEnd (h : EndsVisible s) : trimEnd s = s :=
  trimEnd_eq_self_iff_not_endsBlank.mpr (endsVisible_iff.mp h).2

theorem trimEnd_append_replicate (s : List Char) (n : Nat) :
    trimEnd (s ++ List.replicate n ' ') = trimEnd s := by
  induction n with
  | zero => simp
  | succ n ih =>
    rw [List.replicate_succ', ← List.append_assoc, trimEnd_concat, if_pos (by decide), ih]

theorem isBlank_of_isDigit (h : c.isDigit = true) : isBlank c = false := by
  have range : 48 ≤ c.toNat ∧ c.toNat ≤ 57 := by
    simpa [Char.isDigit, UInt32.le_iff_toNat_le] using h
  simp only [isBlank, Bool.or_eq_false_iff, Bool.and_eq_false_iff, decide_eq_false_iff_not,
    beq_eq_false_iff_ne]
  omega

theorem trimEnd_dropReturn (line : List Char) : trimEnd (dropReturn line) = trimEnd line := by
  unfold dropReturn
  split
  · rename_i last
    have back : line.dropLast ++ ['\r'] = line := List.dropLast_append_getLast? _ last
    conv_rhs => rw [← back, trimEnd_concat, if_pos (by decide)]
  · rfl

def withReturns (s : List Char) : List Char :=
  s.flatMap fun c => if c = '\n' then ['\r', '\n'] else [c]

/-- If one return before a line feed changes nothing, then neither do those before
all of them. -/
theorem apply_withReturns {β : Type} {f : List Char → β} {p : Char → Prop}
    (one : ∀ s t, (∀ c ∈ s, p c) → f (s ++ '\r' :: '\n' :: t) = f (s ++ '\n' :: t))
    (h : ∀ c ∈ s ++ t, p c) : f (s ++ withReturns t) = f (s ++ t) := by
  induction t generalizing s with
  | nil => rfl
  | cons c t ih =>
    have behind : s ++ c :: t = (s ++ [c]) ++ t := by simp
    have later := ih (behind ▸ h)
    rw [List.append_assoc, List.append_assoc, List.singleton_append, List.singleton_append] at later
    rw [withReturns, List.flatMap_cons, ← withReturns, ← later]
    split
    · rename_i feed
      rw [feed]
      exact one s _ fun c hc => h c (List.mem_append_left _ hc)
    · rfl

theorem lines_eq {first : List (List Char)} {last : List Char}
    (pieces : s.splitOn '\n' = first ++ [last]) :
    lines s = first.map dropReturn ++ if last = [] then [] else [last] := by
  simp only [lines, split_newline, pieces, List.getLast?_concat, List.dropLast_concat]
  cases last with
  | nil => simp
  | cons c last => simp

theorem lines_append_newline (s t : List Char) :
    lines (s ++ '\n' :: t) = (s.splitOn '\n').map dropReturn ++ lines t := by
  obtain ⟨first, last, pieces⟩ : ∃ first last, t.splitOn '\n' = first ++ [last] :=
    ⟨_, _, (List.dropLast_concat_getLast (List.splitOn_ne_nil _ t)).symm⟩
  have whole : (s ++ '\n' :: t).splitOn '\n' = (s.splitOn '\n' ++ first) ++ [last] := by
    rw [List.splitOn_append_cons_self, pieces, List.append_assoc]
  rw [lines_eq whole, lines_eq pieces, List.map_append, List.append_assoc]

/-- A carriage return before a line feed is not part of the line. -/
theorem lines_return (h : '\r' ∉ s) (t : List Char) :
    lines (s ++ '\r' :: '\n' :: t) = lines (s ++ '\n' :: t) := by
  obtain ⟨first, last, pieces⟩ : ∃ first last, s.splitOn '\n' = first ++ [last] :=
    ⟨_, _, (List.dropLast_concat_getLast (List.splitOn_ne_nil _ s)).symm⟩
  have returned : (s ++ ['\r']).splitOn '\n' = first ++ [last ++ ['\r']] :=
    splitOn_append_of_not_mem pieces (by decide)
  have part : last ∈ s.splitOn '\n' := pieces ▸ List.mem_concat_self
  have clear : '\r' ∉ last := fun inside => h (subset_of_mem_splitOn part inside)
  rw [← List.singleton_append (x := '\r'), ← List.append_assoc, lines_append_newline,
    lines_append_newline, returned, pieces, List.map_append, List.map_append, List.map_singleton,
    List.map_singleton, dropReturn_concat, dropReturn_of_not_mem clear]

theorem lines_withReturns (h : '\r' ∉ s) : lines (withReturns s) = lines s :=
  apply_withReturns (s := []) (p := (· ≠ '\r'))
    (fun _ t hs => lines_return (fun inside => hs _ inside rfl) t)
    fun _ hc same => h (same ▸ hc)

/-- Lines none of which holds a line feed or ends in a carriage return, the last
of them not empty, can be put together and taken apart again. -/
theorem lines_join (clear : ∀ line ∈ ls, '\n' ∉ line)
    (kept : ∀ line ∈ ls, dropReturn line = line)
    (full : ∀ line, ls.getLast? = some line → line ≠ []) :
    lines (join ['\n'] ls) = ls := by
  by_cases empty : ls = []
  · subst empty
    rfl
  · obtain ⟨first, last, rfl⟩ : ∃ first last, ls = first ++ [last] :=
      ⟨_, _, (List.dropLast_concat_getLast empty).symm⟩
    have unchanged : first.map dropReturn = first :=
      (List.map_congr_left fun line hl => kept line (List.mem_append_left _ hl)).trans
        (List.map_id' first)
    rw [lines_eq (splitOn_join clear empty), unchanged, if_neg (full last List.getLast?_concat)]

@[simp] theorem words_nil : words [] = [] := rfl

theorem words_append_cons (blank : isBlank c = true) (s t : List Char) :
    words (s ++ c :: t) = words s ++ words t := by
  rw [words, split_eq_splitOnP, List.splitOnP_append_cons _ _ blank, List.filter_append,
    ← split_eq_splitOnP, ← split_eq_splitOnP]
  rfl

theorem words_concat (blank : isBlank c = true) (s : List Char) : words (s ++ [c]) = words s := by
  rw [words_append_cons blank, words_nil, List.append_nil]

theorem words_trimEnd (s : List Char) : words (trimEnd s) = words s := by
  induction s using List.reverseRecOn with
  | nil => rfl
  | append_singleton s c ih =>
    rw [trimEnd_concat]
    split
    · rename_i blank
      rw [ih, words_concat blank]
    · rfl

theorem words_dropReturn (line : List Char) : words (dropReturn line) = words line := by
  unfold dropReturn
  split
  · rename_i last
    have back : line.dropLast ++ ['\r'] = line := List.dropLast_append_getLast? _ last
    rw [← words_concat (c := '\r') (by decide) line.dropLast, back]
  · rfl

theorem words_join (blank : isBlank c = true) (parts : List (List Char)) :
    words (join [c] parts) = parts.flatMap words := by
  induction parts with
  | nil => rfl
  | cons s parts ih =>
    cases parts with
    | nil => rw [join_singleton, List.flatMap_singleton]
    | cons t parts =>
      rw [join_cons _ _ (List.cons_ne_nil _ _), List.append_assoc, List.singleton_append,
        words_append_cons blank, ih, ← List.flatMap_cons]

theorem flatMap_words_lines (s : List Char) : (lines s).flatMap words = words s := by
  have pieces : (split (· == '\n') s).flatMap words = words s := by
    rw [← words_join (c := '\n') (by decide), join_split]
  have terminated (ls : List (List Char)) :
      (ls.map dropReturn).flatMap words = ls.flatMap words := by
    rw [List.flatMap_map]
    exact List.flatMap_congr fun line _ => words_dropReturn line
  have nonempty : split (· == '\n') s ≠ [] := by
    rw [split_eq_splitOnP]
    exact List.splitOnP_ne_nil _ _
  rw [← List.dropLast_concat_getLast nonempty, List.flatMap_append, List.flatMap_singleton]
    at pieces
  rw [← pieces, lines, List.getLast?_eq_some_getLast nonempty]
  split
  · contradiction
  · rename_i last
    rw [Option.some.inj last, words_nil, List.append_nil, terminated]
  · rename_i last _ same
    rw [List.flatMap_append, terminated, List.flatMap_singleton, Option.some.inj same]

theorem lines_of_not_mem (h : '\n' ∉ s) (nonempty : s ≠ []) : lines s = [s] := by
  have whole : split (· == '\n') s = [s] := by
    rw [split_eq_splitOnP]
    exact List.splitOnP_eq_singleton fun c hc => beq_eq_false_iff_ne.mpr fun e => h (e ▸ hc)
  unfold lines
  rw [whole]
  cases s with
  | nil => contradiction
  | cons c s => rfl

/-- What stands between blanks. -/
structure IsWord (w : List Char) : Prop where
  ne_nil : w ≠ []
  not_blank : ∀ c ∈ w, isBlank c = false

theorem IsWord.words_eq (h : IsWord w) : words w = [w] := by
  rw [words, split_eq_splitOnP, List.splitOnP_eq_singleton h.not_blank]
  simp [h.ne_nil]

theorem isWord_of_mem_words (h : w ∈ words s) : IsWord w := by
  obtain ⟨piece, nonempty⟩ := List.mem_filter.mp h
  exact ⟨by simpa using nonempty, fun c hc => eq_false_of_mem_split piece hc⟩

theorem words_join_of_isWord (blank : isBlank c = true) (h : ∀ w ∈ ws, IsWord w) :
    words (join [c] ws) = ws := by
  rw [words_join blank]
  induction ws with
  | nil => rfl
  | cons w ws ih =>
    rw [List.flatMap_cons, (h w List.mem_cons_self).words_eq, List.singleton_append,
      ih fun v hv => h v (List.mem_cons_of_mem _ hv)]

theorem trimEnd_join_of_isWord (sep : List Char) (h : ∀ w ∈ ws, IsWord w) :
    trimEnd (join sep ws) = join sep ws := by
  rw [trimEnd_eq_self_iff]
  induction ws with
  | nil => exact fun none => absurd (join_nil sep) none
  | cons w ws ih =>
    intro nonempty
    have first := h w List.mem_cons_self
    cases ws with
    | nil =>
      simp only [join_singleton]
      exact first.not_blank _ (List.getLast_mem first.ne_nil)
    | cons v ws =>
      have others := ih fun u hu => h u (List.mem_cons_of_mem _ hu)
      have tail : join sep (v :: ws) ≠ [] :=
        join_ne_nil sep List.mem_cons_self (h v (List.mem_cons_of_mem _ List.mem_cons_self)).ne_nil
      simp only [join_cons sep w (List.cons_ne_nil v ws), List.getLast_append_of_ne_nil _ tail]
      exact others tail

def ended (lines : List String) : String :=
  String.join (lines.map fun line => line ++ "\n")

theorem toList_ended_nil : (ended []).toList = [] := rfl

theorem toList_ended_cons (line : String) (lines : List String) :
    (ended (line :: lines)).toList = line.toList ++ '\n' :: (ended lines).toList := by
  simp [ended, String.toList_join]

theorem count_ended (lines : List String) :
    (ended lines).toList.count '\n' =
      lines.length + (lines.flatMap String.toList).count '\n' := by
  induction lines with
  | nil => rfl
  | cons line lines ih =>
    rw [toList_ended_cons, List.count_append, List.count_cons_self, ih, List.flatMap_cons,
      List.count_append, List.length_cons]
    omega

theorem splitOn_ended {lines : List String} (h : ∀ line ∈ lines, '\n' ∉ line.toList) :
    (ended lines).toList.splitOn '\n' = lines.map String.toList ++ [[]] := by
  induction lines with
  | nil => rfl
  | cons line lines ih =>
    obtain ⟨first, others⟩ := List.forall_mem_cons.mp h
    rw [toList_ended_cons, List.splitOn_append_cons_self_of_not_mem first, ih others]
    rfl

def feeds (texts : List String) : Nat := (texts.flatMap String.toList).count '\n'

@[simp] theorem feeds_nil : feeds [] = 0 := rfl

@[simp] theorem feeds_cons (text : String) (texts : List String) :
    feeds (text :: texts) = text.toList.count '\n' + feeds texts := by
  rw [feeds, List.flatMap_cons, List.count_append, feeds]

@[simp] theorem feeds_append (as bs : List String) : feeds (as ++ bs) = feeds as + feeds bs := by
  rw [feeds, List.flatMap_append, List.count_append, feeds, feeds]

theorem feeds_eq_zero_iff {texts : List String} :
    feeds texts = 0 ↔ ∀ text ∈ texts, '\n' ∉ text.toList := by
  simp [feeds, List.count_eq_zero]

theorem lines_ended (ls : List String) :
    lines (ended ls).toList = ls.flatMap fun line => (line.toList.splitOn '\n').map dropReturn := by
  induction ls with
  | nil => rfl
  | cons line ls ih => rw [toList_ended_cons, lines_append_newline, ih, List.flatMap_cons]

/-- Lines put together are as many again, and one more for each line feed in them. -/
theorem length_lines_ended (ls : List String) :
    (lines (ended ls).toList).length = ls.length + feeds ls := by
  induction ls with
  | nil => rfl
  | cons line ls ih =>
    rw [toList_ended_cons, lines_append_newline, List.length_append, List.length_map,
      length_splitOn, ih, feeds_cons, List.length_cons]
    omega

theorem exists_splitOn_eq_cons (h : p <+: s) (clear : '\n' ∉ p) :
    ∃ piece rest, s.splitOn '\n' = piece :: rest ∧ p <+: piece := by
  obtain ⟨t, rfl⟩ := h
  obtain ⟨piece, rest, pieces⟩ := List.exists_cons_of_ne_nil (List.splitOn_ne_nil '\n' t)
  refine ⟨p ++ piece, rest, ?_, List.prefix_append ..⟩
  induction p with
  | nil => exact pieces
  | cons c p ih =>
    obtain ⟨other, later⟩ := not_or.mp (mt List.mem_cons.mpr clear)
    rw [List.cons_append, List.splitOn_cons_eq_if_modifyHead, if_neg (by simpa using Ne.symm other),
      ih later, List.modifyHead_cons, List.cons_append]

theorem isPrefix_dropReturn (h : p <+: s) (clear : '\r' ∉ p) : p <+: dropReturn s := by
  unfold dropReturn
  split
  · rename_i last
    have back : s.dropLast ++ ['\r'] = s := List.dropLast_append_getLast? _ last
    rw [← back, List.prefix_concat_iff] at h
    exact h.resolve_left fun whole => clear (whole ▸ List.mem_concat_self)
  · exact h

/-- Where a line is found again: behind those before it, and one further for each
line feed in these. -/
theorem exists_getElem?_lines_ended (before after : List String) {line : String}
    (h : p <+: line.toList) (feedless : '\n' ∉ p) (returnless : '\r' ∉ p) :
    ∃ first, (lines (ended (before ++ line :: after)).toList)[before.length + feeds before]? =
      some first ∧ p <+: first := by
  obtain ⟨piece, rest, pieces, begins⟩ := exists_splitOn_eq_cons h feedless
  refine ⟨dropReturn piece, ?_, isPrefix_dropReturn begins returnless⟩
  rw [← length_lines_ended, lines_ended, List.flatMap_append, ← lines_ended,
    List.getElem?_append_right le_rfl, Nat.sub_self, List.flatMap_cons, pieces]
  rfl

end PartitionTest.Text
