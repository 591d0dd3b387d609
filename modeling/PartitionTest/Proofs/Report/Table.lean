import PartitionTest.Proofs.Command.Input
import PartitionTest.Proofs.Reason
import PartitionTest.Proofs.Text.Words

/-! The table of a report, line by line. Outputs are quoted there, but names and
values of variables and the details of failures are shown as they are, and a line
feed in one of them parts its row. -/
namespace PartitionTest

theorem Text.not_mem_toDigits {c : Char} (other : c.isDigit = false) (n : Nat) :
    c ∉ Nat.toDigits 10 n := fun inside =>
  absurd (Nat.isDigit_of_mem_toDigits (by decide) (by decide) inside) (by simp [other])

theorem Json.endsVisible_intChars (n : Int) : Text.EndsVisible (intChars n) := by
  have digits : Text.EndsVisible (Nat.toDigits 10 n.natAbs) := by
    refine ⟨_, List.getLast?_eq_some_getLast Nat.toDigits_ne_nil, Text.isBlank_of_isDigit ?_⟩
    exact Nat.isDigit_of_mem_toDigits (by decide) (by decide) (List.getLast_mem _)
  unfold intChars
  split
  · exact digits.append ['-']
  · exact digits

theorem Case.count_label (c : Case) : c.label.toList.count '\n' =
    Text.feeds (c.assignments.flatMap fun a => [a.variableName, a.value.text]) := by
  have spaced : c.label.toList = Text.join [' '] (c.assignments.map (·.label.toList)) := by
    rw [label, String.toList_intercalate, List.map_map]
    rfl
  rw [spaced, Text.count_join (by decide)]
  induction c.assignments with
  | nil => rfl
  | cons a rest ih =>
    rw [List.map_cons, List.flatten_cons, List.count_append, ih, Assignment.label]
    simp [Nat.add_assoc]

theorem Observation.count_ending (o : Observation) :
    o.ending.toList.count '\n' = Text.feeds o.detail.toList := by
  have named : o.status.name.toList.count '\n' = 0 := by cases o.status <;> decide
  unfold ending
  cases o.detail <;> simp [named]

theorem Observation.endsVisible_ending (o : Observation) : Text.EndsVisible o.ending.toList := by
  unfold ending
  cases o.detail with
  | none => cases o.status <;> exact ⟨_, rfl, by decide⟩
  | some detail =>
    rw [String.toList_append]
    exact Text.EndsVisible.append ⟨')', rfl, by decide⟩ _

namespace Comparison

def blamed (x : Comparison) : List Observation :=
  match x.verdict with
  | .agree | .differ => []
  | .error .reference => [x.reference]
  | .error .subject => [x.subject]
  | .error .both => [x.reference, x.subject]

def bare (x : Comparison) : List String :=
  x.case.assignments.flatMap (fun a => [a.variableName, a.value.text]) ++
    x.blamed.flatMap (·.detail.toList)

/-- None of the texts that are shown as they are has a line feed. -/
structure OnOneLine (x : Comparison) : Prop where
  names : ∀ a ∈ x.case.assignments, '\n' ∉ a.variableName.toList
  values : .char '\n' ∉ x.case.values
  details : ∀ o ∈ x.blamed, ∀ detail ∈ o.detail, '\n' ∉ detail.toList

theorem feeds_bare_eq_zero_iff {x : Comparison} : Text.feeds x.bare = 0 ↔ x.OnOneLine := by
  rw [Text.feeds_eq_zero_iff]
  constructor
  · intro h
    refine ⟨fun a ha => ?_, fun feed => ?_, fun o ho detail hd => ?_⟩
    · exact h _ (by simpa [bare] using .inl ⟨a, ha, .inl rfl⟩)
    · obtain ⟨a, ha, same⟩ := List.mem_map.mp feed
      refine h a.value.text ?_ (Scalar.newline_mem_text.mpr same)
      simpa [bare] using .inl ⟨a, ha, .inr rfl⟩
    · exact h _ (by simpa [bare] using .inr ⟨o, ho, hd⟩)
  · intro h text ht
    simp only [bare, List.mem_append, List.mem_flatMap] at ht
    rcases ht with ⟨a, ha, shown⟩ | ⟨o, ho, hd⟩
    · rcases List.mem_pair.mp shown with rfl | rfl
      · exact h.names a ha
      · exact fun feed =>
          h.values (List.mem_map.mpr ⟨a, ha, Scalar.newline_mem_text.mp feed⟩)
    · exact h.details o ho text (Option.mem_toList.mp hd)

/-- Lines that begin with the number of a case and its verdict, spaces between and
behind them. -/
def Opens (x : Comparison) (line : List Char) : Prop :=
  ∃ i j, 2 ≤ i ∧ 2 ≤ j ∧ (toString x.case.id).toList ++ List.replicate i ' ' ++
    x.verdict.label.toList ++ List.replicate j ' ' <+: line

theorem not_mem_opening {x : Comparison} {c : Char} {i j : Nat} (h : c = '\n' ∨ c = '\r') :
    c ∉ (toString x.case.id).toList ++ List.replicate i ' ' ++ x.verdict.label.toList ++
      List.replicate j ' ' := by
  have digits : c ∉ Nat.toDigits 10 x.case.id :=
    Text.not_mem_toDigits (by rcases h with rfl | rfl <;> decide) _
  have label : c ∉ x.verdict.label.toList := by
    unfold Verdict.label
    rcases h with rfl | rfl <;> split <;> decide
  have space : c ≠ ' ' := by rcases h with rfl | rfl <;> decide
  simp [digits, label, space]

theorem newline_not_mem_codeText (code : Option Int32) : '\n' ∉ (codeText code).toList := by
  cases code with
  | none => decide
  | some c =>
    rw [codeText, String.toList_ofList]
    exact Json.newline_not_mem_intChars _

theorem endsVisible_codeText (code : Option Int32) : Text.EndsVisible (codeText code).toList := by
  cases code with
  | none => exact ⟨'e', by decide, by decide⟩
  | some c =>
    rw [codeText, String.toList_ofList]
    exact Json.endsVisible_intChars _

variable {x : Comparison} {reason : String}

/-- Texts that are set against each other have no line feeds, so those of a reason
are those of the details. -/
theorem count_of_reason (h : x.reason = some reason) :
    reason.toList.count '\n' = Text.feeds (x.blamed.flatMap (·.detail.toList)) := by
  have coded (code : Option Int32) : (codeText code).toList.count '\n' = 0 :=
    List.count_eq_zero.mpr (newline_not_mem_codeText code)
  have quoted (s : String) : (Text.quote s).toList.count '\n' = 0 :=
    List.count_eq_zero.mpr (Text.newline_not_mem_quote s)
  unfold Comparison.reason at h
  unfold blamed
  cases verdict : x.verdict with
  | agree => simp [verdict] at h
  | differ =>
    simp only [verdict] at h
    split at h
    · obtain rfl := Option.some.inj h
      simp [coded]
    · obtain rfl := Option.some.inj h
      simp [quoted]
  | error side =>
    cases side
    all_goals
      simp only [verdict] at h
      obtain rfl := Option.some.inj h
      simp [Observation.count_ending]

theorem endsVisible_of_reason (h : x.reason = some reason) : Text.EndsVisible reason.toList := by
  have quoted (s : String) : Text.EndsVisible (Text.quote s).toList := by
    rw [Text.quote, String.toList_ofList]
    exact Text.EndsVisible.append ⟨'"', rfl, by decide⟩ _
  unfold Comparison.reason at h
  split at h
  · contradiction
  · split at h
    · obtain rfl := Option.some.inj h
      rw [String.toList_append]
      exact (endsVisible_codeText _).append _
    · obtain rfl := Option.some.inj h
      rw [String.toList_append]
      exact (quoted _).append _
  all_goals
    obtain rfl := Option.some.inj h
    rw [String.toList_append]
    exact (Observation.endsVisible_ending _).append _

end Comparison

namespace Report

namespace Row

variable {r : Row}

def line (widths : List Nat) (r : Row) : String :=
  String.ofList (Text.trimEnd (Text.join [' ', ' '] (List.zipWith pad r.cells widths)))

theorem chars_eq (widths : List Nat) (r : Row) :
    chars widths r = (line widths r).toList ++ ['\n'] := by
  rw [line, String.toList_ofList, chars]

theorem exists_widths (rows : List Row) : ∃ w x y z, widths rows = [w, x, y, z] := by
  have widen (rows : List Row) (w x y z : Nat) : ∃ w' x' y' z',
      rows.foldl (fun ws r => List.zipWith Nat.max ws (r.cells.map String.utf8ByteSize))
        [w, x, y, z] = [w', x', y', z'] := by
    induction rows generalizing w x y z with
    | nil => exact ⟨w, x, y, z, rfl⟩
    | cons r rows ih => exact ih _ _ _ _
  exact widen rows 0 0 0 0

theorem forall_mem_widths_iff {rows : List Row} {n : Nat} :
    (∀ w ∈ widths rows, w ≤ n) ↔ ∀ r ∈ rows, ∀ cell ∈ r.cells, cell.utf8ByteSize ≤ n := by
  have widen (rows : List Row) (w x y z : Nat) :
      (∀ v ∈ rows.foldl (fun ws r => List.zipWith Nat.max ws (r.cells.map String.utf8ByteSize))
        [w, x, y, z], v ≤ n) ↔
      (∀ v ∈ [w, x, y, z], v ≤ n) ∧ ∀ r ∈ rows, ∀ cell ∈ r.cells, cell.utf8ByteSize ≤ n := by
    induction rows generalizing w x y z with
    | nil => exact (and_iff_left nofun).symm
    | cons r rows ih =>
      rw [List.forall_mem_cons (a := r), ← and_assoc]
      refine (ih _ _ _ _).trans (and_congr_left fun _ => ?_)
      simp only [cells, List.forall_mem_cons, Nat.max_le]
      grind
  rw [widths, widen, and_iff_right (by simp)]

theorem pad_append (s : String) (width : Nat) :
    pad s width ++ [' ', ' '] = s.toList ++ List.replicate (width - s.length + 2) ' ' := by
  rw [pad, List.append_assoc, show [' ', ' '] = List.replicate 2 ' ' from rfl,
    List.replicate_append_replicate]

/-- A row is its cells with two spaces or more between them, and nothing of the last
cell is trimmed away. -/
theorem exists_line_eq (rows : List Row) (h : Text.EndsVisible r.detail.toList) :
    ∃ i j k, (line (widths rows) r).toList =
      r.id.toList ++ List.replicate (i + 2) ' ' ++ r.verdict.toList ++
        List.replicate (j + 2) ' ' ++ r.inputs.toList ++ List.replicate (k + 2) ' ' ++
          r.detail.toList := by
  obtain ⟨w, x, y, z, four⟩ := exists_widths rows
  refine ⟨w - r.id.length, x - r.verdict.length, y - r.inputs.length, ?_⟩
  have joined : Text.join [' ', ' '] (List.zipWith pad r.cells (widths rows)) =
      (pad r.id w ++ [' ', ' ']) ++ ((pad r.verdict x ++ [' ', ' ']) ++
        ((pad r.inputs y ++ [' ', ' ']) ++ pad r.detail z)) := by
    rw [four]
    simp [cells, Text.join, List.intercalate]
  rw [line, String.toList_ofList, joined, pad_append, pad_append, pad_append, pad]
  simp only [← List.append_assoc]
  rw [Text.trimEnd_append_replicate, (h.append _).trimEnd]

end Row

variable {r : Report}

def summary (r : Report) : List String := [
  r.status.label ++ "  reference=" ++ r.reference ++ "  subject=" ++ r.subject,
  "cases=" ++ toString r.total ++ " matched=" ++ toString r.matched ++
    " mismatched=" ++ toString r.mismatched ++ " errored=" ++ toString r.errored ++
    " timeout=" ++ toString r.timeoutMs ++ "ms workers=" ++ toString r.workers ++
    " normalize=" ++ r.normalization]

def rows (r : Report) : List Row := Row.header :: r.failures.map Row.of

def rowLine (r : Report) (row : Row) : String := row.line (Row.widths r.rows)

def failureLine (r : Report) (c : Comparison) : String := r.rowLine (Row.of c)

def tableLines (r : Report) : List String :=
  r.summary ++ if r.failures = [] then [] else "" :: r.rows.map r.rowLine

/-- The cells of all failures are narrow enough to be filled up. -/
def Fits (r : Report) : Prop :=
  ∀ c ∈ r.failures, ∀ cell ∈ (Row.of c).cells, cell.utf8ByteSize ≤ Row.maxWidth

theorem fits_of_match (h : r.failures = []) : r.Fits := by
  rw [Fits, h]
  exact fun _ hc => absurd hc List.not_mem_nil

theorem fits_widths_iff : Row.fits (Row.widths r.rows) = true ↔ r.Fits := by
  have header : ∀ cell ∈ Row.header.cells, cell.utf8ByteSize ≤ Row.maxWidth := by decide
  rw [Row.fits, List.all_eq_true]
  simp only [decide_eq_true_eq]
  rw [Row.forall_mem_widths_iff, rows, List.forall_mem_cons, and_iff_right header,
    List.forall_mem_map]
  rfl

theorem rows_eq_ended (r : Report) (rows : List Row) :
    String.ofList (rows.flatMap (Row.chars (Row.widths r.rows))) =
      Text.ended (rows.map r.rowLine) := by
  induction rows with
  | nil => rfl
  | cons row rows ih =>
    rw [← String.toList_inj, String.toList_ofList] at ih ⊢
    rw [List.map_cons, Text.toList_ended_cons, List.flatMap_cons, ih, Row.chars_eq,
      List.append_assoc]
    rfl

/-- There is a table if its columns are narrow enough, and no other. -/
theorem table_eq_some_iff {text : String} :
    r.table = some text ↔ r.Fits ∧ text = Text.ended r.tableLines := by
  unfold table tableLines
  cases failures : r.failures with
  | nil =>
    rw [and_iff_right (fits_of_match failures), if_pos rfl, List.append_nil, Option.some_inj,
      eq_comm, ← String.toList_inj, ← String.toList_inj]
    simp [summary, Text.toList_ended_cons, Text.toList_ended_nil]
  | cons c cs =>
    have same : Row.header :: (c :: cs).map Row.of = r.rows := by rw [rows, failures]
    dsimp only
    rw [same, rows_eq_ended, if_neg (List.cons_ne_nil _ _), ← fits_widths_iff]
    split
    · rename_i fits
      rw [and_iff_right fits, Option.some_inj, eq_comm, ← String.toList_inj, ← String.toList_inj]
      simp [summary, Text.toList_ended_cons]
    · rename_i wide
      exact iff_of_false nofun fun h => wide h.1

variable {c : Comparison} {cs : List Comparison}

def feeds (cs : List Comparison) : Nat := Text.feeds (cs.flatMap Comparison.bare)

theorem feeds_eq_zero_iff : feeds cs = 0 ↔ ∀ c ∈ cs, c.OnOneLine := by
  simp only [feeds, Text.feeds_eq_zero_iff, List.mem_flatMap, forall_exists_index, and_imp,
    ← Comparison.feeds_bare_eq_zero_iff]
  exact ⟨fun h c hc text ht => h text c hc ht, fun h text c hc ht => h c hc text ht⟩

theorem mem_failures_iff : c ∈ r.failures ↔ c ∈ r.comparisons ∧ c.verdict ≠ .agree := by
  simp [failures, Verdict.isMatch]

theorem failures_eq_nil_iff : r.failures = [] ↔ ∀ c ∈ r.comparisons, c.verdict = .agree := by
  simp [failures, Verdict.isMatch, List.filter_eq_nil_iff]

theorem failureLine_spec (r : Report) (failed : c.verdict ≠ .agree) :
    c.Opens (r.failureLine c).toList ∧
      (r.failureLine c).toList.count '\n' = Text.feeds c.bare := by
  obtain ⟨reason, given⟩ :=
    Option.ne_none_iff_exists'.mp (mt Comparison.reason_eq_none_iff.mp failed)
  have detail : (Row.of c).detail = reason := by rw [Row.of, given, Option.getD_some]
  obtain ⟨i, j, k, shown⟩ := Row.exists_line_eq r.rows (r := Row.of c)
    (detail ▸ Comparison.endsVisible_of_reason given)
  rw [detail] at shown
  constructor
  · refine ⟨i + 2, j + 2, Nat.le_add_left .., Nat.le_add_left .., ?_⟩
    rw [failureLine, rowLine, shown]
    exact (List.prefix_append ..).trans ((List.prefix_append ..).trans (List.prefix_append ..))
  · have opening : ((Row.of c).id.toList ++ List.replicate (i + 2) ' ' ++
        (Row.of c).verdict.toList ++ List.replicate (j + 2) ' ').count '\n' = 0 :=
      List.count_eq_zero.mpr (Comparison.not_mem_opening (.inl rfl))
    have inputs : (Row.of c).inputs.toList.count '\n' = _ := c.case.count_label
    rw [failureLine, rowLine, shown, List.count_append, List.count_append, List.count_append,
      opening, inputs, Comparison.count_of_reason given, Comparison.bare, Text.feeds_append]
    simp [List.count_replicate]

theorem feeds_failureLines (r : Report) (failed : ∀ c ∈ cs, c.verdict ≠ .agree) :
    Text.feeds (cs.map r.failureLine) = feeds cs := by
  induction cs with
  | nil => rfl
  | cons c cs ih =>
    obtain ⟨first, others⟩ := List.forall_mem_cons.mp failed
    rw [List.map_cons, Text.feeds_cons, (failureLine_spec r first).2, ih others, feeds, feeds,
      List.flatMap_cons, Text.feeds_append]

/-- Names that take no line of their own. -/
structure OneLineNames (r : Report) : Prop where
  reference : '\n' ∉ r.reference.toList
  subject : '\n' ∉ r.subject.toList
  normalization : '\n' ∉ r.normalization.toList

def heading (r : Report) : List String := r.summary ++ ["", r.rowLine Row.header]

theorem OneLineNames.feeds_summary (h : r.OneLineNames) : Text.feeds r.summary = 0 := by
  have status : '\n' ∉ r.status.label.toList := by cases r.status <;> decide
  rw [Text.feeds_eq_zero_iff]
  simp [summary, status, h.reference, h.subject, h.normalization,
    Text.not_mem_toDigits (c := '\n') (by decide)]

theorem OneLineNames.feeds_heading (h : r.OneLineNames) : Text.feeds r.heading = 0 := by
  have header : (r.rowLine Row.header).toList.count '\n' = 0 := by
    obtain ⟨i, j, k, shown⟩ :=
      Row.exists_line_eq r.rows (r := Row.header) ⟨'L', by decide, by decide⟩
    rw [rowLine, shown]
    simp [Row.header, List.count_replicate]
  rw [heading, Text.feeds_append, h.feeds_summary]
  simp [header]

theorem tableLines_eq (some_failed : r.failures ≠ []) :
    r.tableLines = r.heading ++ r.failures.map r.failureLine := by
  simp [tableLines, some_failed, heading, rows, Function.comp_def, failureLine]

theorem tableLines_eq_append {k : Nat} (hc : r.failures[k]? = some c) :
    r.tableLines = (r.heading ++ (r.failures.take k).map r.failureLine) ++
      r.failureLine c :: (r.failures.drop (k + 1)).map r.failureLine := by
  obtain ⟨hk, at_k⟩ := List.getElem?_eq_some_iff.mp hc
  rw [tableLines_eq (List.ne_nil_of_mem (List.mem_of_getElem? hc)), List.append_assoc,
    ← List.map_cons (f := r.failureLine), ← at_k, ← List.drop_eq_getElem_cons hk,
    ← List.map_append, List.take_append_drop]

def lines (r : Report) : List (List Char) := Text.lines (Text.ended r.tableLines).toList

theorem length_lines_of_match (named : r.OneLineNames) (none_failed : r.failures = []) :
    r.lines.length = 2 := by
  rw [lines, Text.length_lines_ended, tableLines, if_pos none_failed, List.append_nil,
    named.feeds_summary]
  rfl

theorem length_lines_of_failures (named : r.OneLineNames) (some_failed : r.failures ≠ []) :
    r.lines.length = 4 + r.failures.length + feeds r.failures := by
  have rows : Text.feeds (r.failures.map r.failureLine) = feeds r.failures :=
    feeds_failureLines r fun c hc => (mem_failures_iff.mp hc).2
  rw [lines, Text.length_lines_ended, tableLines_eq some_failed, Text.feeds_append,
    named.feeds_heading, rows, Nat.zero_add, List.length_append, List.length_map]
  rfl

theorem exists_line_of_failure (named : r.OneLineNames) {k : Nat}
    (hc : r.failures[k]? = some c) :
    ∃ line, r.lines[4 + k + feeds (r.failures.take k)]? = some line ∧ c.Opens line := by
  have failed {d : Comparison} (hd : d ∈ r.failures) : d.verdict ≠ .agree :=
    (mem_failures_iff.mp hd).2
  have before : Text.feeds ((r.failures.take k).map r.failureLine) = feeds (r.failures.take k) :=
    feeds_failureLines r fun d hd => failed (List.mem_of_mem_take hd)
  have above : (r.heading ++ (r.failures.take k).map r.failureLine).length = 4 + k := by
    have hk : k < r.failures.length := (List.getElem?_eq_some_iff.mp hc).1
    rw [List.length_append, List.length_map, List.length_take_of_le (Nat.le_of_lt hk)]
    rfl
  obtain ⟨i, j, hi, hj, begins⟩ := (failureLine_spec r (failed (List.mem_of_getElem? hc))).1
  obtain ⟨line, found, kept⟩ := Text.exists_getElem?_lines_ended
    (r.heading ++ (r.failures.take k).map r.failureLine)
    ((r.failures.drop (k + 1)).map r.failureLine) begins
    (Comparison.not_mem_opening (.inl rfl)) (Comparison.not_mem_opening (.inr rfl))
  rw [above, Text.feeds_append, named.feeds_heading, before, Nat.zero_add] at found
  exact ⟨line, by rw [lines, tableLines_eq_append hc, found], i, j, hi, hj, kept⟩

/-- There is a table just when no cell of a failure is too wide. It has two lines
if everything matched. Else there are two more and a row for each failure, in
order, whose first line says which case failed and how; but a row takes a line
more for each line feed in the names, values and details shown. -/
structure Tabulated (r : Report) : Prop where
  laid : (∃ text, r.table = some text) ↔
    ∀ c ∈ r.failures, ∀ cell ∈ (Row.of c).cells, cell.utf8ByteSize ≤ Row.maxWidth
  matched : (∀ c ∈ r.comparisons, c.verdict = .agree) →
    ∃ text, r.table = some text ∧ (Text.lines text.toList).length = 2
  length : ∀ text, r.table = some text → (∃ c ∈ r.comparisons, c.verdict ≠ .agree) →
    (Text.lines text.toList).length = 4 + r.failures.length + feeds r.failures
  row : ∀ text, r.table = some text → ∀ (k : Nat) (c : Comparison), r.failures[k]? = some c →
    ∃ line, (Text.lines text.toList)[4 + k + feeds (r.failures.take k)]? = some line ∧
      c.Opens line
  whole : ∀ text, r.table = some text → (∃ c ∈ r.comparisons, c.verdict ≠ .agree) →
    ((Text.lines text.toList).length = 4 + r.failures.length ↔ ∀ c ∈ r.failures, c.OnOneLine)
  plain : ∀ text, r.table = some text → (∀ c ∈ r.failures, c.OnOneLine) →
    ∀ (k : Nat) (c : Comparison), r.failures[k]? = some c →
      ∃ line, (Text.lines text.toList)[4 + k]? = some line ∧ c.Opens line

theorem lines_of_table {text : String} (h : r.table = some text) :
    Text.lines text.toList = r.lines := by
  rw [lines, (table_eq_some_iff.mp h).2]

theorem tabulated (named : r.OneLineNames) : r.Tabulated := by
  have length {text : String} (h : r.table = some text)
      (failed : ∃ c ∈ r.comparisons, c.verdict ≠ .agree) :
      (Text.lines text.toList).length = 4 + r.failures.length + feeds r.failures := by
    obtain ⟨c, hc⟩ := failed
    rw [lines_of_table h]
    exact length_lines_of_failures named (List.ne_nil_of_mem (mem_failures_iff.mpr hc))
  have laid : (∃ text, r.table = some text) ↔ r.Fits := by
    simp only [table_eq_some_iff, exists_and_left, exists_eq, and_true]
  refine ⟨laid, fun all => ?_, fun _ => length, fun text h k c hc => ?_,
    fun text h failed => ?_, fun text h plain k c hc => ?_⟩
  · have none_failed := failures_eq_nil_iff.mpr all
    obtain ⟨text, h⟩ := laid.mpr (fits_of_match none_failed)
    exact ⟨text, h, by rw [lines_of_table h, length_lines_of_match named none_failed]⟩
  · rw [lines_of_table h]
    exact exists_line_of_failure named hc
  · rw [length h failed, ← feeds_eq_zero_iff]
    omega
  · have before : feeds (r.failures.take k) = 0 :=
      feeds_eq_zero_iff.mpr fun d hd => plain d (List.mem_of_mem_take hd)
    rw [lines_of_table h]
    simpa only [before, Nat.add_zero] using exists_line_of_failure named hc

def differing (id : Nat) (v : Scalar) : Comparison where
  case := ⟨id, some "c", .boundary, [⟨"c", v, "text", .valid⟩]⟩
  verdict := .differ
  reference := .completed "a\n" (some 0) ⟨0⟩
  subject := .completed "b\n" (some 0) ⟨0⟩

def unequal (vs : List Scalar) : Report :=
  of ⟨"left", "right", 1000, 1, "exact"⟩ (vs.mapIdx differing)

theorem tabulated_unequal_letters :
    (unequal [.char 'a', .char 'b']).OneLineNames ∧
      (unequal [.char 'a', .char 'b']).Tabulated := by
  have named : (unequal [.char 'a', .char 'b']).OneLineNames := ⟨by decide, by decide, by decide⟩
  exact ⟨named, tabulated named⟩

theorem length_lines_unequal_newline :
    ¬ ∀ r : Report, r.OneLineNames → ∀ text, r.table = some text →
      ((∀ c ∈ r.comparisons, c.verdict = .agree) → (Text.lines text.toList).length = 2) ∧
      ((∃ c ∈ r.comparisons, c.verdict ≠ .agree) →
        (Text.lines text.toList).length = 4 + r.failures.length ∧
        ∀ (k : Nat) (c : Comparison), r.failures[k]? = some c →
          ∃ line, (Text.lines text.toList)[4 + k]? = some line ∧ c.Opens line) := by
  intro claimed
  have named : (unequal [.char '\n']).OneLineNames := ⟨by decide, by decide, by decide⟩
  have only : (unequal [.char '\n']).comparisons = [differing 0 (.char '\n')] := by
    simp [unequal, of]
  have failures : (unequal [.char '\n']).failures = [differing 0 (.char '\n')] := by
    rw [Report.failures, only]
    rfl
  have fits : (unequal [.char '\n']).Fits := by
    rw [Fits, failures, List.forall_mem_singleton]
    decide +kernel
  have table := table_eq_some_iff.mpr ⟨fits, rfl⟩
  have promised := ((claimed _ named _ table).2 ⟨_, only ▸ List.mem_cons_self, by decide⟩).1
  have counted := length_lines_of_failures named (failures ▸ List.cons_ne_nil _ _)
  rw [lines_of_table table, counted, failures] at promised
  exact absurd promised (by decide)

end Report

end PartitionTest
