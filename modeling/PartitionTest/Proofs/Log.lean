import Mathlib.Data.List.Forall2
import Mathlib.Data.List.Nodup
import PartitionTest.Log.Journal
import PartitionTest.Proofs.Json.Values
import PartitionTest.Proofs.Text.Words

/-! What is in a log. Every entry of sufficient level has a line of its own,
which reads back as the entry. The lines without a trace of their own are
numbered in order, without gaps. -/
namespace PartitionTest

open Json

theorem forall₂_forall_right {α β : Type} {R : α → β → Prop} {P : α → Prop} {Q : β → Prop}
    {as : List α} {bs : List β} (h : List.Forall₂ R as bs) (each : ∀ a ∈ as, P a)
    (imp : ∀ a b, R a b → P a → Q b) : ∀ b ∈ bs, Q b := by
  induction h with
  | nil => exact List.forall_mem_nil _
  | cons first _ ih =>
    obtain ⟨here, later⟩ := List.forall_mem_cons.mp each
    exact List.forall_mem_cons.mpr ⟨imp _ _ first here, ih later⟩

namespace LogEntry

variable {e : LogEntry}

def fields (e : LogEntry) : List (String × Option Value) :=
  [("timestamp", some (.string e.timestamp)), ("trace_id", some (.string e.trace)),
    ("level", some (.string e.level.name)), ("event", some (.string e.event)),
    ("suite", e.suite.map .string), ("case_id", e.caseId.map .nat),
    ("inputs", e.inputs.map .string), ("verdict", e.verdict.map .string),
    ("duration_ms", e.durationMs.map .nat), ("details", e.details)]

theorem nodup_names_fields (e : LogEntry) : (e.fields.map (·.1)).Nodup := by
  have names : e.fields.map (·.1) = ["timestamp", "trace_id", "level", "event", "suite",
      "case_id", "inputs", "verdict", "duration_ms", "details"] := rfl
  rw [names]
  decide

/-- A line that says what an entry says, each thing once, and no more. -/
structure IsLine (e : LogEntry) (line : String) : Prop where
  newline_not_mem : '\n' ∉ line.toList
  reads : ∃ ms, Decoder.value.ofText line = .ok (.object ms) ∧ (ms.map (·.1)).Nodup ∧
    ∀ name, Option.Rel Value.Same (e.fields.lookup name).join (ms.lookup name)

/-- Numbers of 64 bits, and details that a reader does not find too deep where
they stand in the line. -/
structure Whole (e : LogEntry) : Prop where
  caseId : ∀ n ∈ e.caseId, n < UInt64.size
  durationMs : ∀ n ∈ e.durationMs, n < UInt64.size
  details : ∀ v ∈ e.details, (Value.object [("details", v)]).Fits maxDepth

def present (fields : List (String × Option Value)) : List (String × Value) :=
  fields.flatMap fun f => f.2.toList.map (f.1, ·)

theorem present_cons (f : String × Option Value) (fs : List (String × Option Value)) :
    present (f :: fs) = f.2.toList.map (f.1, ·) ++ present fs :=
  List.flatMap_cons

theorem toJson_eq (e : LogEntry) :
    e.toJson = .object ((present e.fields).map fun m => (m.1, m.2.sorted)) := by
  have plain {α : Type} (name : String) {encode : α → Value} (o : Option α)
      (h : ∀ a, (encode a).sorted = encode a) : Value.optionalMember name encode o =
        ((o.map encode).toList.map (name, ·)).map fun m => (m.1, m.2.sorted) := by
    cases o with
    | none => rfl
    | some a => simp [Value.optionalMember, h]
  have details (o : Option Value) : Value.optionalMember "details" Value.sorted o =
      (o.toList.map ("details", ·)).map fun m => (m.1, m.2.sorted) := by
    cases o <;> rfl
  have string (s : String) : (Value.string s).sorted = .string s := rfl
  have nat (n : Nat) : (Value.nat n).sorted = .nat n := rfl
  have nothing : present [] = [] := rfl
  simp only [toJson, fields, present_cons, nothing, List.map_append, List.append_nil,
    plain _ _ string, plain _ _ nat, details, List.append_assoc]
  rfl

theorem names_present_sublist (fs : List (String × Option Value)) :
    ((present fs).map (·.1)).Sublist (fs.map (·.1)) := by
  induction fs with
  | nil => exact .slnil
  | cons f fs ih =>
    rw [present_cons, List.map_append, List.map_cons]
    cases f.2 with
    | none => exact ih.cons _
    | some v => exact ih.cons_cons _

theorem lookup_present {fs : List (String × Option Value)} (h : (fs.map (·.1)).Nodup)
    (name : String) : (present fs).lookup name = (fs.lookup name).join := by
  induction fs with
  | nil => rfl
  | cons f fs ih =>
    obtain ⟨fresh, rest⟩ := List.nodup_cons.mp h
    rw [present_cons, List.lookup_append, ih rest, List.lookup_cons]
    by_cases here : name = f.1
    · have absent : fs.lookup name = none := lookup_eq_none_of_not_mem (here ▸ fresh)
      rw [absent, beq_iff_eq.mpr here]
      cases f.2 <;> simp [here]
    · have other : (f.2.toList.map (f.1, ·)).lookup name = none :=
        lookup_eq_none_of_not_mem (by cases f.2 <;> simp [here])
      rw [beq_eq_false_iff_ne.mpr here, other, Option.none_or]

theorem Whole.fits_fields (h : e.Whole) :
    ∀ f ∈ e.fields, ∀ v ∈ f.2, v.Fits (maxDepth - 1) := by
  have details : ∀ v ∈ e.details, v.Fits (maxDepth - 1) := fun v hv => by
    cases h.details v hv with
    | object each => exact each _ (List.mem_singleton.mpr rfl)
  have number {n : Nat} (small : n < UInt64.size) : (Value.nat n).Fits (maxDepth - 1) :=
    .int (Int.le_trans (by decide) (Int.natCast_nonneg n)) (Int.ofNat_lt.mpr small)
  have string (s : String) : (Value.string s).Fits (maxDepth - 1) := .string s
  simp only [fields, List.forall_mem_cons, Option.mem_def, Option.some.injEq, forall_eq',
    Option.map_eq_some_iff, forall_exists_index, and_imp, string, true_and]
  exact ⟨fun _ s _ same => same ▸ string s, fun _ n hn same => same ▸ number (h.caseId n hn),
    fun _ s _ same => same ▸ string s, fun _ s _ same => same ▸ string s,
    fun _ n hn same => same ▸ number (h.durationMs n hn), details, List.forall_mem_nil _⟩

theorem Whole.fits_toJson (h : e.Whole) : e.toJson.Fits maxDepth := by
  rw [toJson_eq]
  refine .object (List.forall_mem_map.mpr fun m hm => ?_)
  obtain ⟨f, hf, hm⟩ := List.mem_flatMap.mp hm
  obtain ⟨v, hv, rfl⟩ := List.mem_map.mp hm
  exact (h.fits_fields f hf v (Option.mem_toList.mp hv)).sorted

theorem Whole.isLine (h : e.Whole) : e.IsLine e.line where
  newline_not_mem := by
    rw [line, Value.compact, String.toList_ofList]
    exact h.fits_toJson.newline_not_mem_chars 0
  reads := by
    have restores : Decoder.value.Restores maxDepth e.toJson e.toJson :=
      ⟨h.fits_toJson, fun _ hc => h.fits_toJson.value_ofValue hc⟩
    have read : Decoder.value.ofText e.line =
        .ok (.object ((present e.fields).map fun m => (m.1, m.2.sorted))) := by
      rw [← toJson_eq]
      exact restores.readsBack.compact
    refine ⟨_, read, ?_, fun name => ?_⟩
    · rw [List.map_map]
      exact (names_present_sublist _).nodup e.nodup_names_fields
    · rw [lookup_map_snd, lookup_present e.nodup_names_fields]
      exact Value.rel_same_sorted _

theorem Whole.of_eq {w : LogEntry} (h : e.Whole) (same : w = { e with trace := w.trace }) :
    w.Whole := by
  rw [same]
  exact ⟨h.caseId, h.durationMs, h.details⟩

end LogEntry

namespace Log

theorem toList_paddedNumber (n : Nat) :
    (paddedNumber n).toList =
      List.replicate (3 - (Nat.toDigits 10 n).length) '0' ++ Nat.toDigits 10 n :=
  String.toList_ofList

theorem length_paddedNumber (n : Nat) :
    (paddedNumber n).length = max 3 (Nat.toDigits 10 n).length := by
  rw [← String.length_toList, toList_paddedNumber, List.length_append, List.length_replicate]
  omega

theorem ofDigitChars_paddedNumber (n : Nat) :
    Nat.ofDigitChars 10 (paddedNumber n).toList 0 = n := by
  rw [toList_paddedNumber, Nat.ofDigitChars_append, Nat.ofDigitChars_replicate_zero, Nat.mul_zero,
    Nat.ofDigitChars_ten_toDigits]

theorem paddedNumber_injective : Function.Injective paddedNumber := by
  intro m n same
  rw [← ofDigitChars_paddedNumber m, same, ofDigitChars_paddedNumber]

def assigned (es written : List LogEntry) : List String :=
  ((es.zip written).filter (·.1.trace = "")).map (·.2.trace)

/-- Entries as they are written when `n` have been numbered already. Only a
missing trace is added, and the traces added are the next numbers in order. -/
structure Numbered (runId : String) (n : Nat) (es written : List LogEntry) : Prop where
  kept : List.Forall₂ (fun e w => w = { e with trace := w.trace } ∧
    (e.trace ≠ "" → w.trace = e.trace)) es written
  assigned : assigned es written =
    (List.range' (n + 1) (es.countP (·.trace = ""))).map fun k => runId ++ "::" ++ paddedNumber k

namespace Numbered

variable {runId : String} {n : Nat} {es fs ws xs : List LogEntry}

theorem append (h : Numbered runId n es ws)
    (h' : Numbered runId (n + es.countP (·.trace = "")) fs xs) :
    Numbered runId n (es ++ fs) (ws ++ xs) where
  kept := List.rel_append h.kept h'.kept
  assigned := by
    rw [Log.assigned, List.zip_append h.kept.length_eq, List.filter_append, List.map_append]
    change Log.assigned es ws ++ Log.assigned fs xs = _
    rw [h.assigned, h'.assigned, List.countP_append, ← List.map_append, Nat.add_right_comm,
      List.range'_append_1]

theorem nodup_assigned (h : Numbered runId n es ws) : (Log.assigned es ws).Nodup := by
  rw [h.assigned]
  refine List.Nodup.map (fun j k same => ?_) (List.nodup_range' 1)
  exact paddedNumber_injective ((String.append_right_inj _).mp same)

theorem whole (h : Numbered runId n es ws) (whole : ∀ e ∈ es, e.Whole) : ∀ w ∈ ws, w.Whole :=
  forall₂_forall_right h.kept whole fun _ _ same entire => entire.of_eq same.1

end Numbered

section

variable {l : Log} {e : LogEntry}

theorem emit_of_low (low : l.enabled e.level = false) : l.emit e = l := by
  simp [emit, low]

theorem emit_of_blank (admits : l.enabled e.level) (blank : e.trace = "") :
    l.emit e = { l with
      numbered := l.numbered + 1
      written := { e with trace := l.traceId (l.numbered + 1) }.line :: l.written } := by
  simp [emit, admits, blank]

theorem emit_of_preset (admits : l.enabled e.level) (preset : e.trace ≠ "") :
    l.emit e = { l with written := e.line :: l.written } := by
  simp [emit, admits, preset]

end

def admitted (min : LogLevel) (es : List LogEntry) : List LogEntry :=
  es.filter (·.level.atLeast min)

/-- A log after further entries. -/
structure Extends (l : Log) (es : List LogEntry) (l' : Log) : Prop where
  runId : l'.runId = l.runId
  minLevel : l'.minLevel = l.minLevel
  clock : l'.clock = l.clock
  numbered : l'.numbered = l.numbered + (admitted l.minLevel es).countP (·.trace = "")
  lines : ∃ written, Numbered l.runId l.numbered (admitted l.minLevel es) written ∧
    l'.lines = l.lines ++ written.map LogEntry.line

/-- What one call does: nothing, or write a numbered entry, or write the entry
as it is. -/
theorem extends_emit (l : Log) (e : LogEntry) : l.Extends [e] (l.emit e) := by
  -- the filter comes first, so an entry left out takes no number
  cases admits : e.level.atLeast l.minLevel with
  | false =>
    have none : admitted l.minLevel [e] = [] :=
      List.filter_cons_of_neg (by rw [admits]; decide)
    rw [emit_of_low admits]
    exact ⟨rfl, rfl, rfl, by rw [none]; rfl, [], by rw [none]; exact ⟨.nil, rfl⟩,
      (List.append_nil _).symm⟩
  | true =>
    have one : admitted l.minLevel [e] = [e] := List.filter_cons_of_pos admits
    by_cases blank : e.trace = ""
    · rw [emit_of_blank admits blank]
      refine ⟨rfl, rfl, rfl, by simp [one, blank], [{ e with trace := l.traceId (l.numbered + 1) }],
        ?_, List.reverse_cons⟩
      rw [one]
      exact ⟨.cons ⟨rfl, fun preset => absurd blank preset⟩ .nil,
        by simp [Log.assigned, blank, traceId]⟩
    · rw [emit_of_preset admits blank]
      refine ⟨rfl, rfl, rfl, by simp [one, blank], [e], ?_, List.reverse_cons⟩
      rw [one]
      exact ⟨.cons ⟨rfl, fun _ => rfl⟩ .nil, by simp [Log.assigned, blank]⟩

theorem Extends.trans {l m k : Log} {es fs : List LogEntry} (h : l.Extends es m)
    (h' : m.Extends fs k) : l.Extends (es ++ fs) k := by
  have both : admitted l.minLevel (es ++ fs) = admitted l.minLevel es ++ admitted l.minLevel fs :=
    List.filter_append ..
  have numbered' := h'.numbered
  obtain ⟨ws, first, lines⟩ := h.lines
  obtain ⟨xs, second, lines'⟩ := h'.lines
  rw [h.minLevel, h.numbered, Nat.add_assoc] at numbered'
  rw [h.runId, h.minLevel, h.numbered] at second
  refine ⟨h'.runId.trans h.runId, h'.minLevel.trans h.minLevel, h'.clock.trans h.clock, ?_,
    ws ++ xs, ?_, ?_⟩
  · rw [numbered', both, List.countP_append]
  · rw [both]
    exact first.append second
  · rw [lines', lines, List.map_append, List.append_assoc]

theorem Extends.note {l m : Log} {es : List LogEntry} (h : l.Extends es m) (e : LogEntry) :
    l.Extends (es ++ [{ e with timestamp := l.clock }]) (m.note e) := by
  rw [Log.note, h.clock]
  exact h.trans (m.extends_emit _)

theorem extends_foldl_emit (l : Log) (es : List LogEntry) : l.Extends es (es.foldl emit l) := by
  induction es generalizing l with
  | nil => exact ⟨rfl, rfl, rfl, rfl, [], ⟨.nil, rfl⟩, (List.append_nil _).symm⟩
  | cons e es ih => exact (l.extends_emit e).trans (ih (l.emit e))

/-- For fewer than 2 ^ 64 entries a counter of 64 bits is enough. -/
theorem numbered_foldl_emit_lt {l : Log} (new : l.numbered = 0) {es : List LogEntry}
    (few : es.length < UInt64.size) : (es.foldl emit l).numbered < UInt64.size := by
  have counted : (es.foldl emit l).numbered = (admitted l.minLevel es).countP (·.trace = "") := by
    rw [(l.extends_foldl_emit es).numbered, new, Nat.zero_add]
  calc _ = _ := counted
    _ ≤ (admitted l.minLevel es).length := List.countP_le_length
    _ ≤ es.length := List.length_filter_le ..
    _ < UInt64.size := few

theorem Extends.text {runId clock : String} {minLevel : LogLevel} {es : List LogEntry} {l : Log}
    (h : Extends { runId := runId, minLevel := minLevel, clock := clock } es l) :
    ∃ written, Numbered runId 0 (admitted minLevel es) written ∧
      l.text = Text.ended (written.map LogEntry.line) := by
  obtain ⟨written, numbered, lines⟩ := h.lines
  rw [show ({ runId := runId, minLevel := minLevel, clock := clock } : Log).lines = [] from rfl,
    List.nil_append] at lines
  exact ⟨written, numbered, by rw [← lines]; rfl⟩

theorem text_emit {l : Log} {e : LogEntry} (admits : l.enabled e.level) :
    (l.emit e).text = l.text ++ ((l.emit e).written.headD "" ++ "\n") := by
  have grown {line : String} (l : Log) :
      ({ l with written := line :: l.written } : Log).text = l.text ++ (line ++ "\n") := by
    rw [← String.toList_inj]
    simp [text, lines]
  by_cases blank : e.trace = ""
  · rw [emit_of_blank admits blank]
    exact grown { l with numbered := l.numbered + 1 }
  · rw [emit_of_preset admits blank]
    exact grown l

end Log

variable {World : Type} {contents : World → String}

namespace Channel

variable {c : Channel World}

/-- All that is put goes through, and comes behind what can be read already. -/
def Adds (c : Channel World) (contents : World → String) : Prop :=
  ∀ text w, ∃ w', (c.put text).run w = (.ok (), w') ∧ contents w' = contents w ++ text

theorem Adds.drain (h : c.Adds contents) (held : String) (w : World) :
    ∃ w', (c.drain held).run w = ((true, ""), w') ∧ contents w' = contents w ++ held := by
  unfold Channel.drain
  by_cases empty : held.isEmpty
  · obtain rfl := String.isEmpty_iff.mp empty
    exact ⟨w, rfl, (String.append_empty).symm⟩
  · obtain ⟨w', put, added⟩ := h held w
    refine ⟨w', ?_, added⟩
    rw [if_neg empty, StateT.run_bind, put]
    rfl

theorem Adds.makeRoom (h : c.Adds contents) (held : String) (size : Nat) (w : World) :
    ∃ kept w', (c.makeRoom held size).run w = ((true, kept), w') ∧
      contents w' ++ kept = contents w ++ held ∧ (c.room ≤ size → kept = "") := by
  unfold Channel.makeRoom
  split
  · rename_i enough
    refine ⟨held, w, rfl, rfl, fun large => ?_⟩
    rw [← String.utf8ByteSize_eq_zero_iff]
    omega
  · obtain ⟨w', drained, added⟩ := h.drain held w
    exact ⟨"", w', drained, by rw [added, String.append_empty], fun _ => rfl⟩

theorem Adds.write (h : c.Adds contents) (held piece : String) (w : World) :
    ∃ kept w', (c.write held piece).run w = ((true, kept), w') ∧
      contents w' ++ kept = contents w ++ held ++ piece := by
  obtain ⟨kept, w₁, cleared, same, none⟩ := h.makeRoom held piece.utf8ByteSize w
  rw [Channel.write, StateT.run_bind, cleared, ← same]
  by_cases small : piece.utf8ByteSize < c.room
  · refine ⟨kept ++ piece, w₁, ?_, (String.append_assoc ..).symm⟩
    show StateT.run (if piece.utf8ByteSize < c.room then _ else _) w₁ = _
    rw [if_pos small]
    rfl
  · obtain rfl := none (Nat.le_of_not_lt small)
    obtain ⟨w₂, put, added⟩ := h piece w₁
    refine ⟨"", w₂, ?_, by rw [added, String.append_empty, String.append_empty]⟩
    show StateT.run (if piece.utf8ByteSize < c.room then _ else _) w₁ = _
    rw [if_neg small, StateT.run_bind, put]
    rfl

theorem Adds.writeLine (h : c.Adds contents) (held line : String) (w : World) :
    ∃ kept w', (c.writeLine held line).run w = (kept, w') ∧
      contents w' ++ kept = contents w ++ held ++ (line ++ "\n") := by
  obtain ⟨held₁, w₁, first, one⟩ := h.write held line w
  obtain ⟨held₂, w₂, second, two⟩ := h.write held₁ "\n" w₁
  refine ⟨held₂, w₂, ?_, by rw [two, one, String.append_assoc]⟩
  rw [Channel.writeLine, StateT.run_bind, first]
  show (c.write held₁ "\n" >>= _).run w₁ = _
  rw [StateT.run_bind, second]
  rfl

end Channel

namespace Journal

/-- A journal later on. It shows, and holds back, what was added to its log. -/
structure Advances (contents : World → String) (j : Journal World) (w : World)
    (j' : Journal World) (w' : World) : Prop where
  channel : j'.channel = j.channel
  added : ∃ added, j'.log.text = j.log.text ++ added ∧
    contents w' ++ j'.held = contents w ++ j.held ++ added

variable {j : Journal World}

@[simp] theorem log_emit (j : Journal World) (e : LogEntry) (w : World) :
    ((j.emit e).run w).1.log = j.log.emit e := by
  unfold emit
  split
  · rename_i low
    show j.log = j.log.emit e
    rw [Log.emit_of_low (by simpa using low)]
  · rfl

@[simp] theorem channel_emit (j : Journal World) (e : LogEntry) (w : World) :
    ((j.emit e).run w).1.channel = j.channel := by
  unfold emit
  split <;> rfl

namespace Advances

variable {j' j'' : Journal World} {w w' w'' : World}

theorem of_eq (same : contents w' = contents w) : Advances contents j w j w' :=
  ⟨rfl, "", String.append_empty.symm, by rw [same, String.append_empty]⟩

theorem trans (h : Advances contents j w j' w') (h' : Advances contents j' w' j'' w'') :
    Advances contents j w j'' w'' := by
  obtain ⟨channel, added, logged, shown⟩ := h
  obtain ⟨channel', added', logged', shown'⟩ := h'
  exact ⟨channel'.trans channel, added ++ added', by rw [logged', logged, String.append_assoc],
    by rw [shown', shown, String.append_assoc]⟩

/-- From a new log on, with nothing held back in the end, all text has come through. -/
theorem through (h : Advances contents j w j' w') (new : j.log.text = "") (empty : j.held = "")
    (none : j'.held = "") : contents w' = contents w ++ j'.log.text := by
  obtain ⟨-, added, logged, shown⟩ := h
  rw [new, String.empty_append] at logged
  rwa [empty, none, String.append_empty, String.append_empty, ← logged] at shown

end Advances

theorem run_emit {e : LogEntry} (admits : j.log.enabled e.level) {kept : String} {w w' : World}
    (put : (j.channel.writeLine j.held ((j.log.emit e).written.headD "")).run w = (kept, w')) :
    (j.emit e).run w = ({ j with log := j.log.emit e, held := kept }, w') := by
  rw [emit, admits]
  show (j.channel.writeLine _ _ >>= _).run w = _
  rw [StateT.run_bind, put]
  rfl

theorem advances_emit (h : j.channel.Adds contents) (e : LogEntry) (w : World) :
    j.Advances contents w ((j.emit e).run w).1 ((j.emit e).run w).2 := by
  cases admits : j.log.enabled e.level with
  | false =>
    have same : (j.emit e).run w = (j, w) := by
      rw [emit, admits]
      rfl
    rw [same]
    exact .of_eq rfl
  | true =>
    obtain ⟨kept, w', put, shown⟩ := h.writeLine j.held ((j.log.emit e).written.headD "") w
    rw [run_emit admits put]
    exact ⟨rfl, _, Log.text_emit admits, shown⟩

theorem advances_flush (h : j.channel.Adds contents) (w : World) :
    j.Advances contents w (j.flush.run w).1 (j.flush.run w).2 ∧
      (j.flush.run w).1.log = j.log ∧ (j.flush.run w).1.held = "" := by
  obtain ⟨w', drained, added⟩ := h.drain j.held w
  have flushed : j.flush.run w = ({ j with held := "" }, w') := by
    rw [flush, StateT.run_bind, drained]
    rfl
  rw [flushed]
  exact ⟨⟨rfl, "", String.append_empty.symm, by rw [added, String.append_empty]⟩, rfl, rfl⟩

def emitAll (j : Journal World) (es : List LogEntry) : StateM World (Journal World) := do
  (← es.foldlM emit j).flush

theorem advances_foldlM_emit (h : j.channel.Adds contents) (es : List LogEntry) (w : World) :
    j.Advances contents w ((es.foldlM emit j).run w).1 ((es.foldlM emit j).run w).2 ∧
      ((es.foldlM emit j).run w).1.log = es.foldl Log.emit j.log := by
  induction es generalizing j w with
  | nil => exact ⟨.of_eq rfl, rfl⟩
  | cons e es ih =>
    have one := j.advances_emit h e w
    obtain ⟨others, logged⟩ := ih (one.channel ▸ h) ((j.emit e).run w).2
    rw [log_emit] at logged
    exact ⟨one.trans others, logged⟩

theorem contents_emitAll {c : Channel World} (h : c.Adds contents) (new : Log)
    (nothing : new.text = "") (es : List LogEntry) (w : World) :
    contents ((emitAll ⟨new, c, ""⟩ es).run w).2 =
      contents w ++ (es.foldl Log.emit new).text := by
  obtain ⟨grown, logged⟩ := advances_foldlM_emit (j := ⟨new, c, ""⟩) h es w
  obtain ⟨flushed, kept, none⟩ := advances_flush (by rw [grown.channel]; exact h)
    ((es.foldlM emit (⟨new, c, ""⟩ : Journal World)).run w).2
  rw [← logged, ← kept]
  exact (grown.trans flushed).through nothing rfl none

end Journal

namespace Log

/-- Whatever is emitted to a new log, each entry of sufficient level, of which error
is the highest, gets a line that says what it says, in the order of the calls.
Those that come without a trace are numbered 1, 2, 3 and so on, in three digits
or more; the others take no number. A channel that takes everything shows just
these lines in the end, whatever it holds back before. -/
theorem text_foldl_emit (runId clock : String) (minLevel : LogLevel) {entries : List LogEntry}
    (whole : ∀ e ∈ entries, e.Whole) :
    ∃ written, Numbered runId 0 (admitted minLevel entries) written ∧
      (assigned (admitted minLevel entries) written).Nodup ∧
      (entries.foldl emit { runId := runId, minLevel := minLevel, clock := clock }).text =
        Text.ended (written.map LogEntry.line) ∧
      (∀ w ∈ written, w.IsLine w.line) ∧
      (∀ k, (paddedNumber k).length = max 3 (Nat.toDigits 10 k).length ∧
        Nat.ofDigitChars 10 (paddedNumber k).toList 0 = k) ∧
      ([.trace, .debug, .info, .warn, .error] : List LogLevel).Pairwise (fun l m =>
        l.atLeast l ∧ m.atLeast m ∧ m.atLeast l ∧ ¬ l.atLeast m) ∧
      ∀ (World : Type) (c : Channel World) (contents : World → String), c.Adds contents → ∀ w,
        contents ((Journal.emitAll ⟨{ runId := runId, minLevel := minLevel, clock := clock }, c, ""⟩
          entries).run w).2 = contents w ++ Text.ended (written.map LogEntry.line) := by
  let new : Log := { runId := runId, minLevel := minLevel, clock := clock }
  obtain ⟨written, numbered, text⟩ := (new.extends_foldl_emit entries).text
  have admittedWhole := numbered.whole fun e he => whole e (List.mem_filter.mp he).1
  refine ⟨written, numbered, numbered.nodup_assigned, text,
    fun w hw => (admittedWhole w hw).isLine,
    fun k => ⟨length_paddedNumber k, ofDigitChars_paddedNumber k⟩, by decide,
    fun _ _ _ adds w => ?_⟩
  rw [← text]
  exact Journal.contents_emitAll adds new rfl entries w

def samples : List LogEntry := [
  { level := .info, event := "start" },
  { level := .debug, event := "left out" },
  { level := .warn, event := "kept", trace := "r::007" },
  { level := .error, event := "failed", caseId := some 3,
    details := some (.object [("reason", .string "a\nb")]) }]

theorem text_foldl_emit_samples :
    (∀ e ∈ samples, e.Whole) ∧
      ∃ written : List LogEntry, written.map (fun w => (w.event, w.trace)) =
          [("start", "r::001"), ("kept", "r::007"), ("failed", "r::002")] ∧
        (samples.foldl emit { runId := "r", minLevel := .info, clock := "now" }).text =
          Text.ended (written.map LogEntry.line) ∧
        (∀ w ∈ written, w.IsLine w.line) := by
  have bare {e : LogEntry} (caseId : e.caseId = none) (durationMs : e.durationMs = none)
      (details : e.details = none) : e.Whole :=
    ⟨by simp [caseId], by simp [durationMs], by simp [details]⟩
  have detailed : ∀ v, some (.object [("reason", .string "a\nb")]) = some v →
      (Value.object [("details", v)]).Fits maxDepth := by
    rintro _ ⟨⟩
    exact .object (List.forall_mem_singleton.mpr
      (.object (List.forall_mem_singleton.mpr (.string _))))
  have whole : ∀ e ∈ samples, e.Whole := by
    simp only [samples, List.forall_mem_cons]
    exact ⟨bare rfl rfl rfl, bare rfl rfl rfl, bare rfl rfl rfl,
      ⟨by rintro _ ⟨⟩; decide, nofun, detailed⟩, List.forall_mem_nil _⟩
  obtain ⟨written, numbered, -, text, lines, -⟩ := text_foldl_emit "r" "now" .info whole
  refine ⟨whole, written, ?_, text, lines⟩
  obtain ⟨kept, assigned⟩ := numbered
  have three : admitted .info samples = [samples[0], samples[2], samples[3]] := rfl
  rw [three] at kept assigned
  rcases kept with _ | ⟨⟨start, -⟩, _ | ⟨⟨warning, preset⟩, _ | ⟨⟨failed, -⟩, _ | _⟩⟩⟩
  rename_i u v w
  have numbers : [u.trace, w.trace] = ["r::001", "r::002"] := assigned
  have own : v.trace = "r::007" := preset (by decide)
  obtain ⟨one, two⟩ := List.cons.inj numbers
  obtain ⟨two, -⟩ := List.cons.inj two
  rw [List.map_cons, List.map_cons, List.map_cons, one, own, two, start, warning, failed]
  rfl

end Log

end PartitionTest
