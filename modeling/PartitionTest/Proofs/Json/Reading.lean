import PartitionTest.Json.Draft
import PartitionTest.Proofs.Json.Lexing

/-! Printed text reads back as the value it was printed from, whatever the
layout: the layout only adds space, so the tokens are those of the value, and
these tokens build the draft of the value. -/
namespace PartitionTest.Json

open Lexer

namespace Value

mutual

def tokens : Value → List Token
  | .null => [.null]
  | .bool b => [.bool b]
  | .number n => [.number (.ok n)]
  | .string s => [.string (.ok s) none]
  | .array [] => [.openArray, .closeArray]
  | .array (v :: vs) => .openArray :: v.tokens ++ itemTokens vs ++ [.closeArray]
  | .object [] => [.openObject, .closeObject]
  | .object ((k, v) :: ms) =>
    .openObject :: .string (.ok k) none :: .colon :: v.tokens ++ memberTokens ms ++ [.closeObject]

def itemTokens : List Value → List Token
  | [] => []
  | v :: vs => .comma :: v.tokens ++ itemTokens vs

def memberTokens : List (String × Value) → List Token
  | [] => []
  | (k, v) :: ms => .comma :: .string (.ok k) none :: .colon :: v.tokens ++ memberTokens ms

end

/-- Values that are written exactly: whole numbers of 64 bits and no others,
with at most `depth` containers one inside the other. -/
inductive Fits : Nat → Value → Prop where
  | null {depth : Nat} : Fits depth .null
  | bool {depth : Nat} (b : Bool) : Fits depth (.bool b)
  | int {depth : Nat} {n : Int} (low : Int64.minValue.toInt ≤ n) (high : n < UInt64.size) :
    Fits depth (.int n)
  | string {depth : Nat} (s : String) : Fits depth (.string s)
  | array {depth : Nat} {items : List Value} (each : ∀ v ∈ items, Fits depth v) :
    Fits (depth + 1) (.array items)
  | object {depth : Nat} {members : List (String × Value)}
    (each : ∀ m ∈ members, Fits depth m.2) : Fits (depth + 1) (.object members)

namespace Fits

theorem mono {v : Value} {depth depth' : Nat} (h : v.Fits depth) (le : depth ≤ depth') :
    v.Fits depth' := by
  induction h generalizing depth' with
  | null => exact .null
  | bool b => exact .bool b
  | int low high => exact .int low high
  | string s => exact .string s
  | array _ ih =>
    obtain ⟨more, rfl⟩ := Nat.exists_eq_add_of_le' le
    exact .array fun v hv => ih v hv (Nat.le_add_left _ more)
  | object _ ih =>
    obtain ⟨more, rfl⟩ := Nat.exists_eq_add_of_le' le
    exact .object fun m hm => ih m hm (Nat.le_add_left _ more)

theorem exists_forall {vs : List Value} (h : ∀ v ∈ vs, ∃ depth, v.Fits depth) :
    ∃ depth, ∀ v ∈ vs, v.Fits depth := by
  induction vs with
  | nil => exact ⟨0, nofun⟩
  | cons v vs ih =>
    obtain ⟨hv, hvs⟩ := List.forall_mem_cons.mp h
    obtain ⟨first, hv⟩ := hv
    obtain ⟨others, hvs⟩ := ih hvs
    exact ⟨max first others, List.forall_mem_cons.mpr ⟨hv.mono (Nat.le_max_left ..),
      fun w hw => (hvs w hw).mono (Nat.le_max_right ..)⟩⟩

theorem exists_array {items : List Value} (h : ∀ v ∈ items, ∃ depth, v.Fits depth) :
    ∃ depth, (Value.array items).Fits depth := by
  obtain ⟨depth, each⟩ := exists_forall h
  exact ⟨depth + 1, .array each⟩

theorem exists_object {members : List (String × Value)}
    (h : ∀ m ∈ members, ∃ depth, m.2.Fits depth) : ∃ depth, (Value.object members).Fits depth := by
  have values : ∀ v ∈ members.map (·.2), ∃ depth, v.Fits depth := List.forall_mem_map.mpr h
  obtain ⟨depth, each⟩ := exists_forall values
  exact ⟨depth + 1, .object (List.forall_mem_map.mp each)⟩

end Fits

end Value

namespace Lexer

theorem delimits_cons {c : Char} (h : digit? c = none ∧ c ≠ '.' ∧ c ≠ 'e' ∧ c ≠ 'E')
    (text : List Char) : Delimits (c :: text) := by
  intro d hd
  obtain rfl : c = d := Option.some.inj hd
  exact h

theorem delimits_spaces {space : List Char} (h : ∀ c ∈ space, isSpace c) {text : List Char}
    (ht : Delimits text) : Delimits (space ++ text) := by
  cases space with
  | nil => exact ht
  | cons c space =>
    refine delimits_cons ?_ _
    have blank : isSpace c := h c List.mem_cons_self
    simp only [isSpace, Bool.or_eq_true, beq_iff_eq, or_assoc] at blank
    obtain rfl | rfl | rfl | rfl := blank <;> decide

end Lexer

namespace Layout

structure IsBlank (l : Layout) : Prop where
  lineBreak : ∀ level, ∀ c ∈ l.lineBreak level, isSpace c
  afterColon : ∀ c ∈ l.afterColon, isSpace c

theorem isBlank_compact : compact.IsBlank :=
  ⟨fun _ _ hc => absurd hc List.not_mem_nil, fun _ hc => absurd hc List.not_mem_nil⟩

theorem isBlank_pretty : pretty.IsBlank where
  lineBreak level c hc := by
    obtain rfl | hc := List.mem_cons.mp hc
    · rfl
    · rw [List.eq_of_mem_replicate hc]
      rfl
  afterColon c hc := by
    rw [List.mem_singleton.mp hc]
    rfl

/-- At every level, a value's text gives the tokens of the value. -/
def Spells (l : Layout) (v : Value) : Prop :=
  ∀ (level : Nat) {text : List Char}, Delimits text →
    lexed .between (l.chars level v ++ text) = v.tokens ++ lexed .between text

variable {l : Layout}

theorem delimits_itemChars (level : Nat) (vs : List Value) {text : List Char}
    (ht : Delimits text) : Delimits (l.itemChars level vs ++ text) := by
  cases vs with
  | nil => simpa only [itemChars, List.nil_append] using ht
  | cons v vs =>
    simp only [itemChars, List.cons_append]
    exact delimits_cons (by decide) _

theorem delimits_memberChars (level : Nat) (ms : List (String × Value)) {text : List Char}
    (ht : Delimits text) : Delimits (l.memberChars level ms ++ text) := by
  cases ms with
  | nil => simpa only [memberChars, List.nil_append] using ht
  | cons m ms =>
    simp only [memberChars, List.cons_append]
    exact delimits_cons (by decide) _

theorem IsBlank.lexed_itemChars (hl : l.IsBlank) {vs : List Value} (h : ∀ v ∈ vs, l.Spells v)
    (level : Nat) {text : List Char} (ht : Delimits text) :
    lexed .between (l.itemChars level vs ++ text) =
      Value.itemTokens vs ++ lexed .between text := by
  induction vs with
  | nil => simp only [itemChars, Value.itemTokens, List.nil_append]
  | cons v vs ih =>
    obtain ⟨hv, hvs⟩ := List.forall_mem_cons.mp h
    simp only [itemChars, Value.itemTokens, List.cons_append, List.append_assoc, lexed_comma,
      lexed_spaces (hl.lineBreak level), hv level (delimits_itemChars level vs ht), ih hvs]

theorem IsBlank.lexed_memberChars (hl : l.IsBlank) {ms : List (String × Value)}
    (h : ∀ m ∈ ms, l.Spells m.2) (level : Nat) {text : List Char} (ht : Delimits text) :
    lexed .between (l.memberChars level ms ++ text) =
      Value.memberTokens ms ++ lexed .between text := by
  induction ms with
  | nil => simp only [memberChars, Value.memberTokens, List.nil_append]
  | cons m ms ih =>
    obtain ⟨hv, hms⟩ := List.forall_mem_cons.mp h
    simp only [memberChars, Value.memberTokens, List.cons_append, List.append_assoc, lexed_comma,
      lexed_spaces (hl.lineBreak level), lexed_stringChars, lexed_colon,
      lexed_spaces hl.afterColon, hv level (delimits_memberChars level ms ht), ih hms]

theorem IsBlank.spells_array (hl : l.IsBlank) {items : List Value}
    (h : ∀ v ∈ items, l.Spells v) : l.Spells (.array items) := by
  intro level text ht
  cases items with
  | nil =>
    simp only [chars, Value.tokens, List.cons_append, List.nil_append, lexed_openArray,
      lexed_closeArray]
  | cons v vs =>
    obtain ⟨hv, hvs⟩ := List.forall_mem_cons.mp h
    have close : Delimits (l.lineBreak level ++ ']' :: text) :=
      delimits_spaces (hl.lineBreak level) (delimits_cons (by decide) _)
    simp only [chars, Value.tokens, List.cons_append, List.append_assoc, List.nil_append,
      lexed_openArray, lexed_spaces (hl.lineBreak _),
      hv (level + 1) (delimits_itemChars (level + 1) vs close),
      hl.lexed_itemChars hvs (level + 1) close, lexed_closeArray]

theorem IsBlank.spells_object (hl : l.IsBlank) {members : List (String × Value)}
    (h : ∀ m ∈ members, l.Spells m.2) : l.Spells (.object members) := by
  intro level text ht
  cases members with
  | nil =>
    simp only [chars, Value.tokens, List.cons_append, List.nil_append, lexed_openObject,
      lexed_closeObject]
  | cons m ms =>
    obtain ⟨hv, hms⟩ := List.forall_mem_cons.mp h
    have close : Delimits (l.lineBreak level ++ '\x7d' :: text) :=
      delimits_spaces (hl.lineBreak level) (delimits_cons (by decide) _)
    simp only [chars, Value.tokens, List.cons_append, List.append_assoc, List.nil_append,
      lexed_openObject, lexed_spaces (hl.lineBreak _), lexed_stringChars, lexed_colon,
      lexed_spaces hl.afterColon, hv (level + 1) (delimits_memberChars (level + 1) ms close),
      hl.lexed_memberChars hms (level + 1) close, lexed_closeObject]

theorem IsBlank.spells (hl : l.IsBlank) {depth : Nat} {v : Value} (h : v.Fits depth) :
    l.Spells v := by
  induction h with
  | null =>
    intro level text _
    simp only [chars, Value.tokens, lexed_null, List.singleton_append]
  | bool b =>
    intro level text _
    cases b <;> simp only [chars, Value.tokens, lexed_true, lexed_false, List.singleton_append]
  | int low high =>
    intro level text ht
    simp only [Value.int, chars, Value.tokens, Number.chars, lexed_intChars low high ht,
      List.singleton_append]
  | string s =>
    intro level text _
    simp only [chars, Value.tokens, lexed_stringChars, List.singleton_append]
  | array _ ih => exact hl.spells_array ih
  | object _ ih => exact hl.spells_object ih

end Layout

namespace Draft

theorem foldl_tokens_item (v : Value) (frames : List Frame) :
    v.tokens.foldl step (.item frames) = v.tokens.foldl step (.value (.array [] :: frames)) := by
  unfold Value.tokens
  split <;> rfl

mutual

theorem foldl_tokens (v : Value) (frames : List Frame) :
    v.tokens.foldl step (.value frames) = settle (ofValue v) frames := by
  match v with
  | .null | .bool _ | .number _ | .string _ | .array [] | .object [] =>
    simp only [Value.tokens, ofValue, ofItems, ofMembers]
    rfl
  | .array (v :: vs) =>
    simp only [Value.tokens, ofValue, ofItems, List.cons_append, List.foldl_cons,
      List.foldl_append, List.foldl_nil]
    show step (List.foldl step (List.foldl step (.item frames) v.tokens) _) _ = _
    rw [foldl_tokens_item, foldl_tokens v, settle, foldl_itemTokens vs, step,
      List.reverse_append, List.reverse_reverse]
    rfl
  | .object ((k, v) :: ms) =>
    simp only [Value.tokens, ofValue, ofMembers, List.cons_append, List.foldl_cons,
      List.foldl_append, List.foldl_nil]
    show step (List.foldl step (List.foldl step
      (.value (.object [] (.string (.ok k) none) :: frames)) v.tokens) _) _ = _
    rw [foldl_tokens v, settle, foldl_memberTokens ms, step, List.reverse_append,
      List.reverse_reverse]
    rfl

theorem foldl_itemTokens (vs : List Value) (done : List Draft) (frames : List Frame) :
    (Value.itemTokens vs).foldl step (.afterItem done frames) =
      .afterItem ((ofItems vs).reverse ++ done) frames := by
  match vs with
  | [] => rfl
  | v :: vs =>
    simp only [Value.itemTokens, ofItems, List.cons_append, List.foldl_cons, List.foldl_append,
      step, List.reverse_cons, List.append_assoc, List.nil_append]
    rw [foldl_tokens v, settle, foldl_itemTokens vs]

theorem foldl_memberTokens (ms : List (String × Value)) (done : List (Draft × Draft))
    (frames : List Frame) :
    (Value.memberTokens ms).foldl step (.afterMember done frames) =
      .afterMember ((ofMembers ms).reverse ++ done) frames := by
  match ms with
  | [] => rfl
  | (k, v) :: ms =>
    simp only [Value.memberTokens, ofMembers, List.cons_append, List.foldl_cons,
      List.foldl_append, step, List.reverse_cons, List.append_assoc, List.nil_append]
    rw [foldl_tokens v, settle, foldl_memberTokens ms]

end

theorem ofTokens_tokens (v : Value) : ofTokens v.tokens = (ofValue v, false) := by
  rw [ofTokens, foldl_tokens]
  rfl

/-- A printed value is read as its draft, and nothing follows it. -/
theorem ofText_chars {l : Layout} (hl : l.IsBlank) {depth : Nat} {v : Value} (h : v.Fits depth)
    (level : Nat) : ofText (l.chars level v) = (ofValue v, false) := by
  have tokens_chars : tokens (l.chars level v) = v.tokens := by
    have nothing : Delimits [] := nofun
    have spelled := hl.spells h level nothing
    rwa [List.append_nil, lexed, Lexer.atEnd, List.append_nil, ← tokens_eq] at spelled
  rw [ofText, tokens_chars, ofTokens_tokens]

theorem ofText_number (t : NumberText) : ofText t.chars = (.number t.numeral.number, false) := by
  have nothing : Delimits [] := nofun
  have tokens_number : tokens t.chars = [.number t.numeral.number] := by
    rw [tokens_eq, ← List.append_nil t.chars, lexed_number t nothing]
    rfl
  rw [ofText, tokens_number]
  rfl

end Draft

end PartitionTest.Json
