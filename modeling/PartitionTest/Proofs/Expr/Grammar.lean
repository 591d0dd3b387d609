import PartitionTest.Proofs.Expr.Eval
import PartitionTest.Proofs.Json.Refusing
import PartitionTest.Proofs.RoundTrip.Case

/-! The grammar of written expressions. An expression has one written form, the
written forms are the values that the grammar generates, and the reader accepts
these and no others. What it accepts has the arguments that evaluation looks for. Its
literals are the scalars, which are read alike wherever they stand. -/
namespace PartitionTest

open Json

namespace Op

theorem ofName?_name (op : Op) : ofName? op.name = some op := by
  cases op <;> rfl

theorem ofName?_eq_some_iff {name : String} {op : Op} :
    ofName? name = some op ↔ name = op.name := by
  constructor
  · intro h
    have found := List.find?_some h
    exact (eq_of_beq found).symm
  · rintro rfl
    exact op.ofName?_name

theorem name_ne_value (op : Op) : op.name ≠ "value" := by
  cases op <;> decide

theorem countFits_iff {op : Op} {n : Nat} : Expr.countFits op n = true ↔ op.Takes n := by
  cases op <;> simp [Expr.countFits, arity, Takes, Nat.one_le_iff_ne_zero]

end Op

inductive Json.Value.Grammatical : Value → Prop where
  | bool (b : Bool) : Grammatical (.bool b)
  | int {n : Int} (lower : -2 ^ 63 ≤ n) (upper : n < 2 ^ 63) : Grammatical (.number (.int n))
  | char {s : String} (single : s.length = 1) : Grammatical (.string s)
  | value : Grammatical (.array [.string "value"])
  | apply {op : Op} {args : List Value} (each : ∀ a ∈ args, Grammatical a)
    (count : op.Takes args.length) : Grammatical (.array (.string op.name :: args))

namespace Expr

/-- Every operator stands before as many arguments as it takes. -/
inductive Counted : Expr → Prop where
  | literal (s : Scalar) : Counted (.literal s)
  | value : Counted .value
  | apply {op : Op} {args : List Expr} (each : ∀ a ∈ args, Counted a)
    (count : op.Takes args.length) : Counted (.apply op args)

@[elab_as_elim, induction_eliminator]
theorem induction {motive : Expr → Prop} (literal : ∀ s, motive (.literal s))
    (value : motive .value) (apply : ∀ op args, (∀ a ∈ args, motive a) → motive (.apply op args))
    (e : Expr) : motive e :=
  Expr.rec (motive_1 := motive) (motive_2 := fun args => ∀ a ∈ args, motive a) literal value apply
    nofun (fun _ _ head tail => List.forall_mem_cons.mpr ⟨head, tail⟩) e

mutual

def written : Expr → Value
  | .literal s => s.toJson
  | .value => .array [.string "value"]
  | .apply op args => .array (.string op.name :: writtenList args)

def writtenList : List Expr → List Value
  | [] => []
  | e :: es => e.written :: writtenList es

end

theorem writtenList_eq_map (es : List Expr) : writtenList es = es.map written := by
  induction es with
  | nil => rfl
  | cons e es ih => rw [writtenList, ih, List.map_cons]

theorem ofJsonList_eq_mapM (vs : List Value) : ofJsonList vs = vs.mapM ofJson := by
  induction vs with
  | nil => rfl
  | cons v vs ih =>
    rw [ofJsonList, ih, List.mapM_cons]
    cases ofJson v with
    | error e => rfl
    | ok e => cases vs.mapM ofJson <;> rfl

theorem ofJson_toJson (s : Scalar) : ofJson s.toJson = .ok (.literal s) := by
  cases s with
  | bool b => rfl
  | int n =>
    show ofJson (.number (.int n.toInt)) = _
    simp only [ofJson, Scalar.ofInt?_toInt]
  | char c => rw [Scalar.toJson, ofJson, Scalar.ofString?_singleton]

theorem ofJson_array_eq_ok_iff {name : String} {args : List Value} {e : Expr} :
    ofJson (.array (.string name :: args)) = .ok e ↔
      (name = "value" ∧ args = [] ∧ e = .value) ∨
      ∃ op es, name = op.name ∧ args.mapM ofJson = .ok es ∧ op.Takes es.length ∧
        e = .apply op es := by
  constructor
  · intro h
    rw [ofJson, ofJsonList_eq_mapM] at h
    split at h
    · rename_i named
      split at h
      · rename_i alone
        exact .inl ⟨named, List.isEmpty_iff.mp alone, (Except.ok.inj h).symm⟩
      · nomatch h
    · split at h
      · nomatch h
      · rename_i op hop
        split at h
        · nomatch h
        · rename_i es hargs
          split at h
          · rename_i count
            exact .inr ⟨op, es, Op.ofName?_eq_some_iff.mp hop, hargs, Op.countFits_iff.mp count,
              (Except.ok.inj h).symm⟩
          · nomatch h
  · rintro (⟨rfl, rfl, rfl⟩ | ⟨op, es, rfl, hargs, count, rfl⟩)
    · rfl
    · rw [ofJson, if_neg op.name_ne_value, op.ofName?_name, ofJsonList_eq_mapM, hargs]
      exact if_pos (Op.countFits_iff.mpr count)

theorem ofJson_eq_ok_cases {j : Value} {e : Expr} : ofJson j = .ok e ↔
    (∃ s : Scalar, j = s.toJson ∧ e = .literal s) ∨
    (j = .array [.string "value"] ∧ e = .value) ∨
    ∃ op args es, j = .array (.string (Op.name op) :: args) ∧ args.mapM ofJson = .ok es ∧
      op.Takes es.length ∧ e = .apply op es := by
  constructor
  · intro h
    match j with
    | .bool b => exact .inl ⟨.bool b, rfl, (Except.ok.inj h).symm⟩
    | .number (.int n) =>
      rw [ofJson] at h
      split at h
      · rename_i i hn
        obtain rfl := Scalar.ofInt?_eq_some_iff.mp hn
        exact .inl ⟨.int i, rfl, (Except.ok.inj h).symm⟩
      · nomatch h
    | .string s =>
      rw [ofJson] at h
      split at h
      · rename_i c hs
        obtain rfl := Scalar.ofString?_eq_some_iff.mp hs
        exact .inl ⟨.char c, rfl, (Except.ok.inj h).symm⟩
      · nomatch h
    | .array (.string name :: args) =>
      obtain ⟨rfl, rfl, rfl⟩ | ⟨op, es, rfl, rest⟩ := ofJson_array_eq_ok_iff.mp h
      · exact .inr (.inl ⟨rfl, rfl⟩)
      · exact .inr (.inr ⟨op, args, es, rfl, rest⟩)
    | .null | .number (.float _) | .object _ | .array [] | .array (.null :: _)
    | .array (.bool _ :: _) | .array (.number _ :: _) | .array (.array _ :: _)
    | .array (.object _ :: _) => nomatch h
  · rintro (⟨s, rfl, rfl⟩ | ⟨rfl, rfl⟩ | ⟨op, args, es, rfl, rest⟩)
    · exact ofJson_toJson s
    · rfl
    · exact ofJson_array_eq_ok_iff.mpr (.inr ⟨op, es, rfl, rest⟩)

theorem counted_apply_iff {op : Op} {args : List Expr} :
    (apply op args).Counted ↔ (∀ a ∈ args, a.Counted) ∧ op.Takes args.length := by
  constructor
  · rintro (_ | _ | ⟨each, count⟩)
    exact ⟨each, count⟩
  · rintro ⟨each, count⟩
    exact .apply each count

theorem mapM_ofJson_eq_ok_iff {es : List Expr}
    (each : ∀ e ∈ es, ∀ j, ofJson j = .ok e ↔ e.Counted ∧ j = e.written) (vs : List Value) :
    vs.mapM ofJson = .ok es ↔ (∀ e ∈ es, e.Counted) ∧ vs = es.map written := by
  rw [mapM_eq_ok_iff]
  induction es generalizing vs with
  | nil => simp
  | cons e es ih =>
    obtain ⟨head, tail⟩ := List.forall_mem_cons.mp each
    simp only [List.forall₂_cons_right_iff, head, ih tail, List.forall_mem_cons, List.map_cons]
    constructor
    · rintro ⟨v, rest, ⟨counted, rfl⟩, ⟨others, rfl⟩, rfl⟩
      exact ⟨⟨counted, others⟩, rfl⟩
    · rintro ⟨⟨counted, others⟩, rfl⟩
      exact ⟨_, _, ⟨counted, rfl⟩, ⟨others, rfl⟩, rfl⟩

/-- An expression is read from its written form, if its operators have the
arguments they take, and from nothing else. -/
theorem ofJson_eq_ok_iff {j : Value} {e : Expr} :
    ofJson j = .ok e ↔ e.Counted ∧ j = e.written := by
  induction e generalizing j with
  | literal s =>
    rw [ofJson_eq_ok_cases, and_iff_right (Counted.literal s)]
    simp [written, eq_comm]
  | value =>
    rw [ofJson_eq_ok_cases, and_iff_right Counted.value]
    simp [written]
  | apply op es ih =>
    have arguments := mapM_ofJson_eq_ok_iff fun e he j => ih e he
    rw [ofJson_eq_ok_cases, counted_apply_iff, written, writtenList_eq_map]
    constructor
    · rintro (⟨s, -, ⟨⟩⟩ | ⟨-, ⟨⟩⟩ | ⟨_, args, _, rfl, hargs, count, ⟨⟩⟩)
      obtain ⟨counted, rfl⟩ := (arguments args).mp hargs
      exact ⟨⟨counted, count⟩, rfl⟩
    · rintro ⟨⟨counted, count⟩, rfl⟩
      exact .inr (.inr ⟨op, _, es, rfl, (arguments _).mpr ⟨counted, rfl⟩, count, rfl⟩)

theorem grammatical_toJson (s : Scalar) : s.toJson.Grammatical := by
  cases s with
  | bool b => exact .bool b
  | int n => exact .int n.le_toInt n.toInt_lt
  | char c => exact .char (by rw [← String.length_toList, String.toList_singleton]; rfl)

/-- The grammar generates the written forms. -/
theorem grammatical_iff {j : Value} : j.Grammatical ↔ ∃ e : Expr, e.Counted ∧ j = e.written := by
  constructor
  · intro h
    induction h with
    | bool b => exact ⟨_, .literal (.bool b), rfl⟩
    | @int n lower upper =>
      refine ⟨_, .literal (.int (Int64.ofInt n)), ?_⟩
      rw [written, Scalar.toJson, Int64.toInt_ofInt_of_le lower upper]
      rfl
    | @char s single =>
      rw [← String.length_toList, List.length_eq_one_iff] at single
      obtain ⟨c, hc⟩ := single
      rw [← String.toList_singleton, String.toList_inj] at hc
      exact ⟨_, .literal (.char c), congrArg Value.string hc⟩
    | value => exact ⟨_, .value, rfl⟩
    | @apply op args _ count ih =>
      choose! e counted same using ih
      have forms : (args.map e).map written = args := by
        rw [List.map_map]
        calc args.map (written ∘ e)
          _ = args.map id := List.map_congr_left fun a ha => (same a ha).symm
          _ = args := List.map_id args
      refine ⟨.apply op (args.map e), .apply (List.forall_mem_map.mpr counted) ?_, ?_⟩
      · rwa [List.length_map]
      · rw [written, writtenList_eq_map, forms]
  · rintro ⟨e, counted, rfl⟩
    induction counted with
    | literal s => exact grammatical_toJson s
    | value => exact .value
    | apply _ count ih =>
      rw [written, writtenList_eq_map]
      exact .apply (List.forall_mem_map.mpr ih) (by rwa [List.length_map])

theorem Counted.eval_ofKinds {e : Expr} (h : e.Counted) {v : Scalar} {err : EvalError}
    (failed : e.eval v = .error err) : err.OfKinds := by
  induction h with
  | literal s => nomatch failed
  | value => nomatch failed
  | apply _ count ih =>
    obtain ⟨a, ha, inner⟩ | here := exists_of_eval_apply_eq_error count failed
    · exact ih a ha inner
    · exact here

/-- The reader accepts what the grammar generates, different values as different
expressions, and these are the ones whose operators all have the arguments they
take; so evaluation never misses one. -/
theorem ofJson_accepts_grammar :
    (∀ j : Value, (∃ e, ofJson j = .ok e) ↔ j.Grammatical) ∧
    (∀ j k : Value, ∀ e, ofJson j = .ok e → ofJson k = .ok e → j = k) ∧
    (∀ e : Expr, (∃ j, ofJson j = .ok e) ↔ e.Counted) ∧
    (∀ (j : Value) (e : Expr), ofJson j = .ok e → ∀ (v : Scalar) (op : Op) (takes got : Nat),
      e.eval v ≠ .error (.wrongCount op takes got)) := by
  refine ⟨?_, ?_, ?_, ?_⟩
  · intro j
    simp only [ofJson_eq_ok_iff, grammatical_iff]
  · intro j k e hj hk
    rw [(ofJson_eq_ok_iff.mp hj).2, (ofJson_eq_ok_iff.mp hk).2]
  · intro e
    simp only [ofJson_eq_ok_iff, exists_and_left, exists_eq, and_true]
  · intro j e h v op takes got failed
    exact (ofJson_eq_ok_iff.mp h).1.eval_ofKinds failed

def band : Expr :=
  .apply .and [.apply .gte [.value, .literal (.int 20)], .apply .lt [.value, .literal (.int 40)]]

def bandForm : Value :=
  .array [.string "and", .array [.string "gte", .array [.string "value"], .int 20],
    .array [.string "lt", .array [.string "value"], .int 40]]

theorem ofJson_accepts_grammar_band :
    ofJson bandForm = .ok band ∧ (∀ k, ofJson k = .ok band → bandForm = k) ∧
      ∀ (v : Scalar) (op : Op) (takes got : Nat), band.eval v ≠ .error (.wrongCount op takes got) :=
  have read : ofJson bandForm = .ok band := by rfl
  ⟨read, fun k => ofJson_accepts_grammar.2.1 bandForm k band read,
    ofJson_accepts_grammar.2.2.2 bandForm band read⟩

end Expr

/-- Values that stand for a scalar: a boolean, an integer of 64 bits with its sign,
or a string of one character. -/
inductive Json.Value.Denotes : Value → Scalar → Prop where
  | bool (b : Bool) : Denotes (.bool b) (.bool b)
  | int {n : Int} (lower : -2 ^ 63 ≤ n) (upper : n < 2 ^ 63) :
    Denotes (.number (.int n)) (.int (Int64.ofInt n))
  | char {s : String} {c : Char} (single : s.toList = [c]) : Denotes (.string s) (.char c)

namespace Json.Value

theorem denotes_iff {j : Value} {v : Scalar} : j.Denotes v ↔ j = v.toJson := by
  constructor
  · rintro (b | ⟨lower, upper⟩ | single)
    · rfl
    · rw [Scalar.toJson, Int64.toInt_ofInt_of_le lower upper]
      rfl
    · rename_i s c
      rw [← String.toList_singleton, String.toList_inj] at single
      exact congrArg Value.string single
  · rintro rfl
    cases v with
    | bool b => exact .bool b
    | int n =>
      have own := Denotes.int n.le_toInt n.toInt_lt
      rwa [Int64.ofInt_toInt] at own
    | char c => exact .char (String.toList_singleton c)

theorem sorted_eq_toJson_iff {j : Value} {v : Scalar} : j.sorted = v.toJson ↔ j = v.toJson := by
  cases v <;> cases j <;> simp [sorted, Scalar.toJson, Value.int]

end Json.Value

namespace Scalar

theorem ofJson?_eq_some_iff {j : Value} {v : Scalar} : ofJson? j = some v ↔ j.Denotes v := by
  rw [Value.denotes_iff]
  constructor
  · intro h
    match j with
    | .bool b =>
      obtain rfl := Option.some.inj h
      rfl
    | .number (.int n) =>
      obtain ⟨i, read, rfl⟩ := Option.map_eq_some_iff.mp h
      obtain rfl := ofInt?_eq_some_iff.mp read
      rfl
    | .string s =>
      obtain ⟨c, read, rfl⟩ := Option.map_eq_some_iff.mp h
      obtain rfl := ofString?_eq_some_iff.mp read
      rfl
    | .null | .number (.float _) | .array _ | .object _ => nomatch h
  · rintro rfl
    exact v.ofJson?_toJson

theorem decoderAs_eq_ok_iff {type : String} {ctx : Context} {d : Draft} {v : Scalar} :
    decoderAs type ctx d = .ok v ↔ ∃ j, d.value ctx = .ok j ∧ j.Denotes v := by
  show d.value ctx >>= _ = _ ↔ _
  rw [bind_eq_ok_iff]
  refine exists_congr fun j => and_congr_right fun _ => ?_
  rw [← ofJson?_eq_some_iff]
  cases ofJson? j <;> simp

end Scalar

namespace Expr

theorem ofJson_eq_ok_literal_iff {j : Value} {l : Scalar} :
    ofJson j = .ok (.literal l) ↔ j.Denotes l := by
  rw [ofJson_eq_ok_iff, and_iff_right (Counted.literal l), written, Value.denotes_iff]

theorem decoder_eq_ok_literal_iff {ctx : Context} {d : Draft} {l : Scalar} :
    decoder ctx d = .ok (.literal l) ↔ ∃ j, d.value ctx = .ok j ∧ j.Denotes l := by
  show d.value ctx >>= _ = _ ↔ _
  rw [bind_eq_ok_iff]
  refine exists_congr fun j => and_congr_right fun _ => ?_
  rw [Value.denotes_iff, ← Value.sorted_eq_toJson_iff, ← Value.denotes_iff,
    ← ofJson_eq_ok_literal_iff]
  cases read : ofJson j.sorted <;> simp [read, Except.mapError]

/-- Three readings of one thing, as a scalar, as a literal and as an expression,
agree: each gives the scalars that it stands for, and no others. -/
structure Agree {ε δ : Type} (asScalar asLiteral : Except ε Scalar) (asExpr : Except δ Expr)
    (Stands : Scalar → Prop) : Prop where
  scalar : ∀ v, asScalar = .ok v ↔ Stands v
  expr : ∀ v, (∃ l, asExpr = .ok (.literal l) ∧ ∀ w, (literal l).eval w = .ok v) ↔ Stands v
  literal : ∀ l, asLiteral = .ok l ↔ asExpr = .ok (.literal l)

namespace Agree

variable {ε δ : Type} {asScalar asLiteral : Except ε Scalar} {asExpr : Except δ Expr}
  {Stands : Scalar → Prop}

theorem of_iff (scalar : ∀ v, asScalar = .ok v ↔ Stands v)
    (literal : ∀ v, asLiteral = .ok v ↔ Stands v)
    (expr : ∀ v, asExpr = .ok (.literal v) ↔ Stands v) :
    Agree asScalar asLiteral asExpr Stands where
  scalar := scalar
  expr v := by
    rw [← expr]
    constructor
    · rintro ⟨l, read, value⟩
      rwa [Except.ok.inj (value v)] at read
    · exact fun read => ⟨v, read, fun _ => rfl⟩
  literal l := (literal l).trans (expr l).symm

theorem congr {Also : Scalar → Prop} (h : Agree asScalar asLiteral asExpr Stands)
    (same : ∀ v, Stands v ↔ Also v) : Agree asScalar asLiteral asExpr Also where
  scalar v := (h.scalar v).trans (same v)
  expr v := (h.expr v).trans (same v)
  literal := h.literal

end Agree

theorem agree_decode (ctx : Context) (d : Draft) :
    Agree (Scalar.decoder ctx d) (literalDecoder ctx d) (decoder ctx d)
      fun v => ∃ j, d.value ctx = .ok j ∧ j.Denotes v :=
  .of_iff (fun _ => Scalar.decoderAs_eq_ok_iff) (fun _ => Scalar.decoderAs_eq_ok_iff)
    fun _ => decoder_eq_ok_literal_iff

theorem agree_ofText (text : String) :
    Agree (Scalar.decoder.ofText text) (literalDecoder.ofText text) (decoder.ofText text)
      fun v => ∃ j, Decoder.value.ofText text = .ok j ∧ j.Denotes v := by
  have read (v : Scalar) : (∃ j, Decoder.value.ofText text = .ok j ∧ j.Denotes v) ↔
      (∃ j, (Draft.ofText text.toList).1.value {} = .ok j ∧ j.Denotes v) ∧
        (Draft.ofText text.toList).2 = false := by
    simp only [Decoder.ofText_eq_ok_iff, Decoder.value]
    rw [← exists_and_right]
    exact exists_congr fun _ => and_right_comm
  refine .of_iff (fun v => ?_) (fun v => ?_) (fun v => ?_)
  · rw [read, Decoder.ofText_eq_ok_iff]
    exact and_congr_left fun _ => Scalar.decoderAs_eq_ok_iff
  · rw [read, Decoder.ofText_eq_ok_iff]
    exact and_congr_left fun _ => Scalar.decoderAs_eq_ok_iff
  · rw [read, Decoder.ofText_eq_ok_iff]
    exact and_congr_left fun _ => decoder_eq_ok_literal_iff

theorem agree_ofJson (j : Value) :
    Agree (Scalar.decoder.ofJson j) (literalDecoder.ofJson j) (ofJson j) j.Denotes := by
  have scalars (type : String) (v : Scalar) :
      (Scalar.decoderAs type).ofJson j = .ok v ↔ j.Denotes v := by
    rw [Decoder.ofJson, Scalar.decoderAs_eq_ok_iff]
    constructor
    · rintro ⟨k, read, denotes⟩
      rwa [← Draft.eq_of_value_ofValue read]
    · intro denotes
      refine ⟨j, ?_, denotes⟩
      cases denotes <;> rfl
  exact .of_iff (scalars _) (scalars _) fun _ => ofJson_eq_ok_literal_iff

theorem agree_number (t : NumberText) :
    Agree (Scalar.decoder.ofText t.text) (literalDecoder.ofText t.text) (decoder.ofText t.text)
      fun v => t.Integral ∧ -2 ^ 63 ≤ t.integer ∧ t.integer < 2 ^ 63 ∧
        v = .int (Int64.ofInt t.integer) := by
  have stands (v : Scalar) : (∃ j, Decoder.value.ofText t.text = .ok j ∧ j.Denotes v) ↔
      t.Integral ∧ -2 ^ 63 ≤ t.integer ∧ t.integer < 2 ^ 63 ∧
        v = .int (Int64.ofInt t.integer) := by
    simp only [Decoder.ofText_eq_ok_iff, NumberText.text, String.toList_ofList,
      Draft.ofText_number, and_true]
    constructor
    · rintro ⟨j, read, denotes⟩
      cases number : t.numeral.number with
      | error f =>
        rw [number] at read
        nomatch read
      | ok m =>
        rw [number] at read
        obtain rfl := Except.ok.inj read
        obtain _ | ⟨lower, upper⟩ | _ := denotes
        obtain ⟨integral, -, -, rfl⟩ := NumberText.number_eq_int_iff.mp number
        exact ⟨integral, lower, upper, rfl⟩
    · rintro ⟨integral, lower, upper, rfl⟩
      have number : t.numeral.number = .ok (.int t.integer) :=
        NumberText.number_eq_int_iff.mpr ⟨integral, lower, by omega, rfl⟩
      refine ⟨.number (.int t.integer), ?_, .int lower upper⟩
      rw [number]
      rfl
  exact (agree_ofText t.text).congr stands

/-- A scalar is the same whether it is read as such, as a literal or as an
expression: from a draft, a text or a value at hand, these give what the value
denotes. A number denotes a scalar in one form only, whatever others have its value. -/
theorem scalars_read_alike :
    (∀ (ctx : Context) (d : Draft),
      Agree (Scalar.decoder ctx d) (literalDecoder ctx d) (decoder ctx d)
        fun v => ∃ j, d.value ctx = .ok j ∧ j.Denotes v) ∧
    (∀ text : String,
      Agree (Scalar.decoder.ofText text) (literalDecoder.ofText text) (decoder.ofText text)
        fun v => ∃ j, Decoder.value.ofText text = .ok j ∧ j.Denotes v) ∧
    (∀ j : Value,
      Agree (Scalar.decoder.ofJson j) (literalDecoder.ofJson j) (ofJson j) j.Denotes) ∧
    (∀ t : NumberText,
      Agree (Scalar.decoder.ofText t.text) (literalDecoder.ofText t.text) (decoder.ofText t.text)
        fun v => t.Integral ∧ -2 ^ 63 ≤ t.integer ∧ t.integer < 2 ^ 63 ∧
          v = .int (Int64.ofInt t.integer)) :=
  ⟨agree_decode, agree_ofText, agree_ofJson, agree_number⟩

end Expr

end PartitionTest
