import PartitionTest.Proofs.Json.Restoring

/-! Records restore what they are put together from, when their members are
written in the order of the fields. Fields that are joined keep apart as long
as their names differ. -/
namespace PartitionTest.Json

namespace Record

def names (r : Record α) : List String := r.fields.map (·.name)

theorem names_apply (f : Record (α → β)) (r : Record α) :
    (f.apply r).names = f.names ++ r.names := by
  simp only [names, apply, List.map_append, List.map_map]
  rfl

section Join

variable {σ τ : Type} (ctx : Context)

/-- What reading one member makes of the state. -/
def readMember (fields : List (Field σ)) (m : String × Value) (s : σ) : Except DecodeError σ :=
  match fields.find? (·.name == m.1) with
  | none => (unstopped (Draft.ofValue m.2).skip).map fun _ => s
  | some f =>
    if f.isSet s then .error (.duplicateField m.1) else f.read ctx (.ofValue m.2) s

theorem readMembers_cons (fields : List (Field σ)) (m : String × Value)
    (ms : List (String × Value)) (s : σ) :
    readMembers fields ctx (Draft.ofMembers (m :: ms)) s =
      (readMember ctx fields m s).bind (readMembers fields ctx (Draft.ofMembers ms)) := by
  rw [readMember]
  show (match fields.find? (·.name == m.1) with | none => _ | some f => _) = _
  cases fields.find? (·.name == m.1) with
  | none =>
    dsimp only
    cases unstopped (Draft.ofValue m.2).skip <;> rfl
  | some f =>
    dsimp only
    cases f.isSet s <;> rfl

theorem readMembers_append (fields : List (Field σ)) (ms ms' : List (String × Value)) (s : σ) :
    readMembers fields ctx (Draft.ofMembers (ms ++ ms')) s =
      (readMembers fields ctx (Draft.ofMembers ms) s).bind
        (readMembers fields ctx (Draft.ofMembers ms')) := by
  induction ms generalizing s with
  | nil => rfl
  | cons m ms ih =>
    rw [List.cons_append, readMembers_cons, readMembers_cons]
    cases readMember ctx fields m s with
    | error e => rfl
    | ok s => exact ih s

variable {left : List (Field σ)} {right : List (Field τ)}

theorem find?_join (name : String) :
    (left.map Field.left ++ right.map Field.right).find? (·.name == name) =
      ((left.find? (·.name == name)).map (Field.left (τ := τ))).or
        ((right.find? (·.name == name)).map Field.right) := by
  rw [List.find?_append, List.find?_map, List.find?_map]
  rfl

theorem readMember_left {m : String × Value} (known : m.1 ∈ left.map (·.name)) (s : σ) (t : τ) :
    readMember ctx (left.map Field.left ++ right.map Field.right) m (s, t) =
      (readMember ctx left m s).map fun s => (s, t) := by
  obtain ⟨f, hf, named⟩ := List.mem_map.mp known
  rw [readMember, readMember, find?_join]
  cases found : left.find? (·.name == m.1) with
  | none => exact absurd (beq_iff_eq.mpr named) (List.find?_eq_none.mp found f hf)
  | some f =>
    show (if f.isSet s then _ else (f.read ctx (.ofValue m.2) s).map _) =
      Except.map _ (if f.isSet s then _ else _)
    cases f.isSet s <;> rfl

theorem readMember_right {m : String × Value} (other : m.1 ∉ left.map (·.name)) (s : σ) (t : τ) :
    readMember ctx (left.map Field.left ++ right.map Field.right) m (s, t) =
      (readMember ctx right m t).map fun t => (s, t) := by
  have unknown : left.find? (·.name == m.1) = none :=
    List.find?_eq_none.mpr fun f hf named => other (List.mem_map.mpr ⟨f, hf, eq_of_beq named⟩)
  rw [readMember, readMember, find?_join, unknown]
  cases right.find? (·.name == m.1) with
  | none =>
    show (unstopped (Draft.ofValue m.2).skip).map _ =
      Except.map _ ((unstopped (Draft.ofValue m.2).skip).map _)
    cases unstopped (Draft.ofValue m.2).skip <;> rfl
  | some f =>
    show (if f.isSet t then _ else (f.read ctx (.ofValue m.2) t).map _) =
      Except.map _ (if f.isSet t then _ else _)
    cases f.isSet t <;> rfl

theorem readMembers_left {ms : List (String × Value)}
    (known : ∀ m ∈ ms, m.1 ∈ left.map (·.name)) (s : σ) (t : τ) :
    readMembers (left.map Field.left ++ right.map Field.right) ctx (Draft.ofMembers ms) (s, t) =
      (readMembers left ctx (Draft.ofMembers ms) s).map fun s => (s, t) := by
  induction ms generalizing s with
  | nil => rfl
  | cons m ms ih =>
    obtain ⟨hm, hms⟩ := List.forall_mem_cons.mp known
    rw [readMembers_cons, readMembers_cons, readMember_left ctx hm]
    cases readMember ctx left m s with
    | error e => rfl
    | ok s => exact ih hms s

theorem readMembers_right {ms : List (String × Value)}
    (other : ∀ m ∈ ms, m.1 ∉ left.map (·.name)) (s : σ) (t : τ) :
    readMembers (left.map Field.left ++ right.map Field.right) ctx (Draft.ofMembers ms) (s, t) =
      (readMembers right ctx (Draft.ofMembers ms) t).map fun t => (s, t) := by
  induction ms generalizing t with
  | nil => rfl
  | cons m ms ih =>
    obtain ⟨hm, hms⟩ := List.forall_mem_cons.mp other
    rw [readMembers_cons, readMembers_cons, readMember_right ctx hm]
    cases readMember ctx right m t with
    | error e => rfl
    | ok t => exact ih hms t

end Join

/-- From these members, in this order, a record is put together as `a`, if its
fields have different names. -/
structure Reads (r : Record α) (depth : Nat) (members : List (String × Value)) (a : α) : Prop where
  named : ∀ m ∈ members, m.1 ∈ r.names
  fits : ∀ m ∈ members, m.2.Fits depth
  reads : r.names.Nodup → ∀ ctx : Context, ctx.Admits depth →
    ∃ s, readMembers r.fields ctx (Draft.ofMembers members) r.start = .ok s ∧ r.finish s = .ok a

namespace Reads

variable {depth : Nat} {decode : Decoder α} {v : Value} {a : α}

theorem single {name : String} {short : Option α} {finish : Option α → Except DecodeError α}
    (h : decode.Restores depth v a) (finishes : finish (some a) = .ok a) :
    (Record.single name decode short finish).Reads depth [(name, v)] a where
  named := by simp [names, Record.single]
  fits := List.forall_mem_singleton.mpr h.fits
  reads _ ctx hc := by
    have read : readMember ctx (Record.single name decode short finish).fields (name, v) none =
        .ok (some a) := by
      simp only [readMember, Record.single, List.find?_cons, beq_self_eq_true, Option.isSome_none,
        Bool.false_eq_true, if_false, h.reads ctx hc]
      rfl
    refine ⟨some a, ?_, finishes⟩
    rw [readMembers_cons]
    exact congrArg (Except.bind · _) read

theorem required (name : String) (h : decode.Restores depth v a) :
    (Record.required name decode).Reads depth [(name, v)] a :=
  single h rfl

theorem defaulted (name : String) (default : α) (h : decode.Restores depth v a) :
    (Record.defaulted name decode default).Reads depth [(name, v)] a :=
  single h rfl

theorem optional (name : String) {o : Option α} (h : (Decoder.option decode).Restores depth v o) :
    (Record.optional name decode).Reads depth [(name, v)] o :=
  single h rfl

theorem absent (name : String) : (Record.optional name decode).Reads depth [] none :=
  ⟨nofun, nofun, fun _ _ _ => ⟨none, rfl, rfl⟩⟩

theorem optionalMember (name : String) {encode : α → Value} {o : Option α}
    (h : ∀ a ∈ o, decode.Restores depth (encode a) a) (present : ∀ a, encode a ≠ .null) :
    (Record.optional name decode).Reads depth (Value.optionalMember name encode o) o := by
  cases o with
  | none => exact absent name
  | some a => exact optional name ((h a rfl).some (present a))

theorem map {r : Record α} {ms : List (String × Value)} (f : α → β) (h : r.Reads depth ms a) :
    (f <$> r).Reads depth ms (f a) where
  named := h.named
  fits := h.fits
  reads distinct ctx hc := by
    obtain ⟨s, read, finished⟩ := h.reads distinct ctx hc
    refine ⟨s, read, ?_⟩
    show (r.finish s).map f = _
    rw [finished]
    rfl

theorem seq {f : Record (α → β)} {r : Record α} {ms ms' : List (String × Value)} {g : α → β}
    (hf : f.Reads depth ms g) (hr : r.Reads depth ms' a) :
    (f <*> r).Reads depth (ms ++ ms') (g a) where
  named m hm := by
    have joined := (List.mem_append.mp hm).imp (hf.named m) (hr.named m)
    rwa [← List.mem_append, ← names_apply] at joined
  fits := List.forall_mem_append.mpr ⟨hf.fits, hr.fits⟩
  reads distinct ctx hc := by
    have joined : (f.names ++ r.names).Nodup := names_apply f r ▸ distinct
    obtain ⟨distinctF, distinctR, apart⟩ := List.nodup_append.mp joined
    obtain ⟨s, readF, finishedF⟩ := hf.reads distinctF ctx hc
    obtain ⟨t, readR, finishedR⟩ := hr.reads distinctR ctx hc
    -- The first part of the state is settled before the members of the second come.
    have other : ∀ m ∈ ms', m.1 ∉ f.names := fun m hm known =>
      apart m.1 known m.1 (hr.named m hm) rfl
    refine ⟨(s, t), ?_, ?_⟩
    · show readMembers (f.fields.map Field.left ++ r.fields.map Field.right) ctx _
        (f.start, r.start) = _
      rw [readMembers_append, readMembers_left ctx hf.named, readF]
      show readMembers _ ctx _ (s, r.start) = _
      rw [readMembers_right ctx other, readR]
      rfl
    · show (do let g ← f.finish s; let a ← r.finish t; return g a) = _
      rw [finishedF, finishedR]
      rfl

theorem restores {r : Record α} {ms : List (String × Value)} (h : r.Reads depth ms a)
    (name : String) (distinct : r.names.Nodup) :
    (r.decoder name).Restores (depth + 1) (.object ms) a where
  fits := .object h.fits
  reads ctx hc := by
    obtain ⟨inner, entered, hi⟩ := hc.enter
    obtain ⟨s, read, finished⟩ := h.reads distinct inner hi
    rw [Draft.ofValue, decoder, entered]
    show (readMembers r.fields inner _ r.start).bind _ = _
    rw [read]
    exact finished

end Reads

end Record

end PartitionTest.Json
