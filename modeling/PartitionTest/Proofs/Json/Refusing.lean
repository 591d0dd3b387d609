import PartitionTest.Proofs.Except
import PartitionTest.Proofs.Json.Records

/-! Decoders that refuse what was written. A decoder made of others refuses a
value as soon as one of them refuses its part, whatever the rest is like. -/
namespace PartitionTest.Json

namespace Draft

mutual

/-- What is read completely, if it can be, is what was written. -/
theorem eq_of_value_ofValue {v w : Value} {ctx : Context} (h : (ofValue v).value ctx = .ok w) :
    w = v := by
  match v with
  | .null | .bool _ | .number _ | .string _ => exact (Except.ok.inj h).symm
  | .array items =>
    rw [ofValue, value] at h
    obtain ⟨inner, -, h⟩ := exists_of_bind_eq_ok h
    obtain ⟨vs, read, h⟩ := exists_of_bind_eq_ok h
    rw [← eq_of_valueItems_ofItems read]
    exact (Except.ok.inj h).symm
  | .object members =>
    rw [ofValue, value] at h
    obtain ⟨inner, -, h⟩ := exists_of_bind_eq_ok h
    obtain ⟨ms, read, h⟩ := exists_of_bind_eq_ok h
    rw [← eq_of_valueMembers_ofMembers read]
    exact (Except.ok.inj h).symm

theorem eq_of_valueItems_ofItems {vs ws : List Value} {ctx : Context}
    (h : valueItems ctx (ofItems vs) = .ok ws) : ws = vs := by
  match vs with
  | [] => exact (Except.ok.inj h).symm
  | v :: vs =>
    rw [ofItems, valueItems] at h
    obtain ⟨w, first, h⟩ := exists_of_bind_eq_ok h
    obtain ⟨ws, others, h⟩ := exists_of_bind_eq_ok h
    rw [← eq_of_value_ofValue first, ← eq_of_valueItems_ofItems others]
    exact (Except.ok.inj h).symm

theorem eq_of_valueMembers_ofMembers {ms ns : List (String × Value)} {ctx : Context}
    (h : valueMembers ctx (ofMembers ms) = .ok ns) : ns = ms := by
  match ms with
  | [] => exact (Except.ok.inj h).symm
  | (name, v) :: ms =>
    rw [ofMembers, valueMembers] at h
    obtain ⟨w, first, h⟩ := exists_of_bind_eq_ok (α := Value) h
    obtain ⟨ns, others, h⟩ := exists_of_bind_eq_ok h
    rw [← eq_of_value_ofValue first, ← eq_of_valueMembers_ofMembers others]
    exact (Except.ok.inj h).symm

end

end Draft

theorem Decoder.ofText_eq_ok_iff {decode : Decoder α} {text : String} {a : α} :
    decode.ofText text = .ok a ↔
      decode {} (Draft.ofText text.toList).1 = .ok a ∧ (Draft.ofText text.toList).2 = false := by
  rw [Decoder.ofText]
  obtain ⟨d, more⟩ := Draft.ofText text.toList
  show decode {} d >>= _ = _ ↔ _
  rw [bind_eq_ok_iff]
  cases more <;> simp [pure, Except.pure]

/-- What is written as `v` is never decoded, wherever it stands. -/
def Decoder.Refuses (decode : Decoder α) (v : Value) : Prop :=
  ∀ (ctx : Context) (a : α), decode ctx (.ofValue v) ≠ .ok a

def Record.Refuses (r : Record α) (name : String) (v : Value) : Prop :=
  ∀ (ctx : Context) (s s' : r.State), readMember ctx r.fields (name, v) s ≠ .ok s'

namespace Record.Refuses

variable {decode : Decoder α} {name : String} {v : Value}

theorem single {short : Option α} {finish : Option α → Except DecodeError α}
    (h : decode.Refuses v) : (Record.single name decode short finish).Refuses name v := by
  intro ctx s s' read
  simp only [readMember, Record.single, List.find?_cons, beq_self_eq_true] at read
  cases s with
  | some a => simp at read
  | none =>
    cases decoded : decode ctx (.ofValue v) with
    | error e => simp [decoded, Except.map] at read
    | ok a => exact h ctx a decoded

theorem required (name : String) (h : decode.Refuses v) :
    (Record.required name decode).Refuses name v :=
  single h

theorem defaulted (name : String) (default : α) (h : decode.Refuses v) :
    (Record.defaulted name decode default).Refuses name v :=
  single h

theorem map {r : Record α} (f : α → β) (h : r.Refuses name v) : (f <$> r).Refuses name v := h

theorem left {f : Record (α → β)} (h : f.Refuses name v) (r : Record α)
    (known : name ∈ f.names) : (f <*> r).Refuses name v := by
  intro ctx s s' read
  obtain ⟨s, t⟩ := s
  have joined := (readMember_left ctx known s t).symm.trans read
  cases first : readMember ctx f.fields (name, v) s with
  | error e => rw [first] at joined; nomatch joined
  | ok u => exact h ctx s u first

theorem right {r : Record α} (h : r.Refuses name v) (f : Record (α → β))
    (other : name ∉ f.names) : (f <*> r).Refuses name v := by
  intro ctx s s' read
  obtain ⟨s, t⟩ := s
  have joined := (readMember_right ctx other s t).symm.trans read
  cases second : readMember ctx r.fields (name, v) t with
  | error e => rw [second] at joined; nomatch joined
  | ok u => exact h ctx t u second

theorem readMembers_ne_ok {r : Record α} (h : r.Refuses name v) {ms : List (String × Value)}
    (hm : (name, v) ∈ ms) (ctx : Context) (s s' : r.State) :
    readMembers r.fields ctx (Draft.ofMembers ms) s ≠ .ok s' := by
  induction ms generalizing s with
  | nil => nomatch hm
  | cons m ms ih =>
    intro read
    rw [readMembers_cons] at read
    obtain ⟨t, first, others⟩ := exists_of_bind_eq_ok read
    obtain rfl | hm := List.mem_cons.mp hm
    · exact h ctx s t first
    · exact ih hm t others

theorem refuses {r : Record α} (h : r.Refuses name v) (type : String)
    {ms : List (String × Value)} (hm : (name, v) ∈ ms) :
    (r.decoder type).Refuses (.object ms) := by
  intro ctx a decoded
  rw [Draft.ofValue, decoder] at decoded
  obtain ⟨inner, -, decoded⟩ := exists_of_bind_eq_ok decoded
  obtain ⟨s, read, -⟩ := exists_of_bind_eq_ok decoded
  exact h.readMembers_ne_ok hm inner r.start s read

end Record.Refuses

namespace Decoder.Refuses

variable {decode : Decoder α} {v : Value}

/-- A type that is read from complete values refuses what it is not read from. -/
theorem ofValue {of : Value → Except String α} {reason : String}
    (h : of v.sorted = .error reason) : (Decoder.ofValue of).Refuses v := by
  intro ctx a decoded
  obtain ⟨w, read, decoded⟩ := exists_of_bind_eq_ok decoded
  rw [Draft.eq_of_value_ofValue read, h] at decoded
  nomatch decoded

theorem items_ne_ok {encode : β → Value} {bs : List β} {b : β} (hb : b ∈ bs)
    (h : decode.Refuses (encode b)) (ctx : Context) (as : List α) :
    Decoder.items decode ctx (Draft.ofItems (bs.map encode)) ≠ .ok as := by
  induction bs generalizing as with
  | nil => nomatch hb
  | cons c bs ih =>
    intro read
    obtain ⟨a, first, read⟩ := exists_of_bind_eq_ok read
    obtain ⟨as, others, -⟩ := exists_of_bind_eq_ok read
    obtain rfl | hb := List.mem_cons.mp hb
    · exact h ctx a first
    · exact ih hb as others

theorem list {encode : β → Value} {bs : List β} {b : β} (hb : b ∈ bs)
    (h : decode.Refuses (encode b)) : (Decoder.list decode).Refuses (.list encode bs) := by
  intro ctx as decoded
  obtain ⟨inner, -, decoded⟩ := exists_of_bind_eq_ok decoded
  obtain ⟨as, read, -⟩ := exists_of_bind_eq_ok decoded
  exact items_ne_ok hb h inner as read

theorem tagged {tag name : String} {variants : List (String × Decoder α)}
    {members : List (String × Value)} (type : String)
    (chosen : variants.lookup name = .some decode) (h : decode.Refuses (.object members))
    (other : ∀ m ∈ members, m.1 ≠ tag) :
    (Decoder.tagged type tag variants).Refuses (.object ((tag, .string name) :: members)) := by
  intro ctx a decoded
  obtain ⟨inner, -, decoded⟩ := exists_of_bind_eq_ok decoded
  obtain ⟨result, read, decoded⟩ := exists_of_bind_eq_ok decoded
  -- The members may be too deep to be set aside, but what is set aside is what was written.
  have named : (Draft.valueMembers inner (Draft.ofMembers members)).map (some decode, ·) =
      .ok result := by
    rw [← read]
    show _ = if tag = tag then (lookup variants name).bind _ else _
    rw [if_pos rfl, lookup, chosen]
    exact (Restores.taggedMembers_eq other (some decode) []).symm
  cases others : Draft.valueMembers inner (Draft.ofMembers members) with
  | error e => simp [others, Except.map] at named
  | ok ms =>
    obtain rfl := Draft.eq_of_valueMembers_ofMembers others
    rw [others] at named
    obtain rfl := Except.ok.inj named
    exact h _ a decoded

theorem ofText_chars (h : decode.Refuses v) {depth : Nat} (fits : v.Fits depth) {l : Layout}
    (hl : l.IsBlank) (a : α) : decode.ofText (String.ofList (l.chars 0 v)) ≠ .ok a := by
  intro decoded
  rw [Decoder.ofText_eq_ok_iff, String.toList_ofList, Draft.ofText_chars hl fits] at decoded
  exact h {} a decoded.1

end Decoder.Refuses

end PartitionTest.Json
