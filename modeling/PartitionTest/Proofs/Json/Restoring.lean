import PartitionTest.Json.Record
import PartitionTest.Proofs.Json.Reading

/-! Decoders that restore a value from what it was written as. What a decoder
is made of restores the parts, in a text as long as containers may still be
entered, and in a value at hand or a buffer always. -/
namespace PartitionTest.Json

def Context.Admits (ctx : Context) (depth : Nat) : Prop :=
  ctx.source = .text → depth ≤ ctx.room

namespace Context.Admits

variable {ctx : Context} {depth : Nat}

theorem enter (h : ctx.Admits (depth + 1)) :
    ∃ inner, ctx.enter = .ok inner ∧ inner.Admits depth := by
  obtain ⟨room, source⟩ := ctx
  cases source with
  | text =>
    obtain ⟨left, rfl⟩ := Nat.exists_eq_add_of_le' (h rfl)
    exact ⟨⟨left + depth, .text⟩, rfl, fun _ => Nat.le_add_left depth left⟩
  | tree => exact ⟨⟨room, .tree⟩, rfl, nofun⟩
  | buffer => exact ⟨⟨room, .buffer⟩, rfl, nofun⟩

theorem buffer : ({ ctx with source := .buffer } : Context).Admits depth := nofun

end Context.Admits

namespace Draft

theorem valueItems_ofItems {ctx : Context} {vs : List Value}
    (h : ∀ v ∈ vs, (ofValue v).value ctx = .ok v) : valueItems ctx (ofItems vs) = .ok vs := by
  induction vs with
  | nil => rfl
  | cons v vs ih =>
    obtain ⟨hv, hvs⟩ := List.forall_mem_cons.mp h
    rw [ofItems, valueItems, hv, ih hvs]
    rfl

theorem valueMembers_ofMembers {ctx : Context} {ms : List (String × Value)}
    (h : ∀ m ∈ ms, (ofValue m.2).value ctx = .ok m.2) :
    valueMembers ctx (ofMembers ms) = .ok ms := by
  induction ms with
  | nil => rfl
  | cons m ms ih =>
    obtain ⟨hv, hms⟩ := List.forall_mem_cons.mp h
    rw [ofMembers, valueMembers, hv, ih hms]
    rfl

end Draft

/-- A value read completely is the one that was written. -/
theorem Value.Fits.value_ofValue {depth : Nat} {v : Value} (h : v.Fits depth) {ctx : Context}
    (hc : ctx.Admits depth) : (Draft.ofValue v).value ctx = .ok v := by
  induction h generalizing ctx with
  | null | bool | int | string => rfl
  | array _ ih =>
    obtain ⟨inner, entered, hi⟩ := hc.enter
    rw [Draft.ofValue, Draft.value, entered]
    show (Draft.valueItems inner _).bind _ = _
    rw [Draft.valueItems_ofItems fun v hv => ih v hv hi]
    rfl
  | object _ ih =>
    obtain ⟨inner, entered, hi⟩ := hc.enter
    rw [Draft.ofValue, Draft.value, entered]
    show (Draft.valueMembers inner _).bind _ = _
    rw [Draft.valueMembers_ofMembers fun m hm => ih m hm hi]
    rfl

/-- What is written as `v` is read as `a`, wherever `v` may stand. -/
structure Decoder.Restores (decode : Decoder α) (depth : Nat) (v : Value) (a : α) : Prop where
  fits : v.Fits depth
  reads : ∀ ctx : Context, ctx.Admits depth → decode ctx (.ofValue v) = .ok a

namespace Decoder.Restores

variable {depth : Nat} {decode : Decoder α} {v : Value} {a : α}

theorem bool (b : Bool) : Decoder.bool.Restores depth (.bool b) b :=
  ⟨.bool b, fun _ _ => rfl⟩

theorem string (s : String) : Decoder.string.Restores depth (.string s) s :=
  ⟨.string s, fun _ _ => rfl⟩

theorem path (s : String) : Decoder.path.Restores depth (.string s) s :=
  ⟨.string s, fun _ _ => rfl⟩

theorem char (c : Char) : Decoder.char.Restores depth (.string (String.singleton c)) c where
  fits := .string _
  reads ctx _ := by
    simp only [Draft.ofValue, Decoder.char, stringOf, bind, Except.bind, String.toList_singleton]

theorem int {low high n : Int} (h : low ≤ n ∧ n ≤ high) (type : String)
    (bounds : Int64.minValue.toInt ≤ low ∧ high < UInt64.size) :
    (Decoder.int low high type).Restores depth (.int n) n where
  fits := .int (Int.le_trans bounds.1 h.1) (Int.lt_of_le_of_lt h.2 bounds.2)
  reads _ _ := if_pos h

theorem map (h : decode.Restores depth v a) (f : α → β) :
    Decoder.Restores (fun ctx d => (decode ctx d).map f) depth v (f a) where
  fits := h.fits
  reads ctx hc := by
    rw [h.reads ctx hc]
    rfl

theorem int64 (n : Int64) : Decoder.int64.Restores depth (.int n.toInt) n := by
  have whole : (Decoder.int _ _ "i64").Restores depth (.int n.toInt) n.toInt :=
    int ⟨n.minValue_le_toInt, n.toInt_le⟩ "i64" (by decide)
  have restored := whole.map Int64.ofInt
  rwa [Int64.ofInt_toInt] at restored

theorem int32 (n : Int32) : Decoder.int32.Restores depth (.int n.toInt) n := by
  have whole : (Decoder.int _ _ "i32").Restores depth (.int n.toInt) n.toInt :=
    int ⟨n.minValue_le_toInt, n.toInt_le⟩ "i32" (by decide)
  have restored := whole.map Int32.ofInt
  rwa [Int32.ofInt_toInt] at restored

theorem nat {n : Nat} (h : n < UInt64.size) (type : String) :
    (Decoder.nat type).Restores depth (.nat n) n := by
  have within : (0 : Int) ≤ n ∧ (n : Int) ≤ (UInt64.size - 1 : Nat) := by omega
  exact map (int within type (by decide)) Int.toNat

theorem untagged {of? : Value → Option α} (type : String) (fits : v.Fits depth)
    (h : of? v = some a) : (Decoder.untagged type of?).Restores depth v a where
  fits := fits
  reads ctx hc := by
    rw [Decoder.untagged, fits.value_ofValue hc]
    simp only [bind, Except.bind, h]

theorem choice {names : List (String × α)} {name : String} (h : names.lookup name = some a) :
    (Decoder.choice names).Restores depth (.string name) a where
  fits := .string name
  reads ctx _ := by
    show lookup names name = .ok a
    rw [lookup, h]

theorem none : (Decoder.option decode).Restores depth .null none :=
  ⟨.null, fun _ _ => rfl⟩

theorem some (h : decode.Restores depth v a) (present : v ≠ .null) :
    (Decoder.option decode).Restores depth v (some a) where
  fits := h.fits
  reads ctx hc := by
    have skips : Decoder.option decode ctx (.ofValue v) = (decode ctx (.ofValue v)).map .some := by
      cases v with
      | null => contradiction
      | _ => rfl
    rw [skips, h.reads ctx hc]
    rfl

theorem option {encode : α → Value} {o : Option α}
    (h : ∀ a ∈ o, decode.Restores depth (encode a) a) (present : ∀ a, encode a ≠ .null) :
    (Decoder.option decode).Restores depth (.option encode o) o := by
  cases o with
  | none => exact none
  | some a => exact (h a rfl).some (present a)

theorem optionNat {o : Option Nat} (h : ∀ n ∈ o, n < UInt64.size) (type : String) :
    (Decoder.option (Decoder.nat type)).Restores depth (.option .nat o) o :=
  option (fun n hn => nat (h n hn) type) nofun

theorem items_ofItems {encode : α → Value} {as : List α} {ctx : Context}
    (h : ∀ a ∈ as, decode ctx (.ofValue (encode a)) = .ok a) :
    items decode ctx (Draft.ofItems (as.map encode)) = .ok as := by
  induction as with
  | nil => rfl
  | cons a as ih =>
    obtain ⟨ha, has⟩ := List.forall_mem_cons.mp h
    rw [List.map_cons, Draft.ofItems, items, ha, ih has]
    rfl

theorem list {encode : α → Value} {as : List α}
    (h : ∀ a ∈ as, decode.Restores depth (encode a) a) :
    (Decoder.list decode).Restores (depth + 1) (.list encode as) as where
  fits := .array fun v hv => by
    obtain ⟨a, ha, rfl⟩ := List.mem_map.mp hv
    exact (h a ha).fits
  reads ctx hc := by
    obtain ⟨inner, entered, hi⟩ := hc.enter
    rw [Value.list, Draft.ofValue, Decoder.list, entered]
    show (items decode inner _).bind _ = _
    rw [items_ofItems fun a ha => (h a ha).reads inner hi]
    rfl

theorem taggedMembers_eq {variants : List (String × β)} {tag : String} {ctx : Context}
    {ms : List (String × Value)} (other : ∀ m ∈ ms, m.1 ≠ tag) (chosen : Option β)
    (rest : List (String × Value)) :
    taggedMembers tag variants ctx (Draft.ofMembers ms) chosen rest =
      (Draft.valueMembers ctx (Draft.ofMembers ms)).map fun read =>
        (chosen, rest.reverse ++ read) := by
  induction ms generalizing rest with
  | nil =>
    show Except.ok (chosen, rest.reverse) = .ok (chosen, rest.reverse ++ [])
    rw [List.append_nil]
  | cons m ms ih =>
    obtain ⟨hm, hms⟩ := List.forall_mem_cons.mp other
    show (if m.1 = tag then _ else ((Draft.ofValue m.2).value ctx).bind _) =
      Except.map _ (((Draft.ofValue m.2).value ctx).bind _)
    rw [if_neg hm]
    cases (Draft.ofValue m.2).value ctx with
    | error e => rfl
    | ok v =>
      show taggedMembers tag variants ctx (Draft.ofMembers ms) chosen ((m.1, v) :: rest) =
        Except.map _ ((Draft.valueMembers ctx (Draft.ofMembers ms)).bind _)
      rw [ih hms]
      cases Draft.valueMembers ctx (Draft.ofMembers ms) with
      | error e => rfl
      | ok read =>
        show Except.ok (chosen, ((m.1, v) :: rest).reverse ++ read) = _
        rw [List.reverse_cons, List.append_assoc, List.singleton_append]
        rfl

theorem tagged {tag name : String} {variants : List (String × Decoder α)} {decode : Decoder α}
    {members : List (String × Value)} (type : String)
    (chosen : variants.lookup name = .some decode)
    (h : decode.Restores (depth + 1) (.object members) a) (other : ∀ m ∈ members, m.1 ≠ tag) :
    (Decoder.tagged type tag variants).Restores (depth + 1)
      (.object ((tag, .string name) :: members)) a := by
  cases h.fits with
  | object each =>
  refine ⟨.object (List.forall_mem_cons.mpr ⟨.string name, each⟩), fun ctx hc => ?_⟩
  obtain ⟨inner, entered, hi⟩ := hc.enter
  have named : taggedMembers tag variants inner
      (Draft.ofMembers ((tag, .string name) :: members)) .none [] =
        .ok (.some decode, members) := by
    show (if tag = tag then (lookup variants name).bind _ else _) = _
    rw [if_pos rfl, lookup, chosen]
    show taggedMembers tag variants inner (Draft.ofMembers members) (.some decode) [] = _
    rw [taggedMembers_eq other,
      Draft.valueMembers_ofMembers fun m hm => (each m hm).value_ofValue hi]
    rfl
  rw [Draft.ofValue, Decoder.tagged, entered]
  show (taggedMembers tag variants inner _ _ _).bind _ = _
  rw [named]
  exact h.reads _ .buffer

theorem noFields (a : α) : (Decoder.noFields a).Restores (depth + 1) (.object []) a :=
  ⟨.object nofun, fun _ _ => rfl⟩

theorem ofText_chars (h : decode.Restores maxDepth v a) {l : Layout} (hl : l.IsBlank) :
    decode.ofText (String.ofList (l.chars 0 v)) = .ok a := by
  rw [Decoder.ofText, String.toList_ofList, Draft.ofText_chars hl h.fits]
  show (decode {} (.ofValue v)).bind _ = _
  rw [h.reads {} fun _ => Nat.le_refl _]
  rfl

end Decoder.Restores

/-- Both texts of a value are decoded to what the value was written for. -/
structure Decoder.ReadsBack (decode : Decoder α) (v : Value) (a : α) : Prop where
  compact : decode.ofText v.compact = .ok a
  pretty : decode.ofText v.pretty = .ok a

theorem Decoder.Restores.readsBack {decode : Decoder α} {v : Value} {a : α}
    (h : decode.Restores maxDepth v a) : decode.ReadsBack v a :=
  ⟨h.ofText_chars Layout.isBlank_compact, h.ofText_chars Layout.isBlank_pretty⟩

end PartitionTest.Json
