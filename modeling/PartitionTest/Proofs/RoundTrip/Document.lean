import PartitionTest.Proofs.Json.Refusing
import PartitionTest.Proofs.RoundTrip.Case

/-! Which partition documents survive being written and read. An expression is
written by the names of its constructors and read as an operator before its
arguments, so a document is refused as soon as one class is given by an
expression; all others are restored. -/
namespace PartitionTest

open Json

variable {depth : Nat}

theorem Domain.restores (d : Domain) : decoder.Restores (depth + 2) d.toJson d := by
  cases d with
  | int min max =>
    exact .tagged _ rfl (Record.Reads.required "min" (.int64 min)
      |>.map Domain.int
      |>.seq (.required "max" (.int64 max))
      |>.restores _ (by decide)) (by simp)
  | char values =>
    exact .tagged _ rfl (Record.Reads.required "values" (.list fun c _ => .char c)
      |>.map Domain.char
      |>.restores _ (by decide)) (by simp)
  | bool => exact .tagged _ rfl (.noFields _) nofun

namespace Predicate

def IsExpr (p : Predicate) : Prop := ∃ e, p = .expr e

theorem restores {p : Predicate} (h : ¬ p.IsExpr) : decoder.Restores (depth + 2) p.toJson p := by
  cases p with
  | range min max =>
    exact .tagged _ rfl (Record.Reads.required "min" (.int64 min)
      |>.map Predicate.range
      |>.seq (.required "max" (.int64 max))
      |>.restores _ (by decide)) (by simp)
  | oneOf values =>
    exact .tagged _ rfl (Record.Reads.required "values" (.list fun s _ => s.restores _)
      |>.map Predicate.oneOf
      |>.restores _ (by decide)) (by simp)
  | expr e => exact absurd ⟨e, rfl⟩ h

end Predicate

theorem ClassDef.restores {c : ClassDef} (h : ¬ c.predicate.IsExpr) :
    decoder.Restores (depth + 3) c.toJson c :=
  Record.Reads.defaulted "name" none (.option (fun name _ => .string name) nofun)
    |>.map ClassDef.mk
    |>.seq (.required "tag" c.tag.restores)
    |>.seq (.required "predicate" (Predicate.restores h))
    |>.seq (.defaulted "boundaries" [] (.list fun s _ => s.restores _))
    |>.seq (.defaulted "auto_boundaries" false (.bool c.autoBoundaries))
    |>.restores _ (by decide)

theorem VariableDef.restores {v : VariableDef} (h : ∀ c ∈ v.classes, ¬ c.predicate.IsExpr) :
    decoder.Restores (depth + 5) v.toJson v :=
  Record.Reads.required "name" (.string v.name)
    |>.map VariableDef.mk
    |>.seq (.required "domain" v.domain.restores)
    |>.seq (.defaulted "base" none (.option (fun s _ => s.restores _) Scalar.toJson_ne_null))
    |>.seq (.defaulted "classes" [] (.list fun c hc => ClassDef.restores (h c hc)))
    |>.restores _ (by decide)

/-- Some class is given by an expression. -/
def Document.HasExpr (d : Document) : Prop :=
  ∃ v ∈ d.vars, ∃ c ∈ v.classes, c.predicate.IsExpr

theorem Document.restores {d : Document} (h : ¬ d.HasExpr) :
    decoder.Restores (depth + 7) d.toJson d :=
  Record.Reads.required "variables" (.list fun v hv =>
      VariableDef.restores fun c hc isExpr => h ⟨v, hv, c, hc, isExpr⟩)
    |>.map Document.mk
    |>.restores _ (by decide)

theorem Expr.refuses (e : Expr) : decoder.Refuses e.toJson := by
  cases e with
  | literal s => exact .ofValue rfl
  | value => exact .ofValue rfl
  | apply op args => exact .ofValue rfl

theorem Predicate.refuses {p : Predicate} (h : p.IsExpr) : decoder.Refuses p.toJson := by
  obtain ⟨e, rfl⟩ := h
  exact .tagged _ rfl (Record.Refuses.required "expr" e.refuses
    |>.map Predicate.expr
    |>.refuses _ List.mem_cons_self) (by simp)

theorem ClassDef.refuses {c : ClassDef} (h : c.predicate.IsExpr) : decoder.Refuses c.toJson :=
  Record.Refuses.required "predicate" (Predicate.refuses h)
    |>.right _ (by decide)
    |>.left _ (by decide)
    |>.left _ (by decide)
    |>.refuses _ (by simp)

theorem VariableDef.refuses {v : VariableDef} (h : ∃ c ∈ v.classes, c.predicate.IsExpr) :
    decoder.Refuses v.toJson := by
  obtain ⟨c, hc, isExpr⟩ := h
  exact Record.Refuses.defaulted "classes" [] (.list hc (c.refuses isExpr))
    |>.right _ (by decide)
    |>.refuses _ (by simp)

theorem Document.refuses {d : Document} (h : d.HasExpr) : decoder.Refuses d.toJson := by
  obtain ⟨v, hv, isExpr⟩ := h
  exact Record.Refuses.required "variables" (.list hv (v.refuses isExpr))
    |>.map Document.mk
    |>.refuses _ (by simp)

-- A document may be too deep to be read, but its text is still lexed as what it is.

mutual

theorem Expr.exists_fits (e : Expr) : ∃ depth, e.toJson.Fits depth := by
  match e with
  | .literal s => exact Value.Fits.exists_object (List.forall_mem_singleton.mpr ⟨0, s.fits_toJson⟩)
  | .value => exact ⟨0, .string _⟩
  | .apply op args =>
    have args := Value.Fits.exists_array (Expr.exists_fits_of_mem args)
    exact Value.Fits.exists_object (List.forall_mem_singleton.mpr
      (Value.Fits.exists_object (List.forall_mem_cons.mpr
        ⟨⟨0, .string op.name⟩, List.forall_mem_singleton.mpr args⟩)))

theorem Expr.exists_fits_of_mem (es : List Expr) :
    ∀ v ∈ Expr.toJsonList es, ∃ depth, v.Fits depth := by
  match es with
  | [] => exact nofun
  | e :: es =>
    exact List.forall_mem_cons.mpr ⟨Expr.exists_fits e, Expr.exists_fits_of_mem es⟩

end

theorem Predicate.exists_fits (p : Predicate) : ∃ depth, p.toJson.Fits depth := by
  by_cases h : p.IsExpr
  · obtain ⟨e, rfl⟩ := h
    exact Value.Fits.exists_object (List.forall_mem_cons.mpr
      ⟨⟨0, .string "expr"⟩, List.forall_mem_singleton.mpr e.exists_fits⟩)
  · exact ⟨2, (restores h).fits⟩

theorem ClassDef.exists_fits (c : ClassDef) : ∃ depth, c.toJson.Fits depth := by
  have name : (Value.option .string c.name).Fits 0 :=
    (Decoder.Restores.option (fun name _ => .string name) nofun).fits
  have boundaries : (Value.list Scalar.toJson c.boundaries).Fits 1 :=
    .array (List.forall_mem_map.mpr fun s _ => s.fits_toJson)
  refine Value.Fits.exists_object ?_
  simp only [List.forall_mem_cons]
  exact ⟨⟨0, name⟩, ⟨0, c.tag.restores.fits⟩, c.predicate.exists_fits, ⟨1, boundaries⟩,
    ⟨0, .bool c.autoBoundaries⟩, nofun⟩

theorem VariableDef.exists_fits (v : VariableDef) : ∃ depth, v.toJson.Fits depth := by
  have base : (Value.option Scalar.toJson v.base).Fits 0 :=
    (Decoder.Restores.option (fun s _ => s.restores "") Scalar.toJson_ne_null).fits
  have classes : ∃ depth, (Value.list ClassDef.toJson v.classes).Fits depth :=
    Value.Fits.exists_array (List.forall_mem_map.mpr fun c _ => c.exists_fits)
  refine Value.Fits.exists_object ?_
  simp only [List.forall_mem_cons]
  exact ⟨⟨0, .string v.name⟩, ⟨2, v.domain.restores.fits⟩, ⟨0, base⟩, classes, nofun⟩

theorem Document.exists_fits (d : Document) : ∃ depth, d.toJson.Fits depth :=
  Value.Fits.exists_object (List.forall_mem_singleton.mpr
    (Value.Fits.exists_array (List.forall_mem_map.mpr fun v _ => v.exists_fits)))

/-- A document's texts are read as that document or not at all, and not at all
just when some class is given by an expression. -/
theorem Document.parse_toJson_eq_ok_iff (d d' : Document) :
    (parse d.toJson.compact = .ok d' ↔ d' = d ∧ ¬ d.HasExpr) ∧
      (parse d.toJson.pretty = .ok d' ↔ d' = d ∧ ¬ d.HasExpr) := by
  by_cases h : d.HasExpr
  · obtain ⟨depth, fits⟩ := d.exists_fits
    have refused {l : Layout} (hl : l.IsBlank) :
        parse (String.ofList (l.chars 0 d.toJson)) = .ok d' ↔ d' = d ∧ ¬ d.HasExpr :=
      iff_of_false ((refuses h).ofText_chars fits hl d') fun plain => plain.2 h
    exact ⟨refused Layout.isBlank_compact, refused Layout.isBlank_pretty⟩
  · have restored := (restores h).readsBack
    have read {text : String} (parsed : parse text = .ok d) :
        parse text = .ok d' ↔ d' = d ∧ ¬ d.HasExpr := by
      rw [parsed, Except.ok.injEq, and_iff_left h, eq_comm]
    exact ⟨read restored.compact, read restored.pretty⟩

def Document.flag : Document where
  vars := [⟨"x", .bool, none, [⟨none, .valid, .expr .value, [], false⟩]⟩]

theorem Document.parse_toJson_flag :
    parse flag.toJson.compact = .error (.rejected
      "string literal must be a single character, got \"Value\"") ∧
      parse flag.toJson.compact ≠ .ok flag := by
  have refused : parse flag.toJson.compact = .error (.rejected
      "string literal must be a single character, got \"Value\"") := by
    obtain ⟨depth, fits⟩ := flag.exists_fits
    rw [parse, Decoder.ofText, Value.compact, String.toList_ofList,
      Draft.ofText_chars Layout.isBlank_compact fits]
    rfl
  exact ⟨refused, by simp [refused]⟩

end PartitionTest
