import PartitionTest.Case
import PartitionTest.Proofs.Json.Records

/-! Scalars and cases restored from what they are written as. -/
namespace PartitionTest

open Json

variable {depth : Nat}

theorem Scalar.ofInt?_toInt (n : Int64) : ofInt? n.toInt = some n := by
  rw [ofInt?, if_pos ⟨n.minValue_le_toInt, n.toInt_le⟩, Int64.ofInt_toInt]

theorem Scalar.ofString?_singleton (c : Char) : ofString? (String.singleton c) = some c := by
  rw [ofString?, String.toList_singleton]

theorem Scalar.ofInt?_eq_some_iff {n : Int} {i : Int64} : ofInt? n = some i ↔ n = i.toInt := by
  constructor
  · intro h
    unfold ofInt? at h
    split at h
    · rename_i bounds
      cases h
      exact (Int64.toInt_ofInt_of_le bounds.1 (Int.lt_of_le_of_lt bounds.2 (by decide))).symm
    · nomatch h
  · rintro rfl
    exact ofInt?_toInt i

theorem Scalar.ofString?_eq_some_iff {s : String} {c : Char} :
    ofString? s = some c ↔ s = String.singleton c := by
  constructor
  · intro h
    unfold ofString? at h
    split at h
    · rename_i single
      cases h
      rw [← String.toList_inj, single, String.toList_singleton]
    · nomatch h
  · rintro rfl
    exact ofString?_singleton c

theorem Scalar.fits_toJson (s : Scalar) : s.toJson.Fits depth := by
  cases s with
  | bool b => exact .bool b
  | int n => exact .int n.minValue_le_toInt (Int.lt_of_le_of_lt n.toInt_le (by decide))
  | char c => exact .string _

theorem Scalar.ofJson?_toJson (s : Scalar) : ofJson? s.toJson = some s := by
  cases s with
  | bool b => rfl
  | int n => exact congrArg (Option.map Scalar.int) (ofInt?_toInt n)
  | char c => exact congrArg (Option.map Scalar.char) (ofString?_singleton c)

theorem Scalar.restores (s : Scalar) (type : String) :
    (decoderAs type).Restores depth s.toJson s :=
  .untagged type s.fits_toJson s.ofJson?_toJson

theorem Scalar.toJson_ne_null (s : Scalar) : s.toJson ≠ .null := by
  cases s <;> nofun

theorem Tag.restores (t : Tag) : decoder.Restores depth t.toJson t := by
  cases t <;> exact .choice rfl

theorem CaseKind.restores (k : CaseKind) : decoder.Restores depth (.string k.name) k := by
  cases k <;> exact .choice rfl

theorem Assignment.restores (a : Assignment) :
    (record.decoder "struct Assignment").Restores (depth + 1) a.toJson a :=
  Record.Reads.required "variable" (.string a.variableName)
    |>.map Assignment.mk
    |>.seq (.required "value" (a.value.restores _))
    |>.seq (.required "class" (.string a.className))
    |>.seq (.required "tag" a.tag.restores)
    |>.restores _ (by decide)

def Case.Fits64 (c : Case) : Prop := c.id < UInt64.size

theorem Case.restores {c : Case} (h : c.Fits64) : decoder.Restores (depth + 3) c.toJson c :=
  Record.Reads.required "id" (.nat h "usize")
    |>.map Case.mk
    |>.seq (.optional "focus" (.option (fun name _ => .string name) nofun))
    |>.seq (.required "kind" c.kind.restores)
    |>.seq (.required "assignments" (.list fun a _ => a.restores))
    |>.restores _ (by decide)

end PartitionTest
