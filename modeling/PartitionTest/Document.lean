import PartitionTest.Predicate

/-! Partition documents: the variables of a program, in the order it consumes
them, and the classes each one's domain is divided into. -/
namespace PartitionTest

/-- Whether the program should accept the values of a class. -/
inductive Tag where
  | valid
  | invalid
deriving DecidableEq, Repr, Inhabited

namespace Tag

def name : Tag → String
  | .valid => "valid"
  | .invalid => "invalid"

def toJson (t : Tag) : Json.Value := .string t.name

def decoder : Json.Decoder Tag :=
  .choice [("valid", .valid), ("invalid", .invalid)]

end Tag

structure ClassDef where
  name : Option String
  tag : Tag
  predicate : Predicate
  boundaries : List Scalar
  /-- Whether the ends of each contiguous run of members are boundaries too. -/
  autoBoundaries : Bool
deriving Inhabited

structure VariableDef where
  name : String
  domain : Domain
  /-- The value held while other variables vary. -/
  base : Option Scalar
  classes : List ClassDef
deriving Inhabited

structure Document where
  vars : List VariableDef
deriving Inhabited

open Json

namespace ClassDef

def toJson (c : ClassDef) : Value :=
  .object [
    ("name", .option .string c.name),
    ("tag", c.tag.toJson),
    ("predicate", c.predicate.toJson),
    ("boundaries", .list Scalar.toJson c.boundaries),
    ("auto_boundaries", .bool c.autoBoundaries)]

def record : Record ClassDef :=
  ClassDef.mk <$> Record.defaulted "name" (Decoder.option Decoder.string) none <*>
    Record.required "tag" Tag.decoder <*>
    Record.required "predicate" Predicate.decoder <*>
    Record.defaulted "boundaries" (Decoder.list Scalar.decoder) [] <*>
    Record.defaulted "auto_boundaries" Decoder.bool false

def decoder : Decoder ClassDef := record.decoder "struct ClassDef"

end ClassDef

namespace VariableDef

def toJson (v : VariableDef) : Value :=
  .object [
    ("name", .string v.name),
    ("domain", v.domain.toJson),
    ("base", .option Scalar.toJson v.base),
    ("classes", .list ClassDef.toJson v.classes)]

def record : Record VariableDef :=
  VariableDef.mk <$> Record.required "name" Decoder.string <*>
    Record.required "domain" Domain.decoder <*>
    Record.defaulted "base" (Decoder.option Scalar.decoder) none <*>
    Record.defaulted "classes" (Decoder.list ClassDef.decoder) []

def decoder : Decoder VariableDef := record.decoder "struct VariableDef"

end VariableDef

namespace Document

def toJson (d : Document) : Value :=
  .object [("variables", .list VariableDef.toJson d.vars)]

def decoder : Decoder Document :=
  Record.decoder "struct PartitionConfig"
    (Document.mk <$> Record.required "variables" (Decoder.list VariableDef.decoder))

def parse (text : String) : Except DecodeError Document :=
  decoder.ofText text

end Document

end PartitionTest
