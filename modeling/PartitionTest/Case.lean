import PartitionTest.Document

/-! Cases: one value for every variable, each with the class that owns it. -/
namespace PartitionTest

inductive CaseKind where
  | boundary
  | interior
  | sampled
deriving DecidableEq, Repr, Inhabited

namespace CaseKind

def name : CaseKind → String
  | .boundary => "boundary"
  | .interior => "interior"
  | .sampled => "sampled"

def decoder : Json.Decoder CaseKind :=
  .choice [("boundary", .boundary), ("interior", .interior), ("sampled", .sampled)]

end CaseKind

structure Assignment where
  variableName : String
  value : Scalar
  className : String
  tag : Tag
deriving DecidableEq, Inhabited

structure Case where
  id : Nat
  /-- The variable being varied; a sampled case has none. -/
  focus : Option String
  kind : CaseKind
  /-- One for each variable, in order. -/
  assignments : List Assignment
deriving DecidableEq, Inhabited

open Json

namespace Assignment

def toJson (a : Assignment) : Value :=
  .object [("variable", .string a.variableName), ("value", a.value.toJson),
    ("class", .string a.className), ("tag", a.tag.toJson)]

def record : Record Assignment :=
  Assignment.mk <$> Record.required "variable" Decoder.string <*>
    Record.required "value" Scalar.decoder <*>
    Record.required "class" Decoder.string <*>
    Record.required "tag" Tag.decoder

def label (a : Assignment) : String := a.variableName ++ "=" ++ a.value.text

end Assignment

namespace Case

def toJson (c : Case) : Value :=
  .object [("id", .nat c.id), ("focus", .option .string c.focus),
    ("kind", .string c.kind.name), ("assignments", .list Assignment.toJson c.assignments)]

def record : Record Case :=
  Case.mk <$> Record.required "id" Decoder.size <*>
    Record.optional "focus" Decoder.string <*>
    Record.required "kind" CaseKind.decoder <*>
    Record.required "assignments"
      (Decoder.list (Assignment.record.decoder "struct Assignment"))

def decoder : Decoder Case := record.decoder "struct InputCase"

def valueOf (c : Case) (name : String) : Option Scalar :=
  (c.assignments.find? (·.variableName == name)).map (·.value)

def values (c : Case) : List Scalar := c.assignments.map (·.value)

def texts (c : Case) : List String := c.assignments.map (·.value.text)

/-- For example `x=4 y=48 z=40`. -/
def label (c : Case) : String :=
  String.intercalate " " (c.assignments.map Assignment.label)

end Case

end PartitionTest
