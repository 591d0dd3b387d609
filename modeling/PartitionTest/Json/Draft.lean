import PartitionTest.Json.Token

/-! Drafts: JSON texts as far as they can be read. A draft is the tree of a
text with its faults left where they occur, so a reader meets them in the order
of the text and misses those in parts that it skips. -/
namespace PartitionTest.Json

/-- At most one fault keeps a text from going on, and it stands at the end of
the last branch. Member names are drafts since a fault may stand there too. -/
inductive Draft where
  | null
  | bool (b : Bool)
  | number (n : Except Fault Number)
  | string (s : Except Fault String) (stop : Option Fault)
  | array (items : List Draft) (stop : Option Fault)
  | object (members : List (Draft × Draft)) (stop : Option Fault)
  /-- A literal or numeral that cannot be finished. -/
  | cut (f : Fault)
  /-- No value begins here. -/
  | missing (f : Fault)
deriving Inhabited

namespace Draft

inductive Frame where
  | array (items : List Draft)
  | object (members : List (Draft × Draft)) (name : Draft)

inductive State where
  /-- A value. -/
  | value (frames : List Frame)
  /-- A value, or the end of the array just opened. -/
  | item (frames : List Frame)
  /-- A comma or the end of an array. -/
  | afterItem (items : List Draft) (frames : List Frame)
  /-- A member name, or when nothing precedes it the end of the object. -/
  | name (members : List (Draft × Draft)) (frames : List Frame)
  | colon (members : List (Draft × Draft)) (name : Draft) (frames : List Frame)
  /-- A comma or the end of an object. -/
  | afterMember (members : List (Draft × Draft)) (frames : List Frame)
  /-- A finished text, and whether more follows it. -/
  | done (d : Draft) (more : Bool)

/-- Puts a draft that holds the stopping fault into the containers around it. -/
def halt (d : Draft) : List Frame → State
  | [] => .done d false
  | .array items :: frames => halt (.array (d :: items).reverse none) frames
  | .object members name :: frames => halt (.object ((name, d) :: members).reverse none) frames

def settle (d : Draft) : List Frame → State
  | [] => .done d false
  | .array items :: frames => .afterItem (d :: items) frames
  | .object members name :: frames => .afterMember ((name, d) :: members) frames

def haltArray (items : List Draft) (f : Fault) : List Frame → State :=
  halt (.array items.reverse (some f))

def haltObject (members : List (Draft × Draft)) (f : Fault) : List Frame → State :=
  halt (.object members.reverse (some f))

def beginValue (frames : List Frame) : Token → State
  | .openArray => .item frames
  | .openObject => .name [] frames
  | .null => settle .null frames
  | .bool b => settle (.bool b) frames
  | .number n => settle (.number n) frames
  | .string s none => settle (.string s none) frames
  | .string s (some f) => halt (.string s (some f)) frames
  | .cut f => halt (.cut f) frames
  | .closeArray | .closeObject | .comma | .colon | .stray => halt (.missing .expectedValue) frames

def step : State → Token → State
  | .value frames, .closeArray =>
    match frames with
    | .array _ :: _ => halt (.missing .trailingComma) frames
    | _ => halt (.missing .expectedValue) frames
  | .value frames, t => beginValue frames t
  | .item frames, .closeArray => settle (.array [] none) frames
  | .item frames, t => beginValue (.array [] :: frames) t
  | .afterItem items frames, .closeArray => settle (.array items.reverse none) frames
  | .afterItem items frames, .comma => .value (.array items :: frames)
  | .afterItem items frames, _ => haltArray items .expectedArrayComma frames
  | .name members frames, .string s none => .colon members (.string s none) frames
  | .name members frames, .string s (some f) =>
    halt (.missing f) (.object members (.string s (some f)) :: frames)
  | .name [] frames, .closeObject => settle (.object [] none) frames
  | .name members frames, .closeObject =>
    halt (.missing .trailingComma) (.object members (.missing .trailingComma) :: frames)
  | .name members frames, _ =>
    halt (.missing .nameNotString) (.object members (.missing .nameNotString) :: frames)
  | .colon members name frames, .colon => .value (.object members name :: frames)
  | .colon members name frames, _ =>
    halt (.missing .expectedColon) (.object members name :: frames)
  | .afterMember members frames, .closeObject => settle (.object members.reverse none) frames
  | .afterMember members frames, .comma => .name members frames
  | .afterMember members frames, _ => haltObject members .expectedObjectComma frames
  | .done d _, _ => .done d true

def atEnd : State → State
  | .value frames => halt (.missing .endInValue) frames
  | .item frames => haltArray [] .endInArray frames
  | .afterItem items frames => haltArray items .endInArray frames
  | .name [] frames => haltObject [] .endInObject frames
  | .name members frames =>
    halt (.missing .endInValue) (.object members (.missing .endInValue) :: frames)
  | .colon members name frames => halt (.missing .endInObject) (.object members name :: frames)
  | .afterMember members frames => haltObject members .endInObject frames
  | .done d more => .done d more

def ofTokens (ts : List Token) : Draft × Bool :=
  match atEnd (ts.foldl step (.value [])) with
  | .done d more => (d, more)
  | _ => (.missing .endInValue, false)

def ofText (s : List Char) : Draft × Bool :=
  ofTokens (tokens s)

mutual

def ofValue : Value → Draft
  | .null => .null
  | .bool b => .bool b
  | .number n => .number (.ok n)
  | .string s => .string (.ok s) none
  | .array items => .array (ofItems items) none
  | .object members => .object (ofMembers members) none

def ofItems : List Value → List Draft
  | [] => []
  | v :: vs => ofValue v :: ofItems vs

def ofMembers : List (String × Value) → List (Draft × Draft)
  | [] => []
  | (k, v) :: ms => (.string (.ok k) none, ofValue v) :: ofMembers ms

end

end Draft

end PartitionTest.Json
