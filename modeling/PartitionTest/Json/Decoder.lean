import PartitionTest.Json.Draft
import PartitionTest.Json.Printer

/-! Decoders read a value out of a draft. They follow the order of the text,
so of two things wrong with it the first is reported. -/
namespace PartitionTest.Json

inductive Found where
  | null
  | bool (b : Bool)
  | number (n : Number)
  | string (s : String)
  | sequence
  | map
deriving Repr

def Found.text : Found → String
  | .null => "null"
  | .bool b => "boolean `" ++ toString b ++ "`"
  | .number (.int n) => "integer `" ++ String.ofList (intChars n) ++ "`"
  | .number (.float x) => "floating point `" ++ String.ofList x.chars ++ "`"
  | .string s => "string " ++ Text.quote s
  | .sequence => "sequence"
  | .map => "map"

inductive DecodeError where
  /-- The text itself is faulty. -/
  | fault (f : Fault)
  | wrongType (found : Found) (expected : String)
  | wrongValue (found : Found) (expected : String)
  | wrongLength (length : Nat) (expected : String)
  | unknownVariant (name : String) (variants : List String)
  | missingField (name : String)
  | duplicateField (name : String)
  /-- No alternative of a type without a tag fits. -/
  | noVariant (type : String)
  | rejected (reason : String)
deriving Repr

namespace DecodeError

def oneOf : List String → String
  | [] => "there are no variants"
  | [a] => "`" ++ a ++ "`"
  | [a, b] => "`" ++ a ++ "` or `" ++ b ++ "`"
  | names => "one of " ++ String.intercalate ", " (names.map fun n => "`" ++ n ++ "`")

def message : DecodeError → String
  | .fault f => f.message
  | .wrongType found expected => "invalid type: " ++ found.text ++ ", expected " ++ expected
  | .wrongValue found expected => "invalid value: " ++ found.text ++ ", expected " ++ expected
  | .wrongLength n expected => "invalid length " ++ toString n ++ ", expected " ++ expected
  | .unknownVariant name variants =>
    "unknown variant `" ++ name ++ "`, expected " ++ oneOf variants
  | .missingField name => "missing field `" ++ name ++ "`"
  | .duplicateField name => "duplicate field `" ++ name ++ "`"
  | .noVariant type => "data did not match any variant of untagged enum " ++ type
  | .rejected reason => reason

end DecodeError

def numberBefore? (cs : List Char) : Option (List Char) :=
  let digits := cs.takeWhile Char.isDigit
  let n := digits.reverse.foldl (fun n c => n * 10 + (c.toNat - '0'.toNat)) 0
  if digits.isEmpty || UInt64.size ≤ n then none else some (cs.drop digits.length)

def withoutPosition (reason : String) : String :=
  let before? (word : String) (cs : List Char) : Option (List Char) :=
    if word.toList.reverse.isPrefixOf cs then some (cs.drop word.length) else none
  let found := do
    let cs ← numberBefore? reason.toList.reverse
    let cs ← before? " column " cs
    let cs ← numberBefore? cs
    before? " at line " cs
  match found with
  | some cs => String.ofList cs.reverse
  | none => reason

def maxDepth : Nat := 127

/-- Where a draft comes from. All but a text were read completely before they
are decoded, so they hold no faults and their depth is known. -/
inductive Source where
  | text
  /-- A value at hand. -/
  | tree
  /-- What was set aside until a tag was known. -/
  | buffer
deriving DecidableEq, Repr

structure Context where
  room : Nat := maxDepth
  source : Source := .text

def Context.enter (ctx : Context) : Except DecodeError Context :=
  match ctx.source, ctx.room with
  | .text, 0 => .error (.fault .tooDeep)
  | .text, n + 1 => .ok { ctx with room := n }
  | _, _ => .ok ctx

abbrev Decoder (α : Type) := Context → Draft → Except DecodeError α

def stringOf (s : Except Fault String) (stop : Option Fault) : Except DecodeError String :=
  match s, stop with
  | .error f, _ => .error (.fault f)
  | .ok _, some f => .error (.fault f)
  | .ok s, none => .ok s

def unstopped : Option Fault → Except DecodeError Unit
  | none => .ok ()
  | some f => .error (.fault f)

namespace Draft

/-- The error of a draft that is not what is expected. A scalar must be in
order to be called wrong; a container is not looked into. -/
def mismatch (expected : String) : Draft → DecodeError
  | .null => .wrongType .null expected
  | .bool b => .wrongType (.bool b) expected
  | .number (.ok n) => .wrongType (.number n) expected
  | .number (.error f) => .fault f
  | .string s stop =>
    match stringOf s stop with
    | .ok s => .wrongType (.string s) expected
    | .error e => e
  | .array _ _ => .wrongType .sequence expected
  | .object _ _ => .wrongType .map expected
  | .cut f => .fault f
  | .missing f => .fault f

def nameOf : Draft → Except DecodeError String
  | .string s stop => stringOf s stop
  | .missing f => .error (.fault f)
  | _ => .error (.fault .nameNotString)

mutual

/-- The fault that stops a text inside a part that is skipped. Numbers out of
range, surrogates and depth go unnoticed; a numeral cut short is no number. -/
def skip : Draft → Option Fault
  | .string _ stop => stop
  | .array items stop => (skipItems items).or stop
  | .object members stop => (skipMembers members).or stop
  | .cut .endInNumber => some .invalidNumber
  | .cut f => some f
  | .missing f => some f
  | .null | .bool _ | .number _ => none

def skipItems : List Draft → Option Fault
  | [] => none
  | d :: ds => (skip d).or (skipItems ds)

def skipMembers : List (Draft × Draft) → Option Fault
  | [] => none
  | (k, v) :: ms => ((skip k).or (skip v)).or (skipMembers ms)

end

mutual

def value (ctx : Context) : Draft → Except DecodeError Value
  | .null => .ok .null
  | .bool b => .ok (.bool b)
  | .number (.ok n) => .ok (.number n)
  | .number (.error f) => .error (.fault f)
  | .string s stop => (stringOf s stop).map .string
  | .array items stop => do
    let ctx ← ctx.enter
    let vs ← valueItems ctx items
    unstopped stop
    return .array vs
  | .object members stop => do
    let ctx ← ctx.enter
    let ms ← valueMembers ctx members
    unstopped stop
    return .object ms
  | .cut f => .error (.fault f)
  | .missing f => .error (.fault f)

def valueItems (ctx : Context) : List Draft → Except DecodeError (List Value)
  | [] => .ok []
  | d :: ds => do
    let v ← value ctx d
    let vs ← valueItems ctx ds
    return v :: vs

def valueMembers (ctx : Context) :
    List (Draft × Draft) → Except DecodeError (List (String × Value))
  | [] => .ok []
  | (k, d) :: ms => do
    let k ← nameOf k
    let v ← value ctx d
    let rest ← valueMembers ctx ms
    return (k, v) :: rest

end

end Draft

namespace Decoder

def value : Decoder Value := fun ctx d => d.value ctx

def bool : Decoder Bool
  | _, .bool b => .ok b
  | _, d => .error (d.mismatch "a boolean")

def string : Decoder String
  | _, .string s stop => stringOf s stop
  | _, d => .error (d.mismatch "a string")

def path : Decoder String
  | _, .string s stop => stringOf s stop
  | _, d => .error (d.mismatch "path string")

def char : Decoder Char
  | _, .string s stop => do
    let s ← stringOf s stop
    match s.toList with
    | [c] => .ok c
    | _ => .error (.wrongValue (.string s) "a character")
  | _, d => .error (d.mismatch "a character")

def int (low high : Int) (type : String) : Decoder Int
  | _, .number (.ok (.int n)) =>
    if low ≤ n ∧ n ≤ high then .ok n else .error (.wrongValue (.number (.int n)) type)
  | _, d => .error (d.mismatch type)

def int64 : Decoder Int64 := fun ctx d =>
  (int Int64.minValue.toInt Int64.maxValue.toInt "i64" ctx d).map Int64.ofInt

def int32 : Decoder Int32 := fun ctx d =>
  (int Int32.minValue.toInt Int32.maxValue.toInt "i32" ctx d).map Int32.ofInt

def nat (type : String) : Decoder Nat := fun ctx d =>
  (int 0 (UInt64.size - 1) type ctx d).map Int.toNat

def size : Decoder Nat := nat "usize"

def quantity : Decoder Nat := nat "u64"

def option (decode : Decoder α) : Decoder (Option α)
  | _, .null => .ok none
  | ctx, d => (decode ctx d).map some

def items (decode : Decoder α) (ctx : Context) : List Draft → Except DecodeError (List α)
  | [] => .ok []
  | d :: ds => do
    let a ← decode ctx d
    let as ← items decode ctx ds
    return a :: as

def list (decode : Decoder α) : Decoder (List α)
  | ctx, .array ds stop => do
    let ctx ← ctx.enter
    let as ← items decode ctx ds
    unstopped stop
    return as
  | _, d => .error (d.mismatch "a sequence")

def lookup (names : List (String × α)) (name : String) : Except DecodeError α :=
  match names.lookup name with
  | some a => .ok a
  | none => .error (.unknownVariant name (names.map (·.1)))

def identifier (names : List (String × α)) : Draft → Except DecodeError α
  | .string s stop => do lookup names (← stringOf s stop)
  | d => .error (d.mismatch "variant identifier")

/-- Nothing, written as null. In a buffer an empty object also stands for it. -/
def nothing : Decoder Unit
  | _, .null => .ok ()
  | ctx, d =>
    match ctx.source, d with
    | .buffer, .object [] none => .ok ()
    | _, d => .error (d.mismatch "unit")

/-- An object in a text is at its end after one member. -/
def single (members : List (Draft × Draft)) (stop : Option Fault) : Except DecodeError Unit :=
  match members, stop with
  | _ :: _ :: _, _ => .error (.fault .expectedValue)
  | _, some f => .error (.fault (if f.isEnd then f else .expectedValue))
  | _, none => .ok ()

def choice (names : List (String × α)) : Decoder α
  | _, .string s stop => do lookup names (← stringOf s stop)
  | ctx, .object members stop => do
    let ctx ← ctx.enter
    match ctx.source, members with
    | .text, [] => .error (.fault (stop.getD .expectedValue))
    | .text, (k, d) :: _ =>
      let a ← lookup names (← k.nameOf)
      nothing ctx d
      single members stop
      return a
    | _, [(k, d)] =>
      let a ← lookup names (← k.nameOf)
      nothing ctx d
      return a
    | _, _ => .error (.wrongValue .map "map with a single key")
  | ctx, d =>
    match ctx.source, d with
    | .text, .missing f => .error (.fault f)
    | .text, _ => .error (.fault .expectedValue)
    | _, _ => .error (d.mismatch "string or map")

def untagged (type : String) (of? : Value → Option α) : Decoder α := fun ctx d => do
  match of? (← d.value ctx) with
  | some a => .ok a
  | none => .error (.noVariant type)

def ofValue (of : Value → Except String α) : Decoder α := fun ctx d => do
  match of (← d.value ctx).sorted with
  | .ok a => .ok a
  | .error reason => .error (.rejected (withoutPosition reason))

def taggedMembers (tag : String) (variants : List (String × β)) (ctx : Context) :
    List (Draft × Draft) → Option β → List (String × Value) →
      Except DecodeError (Option β × List (String × Value))
  | [], chosen, rest => .ok (chosen, rest.reverse)
  | (k, d) :: ms, chosen, rest => do
    let k ← k.nameOf
    if k = tag then
      if chosen.isSome then .error (.duplicateField tag)
      else taggedMembers tag variants ctx ms (some (← identifier variants d)) rest
    else taggedMembers tag variants ctx ms chosen ((k, ← d.value ctx) :: rest)

/-- One of several records told apart by a tag among their members, or by the
first item of an array. What the tag leaves is buffered. -/
def tagged (type tag : String) (variants : List (String × Decoder α)) : Decoder α
  | ctx, .object members stop => do
    let ctx ← ctx.enter
    let (chosen, rest) ← taggedMembers tag variants ctx members none []
    unstopped stop
    match chosen with
    | none => .error (.missingField tag)
    | some decode => decode { ctx with source := .buffer } (.ofValue (.object rest))
  | ctx, .array (d :: ds) stop => do
    let ctx ← ctx.enter
    let decode ← identifier variants d
    let rest ← Draft.valueItems ctx ds
    unstopped stop
    decode { ctx with source := .buffer } (.ofValue (.array rest))
  | ctx, .array [] stop => do
    let _ ← ctx.enter
    unstopped stop
    .error (.missingField tag)
  | _, d => .error (d.mismatch ("internally tagged enum " ++ type))

def elements (n : Nat) : String :=
  if n = 1 then "1 element" else toString n ++ " elements"

def noFields (a : α) : Decoder α
  | _, .array [] none => .ok a
  | _, .array items _ => .error (.wrongLength items.length (elements 0 ++ " in sequence"))
  | _, _ => .ok a

def ofText (decode : Decoder α) (text : String) : Except DecodeError α := do
  let (d, more) := Draft.ofText text.toList
  let a ← decode {} d
  if more then .error (.fault .trailingCharacters) else return a

def ofJson (decode : Decoder α) (v : Value) : Except DecodeError α :=
  decode { source := .tree } (.ofValue v)

end Decoder

end PartitionTest.Json
