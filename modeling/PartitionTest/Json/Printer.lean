import PartitionTest.Json.Value
import PartitionTest.Text.Printable

/-! JSON text. A layout says only which white space stands between tokens, so
every layout of a value has the same tokens. -/
namespace PartitionTest.Json

/-- A character inside a string. Only the quote, the backslash and characters
below U+0020 are escaped. -/
def escapeChar (c : Char) : List Char :=
  if c = '"' then ['\\', '"']
  else if c = '\\' then ['\\', '\\']
  else if c = '\x08' then ['\\', 'b']
  else if c = '\t' then ['\\', 't']
  else if c = '\n' then ['\\', 'n']
  else if c = '\x0c' then ['\\', 'f']
  else if c = '\r' then ['\\', 'r']
  else if c.toNat < 0x20 then
    ['\\', 'u', '0', '0', Text.hexDigit (c.toNat / 16), Text.hexDigit (c.toNat % 16)]
  else [c]

def stringChars (s : String) : List Char :=
  '"' :: s.toList.flatMap escapeChar ++ ['"']

def intChars (n : Int) : List Char :=
  if n < 0 then '-' :: Nat.toDigits 10 n.natAbs else Nat.toDigits 10 n.natAbs

def Number.chars : Number → List Char
  | .int n => intChars n
  | .float x => x.chars

structure Layout where
  lineBreak : Nat → List Char
  afterColon : List Char

namespace Layout

def compact : Layout := ⟨fun _ => [], []⟩

def pretty : Layout := ⟨fun level => '\n' :: List.replicate (2 * level) ' ', [' ']⟩

mutual

/-- The text of a value that stands at a nesting level. -/
def chars (l : Layout) (level : Nat) : Value → List Char
  | .null => ['n', 'u', 'l', 'l']
  | .bool true => ['t', 'r', 'u', 'e']
  | .bool false => ['f', 'a', 'l', 's', 'e']
  | .number n => n.chars
  | .string s => stringChars s
  | .array [] => ['[', ']']
  | .array (v :: vs) =>
    '[' :: l.lineBreak (level + 1) ++ l.chars (level + 1) v ++
      l.itemChars (level + 1) vs ++ l.lineBreak level ++ [']']
  | .object [] => ['\x7b', '\x7d']
  | .object ((k, v) :: ms) =>
    '\x7b' :: l.lineBreak (level + 1) ++ stringChars k ++ ':' :: l.afterColon ++
      l.chars (level + 1) v ++ l.memberChars (level + 1) ms ++ l.lineBreak level ++ ['\x7d']

def itemChars (l : Layout) (level : Nat) : List Value → List Char
  | [] => []
  | v :: vs => ',' :: l.lineBreak level ++ l.chars level v ++ l.itemChars level vs

def memberChars (l : Layout) (level : Nat) : List (String × Value) → List Char
  | [] => []
  | (k, v) :: ms =>
    ',' :: l.lineBreak level ++ stringChars k ++ ':' :: l.afterColon ++ l.chars level v ++
      l.memberChars level ms

end

end Layout

def Value.compact (v : Value) : String :=
  String.ofList (Layout.compact.chars 0 v)

def Value.pretty (v : Value) : String :=
  String.ofList (Layout.pretty.chars 0 v)

mutual

def Value.spelled : Value → String
  | .null => "Null"
  | .bool b => "Bool(" ++ toString b ++ ")"
  | .number n => "Number(" ++ String.ofList n.chars ++ ")"
  | .string s => "String(" ++ Text.quote s ++ ")"
  | .array items => "Array [" ++ String.intercalate ", " (spelledItems items) ++ "]"
  | .object members => "Object \x7b" ++ String.intercalate ", " (spelledMembers members) ++ "\x7d"

def spelledItems : List Value → List String
  | [] => []
  | v :: vs => v.spelled :: spelledItems vs

def spelledMembers : List (String × Value) → List String
  | [] => []
  | (k, v) :: ms => (Text.quote k ++ ": " ++ v.spelled) :: spelledMembers ms

end

end PartitionTest.Json
