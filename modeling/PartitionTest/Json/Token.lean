import PartitionTest.Json.Numeral

/-! Tokens of a JSON text. The lexer is a left fold: each character moves its
state and may complete tokens. It never fails. A fault becomes part of the
token it spoils, so that a reader who skips that token need not notice it. -/
namespace PartitionTest.Json

inductive Token where
  | openArray
  | closeArray
  | openObject
  | closeObject
  | comma
  | colon
  | null
  | bool (b : Bool)
  | number (n : Except Fault Number)
  /-- A string, what is wrong with its characters, and what keeps it from ending. -/
  | string (s : Except Fault String) (stop : Option Fault)
  /-- A literal or numeral that begins but cannot be finished. -/
  | cut (f : Fault)
  /-- A character that begins no token. -/
  | stray
deriving Inhabited

namespace Lexer

inductive Place where
  | sign
  | zero
  | whole
  | point
  | fraction
  | mark
  | markSign
  | exponent
deriving DecidableEq, Repr

inductive Escape where
  | plain
  | backslash
  /-- Bytes read of four, and the number they write if all are digits. -/
  | hex (bytes : Nat) (value : Option Nat)
deriving Repr

/-- Inside a string: the characters last first, a leading surrogate that waits
for its partner, and the first fault of the characters. -/
structure Quoted where
  text : List Char := []
  leading : Option Nat := none
  fault : Option Fault := none
  escape : Escape := .plain
deriving Repr

inductive State where
  | between
  | literal (left : List Char) (token : Token)
  | numeral (place : Place) (n : Numeral)
  | quoted (q : Quoted)
  | stopped

def digit? (c : Char) : Option Nat :=
  if c.isDigit then some (c.toNat - 48) else none

def hexDigit? (c : Char) : Option Nat :=
  if c.isDigit then some (c.toNat - 48)
  else if 'a' ≤ c && c ≤ 'f' then some (c.toNat - 87)
  else if 'A' ≤ c && c ≤ 'F' then some (c.toNat - 55)
  else none

def isSpace (c : Char) : Bool :=
  c == ' ' || c == '\t' || c == '\n' || c == '\r'

def start (c : Char) : State × List Token :=
  if isSpace c then (.between, [])
  else if c == '[' then (.between, [.openArray])
  else if c == ']' then (.between, [.closeArray])
  else if c == '\x7b' then (.between, [.openObject])
  else if c == '\x7d' then (.between, [.closeObject])
  else if c == ',' then (.between, [.comma])
  else if c == ':' then (.between, [.colon])
  else if c == '"' then (.quoted {}, [])
  else if c == 'n' then (.literal ['u', 'l', 'l'] .null, [])
  else if c == 't' then (.literal ['r', 'u', 'e'] (.bool true), [])
  else if c == 'f' then (.literal ['a', 'l', 's', 'e'] (.bool false), [])
  else if c == '-' then (.numeral .sign { negative := true }, [])
  else
    match digit? c with
    | some 0 => (.numeral .zero { whole := [0] }, [])
    | some d => (.numeral .whole { whole := [d] }, [])
    | none => (.stopped, [.stray])

/-- What a character does to a numeral: extends it, ends it, or spoils it. -/
inductive Growth where
  | more (place : Place) (n : Numeral)
  | ends
  | spoiled (f : Fault)

def grow (place : Place) (n : Numeral) (c : Char) : Growth :=
  let point := Growth.more .point { n with fraction := some [] }
  let mark := Growth.more .mark { n with exponent := some (false, []) }
  let isMark := c == 'e' || c == 'E'
  let power (d : Nat) :=
    let (negative, ds) := n.exponent.getD (false, [])
    Growth.more .exponent { n with exponent := some (negative, d :: ds) }
  match place, digit? c with
  | .sign, some 0 => .more .zero { n with whole := [0] }
  | .sign, some d => .more .whole { n with whole := [d] }
  | .sign, none => .spoiled .invalidNumber
  | .zero, some _ => .spoiled .invalidNumber
  | .zero, none => if c == '.' then point else if isMark then mark else .ends
  | .whole, some d => .more .whole { n with whole := d :: n.whole }
  | .whole, none => if c == '.' then point else if isMark then mark else .ends
  | .point, some d => .more .fraction { n with fraction := some [d] }
  | .point, none => .spoiled .invalidNumber
  | .fraction, some d => .more .fraction { n with fraction := some (d :: n.fraction.getD []) }
  | .fraction, none => if isMark then mark else .ends
  | .mark, some d => power d
  | .mark, none =>
    if c == '+' then .more .markSign n
    else if c == '-' then .more .markSign { n with exponent := some (true, []) }
    else .spoiled .invalidNumber
  | .markSign, some d => power d
  | .markSign, none => .spoiled .invalidNumber
  | .exponent, some d => power d
  | .exponent, none => .ends

def Place.complete : Place → Bool
  | .zero | .whole | .fraction | .exponent => true
  | _ => false

def Quoted.push (q : Quoted) (c : Char) : Quoted :=
  { q with text := c :: q.text, leading := none, escape := .plain }

def Quoted.spoil (q : Quoted) (f : Fault) : Quoted :=
  { q with fault := q.fault.or (some f), leading := none, escape := .plain }

def Quoted.unpaired (q : Quoted) : Quoted :=
  match q.leading with
  | none => q
  | some _ => q.spoil .unfinishedPair

def Quoted.token (q : Quoted) (stop : Option Fault) : Token :=
  match q.fault with
  | some f => .string (.error f) stop
  | none => .string (.ok (String.ofList q.text.reverse)) stop

def isTrailing (n : Nat) : Bool := 0xDC00 ≤ n && n ≤ 0xDFFF
def isLeading (n : Nat) : Bool := 0xD800 ≤ n && n ≤ 0xDBFF

def Quoted.unit (q : Quoted) (n : Nat) : Quoted :=
  match q.leading with
  | some high =>
    if isTrailing n then
      q.push (Char.ofNat ((high - 0xD800) * 0x400 + (n - 0xDC00) + 0x10000))
    else q.spoil .loneSurrogate
  | none =>
    if isTrailing n then q.spoil .loneSurrogate
    else if isLeading n then { q with leading := some n, escape := .plain }
    else q.push (Char.ofNat n)

def escaped? (c : Char) : Option Char :=
  if c == '"' || c == '\\' || c == '/' then some c
  else if c == 'b' then some '\x08'
  else if c == 'f' then some '\x0c'
  else if c == 'n' then some '\n'
  else if c == 'r' then some '\r'
  else if c == 't' then some '\t'
  else none

def stop (q : Quoted) (f : Fault) : State × List Token :=
  (.stopped, [q.token (some f)])

def inQuoted (q : Quoted) (c : Char) : State × List Token :=
  match q.escape with
  | .plain =>
    if c == '\\' then (.quoted { q with escape := .backslash }, [])
    else
      let q := q.unpaired
      if c == '"' then (.between, [q.token none])
      else if c.toNat < 0x20 then stop q .controlCharacter
      else (.quoted (q.push c), [])
  | .backslash =>
    if c == 'u' then (.quoted { q with escape := .hex 0 (some 0) }, [])
    else
      let q := q.unpaired
      match escaped? c with
      | some e => (.quoted (q.push e), [])
      | none => stop q .invalidEscape
  | .hex bytes value =>
    let value := do
      let n ← value
      let d ← hexDigit? c
      some (n * 16 + d)
    let bytes := bytes + c.utf8Size
    if bytes < 4 then (.quoted { q with escape := .hex bytes value }, [])
    else
      match value with
      | some n => (.quoted (q.unit n), [])
      | none => stop q .invalidEscape

def step (s : State) (c : Char) : State × List Token :=
  match s with
  | .between => start c
  | .literal [] token =>
    let (s, ts) := start c
    (s, token :: ts)
  | .literal (e :: left) token =>
    if c == e then
      match left with
      | [] => (.between, [token])
      | _ => (.literal left token, [])
    else (.stopped, [.cut .expectedLiteral])
  | .numeral place n =>
    match grow place n c with
    | .more place n => (.numeral place n, [])
    | .ends =>
      let (s, ts) := start c
      (s, .number n.number :: ts)
    | .spoiled f => (.stopped, [.cut f])
  | .quoted q => inQuoted q c
  | .stopped => (.stopped, [])

def atEnd : State → List Token
  | .between | .stopped => []
  | .literal _ _ => [.cut .endInValue]
  | .numeral place n => if place.complete then [.number n.number] else [.cut .endInNumber]
  | .quoted q => [q.token (some .endInString)]

def run (s : State) (done : List Token) (text : List Char) : List Token :=
  let (s, done) := text.foldl (fun (s, done) c =>
    let (s, ts) := step s c
    (s, ts.reverse ++ done)) (s, done)
  ((atEnd s).reverse ++ done).reverse

end Lexer

def tokens (text : List Char) : List Token :=
  Lexer.run .between [] text

end PartitionTest.Json
