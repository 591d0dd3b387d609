import Std.Data.HashMap
import PartitionTest.Shell.Objects.Numbers

/-! What expressions stand for. Values that can change stand for a place in the
memory, so that a change is seen through all of them. -/
namespace PartitionTest.Shell.Objects

inductive Side where
  | keys
  | values
  | entries
deriving DecidableEq, Repr, Inhabited

structure Pattern where
  source : String
  isBytes : Bool
  /-- Each flag is a bit. -/
  flags : Nat
deriving DecidableEq, Repr, Inhabited

structure Found where
  pattern : Pattern
  names : List (String × Nat)
  subject : String
  /-- Where the groups are, that of the whole first. -/
  spans : List (Option (Nat × Nat))
  /-- The part of the subject that was looked at. -/
  start : Nat
  stop : Nat
  /-- The group that was closed last. -/
  last : Option Nat
deriving DecidableEq, Repr, Inhabited

inductive Value where
  | nothing
  | ellipsis
  | bool (b : Bool)
  | int (n : Int)
  | float (x : Float)
  | complex (re im : Float)
  | fraction (num : Int) (den : Nat)
  | decimal (d : Decimal)
  | text (s : String)
  /-- One character a byte. -/
  | bytes (s : String)
  | tuple (items : List Value)
  | range (start stop step : Int)
  /-- Bounds of a part. -/
  | slice (start stop step : Value)
  | list (id : Nat)
  | dict (id : Nat)
  | set (id : Nat)
  /-- A set that does not change. -/
  | frozen (id : Nat)
  | view (dict : Nat) (side : Side)
  /-- Items that are handed out one by one. -/
  | stream (id : Nat)
  | function (id : Nat)
  /-- A function that is always there. -/
  | builtin (name : String)
  /-- A kind of values that is always there. -/
  | kind (name : String)
  /-- A kind of values that the script has made. -/
  | ownKind (id : Nat)
  /-- A kind together with the kinds of what its values hold. -/
  | generic (kind : Value) (args : List Value)
  /-- Several kinds as one. -/
  | either (kinds : List Value)
  | object (id : Nat)
  /-- What can be done with a value, by its name. -/
  | bound (self : Value) (name : String)
  | method (self : Value) (function : Nat)
  /-- A value as one of the kinds that its kind is part of. -/
  | above (kind : Nat) (self : Value)
  /-- A function of a kind that is called in a way of its own. -/
  | marked (how : String) (f : Value)
  /-- What getting, setting and removing a member do. -/
  | property (get put remove : Value)
  /-- A function whose results are kept. -/
  | kept (f : Value) (results : Nat)
  | error (kind : String) (args : List Value)
  | module (path : String)
  /-- A descriptor, which takes texts or bytes. -/
  | channel (n : Nat) (isBinary : Bool)
  | pattern (p : Pattern)
  | found (m : Found)
  /-- The answer of an operator that leaves the work to the other side. -/
  | declined
deriving Inhabited

namespace Value

def whole? : Value → Option Int
  | .bool b => some (if b then 1 else 0)
  | .int n => some n
  | _ => none

def num? : Value → Option Numbers.Num
  | .bool b => some (.int (if b then 1 else 0))
  | .int n => some (.int n)
  | .float x => some (.float x)
  | .complex x y => some (.complex x y)
  | .fraction n d => some (.fraction n d)
  | .decimal d => some (.decimal d)
  | _ => none

def ofNum : Numbers.Num → Value
  | .int n => .int n
  | .float x => .float x
  | .complex x y => .complex x y
  | .fraction n d => .fraction n d
  | .decimal d => .decimal d

def measured (s : String) : String := toString s.length ++ ":" ++ s

def numKey (n : Numbers.Num) : String :=
  match n.fraction?, n with
  | some (num, den), _ =>
    let g := Nat.gcd num.natAbs den
    "i" ++ toString (num / (g : Int)) ++ if den = g then "" else "/" ++ toString (den / g)
  | none, .float x => "f" ++ toString x.toBits.toNat
  | none, .complex x y => "c" ++ toString x.toBits.toNat ++ "," ++ toString y.toBits.toNat
  | none, .decimal d => "d" ++ d.text
  | none, _ => "n"

/-- The key under which a value is found that has no items and cannot change. -/
def plainKey : Value → String
  | .nothing => "n"
  | .ellipsis => "e"
  | .declined => "y"
  | .text s => "t" ++ measured s
  | .bytes s => "b" ++ measured s
  | .range a b c => "r" ++ toString a ++ "," ++ toString b ++ "," ++ toString c
  | .list id => "L" ++ toString id
  | .dict id => "D" ++ toString id
  | .set id | .frozen id => "S" ++ toString id
  | .view id side => "v" ++ toString id ++ toString (repr side)
  | .stream id => "s" ++ toString id
  | .function id => "F" ++ toString id
  | .builtin s => "B" ++ s
  | .kind s => "K" ++ s
  | .ownKind id => "k" ++ toString id
  | .object id => "o" ++ toString id
  | .module s => "M" ++ s
  | .channel n b => "h" ++ toString n ++ toString b
  | .pattern p => "p" ++ toString (repr p)
  | .found m => "m" ++ toString (repr m)
  | v => (v.num?.map numKey).getD "?"

mutual

/-- What tells a value from others that are not the same: numbers and texts that
are equal are the same here, and so are tuples of the same values. -/
def identity : Value → String
  | .tuple items => "(" ++ identities items ++ ")"
  | .bound self s => "." ++ identity self ++ s
  | .method self id => "m" ++ identity self ++ toString id
  | .above id self => "a" ++ toString id ++ identity self
  | .marked how f => "d" ++ how ++ identity f
  | .property a b c => "P" ++ identity a ++ identity b ++ identity c
  | .kept f id => "h" ++ identity f ++ toString id
  | .error s args => "E" ++ s ++ identities args
  | .generic k args => "g" ++ identity k ++ "[" ++ identities args ++ "]"
  | .either ks => "u(" ++ identities ks ++ ")"
  | .slice a b c => "/" ++ identity a ++ identity b ++ identity c
  | v => plainKey v

def identities : List Value → String
  | [] => ""
  | v :: vs => identity v ++ "," ++ identities vs

end

end Value

/-- Entries with their keys, in the order in which they came, and where each key is. -/
structure Dict where
  entries : Array (Option (String × Value × Value)) := #[]
  places : Std.HashMap String Nat := {}
deriving Inhabited

namespace Dict

def size (d : Dict) : Nat := d.places.size

def keyed (d : Dict) : List (String × Value × Value) := d.entries.toList.filterMap fun e => e

def all (d : Dict) : List (Value × Value) := d.keyed.map (·.2)

def firsts (d : Dict) : List Value := d.keyed.map (·.2.1)

def has (d : Dict) (key : String) : Bool := d.places.contains key

def entry? (d : Dict) (key : String) : Option (Value × Value) :=
  (d.places[key]?).bind fun i => (d.entries[i]?).bind fun e => e.map (·.2)

def get? (d : Dict) (key : String) : Option Value := (d.entry? key).map (·.2)

def set (d : Dict) (key : String) (k v : Value) : Dict :=
  match d.places[key]? with
  | some i => { d with entries := d.entries.modify i fun e => e.map fun (key, k, _) => (key, k, v) }
  | none =>
    { entries := d.entries.push (some (key, k, v)), places := d.places.insert key d.entries.size }

def add (d : Dict) (key : String) (k v : Value) : Dict := if d.has key then d else d.set key k v

def remove (d : Dict) (key : String) : Dict :=
  match d.places[key]? with
  | some i =>
    let d := { d with entries := d.entries.setIfInBounds i none, places := d.places.erase key }
    /- Many free places are closed up. -/
    if d.entries.size ≤ 2 * d.places.size + 16 then d
    else d.keyed.foldl (fun e (key, k, v) => e.set key k v) {}
  | none => d

def filter (d : Dict) (p : String → Bool) : Dict :=
  d.keyed.foldl (fun e (key, k, v) => if p key then e.set key k v else e) {}

/-- The entries of both; for a key in both, the value of the second one. -/
def union (d e : Dict) : Dict := e.keyed.foldl (fun d (key, k, v) => d.set key k v) d

/-! Names as keys. -/

def nameKey (s : String) : String := (Value.text s).plainKey

def named? (d : Dict) (s : String) : Option Value := d.get? (nameKey s)

def setName (d : Dict) (s : String) (v : Value) : Dict := d.set (nameKey s) (.text s) v

def names (d : Dict) : List String := d.firsts.filterMap fun v => match v with
  | .text s => some s
  | _ => none

end Dict

def errorKinds : List (String × String) := [
  ("SystemExit", "BaseException"), ("KeyboardInterrupt", "BaseException"),
  ("GeneratorExit", "BaseException"), ("Exception", "BaseException"), ("ArithmeticError", "Exception"),
  ("ZeroDivisionError", "ArithmeticError"), ("OverflowError", "ArithmeticError"),
  ("FloatingPointError", "ArithmeticError"), ("AssertionError", "Exception"),
  ("AttributeError", "Exception"), ("BufferError", "Exception"), ("EOFError", "Exception"),
  ("ImportError", "Exception"), ("ModuleNotFoundError", "ImportError"), ("LookupError", "Exception"),
  ("IndexError", "LookupError"), ("KeyError", "LookupError"), ("MemoryError", "Exception"),
  ("NameError", "Exception"), ("UnboundLocalError", "NameError"), ("OSError", "Exception"),
  ("FileNotFoundError", "OSError"), ("FileExistsError", "OSError"), ("PermissionError", "OSError"),
  ("IsADirectoryError", "OSError"), ("NotADirectoryError", "OSError"), ("BrokenPipeError", "ConnectionError"),
  ("ConnectionError", "OSError"), ("TimeoutError", "OSError"), ("ProcessLookupError", "OSError"),
  ("RuntimeError", "Exception"), ("NotImplementedError", "RuntimeError"),
  ("RecursionError", "RuntimeError"), ("StopIteration", "Exception"), ("SyntaxError", "Exception"),
  ("IndentationError", "SyntaxError"), ("SystemError", "Exception"), ("TypeError", "Exception"),
  ("ValueError", "Exception"), ("UnicodeError", "ValueError"), ("UnicodeDecodeError", "UnicodeError"),
  ("UnicodeEncodeError", "UnicodeError"), ("json.decoder.JSONDecodeError", "ValueError"),
  ("io.UnsupportedOperation", "OSError"), ("Warning", "Exception"), ("UserWarning", "Warning"),
  ("DeprecationWarning", "Warning"), ("RuntimeWarning", "Warning"), ("SyntaxWarning", "Warning"),
  ("FutureWarning", "Warning"), ("ImportWarning", "Warning"), ("UnicodeWarning", "Warning"),
  ("BytesWarning", "Warning"), ("ResourceWarning", "Warning"), ("PendingDeprecationWarning", "Warning"),
  ("EncodingWarning", "Warning"), ("BlockingIOError", "OSError"), ("ChildProcessError", "OSError"),
  ("InterruptedError", "OSError"), ("ConnectionAbortedError", "ConnectionError"),
  ("ConnectionRefusedError", "ConnectionError"), ("ConnectionResetError", "ConnectionError"),
  ("ReferenceError", "Exception"), ("StopAsyncIteration", "Exception"), ("TabError", "IndentationError"),
  ("UnicodeTranslateError", "UnicodeError"), ("re.error", "Exception"),
  ("decimal.DecimalException", "ArithmeticError"), ("decimal.InvalidOperation", "decimal.DecimalException"),
  ("decimal.DivisionByZero", "ZeroDivisionError"), ("decimal.Overflow", "decimal.DecimalException"),
  ("decimal.Underflow", "decimal.DecimalException"), ("decimal.Inexact", "decimal.DecimalException"),
  ("decimal.Rounded", "decimal.DecimalException")]

def isErrorKind (s : String) : Bool := s == "BaseException" || (errorKinds.lookup s).isSome

def ancestors : Nat → String → List String
  | 0, s => [s]
  | n + 1, s => s :: ((errorKinds.lookup s).map (ancestors n)).getD []

def isErrorOf (kind ancestor : String) : Bool := (ancestors errorKinds.length kind).contains ancestor

end PartitionTest.Shell.Objects
