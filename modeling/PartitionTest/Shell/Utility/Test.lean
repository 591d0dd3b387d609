import PartitionTest.Shell.Condition
import PartitionTest.Shell.Utility.Basic

/-! Conditions as a program of the system asks them. How many arguments there
are decides how they are read; only longer ones are read as a whole. -/
namespace PartitionTest.Shell.Utility.Test

open Condition Quotation

/-- Arguments read so far, last first, and those left. An error is a message. -/
abbrev Ask := StateT (List String × List String) (ExceptT String Run)

def checked (c : Check Bool) : Ask Bool := do
  match ← (c.run : Run _) with
  | .ok b => return b
  | .error s => throw ("invalid integer " ++ quoted s)

def unary (op s : String) : Ask Bool := checked (askUnary integer? op s)

def binary (op a b : String) : Ask Bool := checked (askBinary integer? true op a b)

def isUnary (s : String) : Bool := unaryOperators.contains s || s == "-N"

def looksUnary (s : String) : Bool := s.startsWith "-" && s.length = 2

def isBinary (s : String) : Bool :=
  (s != "<" && s != ">" && (textual s).isSome) || (numeric s).isSome || filial.contains s

/-- A complaint that something is missing behind the last argument. -/
def missing (args : List String) : Ask α :=
  throw ("missing argument after " ++ quoted (args.getLast?.getD ""))

def take : Ask String := do
  match ← get with
  | (seen, s :: rest) =>
    set (s :: seen, rest)
    return s
  | (seen, []) => missing seen.reverse

def term (whole : Ask Bool) : Nat → Ask Bool
  | 0 => throw "argument expected"
  | n + 1 => do
    match ← get with
    | (_, []) => missing (← get).1.reverse
    | (seen, "!" :: rest) =>
      set ("!" :: seen, rest)
      return !(← term whole n)
    | (seen, "(" :: rest) =>
      set ("(" :: seen, rest)
      let holds ← whole
      match ← get with
      | (seen, ")" :: rest) =>
        set (")" :: seen, rest)
        return holds
      | (_, []) => throw "')' expected"
      | (_, s :: _) => throw ("')' expected, found " ++ s)
    | (seen, a :: op :: b :: rest) =>
      if isBinary op then
        set (b :: op :: a :: seen, rest)
        binary op a b
      else single a
    | (_, a :: _) => single a
where
  single (a : String) : Ask Bool := do
    let _ ← take
    if isUnary a && !(← get).2.isEmpty then unary a (← take)
    else if looksUnary a && !(← get).2.isEmpty && !isUnary a then
      throw (quoted a ++ ": unary operator expected")
    else return !a.isEmpty

def joined (op : String) (combine : Bool → Bool → Bool) (ask : Ask Bool) : Nat → Ask Bool
  | 0 => throw "argument expected"
  | n + 1 => do
    let first ← ask
    match ← get with
    | (seen, s :: rest) =>
      if s == op then
        set (s :: seen, rest)
        let more ← joined op combine ask n
        return combine first more
      else return first
    | _ => return first

def expression (size : Nat) : Nat → Ask Bool
  | 0 => throw "argument expected"
  | n + 1 => joined "-o" or (joined "-a" and (term (expression size n) size) size) size

def all (args : List String) : Ask Bool := do
  set (([] : List String), args)
  let size := args.length + 1
  let holds ← expression size size
  match ← get with
  | (_, []) => return holds
  | (_, s :: _) => throw ("extra argument " ++ quoted s)

def two (a b : String) : Ask Bool :=
  if a == "!" then return b.isEmpty
  else if looksUnary a then
    if isUnary a then unary a b else throw (quoted a ++ ": unary operator expected")
  else missing [a, b]

def three (a b c : String) : Ask Bool := do
  if isBinary b then binary b a c
  else if a == "!" then return !(← two b c)
  else if a == "(" && c == ")" then return !b.isEmpty
  else if b == "-a" || b == "-o" then all [a, b, c]
  else throw (quoted b ++ ": binary operator expected")

def whole (args : List String) : Ask Bool := do
  match args with
  | [] => return false
  | [a] => return !a.isEmpty
  | [a, b] => two a b
  | [a, b, c] => three a b c
  | [a, b, c, d] =>
    if a == "!" then return !(← three b c d)
    else if a == "(" && d == ")" then two b c
    else all args
  | _ => all args

def test : Program := fun name args => do
  match ← ((whole args).run ([], [])).run with
  | .ok (holds, _) => return if holds then 0 else 1
  | .error reason => fail name reason 2

def bracket : Program := fun name args => do
  if args.getLast? == some "]" then test name args.dropLast else fail name "missing ']'" 2

end PartitionTest.Shell.Utility.Test
