import PartitionTest.Shell.Machine

/-! Conditions: what a test of a script asks about texts, numbers and files. -/
namespace PartitionTest.Shell.Condition

open Machine

def integer? (s : String) : Option Int :=
  let trim (cs : List Char) := cs.dropWhile fun c => c = ' ' || c = '\t' || c = '\n'
  let (negative, ds) := match (trim (trim s.toList).reverse).reverse with
    | '-' :: ds => (true, ds)
    | '+' :: ds | ds => (false, ds)
  if ds.isEmpty || !ds.all Char.isDigit then none
  else
    let n : Int := ds.foldl (fun n c => n * 10 + (c.toNat - '0'.toNat : Nat)) 0
    some (if negative then -n else n)

def word? (s : String) : Option Int :=
  (integer? s).bind fun n =>
    if Int64.minValue.toInt ≤ n && n ≤ Int64.maxValue.toInt then some n else none

def numeric : String → Option (Int → Int → Bool)
  | "-eq" => some (· == ·)
  | "-ne" => some (· != ·)
  | "-lt" => some (· < ·)
  | "-le" => some (· ≤ ·)
  | "-gt" => some fun a b => b < a
  | "-ge" => some fun a b => b ≤ a
  | _ => none

def textual : String → Option (String → String → Bool)
  | "=" | "==" => some (· == ·)
  | "!=" => some (· != ·)
  | "<" => some (· < ·)
  | ">" => some fun a b => b < a
  | _ => none

/-- Operators that compare files: their age, or whether they are one. -/
def filial : List String := ["-nt", "-ot", "-ef"]

def askEntry (op : String) (entry : Entry) : Bool :=
  match op, entry with
  | "-f", .file _ _ | "-f", .program _ => true
  | "-d", .directory => true
  | "-c", .device d => d != .stream 0 && d != .stream 1 && d != .stream 2
  | "-p", .device (.stream _) => true
  | "-x", .file _ mode => mode.isRunnable
  | "-x", .device _ => false
  | "-s", .file contents _ => !contents.isEmpty
  | "-s", .device _ => false
  | op, _ => ["-e", "-r", "-w", "-x", "-s", "-O", "-G"].contains op

abbrev Check := ExceptT String Run

abbrev NumberReader := String → Option Int

def number (read : NumberReader) (s : String) : Check Int :=
  match read s with
  | some n => return n
  | none => throw s

def askUnary (read : NumberReader) (op s : String) : Check Bool := do
  match op with
  | "-n" => return !s.isEmpty
  | "-z" => return s.isEmpty
  | "-t" =>
    let _ ← number read s
    return false
  | _ =>
    match ← (Machine.entry s : Run _) with
    | .ok entry => return askEntry op entry
    | .error _ => return false

/-- Asks about two files. All of them are of one age; `lackIsOld` is whether a
file that is missing counts as older. -/
def askFiles (lackIsOld : Bool) (op a b : String) : Run Bool := do
  let isThere (path : String) : Run Bool := do return (← entry path).toOption.isSome
  match op with
  | "-nt" => return lackIsOld && (← isThere a) && !(← isThere b)
  | "-ot" => return lackIsOld && (← isThere b) && !(← isThere a)
  | _ =>
    match ← locate a, ← locate b with
    | .ok p, .ok q => return p == q && (← isThere a)
    | _, _ => return false

def askBinary (read : NumberReader) (lackIsOld : Bool) (op a b : String) : Check Bool := do
  match numeric op, textual op with
  | some holds, _ => return holds (← number read a) (← number read b)
  | none, some holds => return holds a b
  | none, none => askFiles lackIsOld op a b

inductive Kind where
  | unary
  | binary
  | joiner
  | negation
  | bracket
deriving DecidableEq, Repr

def unaryOperators : List String :=
  ["-r", "-w", "-x", "-e", "-f", "-d", "-c", "-b", "-p", "-u", "-g", "-k", "-s", "-t", "-z", "-n",
    "-h", "-O", "-G", "-L", "-S"]

def kind? (s : String) : Option Kind :=
  if unaryOperators.contains s then some .unary
  else if (s != "==" && (textual s).isSome) || (numeric s).isSome || filial.contains s then some .binary
  else match s with
  | "-a" | "-o" => some .joiner
  | "!" => some .negation
  | "(" | ")" => some .bracket
  | _ => none

inductive Token where
  | finish
  | operand
  | operator (k : Kind) (text : String)
deriving DecidableEq, Repr

/-- An operator for one operand is none itself if it has no operand, or if a
comparison follows. -/
def isOperand : List String → Bool
  | [] => true
  | [_] => false
  | s :: _ => kind? s == some .binary

def tokenAt : List String → Token
  | [] => .finish
  | s :: rest =>
    match kind? s with
    | none => .operand
    | some k =>
      if (k = .unary && isOperand rest) || (s == "(" && rest.isEmpty) then .operand
      else .operator k s

/-- Reads arguments; the front one is the one read last. An error is a message. -/
abbrev Ask := StateT (List String) (ExceptT String Run)

def checked (c : Check Bool) : Ask Bool := do
  match ← (c.run : Run _) with
  | .ok b => return b
  | .error s => throw ("Illegal number: " ++ s)

/-- The token after the current one, which becomes the current one. -/
def step : Ask Token := do
  modify (·.drop 1)
  return tokenAt (← get)

def primary (whole : Token → Ask Bool) (t : Token) : Ask Bool := do
  match t with
  | .finish => return false
  | .operator .bracket "(" =>
    let inner ← step
    if inner == .operator .bracket ")" then return false
    let holds ← whole inner
    if (← step) == .operator .bracket ")" then return holds
    else throw "closing paren expected"
  | _ =>
    match t, ← get with
    | .operator .unary op, _ :: s :: rest =>
      set (s :: rest)
      checked (askUnary word? op s)
    | .operator .unary op, _ => throw (op ++ ": argument expected")
    | _, a :: rest =>
      match tokenAt rest, rest with
      | .operator .binary op, _ :: b :: more =>
        set (b :: more)
        checked (askBinary word? false op a b)
      | .operator .binary op, _ => throw (op ++ ": argument expected")
      | _, _ => return !a.isEmpty
    | _, [] => return false

def negations (whole : Token → Ask Bool) : Nat → Token → Ask Bool
  | 0, _ => throw "argument expected"
  | n + 1, t =>
    if t == .operator .negation "!" then do
      let next := tokenAt ((← get).drop 1)
      if next != .finish then modify (·.drop 1)
      return !(← negations whole n next)
    else primary whole t

def joined (op : String) (combine : Bool → Bool → Bool) (ask : Token → Ask Bool) :
    Nat → Token → Ask Bool
  | 0, _ => throw "argument expected"
  | n + 1, t => do
    let first ← ask t
    if tokenAt ((← get).drop 1) == .operator .joiner op then
      modify (·.drop 1)
      let rest ← joined op combine ask n (← step)
      return combine first rest
    else return first

def condition (size : Nat) : Nat → Token → Ask Bool
  | 0, _ => throw "argument expected"
  | n + 1, t =>
    joined "-o" or (joined "-a" and (negations (condition size n) size) size) size t

/-- A whole condition. One of three arguments with a comparison in the middle
is that comparison; brackets and negations around short ones come next. -/
def whole (size : Nat) : Nat → Bool → List String → Ask Bool
  | 0, _, _ => throw "argument expected"
  | n + 1, value, args => do
    let eval (t : Token) (args : List String) : Ask Bool := do
      set args
      let holds ← condition size size t
      match ← get with
      | a :: _ :: _ => throw (a ++ ": unexpected operator")
      | _ => return holds == value
    let inBrackets := args.head? == some "(" && args.getLast? == some ")"
    let isShort := args.length = 3 || args.length = 4
    match args with
    | [] => return !value
    | [_, op, _] =>
      if kind? op == some .binary then eval .operand args
      else if inBrackets then
        let inner := args.tail.dropLast
        eval (tokenAt inner) inner
      else if args.head? == some "!" then whole size n false args.tail
      else eval (tokenAt args) args
    | _ =>
      if isShort && inBrackets then
        let inner := args.tail.dropLast
        eval (tokenAt inner) inner
      else if isShort && args.head? == some "!" then whole size n false args.tail
      else eval (tokenAt args) args

def ask (args : List String) : Run Nat := do
  let size := args.length + 1
  match ← ((whole size size true args).run []).run with
  | .ok (holds, _) => return if holds then 0 else 1
  | .error reason =>
    complain reason
    return 2

end PartitionTest.Shell.Condition
