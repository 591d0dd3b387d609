import PartitionTest.Shell.Lexer

/-! Arithmetic in scripts: whole numbers of 64 bits that wrap around. -/
namespace PartitionTest.Shell.Arithmetic

inductive Symbol where
  | number (n : Int64)
  | name (s : String)
  | operator (s : String)
  /-- A character that belongs to nothing. -/
  | other (c : Char)
deriving DecidableEq, Repr, Inhabited

inductive Term where
  | number (n : Int64)
  | value (name : String)
  | unary (op : String) (t : Term)
  | binary (op : String) (a b : Term)
  | choice (test yes no : Term)
  /-- Stores a value, combined with the old one if there is an operator. -/
  | store (name op : String) (t : Term)
deriving Repr, Inhabited

inductive Fault where
  /-- A text is not of the form that is expected. -/
  | form (reason text : String)
  | illegalNumber (text : String)
  /-- A quotient that is too large, which the processor does not survive. -/
  | overflow
deriving DecidableEq, Repr, Inhabited

def Fault.message : Fault → String
  | .form reason text => "arithmetic expression: " ++ reason ++ ": \"" ++ text ++ "\""
  | .illegalNumber text => "Illegal number: " ++ text
  | .overflow => "division overflow"

def digitValue (c : Char) : Nat :=
  if c.isDigit then c.toNat - '0'.toNat else c.toLower.toNat - 'a'.toNat + 10

def isHexDigit (c : Char) : Bool := c.isDigit || ('a' ≤ c.toLower && c.toLower ≤ 'f')

def isOctalDigit (c : Char) : Bool := '0' ≤ c && c ≤ '7'

def magnitude (base : Nat) (digits : List Char) : Nat :=
  digits.foldl (fun n c => n * base + digitValue c) 0

def isBinaryDigit (c : Char) : Bool := c = '0' || c = '1'

/-- The digits at the front of a text with their base, and what comes after
them. A number is decimal, octal after a zero, hexadecimal after `0x`, or
binary after `0b`. -/
def numeral (cs : List Char) : List Char × Nat × List Char :=
  let part (base : Nat) (isDigit : Char → Bool) (cs : List Char) :=
    let digits := cs.takeWhile isDigit
    (digits, base, cs.drop digits.length)
  match cs with
  | '0' :: x :: d :: ds =>
    if (x = 'x' || x = 'X') && isHexDigit d then part 16 isHexDigit (d :: ds)
    else if (x = 'b' || x = 'B') && isBinaryDigit d then part 2 isBinaryDigit (d :: ds)
    else part 8 isOctalDigit cs
  | '0' :: _ => part 8 isOctalDigit cs
  | _ => part 10 Char.isDigit cs

def numeral? (cs : List Char) : Option Nat :=
  match numeral cs with
  | ([], _, _) => none
  | (digits, base, []) => some (magnitude base digits)
  | _ => none

def operators : List String :=
  ["<<=", ">>=", "<<", ">>", "<=", ">=", "==", "!=", "&&", "||", "+=", "-=", "*=", "/=", "%=",
    "&=", "|=", "^=", "+", "-", "*", "/", "%", "<", ">", "=", "!", "~", "&", "|", "^", "?", ":",
    "(", ")"]

/-- The number at the front of a text, as large as it can be, and what comes after it. -/
def numeralPart (cs : List Char) : Nat × List Char :=
  let (digits, base, rest) := numeral cs
  (Nat.min (magnitude base digits) Int64.maxValue.toInt.toNat, rest)

def symbols : Nat → List Char → List Symbol
  | 0, _ | _, [] => []
  | n + 1, c :: cs =>
    if c = ' ' || c = '\t' || c = '\n' then symbols n cs
    else if c.isDigit then
      let (value, rest) := numeralPart (c :: cs)
      .number (Int64.ofInt value) :: symbols n rest
    else if isNameStart c then
      let name := (c :: cs).takeWhile isNameChar
      .name (String.ofList name) :: symbols n ((c :: cs).drop name.length)
    else match operators.find? fun op => op.toList.isPrefixOf (c :: cs) with
    | some op => .operator op :: symbols n ((c :: cs).drop op.length)
    | none => .other c :: symbols n cs

def rank : String → Option Nat
  | "||" => some 1
  | "&&" => some 2
  | "|" => some 3
  | "^" => some 4
  | "&" => some 5
  | "==" | "!=" => some 6
  | "<" | ">" | "<=" | ">=" => some 7
  | "<<" | ">>" => some 8
  | "+" | "-" => some 9
  | "*" | "/" | "%" => some 10
  | _ => none

def storeOperator : String → Option String
  | "=" => some ""
  | "+=" => some "+"
  | "-=" => some "-"
  | "*=" => some "*"
  | "/=" => some "/"
  | "%=" => some "%"
  | "&=" => some "&"
  | "|=" => some "|"
  | "^=" => some "^"
  | "<<=" => some "<<"
  | ">>=" => some ">>"
  | _ => none

abbrev Reader := StateT (List Symbol) (Except String)

def primary (whole : Reader Term) : Nat → Reader Term
  | 0 => throw "expecting primary"
  | n + 1 => do
    match ← get with
    | .number k :: rest =>
      set rest
      return .number k
    | .name s :: .operator op :: rest =>
      match storeOperator op with
      | some combined =>
        set rest
        return .store s combined (← whole)
      | none =>
        set (Symbol.operator op :: rest)
        return .value s
    | .name s :: rest =>
      set rest
      return .value s
    | .operator "(" :: rest =>
      set rest
      let t ← whole
      match ← get with
      | .operator ")" :: rest =>
        set rest
        return t
      | _ => throw "expecting ')'"
    | .operator op :: rest =>
      if ["-", "+", "!", "~"].contains op then
        set rest
        return .unary op (← primary whole n)
      else throw "expecting primary"
    | _ => throw "expecting primary"

def climb (whole : Reader Term) (size : Nat) : Nat → Nat → Term → Reader Term
  | 0, _, t => return t
  | n + 1, low, t => do
    match ← get with
    | .operator op :: rest =>
      match rank op with
      | none => return t
      | some r =>
        if r < low then return t
        else
          set rest
          let right ← climb whole size n (r + 1) (← primary whole size)
          climb whole size n low (.binary op t right)
    | _ => return t

def term (size : Nat) : Nat → Reader Term
  | 0 => throw "expecting primary"
  | n + 1 => do
    let whole := term size n
    let t ← climb whole size size 1 (← primary whole size)
    match ← get with
    | .operator "?" :: rest =>
      set rest
      let yes ← whole
      match ← get with
      | .operator ":" :: rest =>
        set rest
        return .choice t yes (← whole)
      | _ => throw "expecting ':'"
    | _ => return t

def parse (text : String) : Except Fault Term :=
  let ss := symbols (text.length + 1) text.toList
  match (term (ss.length + 1) (ss.length + 1)).run ss with
  | .ok (t, []) => .ok t
  | .ok _ => .error (.form "expecting EOF" text)
  | .error reason => .error (.form reason text)

abbrev Stored := List (String × Int64)

abbrev Eval := StateT Stored (Except Fault)

def inRange? (n : Int) : Option Int64 :=
  if Int64.minValue.toInt ≤ n && n ≤ Int64.maxValue.toInt then some (Int64.ofInt n) else none

def numberOf (text : String) : Except Fault Int64 :=
  let trim (cs : List Char) := cs.dropWhile fun c => c = ' ' || ('\t' ≤ c && c ≤ '\x0d')
  let found : Option Int64 := match (trim (trim text.toList).reverse).reverse with
    | [] => some 0
    | '-' :: digits => (numeral? digits).bind fun n => inRange? (-(n : Int))
    | '+' :: digits | digits => (numeral? digits).bind fun n => inRange? n
  match found with
  | some n => .ok n
  | none => .error (.illegalNumber text)

def ofBool (b : Bool) : Int64 := if b then 1 else 0

def combine (text op : String) (a b : Int64) : Except Fault Int64 :=
  match op with
  | "+" => .ok (a + b)
  | "-" => .ok (a - b)
  | "*" => .ok (a * b)
  | "/" => do
    divisible
    return a / b
  | "%" => do
    divisible
    return a % b
  | "<<" => .ok (a <<< b)
  | ">>" => .ok (a >>> b)
  | "<" => .ok (ofBool (a < b))
  | ">" => .ok (ofBool (b < a))
  | "<=" => .ok (ofBool (a ≤ b))
  | ">=" => .ok (ofBool (b ≤ a))
  | "==" => .ok (ofBool (a == b))
  | "!=" => .ok (ofBool (a != b))
  | "&" => .ok (a &&& b)
  | "|" => .ok (a ||| b)
  | "^" => .ok (a ^^^ b)
  | _ => .ok b
where
  divisible : Except Fault Unit :=
    if b = 0 then .error (.form "division by zero" text)
    else if a = Int64.minValue && b = -1 then .error .overflow
    else .ok ()

def lookup (bindings : String → Option String) (name : String) : Eval Int64 := do
  match (← get).lookup name with
  | some n => return n
  | none => numberOf ((bindings name).getD "")

/-- The second operand of `&&` and `||` is looked at only when it decides. -/
def Term.eval (bindings : String → Option String) (text : String) : Term → Eval Int64
  | .number n => return n
  | .value name => lookup bindings name
  | .unary op t => do
    let n ← t.eval bindings text
    return match op with
    | "-" => -n
    | "!" => ofBool (n == 0)
    | "~" => ~~~n
    | _ => n
  | .binary "&&" a b => do
    if (← a.eval bindings text) == 0 then return 0
    else return ofBool ((← b.eval bindings text) != 0)
  | .binary "||" a b => do
    if (← a.eval bindings text) == 0 then return ofBool ((← b.eval bindings text) != 0)
    else return 1
  | .binary op a b => do
    let x ← a.eval bindings text
    let y ← b.eval bindings text
    combine text op x y
  | .choice c yes no => do
    if (← c.eval bindings text) == 0 then no.eval bindings text else yes.eval bindings text
  | .store name op t => do
    let old ← if op.isEmpty then pure 0 else lookup bindings name
    let n ← combine text op old (← t.eval bindings text)
    modify ((name, n) :: ·)
    return n

def eval (bindings : String → Option String) (text : String) :
    Except Fault (Int64 × Stored) := do
  let t ← parse text
  t.eval bindings text []

end PartitionTest.Shell.Arithmetic
