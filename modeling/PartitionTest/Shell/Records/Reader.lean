import PartitionTest.Shell.Records.Patterns
import PartitionTest.Shell.Records.Reading

/-! Reading expressions. -/
namespace PartitionTest.Shell.Records

/-- What cannot be read is noted where it stands, and what follows it may be
read again; without a note, reading ends. -/
abbrev Read := ExceptT (Option Note) (StateM Reading)

namespace Reader

def here : Read Located := do return ((← get).tokens.headD ⟨.ending, ⟨"", 1⟩⟩)

def peek : Read Token := do return (← here).token

def maxNotes : Nat := 5

def addNote (n : Note) : Read Unit := do
  modify fun r => { r with notes := r.notes ++ [n] }
  if maxNotes ≤ (← get).notes.length then throw none

def note (line : Line) (text : String) : Read Unit := addNote { line := line, text := text }

def settle : Nat → Read Unit
  | 0 => pure ()
  | n + 1 => do
    let r ← get
    match r.tokens with
    | ⟨.sign ")", line⟩ :: rest =>
      if r.depth = 0 then
        set { r with tokens := rest }
        note line "extra ')'"
        settle n
    | ⟨.sign "\x7d", line⟩ :: rest =>
      if r.braces = 0 then
        let rest := match rest with
          | ⟨.sign ";", _⟩ :: rest => rest
          | _ => rest
        set { r with tokens := rest }
        note line "extra '\x7d'"
        match rest with
        | ⟨.newline, line⟩ :: _ =>
          throw (some { line := line, text := "syntax error at or near end of line" })
        | _ => settle n
    | _ => pure ()

def skip : Read Unit := do
  modify fun r =>
    let r := match r.tokens.head?.map (·.token) with
      | some (.sign "(") => { r with depth := r.depth + 1 }
      | some (.sign ")") => { r with depth := r.depth - 1 }
      | some (.sign "\x7b") => { r with braces := r.braces + 1 }
      | some (.sign "\x7d") => { r with braces := r.braces - 1 }
      | _ => r
    { r with tokens := r.tokens.tail }
  settle (← get).tokens.length

/-- Notes what is wrong with the next token; what is no token ends the reading. -/
def fault : Read α := do
  let t ← here
  let r ← get
  let wrong (text : String) : Read α := throw (some { line := t.line, text := text })
  match t.token with
  | .stray _ => throw (some { line := t.line, text := t.token.shown, isStray := true })
  | .bad message =>
    note t.line message
    throw none
  | .ending =>
    wrong (if 0 < r.braces then "missing \x7d near end of file" else "syntax error at or near end of file")
  | token =>
    let closes := match token with
      | .newline => true
      | .sign s => s == "\x7d" || s == ";"
      | _ => false
    wrong ((if 0 < r.depth && closes then "missing ) near " else "syntax error at or near ") ++
      token.shown)

def isNext (s : String) : Read Bool := do return (← peek).isSign s

def expect (s : String) : Read Unit := do
  if ← isNext s then skip else fault

def accept (s : String) : Read Bool := do
  if ← isNext s then
    skip
    return true
  else return false

def skipLines : Nat → Read Unit
  | 0 => pure ()
  | n + 1 => do
    if let .newline ← peek then
      skip
      skipLines n

def maxLines : Nat := 100000

def acceptThenLines (s : String) : Read Bool := do
  if ← accept s then
    skipLines maxLines
    return true
  else return false

def enclosed (body : Read α) : Read α := do
  let printing := (← get).printing
  modify fun r => { r with printing := false }
  let a ← body
  expect ")"
  modify fun r => { r with printing := printing }
  return a

def placeOf (name : String) : Read Place := do
  match (← get).owner with
  | some (_, params) =>
    match params.findIdx? (· == name) with
    | some i => return .inner i
    | none => return .outer name
  | none => return .outer name

def holderOf (p : Place) : Read Holder := do
  match p with
  | .inner _ => return ⟨(← get).owner.map (·.1), p⟩
  | .outer _ => return ⟨none, p⟩

def used (name : String) (role : Role) (line : Line) : Read Place := do
  let p ← placeOf name
  let h ← holderOf p
  match Reading.role (← get) h with
  | .unknown => modify fun r => { r with roles := (h, role) :: r.roles }
  | known =>
    if known != role then
      let kind := match p with
        | .inner _ => "local "
        | .outer _ => ""
      note line ("illegal reference to " ++ kind ++ Reading.shownRole known ++ " " ++ name)
  return p

def isFunction (name : String) : Read Bool := do
  let r ← get
  match ← placeOf name with
  | .inner _ => return false
  | .outer _ =>
    return (r.defined.lookup name).isSome || r.calls.any (·.function == name) ||
      (r.owner.map (·.1)) == some name

def variableName : Read (String × Line) := do
  let t ← here
  match t.token with
  | .name s | .called s =>
    skip
    if ← isFunction s then fault
    return (s, t.line)
  | _ => fault

def arrayName : Read Place := do
  let (name, line) ← variableName
  used name .array line

def isTarget : Expr → Bool
  | .scalar _ | .field _ | .element _ _ => true
  | _ => false

def pattern (source : String) (line : Line) : Read Expr := do
  match Patterns.parse source with
  | .ok r => return .pattern source r
  | .error reason =>
    note line ("regular expression compile failed (" ++ reason ++ ")\n" ++ source)
    return .number 0.0

def sought (e : Expr) (line : Line) : Read Expr :=
  match e with
  | .text s => pattern s line
  | e => return e

def list (whole : Read Expr) : Nat → Read (List Expr)
  | 0 => fault
  | n + 1 => do
    let e ← whole
    if ← acceptThenLines "," then return e :: (← list whole n)
    else return [e]

/-- Expressions with commas between them up to a closing parenthesis. -/
def arguments (whole : Read Expr) : Read (List Expr) :=
  enclosed do
    if ← isNext ")" then return [] else list whole maxLines

def named (whole : Read Expr) : Read Expr := do
  let (name, line) ← variableName
  if ← accept "[" then
    let keys ← list whole maxLines
    expect "]"
    return .element (← used name .array line) keys
  else return .scalar (← used name .scalar line)

/-- An argument of a function: a name by itself may stand for an array. -/
def argument (whole : Read Expr) : Read (Expr × Option Holder) := do
  match (← get).tokens with
  | ⟨.name name, _⟩ :: next :: _ =>
    if (next.token.isSign "," || next.token.isSign ")") && !(← isFunction name) then
      skip
      let p ← placeOf name
      return (.scalar p, some (← holderOf p))
    else return (← whole, none)
  | _ => return (← whole, none)

def callArguments (whole : Read Expr) : Nat → Read (List (Expr × Option Holder))
  | 0 => fault
  | n + 1 => do
    let e ← argument whole
    if ← acceptThenLines "," then return e :: (← callArguments whole n)
    else return [e]

def called (c : Call) : Read Unit := do
  match (← get).defined.lookup c.function with
  | none => modify fun r => { r with calls := c :: r.calls }
  | some count =>
    modify fun r => r.told c
    let r ← get
    if r.isSettled c || count < c.arguments.length then
      (r.flaws c count).forM addNote
    else set { r with calls := c :: r.calls }

def call (whole : Read Expr) (name : String) (line : Line) : Read Expr := do
  expect "("
  let args ← enclosed do
    if ← isNext ")" then return [] else callArguments whole maxLines
  called ⟨name, line, args.map (·.2)⟩
  return .call name (args.map (·.1))

def counts : Builtin → Nat × Nat
  | .length => (0, 1)
  | .substr | .split | .sub | .gsub => (2, 3)
  | .index | .matches | .atan2 => (2, 2)
  | .sprintf => (1, 255)
  | .rand | .time => (0, 0)
  | .srand | .flush => (0, 1)
  | .timeText => (0, 3)
  | .lower | .upper | .int | .sqrt | .exp | .log | .sin | .cos | .system | .close | .timeOf => (1, 1)

/-- The arguments of a builtin function that splits or substitutes. -/
def textArguments (whole : Read Expr) (b : Builtin) : Read (List Expr) := do
  let line := (← here).line
  let first ← whole
  if !(← acceptThenLines ",") then fault
  match b with
  | .split =>
    let p ← arrayName
    if ← acceptThenLines "," then return [first, .array p, ← whole] else return [first, .array p]
  | _ =>
    let first ← sought first line
    let second ← whole
    if ← acceptThenLines "," then
      let t ← here
      let target ← whole
      if !isTarget target then
        throw (some { line := t.line, text := "syntax error at or near " ++ t.token.shown })
      return [first, second, target]
    else return [first, second]

def builtinCall (whole : Read Expr) (name : String) (line : Line) : Read Expr := do
  let b := (Tokens.builtins.lookup name).getD .length
  skip
  if b = .length && !(← isNext "(") then return .builtin .length []
  expect "("
  let args ← match b with
    | .split | .sub | .gsub => enclosed (textArguments whole b)
    | .length => enclosed do
      match (← get).tokens with
      | ⟨.name name, _⟩ :: next :: _ =>
        if next.token.isSign ")" && !(← isFunction name) then
          skip
          return [.scalar (← placeOf name)]
        else return [← whole]
      | _ => if ← isNext ")" then return [] else return [← whole]
    | .matches => do
      match ← arguments whole with
      | [e, pattern] => pure [e, ← sought pattern line]
      | es => pure es
    | _ => arguments whole
  let (least, most) := counts b
  if args.length < least || most < args.length then
    note line ("wrong number of arguments in call to " ++ name)
  return .builtin b args

/-- Something that can be assigned, in front of which nothing stands. -/
def target (whole : Read Expr) (operand : Read Expr) : Read Expr := do
  match ← peek with
  | .name _ => named whole
  | .sign "$" =>
    skip
    return .field (← operand)
  | _ => fault

def getline (whole operand : Read Expr) (kind : InputKind) (source : Option Expr) : Read Expr := do
  skip
  let place ← match ← peek with
    | .name _ | .sign "$" => some <$> target whole operand
    | _ => pure none
  if kind = .records && (← accept "<") then
    return .getline .file (some (← operand)) place
  else return .getline kind source place

def primary (whole operand : Read Expr) : Read Expr := do
  let t ← here
  match t.token with
  | .number x _ =>
    skip
    return .number x
  | .text s =>
    skip
    return .text s
  | .pattern source =>
    skip
    pattern source t.line
  | .name name =>
    if ← isFunction name then
      skip
      call whole name t.line
    else named whole
  | .called name =>
    let p ← placeOf name
    if Reading.role (← get) (← holderOf p) != .unknown || p != .outer name then named whole
    else
      skip
      call whole name t.line
  | .builtin name => builtinCall whole name t.line
  | .keyword "getline" => getline whole operand .records none
  | .sign "$" =>
    skip
    return .field (← operand)
  | .sign "(" =>
    skip
    match ← enclosed (list whole maxLines) with
    | [e] => return match e with
      | .scalar _ | .field _ | .element _ _ => .plain e
      | e => e
    | keys =>
      if (← peek).isKeyword "in" then
        skip
        return .isIn keys (← arrayName)
      else fault
  | _ => fault

def counted (whole : Read Expr) : Nat → Read Expr
  | 0 => fault
  | n + 1 => do
    let amount (s : String) : Float := if s == "++" then 1.0 else -1.0
    /- Behind a dollar sign only a value by itself. -/
    let bare : Read Expr := do
      match ← peek with
      | .sign "-" =>
        skip
        return .negate (← counted whole n)
      | .sign "+" =>
        skip
        return .plus (← counted whole n)
      | .sign "!" =>
        skip
        return .not (← counted whole n)
      | .sign "++" | .sign "--" => counted whole n
      | _ => primary whole (counted whole n)
    match ← peek with
    | .sign s =>
      if s == "++" || s == "--" then
        skip
        return .step true (amount s) (← target whole bare)
    | _ => pure ()
    let e ← primary whole bare
    match isTarget e, ← peek with
    | true, .sign s =>
      if s == "++" || s == "--" then
        skip
        return .step false (amount s) e
      else return e
    | _, _ => return e

mutual

def power (whole : Read Expr) : Nat → Read Expr
  | 0 => fault
  | n + 1 => do
    let e ← counted whole maxLines
    if ← accept "^" then return .arith .power e (← unary whole n) else return e

/-- Signs in front of a power, and reading from a command behind it. -/
def unary (whole : Read Expr) : Nat → Read Expr
  | 0 => fault
  | n + 1 => do
    match ← peek with
    | .sign "!" =>
      skip
      return .not (← unary whole n)
    | .sign "-" =>
      skip
      return .negate (← unary whole n)
    | .sign "+" =>
      skip
      return .plus (← unary whole n)
    | _ =>
      let e ← power whole n
      piped whole n e

def piped (whole : Read Expr) : Nat → Expr → Read Expr
  | 0, e => return e
  | n + 1, e => do
    match (← get).printing, (← get).tokens with
    | false, ⟨.sign "|", _⟩ :: ⟨.keyword "getline", _⟩ :: _ =>
      skip
      let read ← getline whole (counted whole maxLines) .command (some e)
      piped whole n read
    | _, _ => return e

end

def chain (operand : Read Expr) (operators : List (String × (Expr → Expr → Expr))) :
    Nat → Expr → Read Expr
  | 0, e => return e
  | n + 1, e => do
    match ← peek with
    | .sign s =>
      match operators.lookup s with
      | some combine =>
        skip
        if s == "&&" || s == "||" then skipLines maxLines
        chain operand operators n (combine e (← operand))
      | none => return e
    | _ => return e

def binary (operators : List (String × (Expr → Expr → Expr))) (operand : Read Expr) : Read Expr := do
  chain operand operators maxLines (← operand)

def additive (whole : Read Expr) : Read Expr :=
  binary [("+", .arith .add), ("-", .arith .subtract)]
    (binary [("*", .arith .multiply), ("/", .arith .divide), ("%", .arith .remainder)]
      (unary whole maxLines))

/-- Whether a token can begin the next operand of a concatenation. -/
def beginsOperand : Token → Bool
  | .number _ _ | .text _ | .pattern _ | .name _ | .called _ | .builtin _ => true
  | .keyword s => s == "getline"
  | .sign s => ["(", "$", "!", "++", "--"].contains s
  | _ => false

def concatenated (whole : Read Expr) : Nat → Expr → Read Expr
  | 0, e => return e
  | n + 1, e => do
    if beginsOperand (← peek) then concatenated whole n (.concat e (← additive whole)) else return e

def assignments : List (String × Option Arithmetic) :=
  [("=", none), ("+=", some .add), ("-=", some .subtract), ("*=", some .multiply),
    ("/=", some .divide), ("%=", some .remainder), ("^=", some .power)]

def term (whole : Read Expr) : Read Expr := do
  let e ← additive whole
  match isTarget e, ← peek with
  | true, .sign s =>
    match assignments.lookup s with
    | some op =>
      skip
      let value ← whole
      return match op with
        | none => .assign e value
        | some op => .update op e value
    | none => concatenated whole maxLines e
  | _, _ => concatenated whole maxLines e

def comparison (whole : Read Expr) : Read Expr := do
  let all : List (String × (Expr → Expr → Expr)) := [("==", .compare .equal), ("!=", .compare .unequal),
    ("<", .compare .less), ("<=", .compare .lessEqual), (">=", .compare .greaterEqual)]
  let printing := (← get).printing
  binary (if printing then all else (">", .compare .greater) :: all) (term whole)

def membership (operand : Read Expr) : Read Expr := do
  let e ← operand
  go maxLines e
where
  go : Nat → Expr → Read Expr
    | 0, e => return e
    | n + 1, e => do
      if (← peek).isKeyword "in" then
        skip
        go n (.isIn [e] (← arrayName))
      else return e

def search (operand : Read Expr) : Read Expr := do
  let e ← operand
  go maxLines e
where
  go : Nat → Expr → Read Expr
    | 0, e => return e
    | n + 1, e => do
      let t ← here
      if t.token.isSign "~" || t.token.isSign "!~" then
        skip
        go n (.found (t.token.isSign "!~") e (← sought (← operand) t.line))
      else return e

def logical (whole : Read Expr) : Read Expr :=
  binary [("||", .either)] (binary [("&&", .both)] (membership (search (comparison whole))))

def expression : Nat → Read Expr
  | 0 => fault
  | n + 1 => do
    let e ← logical (expression n)
    if ← accept "?" then
      let yes ← expression n
      expect ":"
      return .choice e yes (← expression n)
    else return e

def maxDepth : Nat := 1000

def whole : Read Expr := expression maxDepth

end Reader

end PartitionTest.Shell.Records
