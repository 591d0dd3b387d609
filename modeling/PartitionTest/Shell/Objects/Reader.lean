import PartitionTest.Shell.Objects.Tokens

/-! Reading expressions. -/
namespace PartitionTest.Shell.Objects

structure Flaw where
  kind : String := "SyntaxError"
  message : String
  line : Nat
  column : Nat
  finish : Nat
  /-- Whether it is found only after the whole script was read. -/
  isLate : Bool := false
deriving Inhabited

structure Reading where
  tokens : List Located
  /-- Brackets that are never closed, the innermost first. -/
  brackets : List Bracket
  /-- How many loops are open in the function. -/
  loops : Nat := 0
  inFunction : Bool := false
  /-- The names that are assigned in the function, and those that are not its own. -/
  assigned : List String := []
  declared : List String := []
  /-- Whether the function hands out values in its middle. -/
  yields : Bool := false
  /-- Values that are handed out in the middle of an expression, under the names of what
  comes back, the last one first. -/
  handed : List (String × Expr) := []
  /-- Notes on parameters, the last one first. -/
  notes : List (String × Expr) := []
  /-- The line and the column at which the last token ended. -/
  last : Nat × Nat := (1, 0)
deriving Inhabited

abbrev Read := ExceptT Flaw (StateM Reading)

namespace Reader

def here : Read Located := do return ((← get).tokens.headD ⟨.ending, 1, 0, 0⟩)

def peek : Read Token := do return (← here).token

def skip : Read Unit := modify fun r => { r with
  tokens := r.tokens.tail
  last := (r.tokens.head?.map fun t => (t.line, t.finish)).getD r.last }

def flawAt (t : Located) (message : String) : Read α := do
  let (line, finish) := (← get).last
  throw {
    message := message
    line := t.line
    column := t.column
    finish := if line = t.line && t.column < finish then finish else t.finish }

def flawHere (message : String) : Read α := do
  let t ← here
  throw { message := message, line := t.line, column := t.column, finish := t.finish }

/-- What is wrong with the next token. What is no token comes first, then a
bracket on a line before that is never closed. -/
def fault : Read α := do
  let t ← here
  let r ← get
  if let .indent := t.token then
    throw { kind := "IndentationError", message := "unexpected indent", line := t.line, column := 0, finish := 0 }
  let bad := r.tokens.findSome? fun t => match t.token with
    | .bad kind message _ => some (kind, message, t)
    | _ => none
  match bad with
  | some (kind, message, t) =>
    throw { kind := kind, message := message, line := t.line, column := t.column, finish := t.column + 1 }
  | none =>
    let isEnd := match t.token with
      | .ending => true
      | _ => false
    if let b :: _ := r.brackets then
      if isEnd || b.line < t.line then
        throw { message := "'" ++ String.singleton b.sign ++ "' was never closed", line := b.line,
                column := b.column, finish := b.column + 1 }
    flawHere "invalid syntax"

def lateFlaw (t : Located) (message : String) : Read α := do
  let (line, finish) := (← get).last
  throw {
    message := message
    line := t.line
    column := t.column
    finish := if line = t.line && t.column < finish then finish else t.finish
    isLate := true }

def isNext (s : String) : Read Bool := do return (← peek).isSign s

def isKeywordNext (s : String) : Read Bool := do return (← peek).isKeyword s

def accept (s : String) : Read Bool := do
  if ← isNext s then
    skip
    return true
  else return false

def acceptKeyword (s : String) : Read Bool := do
  if ← isKeywordNext s then
    skip
    return true
  else return false

def expect (s : String) : Read Unit := do
  unless ← accept s do fault

def expectKeyword (s : String) : Read Unit := do
  unless ← acceptKeyword s do fault

def name : Read String := do
  match ← peek with
  | .name s =>
    skip
    return s
  | _ => fault

def maxItems : Nat := 1000000

/-- Items with commas between them and perhaps behind them, and whether there
was a comma. -/
def items (item : Read α) (ends : Read Bool) : Nat → Read (List α × Bool)
  | 0 => fault
  | n + 1 => do
    if ← ends then return ([], false)
    let a ← item
    if ← accept "," then
      let (more, _) ← items item ends n
      return (a :: more, true)
    else return ([a], false)

/-- Whether no further item of a list without brackets can follow. -/
def endsList : Read Bool := do
  match ← peek with
  | .newline | .ending => return true
  | .sign s => return ["=", ")", "]", "\x7d", ";", ":", "+=", "-=", "*=", "/=", "//=", "%=", "**=", ">>=",
      "<<=", "&=", "|=", "^="].contains s
  | .keyword s => return s == "in"
  | _ => return false

def tupleOf (item : Read Expr) : Read Expr := do
  match ← items item endsList maxItems with
  | ([], _) => fault
  | ([e], false) => return e
  | (es, _) => return .tuple es

def chain (operand : Read Expr) (operators : List (String × Arithmetic)) : Nat → Expr → Read Expr
  | 0, e => return e
  | n + 1, e => do
    match ← peek with
    | .sign s =>
      match operators.lookup s with
      | some op =>
        skip
        chain operand operators n (.arith op e (← operand))
      | none => return e
    | _ => return e

def binary (operators : List (String × Arithmetic)) (operand : Read Expr) : Read Expr := do
  chain operand operators maxItems (← operand)

/-- The source of a value up to what ends it outside of brackets and quotes. -/
def valueEnd (depth : Nat) (quote : Option Char) : List Char → List Char → Option (List Char × List Char)
  | _, [] => none
  | read, '!' :: '=' :: rest => valueEnd depth quote ('=' :: '!' :: read) rest
  | read, c :: rest =>
    match quote with
    | some q => valueEnd depth (if c = q then none else quote) (c :: read) rest
    | none =>
      if c = '\'' || c = '"' then valueEnd depth (some c) (c :: read) rest
      else if c = '(' || c = '[' || c = '\x7b' then valueEnd (depth + 1) none (c :: read) rest
      else if 0 < depth && (c = ')' || c = ']' || c = '\x7d') then valueEnd (depth - 1) none (c :: read) rest
      else if depth = 0 && (c = '\x7d' || c = ':' || c = '!') then some (read.reverse, c :: rest)
      else valueEnd depth none (c :: read) rest

def within (source : List Char) (body : Read α) : Read α := do
  let before ← get
  let line := (← here).line
  let (tokens, brackets) := Tokens.ofText (String.ofList ('(' :: source ++ [')']))
  let moved := tokens.map fun t => { t with line := line }
  set { before with tokens := moved, brackets := brackets }
  expect "("
  let a ← body
  expect ")"
  set before
  return a

def parts (whole : Read Expr) (raw : Bool) : Nat → Bool → List Char → List Char →
    Read (List Expr × List Char)
  | 0, _, _, _ => fault
  | n + 1, inLayout, read, cs => do
    let plain : Read (List Expr) := do
      if read.isEmpty then return []
      match if raw then .ok read.reverse else Tokens.unescaped false (read.length + 1) read.reverse with
      | .ok cs => return [.constant (.text (String.ofList cs))]
      | .error message => flawHere message
    match cs with
    | [] => return (← plain, [])
    | '\x7b' :: '\x7b' :: rest =>
      if inLayout then flawHere "f-string: expressions nested too deeply"
      parts whole raw n inLayout ('\x7b' :: read) rest
    | '\x7d' :: rest =>
      if inLayout then return (← plain, cs)
      else match rest with
      | '\x7d' :: rest => parts whole raw n inLayout ('\x7d' :: read) rest
      | _ => flawHere "f-string: single '\x7d' is not allowed"
    | '\x7b' :: rest =>
      let before ← plain
      match valueEnd 0 none [] rest with
      | none => flawHere "f-string: expecting '\x7d'"
      | some (source, rest) =>
        if source.all (· = ' ') then flawHere "f-string: empty expression not allowed"
        let bare := (source.reverse.dropWhile (· = ' ')).reverse
        let tells := bare.getLast? == some '=' &&
          !((bare.dropLast.getLast?).map "=!<>".toList.contains).getD false
        let e ← within (if tells then bare.dropLast else source) (tupleOf whole)
        let (conversion, rest) := match rest with
          | '!' :: c :: rest => (some c, rest)
          | _ => (none, rest)
        let (layout, rest) ← match rest with
          | ':' :: rest =>
            let (es, rest) ← parts whole raw n true [] rest
            pure (some (Expr.joined es), rest)
          | _ => pure (none, rest)
        match rest with
        | '\x7d' :: rest =>
          let lead := if tells then [Expr.constant (.text (String.ofList source))] else []
          let conversion := if tells && conversion.isNone && layout.isNone then some 'r' else conversion
          let (more, rest) ← parts whole raw n inLayout [] rest
          return (before ++ lead ++ .shown e conversion layout :: more, rest)
        | _ => flawHere "f-string: expecting '\x7d'"
    | '\\' :: c :: rest =>
      parts whole raw n inLayout (if c = '\x7b' then '\\' :: read else c :: '\\' :: read)
        (if c = '\x7b' then c :: rest else rest)
    | c :: rest => parts whole raw n inLayout (c :: read) rest

def texts (whole : Read Expr) : Nat → Read (List Expr)
  | 0 => fault
  | n + 1 => do
    match ← peek with
    | .constant (.text s) =>
      skip
      return .constant (.text s) :: (← texts whole n)
    | .joined source raw =>
      let (es, _) ← parts whole raw (source.length + 2) false [] source
      skip
      return .joined es :: (← texts whole n)
    | _ => return []

def bytesRun : Nat → Read (List String)
  | 0 => return []
  | n + 1 => do
    match ← peek with
    | .constant (.bytes s) =>
      skip
      return s :: (← bytesRun n)
    | _ => return []

def joinedText (es : List Expr) : Expr :=
  let plain? : List Expr → Option (List String) := fun es => es.mapM fun
    | .constant (.text s) => some s
    | _ => none
  match plain? es with
  | some ss => .constant (.text (String.join ss))
  | none => .joined es

/-- Something that a value is assigned to in the middle of an expression. -/
def bound (whole : Read Expr) : Read Expr := do
  match (← get).tokens with
  | ⟨.name s, _, _, _⟩ :: ⟨.sign ":=", _, _, _⟩ :: _ =>
    skip
    skip
    modify fun r => { r with assigned := s :: r.assigned }
    return .bind s (← whole)
  | _ => whole

def spreadable (operand whole : Read Expr) : Read Expr := do
  if ← accept "*" then return .spread (← operand) else bound whole

def loopTarget (operand : Read Expr) : Read Expr :=
  tupleOf do
    if ← accept "*" then return .spread (← operand) else operand

def clauses (operand test : Read Expr) : Nat → Read (List (Expr × Expr × List Expr))
  | 0 => return []
  | n + 1 => do
    if ← acceptKeyword "for" then
      let target ← loopTarget operand
      expectKeyword "in"
      let source ← test
      let tests ← conditions maxItems
      return (target, source, tests) :: (← clauses operand test n)
    else return []
where
  conditions : Nat → Read (List Expr)
    | 0 => return []
    | n + 1 => do
      if ← acceptKeyword "if" then
        let e ← test
        return e :: (← conditions n)
      else return []

/-- Behind an opening parenthesis. What is handed out there comes back under a
name that no script can have. -/
def parenthesized (operand test whole : Read Expr) : Read Expr := do
  if ← accept ")" then return .tuple []
  if ← acceptKeyword "yield" then
    let e ← if ← acceptKeyword "from" then pure (some (.spread (← whole)))
      else if ← isNext ")" then pure none
      else some <$> tupleOf (spreadable operand whole)
    expect ")"
    let s := "." ++ toString (← get).handed.length
    modify fun r => { r with yields := true, handed := (s, .yield e) :: r.handed, assigned := s :: r.assigned }
    return .name s
  let first ← spreadable operand whole
  if ← isKeywordNext "for" then
    let cs ← clauses operand test maxItems
    expect ")"
    return .gather .stream first cs
  if ← accept "," then
    let (more, _) ← items (spreadable operand whole) (isNext ")") maxItems
    expect ")"
    return .tuple (first :: more)
  expect ")"
  match first with
  | .spread _ => fault
  | _ => return first

def listDisplay (operand test whole : Read Expr) : Read Expr := do
  if ← accept "]" then return .list []
  let first ← spreadable operand whole
  if ← isKeywordNext "for" then
    let cs ← clauses operand test maxItems
    expect "]"
    return .gather .list first cs
  let more ← if ← accept "," then (·.1) <$> items (spreadable operand whole) (isNext "]") maxItems else pure []
  expect "]"
  return .list (first :: more)

def entry (operand whole : Read Expr) : Read (Option Expr × Expr) := do
  if ← accept "**" then return (none, ← operand)
  let key ← whole
  expect ":"
  return (some key, ← whole)

def braceDisplay (operand test whole : Read Expr) : Read Expr := do
  if ← accept "\x7d" then return .dict []
  let rest (first : Option Expr × Expr) : Read Expr := do
    let more ← if ← accept "," then (·.1) <$> items (entry operand whole) (isNext "\x7d") maxItems else pure []
    expect "\x7d"
    return .dict (first :: more)
  if ← accept "**" then rest (none, ← operand)
  else
    let first ← spreadable operand whole
    if ← accept ":" then
      let value ← whole
      if ← isKeywordNext "for" then
        let cs ← clauses operand test maxItems
        expect "\x7d"
        return .gatherDict first value cs
      else rest (some first, value)
    else if ← isKeywordNext "for" then
      let cs ← clauses operand test maxItems
      expect "\x7d"
      return .gather .set first cs
    else
      let more ← if ← accept "," then (·.1) <$> items (spreadable operand whole) (isNext "\x7d") maxItems
        else pure []
      expect "\x7d"
      return .set (first :: more)

def atom (operand test whole : Read Expr) : Read Expr := do
  match ← peek with
  | .name s =>
    skip
    return .name s
  | .constant (.text _) | .joined _ _ => return joinedText (← texts whole maxItems)
  | .constant (.bytes _) => return .constant (.bytes (String.join (← bytesRun maxItems)))
  | .constant v =>
    skip
    return .constant v
  | .keyword "True" =>
    skip
    return .constant (.bool true)
  | .keyword "False" =>
    skip
    return .constant (.bool false)
  | .keyword "None" =>
    skip
    return .constant .nothing
  | .sign "..." =>
    skip
    return .constant .ellipsis
  | .sign "(" =>
    skip
    parenthesized operand test whole
  | .sign "[" =>
    skip
    listDisplay operand test whole
  | .sign "\x7b" =>
    skip
    braceDisplay operand test whole
  | _ => fault

def argument (operand test whole : Read Expr) : Read (Giving × Expr) := do
  if ← accept "*" then return (.spread, ← whole)
  else if ← accept "**" then return (.spreadNamed, ← whole)
  else match (← get).tokens with
  | ⟨.name s, _, _, _⟩ :: ⟨.sign "=", _, _, _⟩ :: _ =>
    skip
    skip
    return (.named s, ← whole)
  | _ =>
    let e ← bound whole
    if ← isKeywordNext "for" then
      return (.plain, .gather .stream e (← clauses operand test maxItems))
    else return (.plain, e)

def index (whole : Read Expr) : Read Expr := do
  let bound : Read (Option Expr) := do
    match ← peek with
    | .sign s => if s == ":" || s == "]" || s == "," then return none else some <$> whole
    | _ => some <$> whole
  let start ← bound
  if ← accept ":" then
    let stop ← bound
    let step ← if ← accept ":" then bound else pure none
    return .slice start stop step
  else match start with
  | some e => return e
  | none => fault

def trailers (operand test whole : Read Expr) : Nat → Expr → Read Expr
  | 0, e => return e
  | n + 1, e => do
    match ← peek with
    | .sign "." =>
      skip
      let s ← name
      trailers operand test whole n (.member e s)
    | .sign "(" =>
      skip
      let (args, _) ← items (argument operand test whole) (isNext ")") maxItems
      expect ")"
      trailers operand test whole n (.call e args)
    | .sign "[" =>
      skip
      let e' ← match ← items (index whole) (isNext "]") maxItems with
        | ([i], false) => pure i
        | ([], _) => fault
        | (es, _) => pure (.tuple es)
      expect "]"
      trailers operand test whole n (.item e e')
    | _ => return e

mutual

/-- Powers bind more than signs in front, and less than signs behind. -/
def power (operand test whole : Read Expr) : Nat → Read Expr
  | 0 => fault
  | n + 1 => do
    let e ← trailers operand test whole maxItems (← atom operand test whole)
    if ← accept "**" then return .arith .power e (← unary operand test whole n) else return e

def unary (operand test whole : Read Expr) : Nat → Read Expr
  | 0 => fault
  | n + 1 => do
    match ← peek with
    | .sign "-" =>
      skip
      return .signed .minus (← unary operand test whole n)
    | .sign "+" =>
      skip
      return .signed .plus (← unary operand test whole n)
    | .sign "~" =>
      skip
      return .signed .invert (← unary operand test whole n)
    | _ => power operand test whole n

end

def arithmetic (unary : Read Expr) : Read Expr :=
  binary [("|", .bitOr)] <| binary [("^", .bitXor)] <| binary [("&", .bitAnd)] <|
    binary [("<<", .shiftLeft), (">>", .shiftRight)] <| binary [("+", .add), ("-", .subtract)] <|
      binary [("*", .multiply), ("@", .matrix), ("/", .divide), ("//", .quotient), ("%", .remainder)] unary

def relation? : Read (Option Relation) := do
  let signs : List (String × Relation) := [("==", .equal), ("!=", .unequal), ("<", .less),
    ("<=", .lessEqual), (">", .greater), (">=", .greaterEqual)]
  match ← peek with
  | .sign s =>
    match signs.lookup s with
    | some r =>
      skip
      return some r
    | none => return none
  | .keyword "in" =>
    skip
    return some .isIn
  | .keyword "is" =>
    skip
    return some (if ← acceptKeyword "not" then .notSame else .same)
  | .keyword "not" =>
    match (← get).tokens with
    | _ :: ⟨.keyword "in", _, _, _⟩ :: _ =>
      skip
      skip
      return some .notIn
    | _ => return none
  | _ => return none

def relations (operand : Read Expr) : Nat → Read (List (Relation × Expr))
  | 0 => return []
  | n + 1 => do
    match ← relation? with
    | some r =>
      let e ← operand
      return (r, e) :: (← relations operand n)
    | none => return []

def comparison (operand : Read Expr) : Read Expr := do
  let e ← operand
  match ← relations operand maxItems with
  | [] => return e
  | rs => return .compare e rs

def negation (operand : Read Expr) : Nat → Read Expr
  | 0 => fault
  | n + 1 => do
    if ← acceptKeyword "not" then return .not (← negation operand n) else comparison operand

def conjunction (operand : Read Expr) : Nat → Read Expr
  | 0 => fault
  | n + 1 => do
    let e ← negation operand maxItems
    if ← acceptKeyword "and" then return .both e (← conjunction operand n) else return e

def disjunction (operand : Read Expr) : Nat → Read Expr
  | 0 => fault
  | n + 1 => do
    let e ← conjunction operand maxItems
    if ← acceptKeyword "or" then return .either e (← disjunction operand n) else return e

def parameter (whole : Read Expr) (typed : Bool) (behindRest : Bool) : Read (String × Taking × Option Expr) := do
  let taking ← if ← accept "**" then pure Taking.restNamed
    else if ← accept "*" then pure Taking.rest
    else pure (if behindRest then Taking.named else Taking.one)
  match taking, ← isNext "," with
  | .rest, true => return ("", .rest, none)
  | _, _ =>
    let s ← name
    if typed then
      if ← accept ":" then
        let e ← whole
        modify fun r => { r with notes := (s, e) :: r.notes }
    let default ← if ← accept "=" then some <$> whole else pure none
    return (s, taking, default)

def parameters (whole : Read Expr) (typed : Bool) (closing : String) :
    Nat → Bool → Read (List (String × Taking × Option Expr))
  | 0, _ => fault
  | n + 1, behindRest => do
    if ← isNext closing then return []
    if ← accept "/" then
      let _ ← accept ","
      return ("/", .front, none) :: (← parameters whole typed closing n behindRest)
    else
      let p ← parameter whole typed behindRest
      if ← accept "," then return p :: (← parameters whole typed closing n (behindRest || p.2.1 = .rest))
      else return [p]

/-- Parameters in front of a stroke are given by their places alone. -/
def placed (params : List (String × Taking × Option Expr)) : List (String × Taking × Option Expr) :=
  let isMark (p : String × Taking × Option Expr) : Bool := p.2.1 = .front
  if params.any isMark then
    (params.takeWhile (!isMark ·)).map (fun (s, _, e) => (s, Taking.front, e)) ++
      (params.dropWhile (!isMark ·)).drop 1
  else params

def expression : Nat → Read Expr
  | 0 => flawHere "too many nested parentheses"
  | n + 1 => do
    let whole := expression n
    if ← acceptKeyword "lambda" then
      let params ← parameters whole false ":" maxItems false
      expect ":"
      return .lambda (placed params) (← whole)
    let operand := arithmetic (unary (operandOf n) (testOf n) whole maxItems)
    let e ← disjunction operand maxItems
    if ← acceptKeyword "if" then
      let test ← disjunction operand maxItems
      expectKeyword "else"
      return .choice test e (← whole)
    else return e
where
  /-- Something that stands in front of a relation. -/
  operandOf : Nat → Read Expr
    | 0 => flawHere "too many nested parentheses"
    | n + 1 => arithmetic (unary (operandOf n) (testOf n) (expression n) maxItems)
  /-- Something without a choice around it. -/
  testOf : Nat → Read Expr
    | 0 => flawHere "too many nested parentheses"
    | n + 1 => disjunction (arithmetic (unary (operandOf n) (testOf n) (expression n) maxItems)) maxItems

def maxDepth : Nat := 100

def whole : Read Expr := expression maxDepth

def operand : Read Expr := expression.operandOf maxDepth

def wholeList : Read Expr := tupleOf (spreadable operand whole)

end Reader

end PartitionTest.Shell.Objects
