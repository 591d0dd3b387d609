import PartitionTest.Shell.Objects.Reader

/-! Reading statements and whole scripts. -/
namespace PartitionTest.Shell.Objects.Reader

mutual

def untargetable : Expr → Option String
  | .name _ | .member _ _ | .item _ _ => none
  | .tuple es | .list es => firstUntargetable es
  | .spread e => untargetable e
  | .constant (.bool true) => some "True"
  | .constant (.bool false) => some "False"
  | .constant .nothing => some "None"
  | .constant .ellipsis => some "ellipsis"
  | .constant _ => some "literal"
  | .joined _ | .shown _ _ _ => some "f-string expression"
  | .call _ _ => some "function call"
  | .compare _ _ => some "comparison"
  | .lambda _ _ => some "lambda"
  | .choice _ _ _ => some "conditional expression"
  | .dict _ => some "dict literal"
  | .set _ => some "set display"
  | .gather .list _ _ => some "list comprehension"
  | .gather .set _ _ => some "set comprehension"
  | .gather .stream _ _ => some "generator expression"
  | .gatherDict _ _ _ => some "dict comprehension"
  | .bind _ _ => some "named expression"
  | _ => some "expression"

def firstUntargetable : List Expr → Option String
  | [] => none
  | e :: es => (untargetable e).orElse fun _ => firstUntargetable es

end

mutual

def targetNames : Expr → List String
  | .name s => [s]
  | .tuple es | .list es => allTargetNames es
  | .spread e => targetNames e
  | _ => []

def allTargetNames : List Expr → List String
  | [] => []
  | e :: es => targetNames e ++ allTargetNames es

end

def assigns (names : List String) : Read Unit :=
  modify fun r => { r with assigned := names ++ r.assigned }

def target (start : Located) (e : Expr) : Read Expr := do
  match untargetable e with
  | some what =>
    let isWord := ["True", "False", "None"].contains what
    let advice := match e with
      | .tuple _ | .list _ => ""
      | _ => if isWord then "" else " here. Maybe you meant '==' instead of '='?"
    flawAt start ("cannot assign to " ++ what ++ advice)
  | none =>
    assigns (targetNames e)
    return e

def updates : List (String × Arithmetic) :=
  [("+=", .add), ("-=", .subtract), ("*=", .multiply), ("/=", .divide), ("//=", .quotient),
    ("%=", .remainder), ("**=", .power), (">>=", .shiftRight), ("<<=", .shiftLeft), ("&=", .bitAnd),
    ("|=", .bitOr), ("^=", .bitXor), ("@=", .matrix)]

def assigned : Read Expr := do
  if ← acceptKeyword "yield" then
    modify fun r => { r with yields := true }
    if ← acceptKeyword "from" then return .yield (some (.spread (← whole)))
    if ← endsList then return .yield none else return .yield (some (← wholeList))
  else wholeList

def assignment (start : Located) (first : Expr) : Nat → List Expr → Read Statement
  | 0, _ => fault
  | n + 1, targets => do
    let t ← target start first
    expect "="
    let start ← here
    let e ← assigned
    if ← isNext "=" then assignment start e n (targets ++ [t]) else return .assign (targets ++ [t]) e

def expressionStatement : Read Statement := do
  let start ← here
  let e ← assigned
  match ← peek with
  | .sign "=" => assignment start e maxItems []
  | .sign ":" =>
    match e with
    | .name _ | .member _ _ | .item _ _ =>
      skip
      let note ← whole
      let t ← target start e
      return .annotate t note (← if ← accept "=" then some <$> assigned else pure none)
    | _ => fault
  | .sign s =>
    match updates.lookup s with
    | some op =>
      match e with
      | .name _ | .member _ _ | .item _ _ =>
        let t ← target start e
        skip
        return .update op t (← assigned)
      | _ => flawAt start ("'" ++ (untargetable e).getD "tuple" ++
          "' is an illegal expression for augmented assignment")
    | none => return .expr e
  | _ => return .expr e

def dotted : Nat → Read String
  | 0 => fault
  | n + 1 => do
    let s ← name
    if ← accept "." then return s ++ "." ++ (← dotted n) else return s

def renamed (path : Read String) : Read (String × String) := do
  let s ← path
  let given ← if ← acceptKeyword "as" then name else pure s
  assigns [(given.splitOn ".").headD given]
  return (s, given)

def importStatement : Read Statement := do
  if ← endsList then fault
  let (all, _) ← items (renamed (dotted maxItems)) endsList maxItems
  match all with
  | [(path, given)] => return .use path given
  | _ => return .choice (.constant (.bool true)) (all.map fun (path, given) => .use path given) []

def fromStatement : Read Statement := do
  let path ← dotted maxItems
  expectKeyword "import"
  if ← accept "*" then return .take path [("*", "*")]
  let closed ← accept "("
  let (all, _) ← items (renamed name) (if closed then isNext ")" else endsList) maxItems
  if closed then expect ")"
  if all.isEmpty then fault
  return .take path all

def optional (e : Read Expr) : Read (Option Expr) := do
  if ← endsList then return none else some <$> e

def deleted : Read Expr := do
  let start ← here
  let e ← whole
  match untargetable e with
  | some what => flawAt start ("cannot delete " ++ what)
  | none =>
    assigns (targetNames e)
    return e

/-- A statement without a block, behind its keyword if it has one. -/
def simple : Read Statement := do
  let t ← here
  match t.token with
  | .keyword "pass" =>
    skip
    return .nothing
  | .keyword "break" =>
    skip
    if (← get).loops = 0 then lateFlaw t "'break' outside loop"
    return .leave
  | .keyword "continue" =>
    skip
    if (← get).loops = 0 then lateFlaw t "'continue' not properly in loop"
    return .again
  | .keyword "return" =>
    skip
    let e ← optional wholeList
    unless (← get).inFunction do lateFlaw t "'return' outside function"
    return .return e
  | .keyword "raise" =>
    skip
    let e ← optional whole
    let cause ← if ← acceptKeyword "from" then some <$> whole else pure none
    return .raise e cause
  | .keyword "import" =>
    skip
    importStatement
  | .keyword "from" =>
    skip
    fromStatement
  | .keyword "assert" =>
    skip
    let e ← whole
    if ← accept "," then return .assert e (some (← whole)) else return .assert e none
  | .keyword "del" =>
    skip
    if ← endsList then fault
    let (targets, _) ← items deleted endsList maxItems
    return .delete targets
  | .keyword "global" | .keyword "nonlocal" =>
    skip
    if ← endsList then fault
    let (names, _) ← items name endsList maxItems
    modify fun r => { r with declared := names ++ r.declared }
    return .outer (t.token.isKeyword "global") names
  | _ => expressionStatement

/-- What is wrong behind a statement. A name that once was a statement tells so. -/
def faultBehind (t : Located) (s : Statement) : Read α := do
  match s with
  | .expr (.name word) =>
    if word == "print" || word == "exec" then
      let before ← get
      let isArgument ← try
          let (es, _) ← items (spreadable operand whole) endsList maxItems
          pure !es.isEmpty
        catch _ => pure false
      if isArgument then
        flawAt t ("Missing parentheses in call to '" ++ word ++ "'. Did you mean " ++ word ++ "(...)?")
      set before
    fault
  | _ => fault

/-- What is handed out in the middle of a statement comes in front of it. -/
def withHanded (row : Nat) (body : Read α) (put : List Statement → α → β) : Read β := do
  let before := (← get).handed
  modify fun r => { r with handed := [] }
  let a ← body
  let all := (← get).handed.reverse.map fun (s, e) => Statement.at row (.assign [.name s] e)
  modify fun r => { r with handed := before }
  return put all a

def line : Nat → Read (List Statement)
  | 0 => fault
  | n + 1 => do
    let t ← here
    let (first, bare) ← withHanded t.line simple fun all s => (all, s)
    let all := first ++ [Statement.at t.line bare]
    if ← accept ";" then
      match ← peek with
      | .newline =>
        skip
        return all
      | _ => return all ++ (← line n)
    else match ← peek with
    | .newline =>
      skip
      return all
    | .ending => return all
    | _ => faultBehind t bare

def dottedName (e : Expr) : Nat → Read Expr
  | 0 => fault
  | n + 1 => do
    if ← accept "." then dottedName (.member e (← name)) n else return e

def numberShape : Read Expr := do
  let signed : Read Expr := do
    let isMinus ← accept "-"
    match ← peek with
    | .constant (.int _) | .constant (.float _) | .constant (.imaginary _) =>
      let e ← atom operand whole whole
      return if isMinus then .signed .minus e else e
    | _ => fault
  let e ← signed
  if ← accept "+" then return .arith .add e (← signed)
  else if ← accept "-" then return .arith .subtract e (← signed)
  else return e

def grouped (all : List Shape) (hasComma : Bool) : Shape :=
  match all, hasComma with
  | [.further s], _ => .sequence [.further s]
  | [s], false => s
  | all, _ => .sequence all

mutual

def closedShape : Nat → Read Shape
  | 0 => flawHere "too many nested parentheses"
  | n + 1 => do
    match ← peek with
    | .constant (.text _) | .joined _ _ | .constant (.bytes _) => return .equal (← atom operand whole whole)
    | .constant _ | .sign "-" => return .equal (← numberShape)
    | .keyword "None" =>
      skip
      return .same .nothing
    | .keyword "True" =>
      skip
      return .same (.bool true)
    | .keyword "False" =>
      skip
      return .same (.bool false)
    | .name s =>
      skip
      let e ← dottedName (.name s) maxItems
      if ← accept "(" then
        let (all, _) ← items (memberShape n) (isNext ")") maxItems
        expect ")"
        let placed := all.filterMap fun (name, s) => if name.isNone then some s else none
        let members := all.filterMap fun (name, s) => name.map fun name => (name, s)
        return .ofKind e placed members
      else match e with
      | .name "_" => return .anything
      | .name s =>
        assigns [s]
        return .capture s
      | e => return .equal e
    | .sign "(" =>
      skip
      let (all, hasComma) ← items (starShape n) (isNext ")") maxItems
      expect ")"
      return grouped all hasComma
    | .sign "[" =>
      skip
      let (all, _) ← items (starShape n) (isNext "]") maxItems
      expect "]"
      return .sequence all
    | .sign "\x7b" =>
      skip
      let (all, _) ← items (entryShape n) (isNext "\x7d") maxItems
      expect "\x7d"
      let entries := all.filterMap fun (e, s, _) => e.map fun e => (e, s)
      return .entries entries ((all.findSome? fun (_, _, name) => name))
    | _ => fault

def memberShape : Nat → Read (Option String × Shape)
  | 0 => fault
  | n + 1 => do
    match (← get).tokens with
    | ⟨.name s, _, _, _⟩ :: ⟨.sign "=", _, _, _⟩ :: _ =>
      skip
      skip
      return (some s, ← shape n)
    | _ => return (none, ← shape n)

def starShape : Nat → Read Shape
  | 0 => fault
  | n + 1 => do
    if ← accept "*" then
      let s ← name
      if s == "_" then return .further none
      assigns [s]
      return .further (some s)
    else shape n

def entryShape : Nat → Read (Option Expr × Shape × Option String)
  | 0 => fault
  | n + 1 => do
    if ← accept "**" then
      let s ← name
      assigns [s]
      return (none, .anything, some s)
    else
      let key ← match ← peek with
        | .name s =>
          skip
          dottedName (.name s) maxItems
        | .sign "-" => numberShape
        | _ => atom operand whole whole
      expect ":"
      return (some key, ← shape n, none)

def shape : Nat → Read Shape
  | 0 => fault
  | n + 1 => do
    let first ← closedShape n
    let more ← alternatives n
    let s := if more.isEmpty then first else .either (first :: more)
    if ← acceptKeyword "as" then
      let name ← name
      assigns [name]
      return .named s name
    else return s

def alternatives : Nat → Read (List Shape)
  | 0 => return []
  | n + 1 => do
    if ← accept "|" then
      let s ← closedShape n
      return s :: (← alternatives n)
    else return []

end

def catchAll? : Shape → Option String
  | .anything => some "wildcard"
  | .capture s => some ("name capture '" ++ s ++ "'")
  | .named .anything s | .named (.capture s) _ => some ("name capture '" ++ s ++ "'")
  | .either all => match all.getLast? with
    | some .anything => some "wildcard"
    | some (.capture s) => some ("name capture '" ++ s ++ "'")
    | _ => none
  | _ => none

def level (statement : Read (List Statement)) : Nat → Read (List Statement)
  | 0 => fault
  | n + 1 => do
    match ← peek with
    | .dedent =>
      skip
      return []
    | .ending => return []
    | _ =>
      let s ← statement
      return s ++ (← level statement n)

/-- A colon, and the statements behind it; `owner` is what they belong to. -/
def block (statement : Read (List Statement)) (owner : String) (row : Nat) : Read (List Statement) := do
  unless ← accept ":" do
    match ← peek with
    | .bad _ _ _ => fault
    | _ =>
      let r ← get
      if r.brackets.isEmpty then flawHere "expected ':'" else fault
  match ← peek with
  | .newline =>
    skip
    match ← peek with
    | .indent =>
      skip
      level statement maxItems
    | .bad _ _ _ => fault
    | _ =>
      let t ← here
      throw {
        kind := "IndentationError"
        message := "expected an indented block after " ++ owner ++ " on line " ++ toString row
        line := t.line, column := t.column, finish := t.column + 1 }
  | _ => line maxItems

def inLoop (body : Read α) : Read α := do
  modify fun r => { r with loops := r.loops + 1 }
  let a ← body
  modify fun r => { r with loops := r.loops - 1 }
  return a

def last (statement : Read (List Statement)) (keyword : String) : Read (List Statement) := do
  let t ← here
  if ← acceptKeyword keyword then block statement ("'" ++ keyword ++ "' statement") t.line else return []

def choice (statement : Read (List Statement)) (keyword : String) : Nat → Read Statement
  | 0 => fault
  | n + 1 => do
    let t ← here
    skip
    let test ← bound whole
    let yes ← block statement ("'" ++ keyword ++ "' statement") t.line
    if ← isKeywordNext "elif" then
      let t ← here
      return .choice test yes [.at t.line (← choice statement "elif" n)]
    else return .choice test yes (← last statement "else")

def handlers (statement : Read (List Statement)) :
    Nat → Read (List (Option Expr × Option String × List Statement))
  | 0 => return []
  | n + 1 => do
    let t ← here
    if ← acceptKeyword "except" then
      let kind ← if ← isNext ":" then pure none else some <$> whole
      let given ← if ← acceptKeyword "as" then some <$> name else pure none
      assigns given.toList
      let body ← block statement "'except' statement" t.line
      return (kind, given, body) :: (← handlers statement n)
    else return []

def definition (statement : Read (List Statement)) (row : Nat) : Read Statement := do
  let s ← name
  assigns [s]
  unless ← isNext "(" do flawHere "expected '('"
  skip
  modify fun r => { r with notes := [] }
  let params ← parameters whole true ")" maxItems false
  expect ")"
  if ← accept "->" then
    let e ← whole
    modify fun r => { r with notes := ("return", e) :: r.notes }
  let notes := (← get).notes.reverse
  let before ← get
  set { before with loops := 0, inFunction := true, assigned := [], declared := [], yields := false }
  let body ← block statement "function definition" row
  let after ← get
  set { after with
    loops := before.loops, inFunction := before.inFunction, assigned := before.assigned
    declared := before.declared, yields := before.yields }
  let own := (params.map (·.1) ++ after.assigned).filter fun s => !after.declared.contains s
  return .define s (placed params) notes body own.eraseDups after.yields

def kindDefinition (statement : Read (List Statement)) (row : Nat) : Read Statement := do
  let s ← name
  assigns [s]
  let bases ← if ← accept "(" then do
      let (args, _) ← items (argument operand whole whole) (isNext ")") maxItems
      expect ")"
      pure args
    else pure []
  let before ← get
  set { before with loops := 0, inFunction := false }
  let body ← block statement "class definition" row
  modify fun r => { r with
    loops := before.loops, inFunction := before.inFunction, assigned := before.assigned }
  return .kind s bases body

def cases (statement : Read (List Statement)) : Nat → Read (List (Shape × Option Expr × List Statement))
  | 0 => fault
  | n + 1 => do
    match ← here with
    | ⟨.dedent, _, _, _⟩ =>
      skip
      return []
    | ⟨.name "case", row, _, _⟩ =>
      skip
      let start ← here
      let (all, hasComma) ← items (starShape maxDepth) (do return (← isNext ":") || (← isKeywordNext "if")) maxItems
      if all.isEmpty then fault
      let s := grouped all hasComma
      let test ← if ← acceptKeyword "if" then some <$> bound whole else pure none
      let body ← block statement "'case' statement" row
      let more ← cases statement n
      match if test.isNone && !more.isEmpty then catchAll? s else none with
      | some what => lateFlaw start (what ++ " makes remaining patterns unreachable")
      | none => return (s, test, body) :: more
    | _ => fault

def compound (statement : Read (List Statement)) (keyword : String) (row : Nat) : Read Statement := do
  match keyword with
  | "while" =>
    let test ← bound whole
    let body ← inLoop (block statement "'while' statement" row)
    return .loop test body (← last statement "else")
  | "for" =>
    let start ← here
    let t ← target start (← loopTarget operand)
    expectKeyword "in"
    let e ← wholeList
    let body ← inLoop (block statement "'for' statement" row)
    return .each t e body (← last statement "else")
  | "def" => definition statement row
  | "class" => kindDefinition statement row
  | "with" =>
    let item : Read (Expr × Option Expr) := do
      let e ← whole
      if ← acceptKeyword "as" then
        let start ← here
        return (e, some (← target start (← operand)))
      else return (e, none)
    let (all, _) ← items item (isNext ":") maxItems
    return .using all (← block statement "'with' statement" row)
  | _ =>
    let body ← block statement "'try' statement" row
    let hs ← handlers statement maxItems
    let after ← last statement "else"
    let final ← last statement "finally"
    if hs.isEmpty && final.isEmpty then flawHere "expected 'except' or 'finally' block"
    return .attempt body hs after final

/-- A statement. Functions in front of a definition change what it makes. -/
def statement : Nat → Read (List Statement)
  | 0 => flawHere "too many statically nested blocks"
  | n + 1 => do
    let t ← here
    match t.token with
    | .sign "@" =>
      skip
      let e ← whole
      match ← peek with
      | .newline => skip
      | _ => fault
      match ← statement n with
      | [.at _ (.decorated makers s)] => return [.at t.line (.decorated (e :: makers) s)]
      | [.at row s] => if s.made?.isSome then return [.at t.line (.decorated [e] (.at row s))] else fault
      | _ => fault
    | .keyword "if" => return [.at t.line (← choice (statement n) "if" maxItems)]
    | .keyword k =>
      if ["while", "for", "def", "class", "with", "try"].contains k then
        skip
        return [.at t.line (← compound (statement n) k t.line)]
      else line maxItems
    | .newline =>
      skip
      return []
    | .name "match" =>
      let before ← get
      let subject ← try
          skip
          let e ← wholeList
          expect ":"
          match (← get).tokens with
          | ⟨.newline, _, _, _⟩ :: ⟨.indent, _, _, _⟩ :: ⟨.name "case", _, _, _⟩ :: _ => pure (some e)
          | _ => pure none
        catch _ => pure none
      match subject with
      | none =>
        set before
        line maxItems
      | some e =>
        skip
        skip
        return [.at t.line (.select e (← cases (statement n) maxItems))]
    | _ => line maxItems

def maxBlocks : Nat := 100

def all : Nat → Read (List Statement)
  | 0 => fault
  | n + 1 => do
    match ← peek with
    | .ending => return []
    | _ =>
      let s ← statement maxBlocks
      return s ++ (← all n)

def script (source : String) : Except Flaw (List Statement) :=
  let (tokens, brackets) := Tokens.ofText source
  ((all maxItems).run { tokens := tokens, brackets := brackets }).1

end PartitionTest.Shell.Objects.Reader
