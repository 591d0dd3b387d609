import PartitionTest.Shell.Records.Reader

/-! Reading statements and whole programs. What cannot be read is noted, and the
reading goes on behind it. -/
namespace PartitionTest.Shell.Records.Reader

def separator : Read Unit := do
  match ← peek with
  | .newline =>
    skip
    skipLines maxLines
  | .sign ";" =>
    skip
    skipLines maxLines
  | .sign "\x7d" => pure ()
  | _ => fault

/-- Arguments of a printing statement: with all of them in parentheses, these
are not part of an expression. -/
def printArguments : Read (List Expr) := do
  let before ← get
  let asList : Read (List Expr) := do
    match ← peek with
    | .newline | .ending => return []
    | .sign s =>
      if [";", "\x7d", ">", ">>", "|"].contains s then return [] else list whole maxLines
    | _ => list whole maxLines
  if ← accept "(" then
    let args ← enclosed (list whole maxLines)
    let next ← peek
    let ends := match next with
      | .newline | .ending => true
      | .sign s => [";", "\x7d", ">", ">>", "|"].contains s
      | _ => false
    if ends then return args
    else
      set before
      asList
  else asList

def printStatement (formatted : Bool) (line : Line) : Read Statement := do
  skip
  modify fun r => { r with printing := true }
  let args ← printArguments
  modify fun r => { r with printing := false }
  if formatted && args.isEmpty then note line "no arguments in call to printf"
  let target ← match ← peek with
    | .sign ">" =>
      skip
      pure (some (OutputKind.write, ← whole))
    | .sign ">>" =>
      skip
      pure (some (OutputKind.append, ← whole))
    | .sign "|" =>
      skip
      pure (some (OutputKind.command, ← whole))
    | _ => pure none
  separator
  return .print formatted args target

def test : Read Expr := do
  expect "("
  let e ← enclosed whole
  skipLines maxLines
  return e

def inLoop (body : Read α) : Read α := do
  modify fun r => { r with loops := r.loops + 1 }
  let a ← body
  modify fun r => { r with loops := r.loops - 1 }
  return a

def optional (closing : String) : Read (Option Expr) := do
  if ← isNext closing then return none else return some (← whole)

def forStatement (statement : Read Statement) : Read Statement := do
  skip
  expect "("
  match (← get).tokens with
  | ⟨.name name, line⟩ :: ⟨.keyword "in", _⟩ :: ⟨.name _, _⟩ :: ⟨.sign ")", _⟩ :: _ =>
    skip
    skip
    let variable' ← used name .scalar line
    let p ← arrayName
    skip
    skipLines maxLines
    return .each (.scalar variable') p (← inLoop statement)
  | _ =>
    let (first, test, step) ← enclosed do
      let first ← optional ";"
      expect ";"
      skipLines maxLines
      let test ← optional ";"
      expect ";"
      skipLines maxLines
      return (first, test, ← optional ")")
    skipLines maxLines
    let body ← inLoop statement
    let loop := Statement.loop test ((step.map .expr).getD .nothing) body
    return match first with
      | some e => .block [.expr e, loop]
      | none => loop

def deleteStatement : Read Statement := do
  skip
  let p ← arrayName
  let keys ← if ← accept "[" then
      let keys ← list whole maxLines
      expect "]"
      pure (some keys)
    else pure none
  separator
  return .delete p keys

/-- A value in front of the end of the statement, if there is one. -/
def value : Read (Option Expr) := do
  match ← peek with
  | .newline | .sign ";" | .sign "\x7d" => return none
  | _ => return some (← whole)

def statements (statement : Read Statement) : Nat → Read (List Statement)
  | 0 => fault
  | n + 1 => do
    if ← isNext "\x7d" then return []
    else
      let s ← statement
      return s :: (← statements statement n)

/-- A brace was read; the statements behind it and the brace that closes them. -/
def block (statement : Read Statement) : Read Statement := do
  skipLines maxLines
  let body ← statements statement maxLines
  expect "\x7d"
  return .block body

def leaveStatement : Nat → Read Unit
  | 0 => pure ()
  | n + 1 => do
    match ← peek with
    | .ending => throw none
    | .bad _ => fault
    | .newline | .sign ";" | .sign "\x7d" => separator
    | _ =>
      skip
      leaveStatement n

def recovered (statement : Read Statement) : Read Statement := do
  let before ← get
  try statement
  catch
    | none => throw none
    | some flaw =>
      addNote flaw
      modify fun r => { r with depth := 0, printing := false, loops := before.loops }
      leaveStatement (← get).tokens.length
      return .nothing

def statement : Nat → Read Statement
  | 0 => fault
  | n + 1 => recovered do
    let t ← here
    let misplaced (ok : Bool) (message : String) : Read Unit := do
      unless ok do note t.line message
    match t.token with
    | .sign "\x7b" =>
      skip
      let s ← block (statement n)
      skipLines maxLines
      return s
    | .sign ";" | .newline | .sign "\x7d" =>
      separator
      return .nothing
    | .keyword "if" =>
      skip
      let e ← test
      let yes ← statement n
      if (← peek).isKeyword "else" then
        skip
        skipLines maxLines
        return .choice e yes (← statement n)
      else return .choice e yes .nothing
    | .keyword "while" =>
      skip
      let e ← test
      return .loop (some e) .nothing (← inLoop (statement n))
    | .keyword "do" =>
      skip
      skipLines maxLines
      let body ← inLoop (statement n)
      if !(← peek).isKeyword "while" then fault
      skip
      expect "("
      let e ← enclosed whole
      separator
      return .loopAfter body e
    | .keyword "for" => forStatement (statement n)
    | .keyword "print" => printStatement false t.line
    | .keyword "printf" => printStatement true t.line
    | .keyword "break" =>
      skip
      misplaced (0 < (← get).loops) "break statement outside of loop"
      separator
      return .leave
    | .keyword "continue" =>
      skip
      misplaced (0 < (← get).loops) "continue statement outside of loop"
      separator
      return .again
    | .keyword "next" =>
      skip
      misplaced (← get).hasRecord "improper use of next"
      separator
      return .next false
    | .keyword "nextfile" =>
      skip
      misplaced (← get).hasRecord "improper use of nextfile"
      separator
      return .next true
    | .keyword "exit" =>
      skip
      let e ← value
      separator
      return .exit e
    | .keyword "return" =>
      skip
      misplaced (← get).owner.isSome "return outside function body"
      let e ← value
      separator
      return .return e
    | .keyword "delete" => deleteStatement
    | _ =>
      let e ← whole
      separator
      return .expr e

def action : Read Statement := do
  expect "\x7b"
  let s ← block (statement maxDepth)
  /- A semicolon behind an action belongs to it. -/
  let _ ← accept ";"
  skipLines maxLines
  return s

def parameters (function : String) : Nat → List String → Read (List String)
  | 0, names => return names
  | n + 1, names => do
    match ← here with
    | ⟨.name name, line⟩ =>
      skip
      if names.contains name then note line (name ++ " is duplicated in argument list")
      if name == function then
        note line "function parameter cannot be the function"
        throw (some { line := line, text := "syntax error at or near " ++ name })
      if ← acceptThenLines "," then parameters function n (names ++ [name])
      else return names ++ [name]
    | _ => fault

def functionDefinition : Read (String × Function) := do
  skip
  let line := (← here).line
  let name ← match ← peek with
    | .name s | .called s => do
      skip
      pure s
    | _ => fault
  if (← get).roles.any (·.1 = ⟨none, .outer name⟩) then note line ("illegal reference to variable " ++ name)
  expect "("
  let names ← enclosed do
    if ← isNext ")" then return [] else parameters name maxLines []
  skipLines maxLines
  if ((← get).defined.lookup name).isSome then note line ("redefinition of " ++ name)
  modify fun r => { r with
    owner := some (name, names), hasRecord := false, defined := (name, names.length) :: r.defined }
  let body ← action
  modify fun r => { r with owner := none }
  return (name, { parameters := names, body := body })

def rule : Read Rule := do
  let withRecord (has : Bool) (body : Read Statement) : Read Statement := do
    modify fun r => { r with hasRecord := has }
    let s ← body
    modify fun r => { r with hasRecord := false }
    return s
  match ← peek with
  | .keyword "BEGIN" =>
    skip
    return ⟨.begin, some (← withRecord false action)⟩
  | .keyword "END" =>
    skip
    return ⟨.finish, some (← withRecord false action)⟩
  | .sign "\x7b" => return ⟨.always, some (← withRecord true action)⟩
  | _ =>
    let first ← whole
    let pattern ← if ← acceptThenLines "," then
        pure (Pattern.range first (← whole))
      else pure (Pattern.when first)
    match ← peek with
    | .sign "\x7b" => return ⟨pattern, some (← withRecord true action)⟩
    | .newline | .sign ";" =>
      skip
      skipLines maxLines
      return ⟨pattern, none⟩
    | _ => fault

/-- Over what could not be read outside of braces, and the action behind it. -/
def leaveRule : Nat → Read Unit
  | 0 => pure ()
  | n + 1 => do
    match ← peek with
    | .ending => throw none
    | .bad _ => fault
    | .sign "\x7b" =>
      let _ ← action
    | _ =>
      skip
      leaveRule n

def part (s : Script) : Read Script := do
  match ← peek with
  | .keyword "function" => do
    let f ← functionDefinition
    return { s with functions := s.functions ++ [f] }
  | _ => do
    let r ← rule
    return { s with rules := s.rules ++ [r] }

def parts : Nat → Script → Read Script
  | 0, s => return s
  | n + 1, s => do
    match ← peek with
    | .ending => return s
    | _ =>
      let s ← try part s
        catch
          | none => throw none
          | some flaw => do
            addNote flaw
            modify fun r => { r with depth := 0, printing := false, owner := none, loops := 0 }
            leaveRule (← get).tokens.length
            pure s
      parts n s

def checkCalls (endLine : Line) : Read Unit := do
  (← get).calls.forM fun c => do
    match (← get).defined.lookup c.function with
    | none => note endLine ("function " ++ c.function ++ " never defined")
    | some count => (Reading.flaws (← get) c count).forM addNote

def withRoles (r : Reading) (name : String) (f : Function) : Function :=
  { f with roles := (List.range f.parameters.length).map fun i => r.role ⟨some name, .inner i⟩ }

def program : Read Script := do
  skipLines maxLines
  settle (← get).tokens.length
  let s ← parts maxLines {}
  let endLine := (← here).line
  modify fun r => r.resolved (r.calls.length * 255 + r.roles.length + 1)
  if (← get).notes.isEmpty then checkCalls endLine
  let r ← get
  return { s with
    functions := s.functions.map fun (name, f) => (name, withRoles r name f)
    arrays := r.roles.filterMap fun (h, role) => match h.place, role with
      | .outer name, .array => some name
      | _, _ => none }

/-- Reads a program from its texts, which have names, or finds what is wrong with it. -/
def script (sources : List (String × String)) : Except (List Note) Script :=
  let (read, r) := program.run { tokens := Tokens.ofTexts sources }
  match read with
  | .ok s => if r.notes.isEmpty then .ok s else .error r.notes
  | .error last => .error (r.notes ++ last.toList)

end PartitionTest.Shell.Records.Reader
