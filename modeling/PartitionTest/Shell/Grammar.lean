import PartitionTest.Shell.Lexer

/-! From words and signs to scripts. A script is read line by line, so what
stands before a faulty line is known to be sound. -/
namespace PartitionTest.Shell

namespace Grammar

def keywords : List String :=
  ["if", "then", "elif", "else", "fi", "while", "until", "do", "done", "for", "in", "case",
    "esac", "\x7b", "\x7d", "!"]

/-- Commands whose errors end a script, and which keep assignments in front of
them. No function can have their names. -/
def specialCommands : List String :=
  [".", ":", "break", "continue", "eval", "exec", "exit", "export", "readonly", "return", "set",
    "shift", "times", "trap", "unset"]

def closings : List String :=
  [")", ";;", "do", "done", "elif", "else", "esac", "fi", "then", "\x7d"]

def textOf : Token → Option String
  | .word [.text s false] => if keywords.contains s then some s else none
  | .operator s => some s
  | _ => none

def describe (plain : Bool) (t : Token) : String :=
  match t with
  | .ending => "end of file"
  | .newline => "newline"
  | .redirect _ _ => "redirection"
  | .operator s => "\"" ++ s ++ "\""
  | .word _ => match if plain then none else textOf t with
    | some s => "\"" ++ s ++ "\""
    | none => "word"

inductive Context where
  /-- One line of a script. -/
  | line
  /-- A block, which has at least one command. -/
  | block
  /-- What may have none. -/
  | arm
deriving DecidableEq, Repr

def nameOf? : Word → Option String
  | [.text s false] =>
    if s.toList.all isNameChar && (s.toList.head?.map isNameStart).getD false then some s else none
  | _ => none

/-- An assignment is a word that starts with a bare name and an equals sign. -/
def assignment? : Word → Option (String × Word)
  | .text s false :: rest =>
    let name := s.toList.takeWhile isNameChar
    match s.toList.drop name.length with
    | '=' :: value =>
      if (name.head?.map isNameStart).getD false then
        some (String.ofList name,
          if value.isEmpty then rest else .text (String.ofList value) false :: rest)
      else none
    | _ => none
  | _ => none

def redirectKind : String → RedirectKind
  | "<" => .read
  | ">|" => .overwrite
  | ">>" => .append
  | ">&" | "<&" => .copy
  | "<>" => .readWrite
  | "<<" | "<<-" => .text
  | _ => .write

def append : Script → Script → Script
  | .nothing, s => s
  | s, t => .sequence s t

section

/- Reads a list of commands. -/
variable (list : Context → Parse Script)

def nested (closed : Bool) : Parse Unit := do
  let _ ← list .arm
  if closed then
    match (← get).ahead with
    | some (.operator ")") => modify fun c => { c with ahead := none }
    | t => Lexer.fault (describe false (t.getD .ending) ++ " unexpected (expecting \")\")")

def peek : Parse Token := do
  match (← get).ahead with
  | some t => return t
  | none =>
    let t ← Lexer.token (nested list)
    modify fun c => { c with ahead := some t }
    return t

def advance : Parse Unit := modify fun c => { c with ahead := none }

def sign : Parse (Option String) := do return textOf (← peek list)

def unexpected (expected : String) (plain : Bool) : Parse α := do
  let tail := if expected.isEmpty then "" else " (expecting " ++ expected ++ ")"
  Lexer.fault (describe plain (← peek list) ++ " unexpected" ++ tail)

def expect (s : String) : Parse Unit := do
  if (← sign list) == some s then advance
  else unexpected list ("\"" ++ s ++ "\"") false

def accept (s : String) : Parse Bool := do
  if (← sign list) == some s then
    advance
    return true
  else return false

def skipNewlines : Nat → Parse Unit
  | 0 => return
  | n + 1 => do
    if (← peek list) == .newline then
      advance
      skipNewlines n

def redirectTarget (descriptor : Option Nat) (s : String) : Parse Redirect := do
  let kind := redirectKind s
  let n := descriptor.getD (if s.startsWith "<" then 0 else 1)
  if kind = .text then
    Lexer.skipBlanks (← Lexer.size)
    let w := (← Lexer.delimiter (← Lexer.size) []).reverse
    if w.isEmpty then unexpected list "" true
    let request : TextRequest := {
      strip := s == "<<-"
      quoted := w.any fun
        | .text _ quoted => quoted
        | _ => false
      delimiter := String.join (w.map fun
        | .text s _ => s
        | _ => "") }
    let c ← get
    set { c with requests := c.requests ++ [request], announced := c.announced + 1 }
    return ⟨n, kind, c.known[c.announced]?.getD []⟩
  else
    match ← peek list with
    | .word w =>
      advance
      return ⟨n, kind, w⟩
    | _ => unexpected list "" true

def redirects : Nat → Parse (List Redirect)
  | 0 => return []
  | n + 1 => do
    match ← peek list with
    | .redirect d s =>
      advance
      let r ← redirectTarget list d s
      return r :: (← redirects n)
    | _ => return []

def wordsUpTo : Nat → Parse (List Word)
  | 0 => return []
  | n + 1 => do
    match ← peek list with
    | .word w =>
      advance
      return w :: (← wordsUpTo n)
    | _ => return []

def choiceTail : Nat → Parse Script
  | 0 => unexpected list "" false
  | n + 1 => do
    let test ← list .block
    expect list "then"
    let yes ← list .block
    if ← accept list "elif" then return .choice test yes (← choiceTail n)
    else
      let no ← if ← accept list "else" then list .block else pure .nothing
      expect list "fi"
      return .choice test yes no

def doBlock : Parse Script := do
  expect list "do"
  let body ← list .block
  expect list "done"
  return body

def eachTail (size : Nat) : Parse Script := do
  let some name := (match ← peek list with
    | .word w => nameOf? w
    | _ => none) | Lexer.fault "Bad for loop variable"
  advance
  skipNewlines list size
  let words ← if ← accept list "in" then
      let ws ← wordsUpTo list size
      if (← peek list) == .newline || (← peek list) == .operator ";" then advance
      else unexpected list "" true
      pure (some ws)
    else
      let _ ← accept list ";"
      pure none
  skipNewlines list size
  return .each name words (← doBlock list)

def patterns : Nat → Parse (List Word)
  | 0 => return []
  | n + 1 => do
    let w := match ← peek list with
      | .word w => w
      | _ => []
    advance
    if ← accept list "|" then return w :: (← patterns n)
    else if (← peek list) == .operator ")" then
      advance
      return [w]
    else unexpected list "\")\"" true

def arms : Nat → Parse (List (List Word × Script))
  | 0 => return []
  | n + 1 => do
    skipNewlines list (n + 1)
    if ← accept list "esac" then return []
    let _ ← accept list "("
    let ps ← patterns list (n + 1)
    let body ← list .arm
    skipNewlines list (n + 1)
    if ← accept list "esac" then return [(ps, body)]
    else
      expect list ";;"
      return (ps, body) :: (← arms n)

/-- A command of several parts that starts with a keyword, if it is one. -/
def compound? (size : Nat) : Option String → Parse (Option Script)
  | some "if" => do
    advance
    some <$> choiceTail list size
  | some "while" => do
    advance
    let test ← list .block
    return some (.loop true test (← doBlock list))
  | some "until" => do
    advance
    let test ← list .block
    return some (.loop false test (← doBlock list))
  | some "for" => do
    advance
    some <$> eachTail list size
  | some "case" => do
    let line := (← get).line
    advance
    let .word subject ← peek list | unexpected list "word" true
    advance
    skipNewlines list size
    expect list "in"
    return some (.select line subject (← arms list size))
  | some "\x7b" => do
    advance
    let body ← list .block
    expect list "\x7d"
    return some body
  | some "(" => do
    advance
    let body ← list .block
    expect list ")"
    return some (.subshell body)
  | _ => return none

/-- A command that starts with a word or a redirection: assignments, words
and redirections, or a word in front of brackets, which names a function. -/
def simple (define : String → Parse Script) : Nat → SimpleCommand → Parse Script
  | 0, c => return .simple c
  | n + 1, c => do
    match ← peek list with
    | .word w =>
      advance
      match if c.words.isEmpty then assignment? w else none with
      | some a => simple define n { c with assignments := c.assignments ++ [a] }
      | none => simple define n { c with words := c.words ++ [w] }
    | .redirect d s =>
      advance
      let r ← redirectTarget list d s
      simple define n { c with redirects := c.redirects ++ [r] }
    | .operator "(" =>
      match c.words, c.assignments, c.redirects with
      | [w], [], [] =>
        advance
        if (← peek list) == .operator ")" then advance else unexpected list "\")\"" true
        match nameOf? w with
        | some name =>
          if specialCommands.contains name then Lexer.fault "Bad function name"
          define name
        | none => Lexer.fault "Bad function name"
      | _, _, _ => return .simple c
    | _ => return .simple c

def command : Nat → Parse Script
  | 0 => unexpected list "" false
  | n + 1 => do
    match ← compound? list n (← sign list) with
    | some body =>
      match ← redirects list n with
      | [] => return body
      | rs => return .redirected body rs
    | none =>
      let t ← peek list
      let starts := match t with
        | .word _ | .redirect _ _ => (textOf t).isNone
        | _ => false
      if starts then
        simple list (fun name => do
          skipNewlines list n
          return .define name (← command n)) n { line := (← get).line }
      else unexpected list "" false

def pipeTail (size : Nat) : Nat → Parse Script
  | 0 => unexpected list "" false
  | n + 1 => do
    let first ← command list size
    if ← accept list "|" then
      skipNewlines list size
      return .pipe first (← pipeTail size n)
    else return first

def pipeline (size : Nat) : Parse Script := do
  if ← accept list "!" then .negated <$> pipeTail list size size
  else pipeTail list size size

def andOr (size : Nat) : Nat → Script → Parse Script
  | 0, s => return s
  | n + 1, s => do
    if ← accept list "&&" then
      skipNewlines list size
      andOr size n (.both s (← pipeline list size))
    else if ← accept list "||" then
      skipNewlines list size
      andOr size n (.either s (← pipeline list size))
    else return s

/-- Commands up to the end of a line, or up to a sign that closes a block.
`mayEnd` tells whether the sign can come now. -/
def items (context : Context) (size : Nat) : Nat → Bool → Script → Parse Script
  | 0, _, s => return s
  | n + 1, mayEnd, s => do
    if context != .line then skipNewlines list size
    match ← peek list with
    | .newline =>
      advance
      return s
    | .ending => return s
    | t =>
      if mayEnd && ((textOf t).map closings.contains).getD false then return s
      else
        let next ← andOr list size size (← pipeline list size)
        match ← peek list with
        | .operator "&" =>
          advance
          items context size n (context != .line) (append s (.background next))
        | .operator ";" =>
          advance
          items context size n (context != .line) (append s next)
        | .newline | .ending => items context size n (context != .line) (append s next)
        | _ =>
          if context = .line then unexpected list "" false
          else return append s next

end

def list : Nat → Context → Parse Script
  | 0, _ => Lexer.fault "out of memory"
  | depth + 1, context => do
    let size ← Lexer.size
    items (list depth) context (size + 1) (size + 1) (context = .arm) .nothing

def maxDepth : Nat := 200

/-- The next line of a script. Where texts come after it, it is read again
with these at hand. -/
def line (c : Cursor) : Except SyntaxError (Script × Cursor) := do
  let start := { c with announced := 0, texts := [], known := [] }
  let (s, after) ← (list maxDepth .line).run start
  if after.texts.isEmpty then return (s, after)
  else (list maxDepth .line).run { start with known := after.texts.reverse }

def lines : Nat → Cursor → List Script × Option SyntaxError
  | 0, _ => ([], none)
  | n + 1, c =>
    match line c with
    | .error e => ([], some e)
    | .ok (s, after) =>
      let (more, fault) := if after.ahead == some .ending then ([], none) else lines n after
      match s with
      | .nothing => (more, fault)
      | s => (s :: more, fault)

def piecesOf (style : Lexer.Style) (start : Word) (text : String) : Word :=
  match (Lexer.allPieces (nested (list maxDepth)) style start).run { rest := text.toList } with
  | .ok (w, _) => w
  | .error _ => []

end Grammar

def parse (text : String) (line : Nat) : List Script × Option SyntaxError :=
  Grammar.lines (text.length + 2) { rest := text.toList, line := line }

def quotedPieces (text : String) : Word :=
  Grammar.piecesOf .quotedInner [.text "" true] text

def wordPieces (text : String) : Word := Grammar.piecesOf .inner [] text

def textPieces (text : String) : Word := Grammar.piecesOf .text [.text "" true] text

end PartitionTest.Shell
