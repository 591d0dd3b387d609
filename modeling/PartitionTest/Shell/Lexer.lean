import PartitionTest.Shell.Script

/-! Words and signs of scripts, read from characters. A script inside of a word
ends where its own grammar says, so what reads nested scripts is a parameter. -/
namespace PartitionTest.Shell

structure SyntaxError where
  line : Nat
  reason : String
deriving DecidableEq, Repr, Inhabited

inductive Token where
  | word (w : Word)
  /-- The sign of a redirection, perhaps with a descriptor in front. -/
  | redirect (descriptor : Option Nat) (sign : String)
  | operator (s : String)
  | newline
  /-- The end of the text. -/
  | ending
deriving DecidableEq, Repr, Inhabited

/-- A text in the script that is announced and comes after the line. -/
structure TextRequest where
  /-- Whether tabs in front of its lines are left out. -/
  strip : Bool
  /-- Whether it stands as it is. -/
  quoted : Bool
  /-- The line after it. -/
  delimiter : String
deriving DecidableEq, Repr, Inhabited

structure Cursor where
  rest : List Char
  line : Nat := 1
  /-- A token that is read and not used yet. -/
  ahead : Option Token := none
  /-- Texts that are announced and still to come. -/
  requests : List TextRequest := []
  /-- How many texts were announced. -/
  announced : Nat := 0
  /-- The texts that came, last first. -/
  texts : List Word := []
  /-- Texts that an earlier reading of the same lines has found. -/
  known : List Word := []
deriving Inhabited

abbrev Parse := StateT Cursor (Except SyntaxError)

def isNameStart (c : Char) : Bool := c.isAlpha || c == '_'

def isNameChar (c : Char) : Bool := c.isAlphanum || c == '_'

def isSpecialName (c : Char) : Bool := c.isDigit || "#?$!@*-".toList.contains c

namespace Lexer

def fault (reason : String) : Parse α := do throw ⟨(← get).line, reason⟩

def joined : List Char → Nat → List Char × Nat
  | '\\' :: '\n' :: rest, line => joined rest (line + 1)
  | cs, line => (cs, line)

def raw : Parse (Option Char) := do return (← get).rest.head?

def look : Parse (Option Char) := do
  modify fun c =>
    let (rest, line) := joined c.rest c.line
    { c with rest := rest, line := line }
  raw

def skip : Parse Unit :=
  modify fun c => { c with
    rest := c.rest.drop 1
    line := if c.rest.head? == some '\n' then c.line + 1 else c.line }

def skipIf (d : Char) : Parse Bool := do
  if (← look) == some d then
    skip
    return true
  else return false

def size : Parse Nat := do return (← get).rest.length + 1

def consumed (read : Parse Unit) : Parse (List Char) := do
  let before := (← get).rest
  read
  return before.take (before.length - (← get).rest.length)

def charsWhile (isPart : Char → Bool) : Nat → Parse (List Char)
  | 0 => return []
  | n + 1 => do
    match ← look with
    | some c =>
      if isPart c then
        skip
        return c :: (← charsWhile isPart n)
      else return []
    | none => return []

def literal (c : Char) (quoted : Bool) : Word → Word
  | .text s q :: rest =>
    if q = quoted then .text (s.push c) q :: rest
    else .text (String.singleton c) quoted :: .text s q :: rest
  | ps => .text (String.singleton c) quoted :: ps

inductive Style where
  /-- A word of a script, which ends at a blank or a sign. -/
  | word
  /-- A word all of whose characters belong together. -/
  | inner
  /-- What stands between double quotes. -/
  | quoted
  /-- What stands in braces between double quotes. -/
  | quotedInner
  /-- A text in a script. -/
  | text
deriving DecidableEq, Repr

namespace Style

def isQuoted : Style → Bool
  | .word | .inner => false
  | _ => true

/-- Characters that a backslash hides; it stays in front of others. -/
def hides : Style → Char → Bool
  | .word, _ | .inner, _ => true
  | .quoted, c => "\\\x60$\"".toList.contains c
  | .quotedInner, c => "\\\x60$\"\x7d".toList.contains c
  | .text, c => "\\\x60$".toList.contains c

end Style

def endsWord (c : Char) : Bool := " \t\n&|;<>()".toList.contains c

section

/- Reads a script in brackets with the closing one, or one that is all of a text. -/
variable (nested : Bool → Parse Unit)

def within (read : Parse Unit) : Parse Unit := do
  let before ← get
  set { before with requests := [], texts := [], known := [], announced := 0, ahead := none }
  read
  modify fun c => { before with rest := c.rest, line := c.line }

/-- The script up to a backquote, with the backslashes gone that hide characters. -/
def backquoted (quoted : Bool) : Nat → Parse (List Char)
  | 0 => return []
  | n + 1 => do
    match ← look with
    | none => fault "EOF in backquote substitution"
    | some '\x60' =>
      skip
      return []
    | some '\\' =>
      skip
      match ← raw with
      | none => fault "EOF in backquote substitution"
      | some c =>
        skip
        let rest ← backquoted quoted n
        return if "\\\x60$".toList.contains c || (quoted && c = '"') then c :: rest
          else '\\' :: c :: rest
    | some c =>
      skip
      return c :: (← backquoted quoted n)

def backquote (quoted : Bool) : Parse Piece := do
  let cs ← backquoted quoted (← size)
  let after ← get
  set { rest := cs : Cursor }
  nested false
  set after
  return .output 1 (String.ofList cs) quoted

def bracketed (quoted : Bool) : Parse Piece := do
  let line := (← get).line
  let cs ← consumed (within (nested true))
  return .output line (String.ofList cs.dropLast) quoted

mutual

def dollar (quoted : Bool) : Nat → Parse (Option Piece)
  | 0 => return none
  | n + 1 => do
    match ← look with
    | some '(' =>
      skip
      if ← skipIf '(' then
        let cs ← consumed (arithmetic n 0)
        return some (.arithmetic (String.ofList (cs.dropLast.dropLast)) quoted)
      else some <$> bracketed nested quoted
    | some '\x7b' =>
      skip
      let _ ← look
      let cs := (← get).rest
      let name := match cs with
        | c :: _ => if isNameStart c then cs.takeWhile isNameChar
          else if c.isDigit then cs.takeWhile Char.isDigit
          else cs.take 1
        | [] => []
      let trims := match cs.drop name.length with
        | c :: _ => c = '#' || c = '%'
        | [] => false
      let cs ← consumed (braces (quoted && !trims) n)
      return some (.parameter (String.ofList cs.dropLast) quoted)
    | some c =>
      if isNameStart c then
        return some (.parameter (String.ofList (← charsWhile isNameChar (← size))) quoted)
      else if isSpecialName c then
        skip
        return some (.parameter (String.singleton c) quoted)
      else return none
    | none => return none

def arithmetic : Nat → Nat → Parse Unit
  | 0, _ => return
  | n + 1, depth => do
    match ← look with
    | none => fault "Missing '))'"
    | some c =>
      skip
      match c with
      | '(' => arithmetic n (depth + 1)
      | ')' =>
        if 0 < depth then arithmetic n (depth - 1)
        else if ← skipIf ')' then return
        else arithmetic n 0
      | '\\' =>
        skip
        arithmetic n depth
      | '$' =>
        let _ ← dollar true n
        arithmetic n depth
      | '\x60' =>
        let _ ← backquote nested true
        arithmetic n depth
      | _ => arithmetic n depth

def braces (quoted : Bool) : Nat → Parse Unit
  | 0 => return
  | n + 1 => do
    match ← look with
    | none => fault (if quoted then "Unterminated quoted string" else "Missing '\x7d'")
    | some c =>
      skip
      match c with
      | '\x7d' => return
      | '\\' =>
        skip
        braces quoted n
      | '$' =>
        let _ ← dollar quoted n
        braces quoted n
      | '\x60' =>
        let _ ← backquote nested quoted
        braces quoted n
      | '"' =>
        quotes n
        braces quoted n
      | '\'' =>
        if !quoted then singleQuotes n
        braces quoted n
      | _ => braces quoted n

def quotes : Nat → Parse Unit
  | 0 => return
  | n + 1 => do
    match ← look with
    | none => fault "Unterminated quoted string"
    | some c =>
      skip
      match c with
      | '"' => return
      | '\\' =>
        skip
        quotes n
      | '$' =>
        let _ ← dollar true n
        quotes n
      | '\x60' =>
        let _ ← backquote nested true
        quotes n
      | _ => quotes n

def singleQuotes : Nat → Parse Unit
  | 0 => return
  | n + 1 => do
    match ← raw with
    | none => fault "Unterminated quoted string"
    | some c =>
      skip
      if c != '\'' then singleQuotes n

end

def upToQuote : Nat → Word → Parse Word
  | 0, ps => return ps
  | n + 1, ps => do
    match ← raw with
    | none => fault "Unterminated quoted string"
    | some c =>
      skip
      if c = '\'' then return ps else upToQuote n (literal c true ps)

def pieces : Nat → Style → Word → Parse Word
  | 0, _, ps => return ps
  | n + 1, style, ps => do
    match ← look with
    | none =>
      if style = .quoted then fault "Unterminated quoted string" else return ps
    | some c =>
      let quoted := style.isQuoted
      if style = .word && endsWord c then return ps
      else
        skip
        match c with
        | '\\' =>
          match ← raw with
          | none => return literal '\\' true ps
          | some d =>
            skip
            if style.hides d then pieces n style (literal d true ps)
            else pieces n style (literal d quoted (literal '\\' quoted ps))
        | '$' =>
          match ← dollar nested quoted (n + 1) with
          | some p => pieces n style (p :: ps)
          | none => pieces n style (literal '$' quoted ps)
        | '\x60' =>
          let p ← backquote nested quoted
          pieces n style (p :: ps)
        | '"' =>
          match style with
          | .word | .inner =>
            let ps ← pieces n .quoted (.text "" true :: ps)
            pieces n style ps
          | .quoted => return ps
          | .quotedInner => pieces n style ps
          | .text => pieces n style (literal c true ps)
        | '\'' =>
          if quoted then pieces n style (literal c true ps)
          else
            let ps ← upToQuote n (.text "" true :: ps)
            pieces n style ps
        | _ => pieces n style (literal c quoted ps)

def allPieces (style : Style) (start : Word) : Parse Word := do
  return (← pieces nested (← size) style start).reverse

/-- The lines up to a delimiter. A line that goes on behind a backslash hides
the delimiter, unless the text stands as it is. -/
def textLines (r : TextRequest) : Nat → Bool → Parse (List Char)
  | 0, _ => return []
  | n + 1, continued => do
    let cs := (← get).rest
    let line := cs.takeWhile (· != '\n')
    let ended := line.length < cs.length
    modify fun c => { c with
      rest := cs.drop (line.length + 1)
      line := if ended then c.line + 1 else c.line }
    let shown := if r.strip then line.dropWhile (· == '\t') else line
    if cs.isEmpty || (!continued && String.ofList shown == r.delimiter) then return []
    else
      let goesOn := !r.quoted && (line.reverse.takeWhile (· == '\\')).length % 2 = 1
      return shown ++ (if ended then ['\n'] else []) ++ (← textLines r n goesOn)

def readTexts : List TextRequest → Parse Unit
  | [] => modify fun c => { c with requests := [] }
  | r :: rest => do
    let line := (← get).line
    let cs ← textLines r (← size) false
    let after ← get
    let word : Word ← if r.quoted then pure [.text (String.ofList cs) true] else do
      set { rest := cs, line := line : Cursor }
      allPieces nested .text [.text "" true]
    set { after with texts := word :: after.texts }
    readTexts rest

def skipBlanks : Nat → Parse Unit
  | 0 => return
  | n + 1 => do
    match ← look with
    | some ' ' | some '\t' =>
      skip
      skipBlanks n
    | some '#' =>
      modify fun c => { c with rest := c.rest.dropWhile (· != '\n') }
      skipBlanks n
    | _ => return

def redirectSign (first : Char) : Parse String := do
  let follows : List Char := if first = '<' then ['<', '&', '>'] else ['>', '&', '|']
  match ← look with
  | some c =>
    if follows.contains c then
      skip
      let two := String.ofList [first, c]
      if two == "<<" then return if ← skipIf '-' then "<<-" else two
      else return two
    else return String.singleton first
  | none => return String.singleton first

/-- The descriptor that a word in front of a redirection names, if it does. -/
def descriptor? : Word → Option (Option Nat)
  | [] => some none
  | [.text s false] =>
    match s.toList with
    | [d] => if d.isDigit then some (some (d.toNat - '0'.toNat)) else none
    | _ => none
  | _ => none

def doubled (c : Char) : Parse Token := do
  if ← skipIf c then return .operator (String.ofList [c, c])
  else return .operator (String.singleton c)

def token : Parse Token := do
  skipBlanks (← size)
  match ← look with
  | none =>
    readTexts nested (← get).requests
    return .ending
  | some '\n' =>
    skip
    readTexts nested (← get).requests
    return .newline
  | some c =>
    if c = '(' || c = ')' then
      skip
      return .operator (String.singleton c)
    else if c = '&' || c = '|' || c = ';' then
      skip
      doubled c
    else
      let ps ← pieces nested (← size) .word []
      match ← look, descriptor? ps with
      | some '<', some n =>
        skip
        return .redirect n (← redirectSign '<')
      | some '>', some n =>
        skip
        return .redirect n (← redirectSign '>')
      | _, _ => return .word ps.reverse

def delimiter : Nat → Word → Parse Word
  | 0, ps => return ps
  | n + 1, ps => do
    match ← look with
    | none => return ps
    | some c =>
      if endsWord c then return ps
      else
        skip
        match c with
        | '\\' =>
          match ← raw with
          | none => return literal '\\' true ps
          | some d =>
            skip
            delimiter n (literal d true ps)
        | '\'' => do delimiter n (← upToQuote n (.text "" true :: ps))
        | '"' => do delimiter n (← between n (.text "" true :: ps))
        | _ => delimiter n (literal c false ps)
where
  between : Nat → Word → Parse Word
    | 0, ps => return ps
    | n + 1, ps => do
      match ← look with
      | none => fault "Unterminated quoted string"
      | some '"' =>
        skip
        return ps
      | some '\\' =>
        skip
        match ← raw with
        | none => return ps
        | some d =>
          skip
          between n (if Style.quoted.hides d then literal d true ps
            else literal d true (literal '\\' true ps))
      | some c =>
        skip
        between n (literal c true ps)

end

end Lexer

end PartitionTest.Shell
