import PartitionTest.Shell.Number
import PartitionTest.Shell.Objects.Script

/-! The tokens of a script. Blanks at the beginning of a line say to which block
it belongs, unless a bracket is open. -/
namespace PartitionTest.Shell.Objects

inductive Token where
  | name (s : String)
  | keyword (s : String)
  | constant (v : Literal)
  /-- A text with values in braces, as it stands in the script. -/
  | joined (source : List Char) (raw : Bool)
  | sign (s : String)
  | newline
  | indent
  | dedent
  | ending
  /-- What is no token: the kind of the error, the message and the place, which is
  the beginning or so many characters in front of the end. -/
  | bad (kind message : String) (fromEnd : Option Nat)
deriving Inhabited

structure Located where
  token : Token
  line : Nat
  column : Nat
  finish : Nat
deriving Inhabited

structure Bracket where
  sign : Char
  line : Nat
  column : Nat
deriving Inhabited

namespace Token

def isSign (t : Token) (s : String) : Bool :=
  match t with
  | sign u => s == u
  | _ => false

def isKeyword (t : Token) (s : String) : Bool :=
  match t with
  | keyword u => s == u
  | _ => false

end Token

namespace Tokens

def keywords : List String := [
  "False", "None", "True", "and", "as", "assert", "async", "await", "break", "class", "continue",
  "def", "del", "elif", "else", "except", "finally", "for", "from", "global", "if", "import", "in",
  "is", "lambda", "nonlocal", "not", "or", "pass", "raise", "return", "try", "while", "with", "yield"]

def signs : List String := [
  "**=", "//=", ">>=", "<<=", "...", "+=", "-=", "*=", "/=", "%=", "&=", "|=", "^=", "@=", "->", ":=",
  "**", "//", "<<", ">>", "<=", ">=", "==", "!=", "(", ")", "[", "]", "\x7b", "\x7d", ",", ":", ".", ";",
  "@", "=", "+", "-", "*", "/", "%", "&", "|", "^", "~", "<", ">"]

def isNameStart (c : Char) : Bool := c.isAlpha || c = '_' || 128 ≤ c.toNat

def isNameChar (c : Char) : Bool := c.isAlphanum || c = '_' || 128 ≤ c.toNat

def openingOf : Char → Char
  | ')' => '('
  | ']' => '['
  | _ => '\x7b'

def hexOf (ds : List Char) : Nat := Arithmetic.magnitude 16 ds

def unescaped (isBytes : Bool) : Nat → List Char → Except String (List Char)
  | 0, _ | _, [] => .ok []
  | n + 1, '\\' :: c :: rest => do
    let hex (size : Nat) (form : String) : Except String (List Char) := do
      let ds := (rest.take size).takeWhile Arithmetic.isHexDigit
      if ds.length < size then
        if isBytes then throw ("(value error) invalid \\x escape at position 0")
        else throw ("(unicode error) 'unicodeescape' codec can't decode bytes in position 0-1: truncated " ++
          form ++ " escape")
      return Char.ofNat (hexOf ds) :: (← unescaped isBytes n (rest.drop size))
    if c = '\n' then unescaped isBytes n rest
    else if c = '\\' || c = '\'' || c = '"' then return c :: (← unescaped isBytes n rest)
    else if Format.isOctal c then
      let ds := ((c :: rest).take 3).takeWhile Format.isOctal
      return Char.ofNat (Arithmetic.magnitude 8 ds) :: (← unescaped isBytes n ((c :: rest).drop ds.length))
    else if c = 'x' then hex 2 "\\xXX"
    else if c = 'u' && !isBytes then hex 4 "\\uXXXX"
    else if c = 'U' && !isBytes then hex 8 "\\UXXXXXXXX"
    else if c = 'e' then return '\\' :: c :: (← unescaped isBytes n rest)
    else match Format.escape? c with
    | some d => return d :: (← unescaped isBytes n rest)
    | none => return '\\' :: c :: (← unescaped isBytes n rest)
  | n + 1, c :: rest => do return c :: (← unescaped isBytes n rest)

/-- The characters up to the closing quotes, as they stand, and what follows. -/
def quotedEnd (quotes : List Char) (long : Bool) : List Char → List Char → Option (List Char × List Char)
  | _, [] => none
  | read, '\\' :: c :: rest => quotedEnd quotes long (c :: '\\' :: read) rest
  | read, c :: rest =>
    if quotes.isPrefixOf (c :: rest) then some (read.reverse, (c :: rest).drop quotes.length)
    else if c = '\n' && !long then none
    else quotedEnd quotes long (c :: read) rest

/-- Letters in front of a text: whether it is taken as it stands, is made of
bytes, and has values in it. -/
def marks? (cs : List Char) : Option (Bool × Bool × Bool × Nat) :=
  let letters := (cs.takeWhile Char.isAlpha).map Char.toLower
  match cs.drop letters.length with
  | c :: _ =>
    if (c = '"' || c = '\'') && letters.length ≤ 2 && letters.all "rbfu".toList.contains
        && letters.eraseDups.length = letters.length
        && !(letters.contains 'b' && letters.contains 'f') && !(letters.contains 'u' && 1 < letters.length) then
      some (letters.contains 'r', letters.contains 'b', letters.contains 'f', letters.length)
    else none
  | [] => none

def text (raw isBytes isJoined : Bool) (cs : List Char) (line : Nat) : Token × List Char :=
  match cs with
  | q :: _ =>
    let long := [q, q, q].isPrefixOf cs
    let quotes := if long then [q, q, q] else [q]
    match quotedEnd quotes long [] (cs.drop quotes.length) with
    | none =>
      let last := if long then line + cs.count '\n' else line
      (.bad "SyntaxError" ("unterminated " ++ (if long then "triple-quoted " else "") ++
        "string literal (detected at line " ++ toString last ++ ")") none, [])
    | some (body, rest) =>
      if isJoined then (.joined body raw, rest)
      else
        match if raw then .ok body else unescaped isBytes (body.length + 1) body with
        | .error message => (.bad "SyntaxError" message (some 0), rest)
        | .ok chars =>
          if isBytes && chars.any (256 ≤ ·.toNat) then
            (.bad "SyntaxError" "bytes can only contain ASCII literal characters" (some 0), rest)
          else
            let s := String.ofList chars
            (.constant (if isBytes then .bytes s else .text s), rest)
  | [] => (.ending, [])

/-- How long a run of digits is with single low lines between them, and whether
it ends well; the flag says that a low line came last. -/
def run (isDigit : Char → Bool) : Nat → Bool → List Char → Nat × Bool
  | count, marked, c :: rest =>
    if c = '_' then if marked then (count, false) else run isDigit (count + 1) true rest
    else if isDigit c then run isDigit (count + 1) false rest
    else (count, !marked)
  | count, marked, [] => (count, !marked)

def badNumber (message : String) : Token := .bad "SyntaxError" message (some 1)

def withoutLowLines (cs : List Char) : List Char := cs.filter (· != '_')

def inBase (base : Nat) (name : String) (isDigit : Char → Bool) (cs : List Char) : Token × List Char :=
  let (count, good) := run isDigit 0 false cs
  let rest := cs.drop count
  match rest with
  | c :: after =>
    if c.isDigit then
      (badNumber ("invalid digit '" ++ String.singleton c ++ "' in " ++ name ++ " literal"), after)
    else if count = 0 || !good then (badNumber ("invalid " ++ name ++ " literal"), rest)
    else (.constant (.int (Arithmetic.magnitude base (withoutLowLines (cs.take count)))), rest)
  | [] =>
    if count = 0 || !good then (badNumber ("invalid " ++ name ++ " literal"), rest)
    else (.constant (.int (Arithmetic.magnitude base (withoutLowLines (cs.take count)))), rest)

/-- A number in base ten: its whole part, a part behind a point, and a power of ten. -/
def decimal (cs : List Char) : Token × List Char :=
  let bad (rest : List Char) : Token × List Char := (badNumber "invalid decimal literal", rest)
  let (count, good) := run Char.isDigit 0 false cs
  let whole := cs.take count
  let rest := cs.drop count
  if !good then bad rest else
  let (point, rest, good) := match rest with
    | '.' :: more =>
      let (count, good) := match more with
        | '_' :: _ => (0, true)
        | more => run Char.isDigit 0 false more
      ('.' :: more.take count, more.drop count, good)
    | _ => ([], rest, true)
  if !good then bad rest else
  let (power, rest, good) := match rest with
    | e :: more =>
      if e = 'e' || e = 'E' then
        let sign := (more.take 1).takeWhile fun c => c = '+' || c = '-'
        let more := more.drop sign.length
        match more with
        | c :: _ =>
          if c.isDigit then
            let (count, good) := run Char.isDigit 0 false more
            ('e' :: sign ++ more.take count, more.drop count, good)
          else ([], rest, sign.isEmpty)
        | [] => ([], rest, sign.isEmpty)
      else ([], rest, true)
    | [] => ([], [], true)
  if !good then bad rest
  else if point.isEmpty && power.isEmpty then
    let ds := withoutLowLines whole
    if ds.head? == some '0' && ds.any (· != '0') then
      (.bad "SyntaxError" ("leading zeros in decimal integer literals are not permitted; " ++
        "use an 0o prefix for octal integers") none, rest)
    else (.constant (.int (Arithmetic.magnitude 10 ds)), rest)
  else
    match Format.fraction? (withoutLowLines (whole ++ point ++ power)) with
    | some ((num, den), _) => (.constant (.float (Number.ofFraction false num den)), rest)
    | none => bad rest

def number (cs : List Char) : Token × List Char :=
  let ((token, rest), name) : (Token × List Char) × String := match cs with
    | '0' :: x :: rest =>
      if x = 'x' || x = 'X' then (inBase 16 "hexadecimal" Arithmetic.isHexDigit rest, "hexadecimal")
      else if x = 'o' || x = 'O' then (inBase 8 "octal" Format.isOctal rest, "octal")
      else if x = 'b' || x = 'B' then (inBase 2 "binary" (fun c => c = '0' || c = '1') rest, "binary")
      else (decimal cs, "decimal")
    | _ => (decimal cs, "decimal")
  match token, rest with
  | .bad _ _ _, _ => (token, rest)
  | .constant v, c :: after =>
    let word := String.ofList (rest.takeWhile isNameChar)
    let imaginary : Option Float := match v with
      | .int n => some (Number.ofInt n)
      | .float x => some x
      | _ => none
    if word.toLower == "j" && name == "decimal" then
      (.constant ((imaginary.map .imaginary).getD v), after)
    else if isNameStart c && !keywords.contains word then (badNumber ("invalid " ++ name ++ " literal"), rest)
    else (token, rest)
  | _, _ => (token, rest)

structure State where
  rest : List Char
  line : Nat := 1
  column : Nat := 0
  brackets : List Bracket := []
  /-- How far the open blocks are set in, the innermost first. -/
  levels : List Nat := [0]
  atStart : Bool := true

def width : Nat → List Char → Nat
  | n, ' ' :: rest => width (n + 1) rest
  | n, '\t' :: rest => width ((n / 8 + 1) * 8) rest
  | n, _ => n

def levelChange (level : Nat) : List Nat → List Token × List Nat
  | [] => ([], [level])
  | top :: others =>
    if top < level then ([.indent], level :: top :: others)
    else if top = level then ([], top :: others)
    else if (others.headD 0) < level then
      ([.bad "IndentationError" "unindent does not match any outer indentation level" (some 0)], top :: others)
    else
      let (tokens, levels) := levelChange level others
      (.dedent :: tokens, levels)

def isSpace (c : Char) : Bool := c = ' ' || c = '\t' || c = '\x0c'

def next (line : Nat) (cs : List Char) : Token × List Char :=
  match cs with
  | [] => (.ending, [])
  | c :: rest =>
    match marks? cs with
    | some (raw, isBytes, isJoined, size) => text raw isBytes isJoined (cs.drop size) line
    | none =>
      if c.isDigit || (c = '.' && (rest.head?.map Char.isDigit).getD false) then number cs
      else if isNameStart c then
        let word := String.ofList (cs.takeWhile isNameChar)
        (if keywords.contains word then .keyword word else .name word, cs.drop word.length)
      else match signs.find? fun s => s.toList.isPrefixOf cs with
      | some s => (.sign s, cs.drop s.length)
      | none => (.bad "SyntaxError" "invalid syntax" none, rest)

def bracketed (s : String) (line column : Nat) (opened : List Bracket) : Token × List Bracket :=
  match s.toList with
  | [c] =>
    if c = '(' || c = '[' || c = '\x7b' then (.sign s, ⟨c, line, column⟩ :: opened)
    else if c = ')' || c = ']' || c = '\x7d' then
      match opened with
      | [] => (.bad "SyntaxError" ("unmatched '" ++ s ++ "'") none, [])
      | b :: others =>
        if b.sign = openingOf c then (.sign s, others)
        else
          let place := if b.line = line then "" else " on line " ++ toString b.line
          (.bad "SyntaxError" ("closing parenthesis '" ++ s ++ "' does not match opening parenthesis '" ++
            String.singleton b.sign ++ "'" ++ place) none, others)
    else (.sign s, opened)
  | _ => (.sign s, opened)

def all : Nat → State → List Located × List Bracket
  | 0, s => ([⟨.ending, s.line, 0, 0⟩], s.brackets)
  | n + 1, s =>
    let blanks := s.rest.takeWhile isSpace
    let s := { s with rest := s.rest.drop blanks.length, column := s.column + blanks.length }
    let here (t : Token) (finish : Nat) : Located := match t with
      | .bad _ _ (some back) => ⟨t, s.line, finish - back, finish⟩
      | _ => ⟨t, s.line, s.column, finish⟩
    let push (ts : List Located) (s : State) : List Located × List Bracket :=
      let (more, brackets) := all n s
      (ts ++ more, brackets)
    match s.atStart, s.rest with
    | true, '\n' :: rest => all n { s with rest := rest, line := s.line + 1, column := 0 }
    | _, '#' :: _ =>
      let comment := s.rest.takeWhile (· != '\n')
      all n { s with rest := s.rest.drop comment.length, column := s.column + comment.length }
    | true, [] =>
      let closing := (s.levels.filter (0 < ·)).map fun _ => here .dedent 0
      (closing ++ [here .ending 0], s.brackets)
    | true, _ =>
      let (tokens, levels) := levelChange (width 0 blanks) s.levels
      let size := (s.rest.takeWhile (· != '\n')).length
      push (tokens.map fun t => here t (s.column + size)) { s with levels := levels, atStart := false }
    | false, [] =>
      if s.brackets.isEmpty then
        push [here .newline s.column] { s with atStart := true, line := s.line + 1, column := 0 }
      else ([here .ending s.column], s.brackets)
    | false, '\\' :: '\n' :: rest => all n { s with rest := rest, line := s.line + 1, column := 0 }
    | false, '\\' :: _ =>
      ([here (.bad "SyntaxError" "unexpected character after line continuation character" none) (s.column + 1)],
        s.brackets)
    | false, '\n' :: rest =>
      let s' := { s with rest := rest, line := s.line + 1, column := 0 }
      if s.brackets.isEmpty then push [here .newline (s.column + 1)] { s' with atStart := true }
      else all n s'
    | false, cs =>
      let (token, rest) := next s.line cs
      let passed := cs.take (cs.length - rest.length)
      let lines := passed.count '\n'
      let column := if lines = 0 then s.column + passed.length
        else (passed.reverse.takeWhile (· != '\n')).length
      let (token, brackets) := match token with
        | .sign sign => bracketed sign s.line s.column s.brackets
        | token => (token, s.brackets)
      push [here token (s.column + passed.length)]
        { s with rest := rest, line := s.line + lines, column := column, brackets := brackets }

/-- The tokens of a script, and the brackets that are never closed. -/
def ofText (source : String) : List Located × List Bracket :=
  let cs := source.toList.filter (· != '\r')
  all (2 * cs.length + 4) { rest := cs }

end Tokens

end PartitionTest.Shell.Objects
