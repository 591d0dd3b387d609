import PartitionTest.Shell.Number
import PartitionTest.Shell.Records.Script

/-! The tokens of a program that works on records. A slash begins a pattern
where a division makes no sense. -/
namespace PartitionTest.Shell.Records

inductive Token where
  | number (x : Float) (source : String)
  | text (s : String)
  | pattern (source : String)
  | name (s : String)
  /-- A name with a parenthesis right behind it. -/
  | called (s : String)
  | builtin (s : String)
  | keyword (s : String)
  | sign (s : String)
  | newline
  | ending
  /-- A character that no token begins with. -/
  | stray (c : Char)
  /-- What has no end; the message says so. -/
  | bad (message : String)
deriving Inhabited

structure Line where
  file : String := ""
  number : Nat
deriving Inhabited

structure Located where
  token : Token
  line : Line
deriving Inhabited

namespace Token

def shown : Token → String
  | number _ source => source
  | text s | name s | called s | builtin s | keyword s | sign s => s
  | pattern source => "/" ++ source ++ "/"
  | newline => "end of line"
  | ending => "end of file"
  | stray c =>
    if c.toNat ≤ 32 || 127 ≤ c.toNat then "0x" ++ (if c.toNat < 16 then "0" else "") ++ String.ofList (Nat.toDigits 16 c.toNat)
    else "'" ++ String.singleton c ++ "'"
  | bad message => message

def isSign (t : Token) (s : String) : Bool :=
  match t with
  | sign u => s == u
  | _ => false

def isKeyword (t : Token) (s : String) : Bool :=
  match t with
  | keyword u => s == u
  | _ => false

def endsValue : Token → Bool
  | number _ _ | text _ | name _ | pattern _ => true
  | sign s => [")", "]", "++", "--", "$"].contains s
  | keyword s => s == "getline"
  | _ => false

end Token

namespace Tokens

def builtins : List (String × Builtin) := [
  ("length", .length), ("substr", .substr), ("index", .index), ("split", .split), ("sub", .sub),
  ("gsub", .gsub), ("match", .matches), ("sprintf", .sprintf), ("tolower", .lower),
  ("toupper", .upper), ("int", .int), ("sqrt", .sqrt), ("exp", .exp), ("log", .log), ("sin", .sin),
  ("cos", .cos), ("atan2", .atan2), ("rand", .rand), ("srand", .srand), ("system", .system),
  ("close", .close), ("fflush", .flush), ("systime", .time), ("strftime", .timeText),
  ("mktime", .timeOf)]

def keywords : List String := [
  "BEGIN", "END", "function", "if", "else", "while", "for", "do", "in", "break", "continue", "next",
  "nextfile", "exit", "return", "delete", "print", "printf", "getline"]

def signs : List String := [
  "^=", "+=", "-=", "*=", "/=", "%=", "==", "<=", ">=", "!=", "!~", "&&", "||", "++", "--", ">>",
  "\x7b", "\x7d", "(", ")", "[", "]", ";", ",", "+", "-", "*", "/", "%", "^", "!", "<", ">", "|", "?", ":",
  "~", "$", "="]

def isNameStart (c : Char) : Bool := c.isAlpha || c = '_'

def isNameChar (c : Char) : Bool := c.isAlphanum || c = '_'

/-- The characters of a text up to its end on the same line, as they stand. -/
def textEnd : List Char → List Char → Option (List Char × List Char)
  | _, [] => none
  | read, '\\' :: c :: rest => textEnd (c :: '\\' :: read) rest
  | read, c :: rest =>
    if c = '"' then some (read.reverse, rest)
    else if c = '\n' then none
    else textEnd (c :: read) rest

/-- The characters of a pattern up to its end on the same line, as they stand. A
set in brackets may hold a slash, and a bracket as its first member. -/
def patternEnd (inSet : Bool) : List Char → List Char → Option (List Char × List Char)
  | _, [] => none
  | read, '\\' :: c :: rest =>
    if c = '\n' then none else patternEnd inSet (c :: '\\' :: read) rest
  | read, c :: rest =>
    let isFirst := read.head? == some '[' || "^[".toList.isPrefixOf read
    if c = '/' && !inSet then some (read.reverse, rest)
    else if c = '\n' then none
    else patternEnd (if c = ']' then inSet && isFirst else inSet || c = '[') (c :: read) rest

def unescaped : Nat → List Char → List Char
  | 0, _ | _, [] => []
  | n + 1, '\\' :: c :: rest =>
    if c = '\n' then unescaped n rest
    else if c = '"' || c = '\\' then c :: unescaped n rest
    else if Format.isOctal c then
      let (d, rest) := Format.octal 3 (c :: rest)
      d :: unescaped n rest
    else if c = 'e' then '\\' :: c :: unescaped n rest
    else if c = 'x' && !(Format.hexDigits 2 rest).isEmpty then
      let ds := Format.hexDigits 2 rest
      Char.ofNat (Arithmetic.magnitude 16 ds) :: unescaped n (rest.drop ds.length)
    else match Format.escape? c with
    | some d => d :: unescaped n rest
    | none => '\\' :: c :: unescaped n rest
  | n + 1, c :: rest => c :: unescaped n rest

def withoutSlashes : List Char → List Char
  | '\\' :: '/' :: rest => '/' :: withoutSlashes rest
  | '\\' :: c :: rest => '\\' :: c :: withoutSlashes rest
  | c :: rest => c :: withoutSlashes rest
  | [] => []

def lineRest (cs : List Char) : String :=
  String.ofList ((cs.takeWhile (· != '\n')).take 10)

def number (cs : List Char) : Token × List Char :=
  let isDecimal := match cs with
    | '0' :: x :: _ => x != 'x' && x != 'X'
    | _ => true
  let read := if isDecimal then Format.fraction? cs else some ((0, 1), cs.drop 1)
  match read with
  | some ((num, den), rest) =>
    (.number (Number.ofFraction false num den) (String.ofList (cs.take (cs.length - rest.length))), rest)
  | none => (.bad "number", cs.drop 1)

def word (cs : List Char) : Token × List Char :=
  let name := String.ofList (cs.takeWhile isNameChar)
  let rest := cs.drop name.length
  let token := if keywords.contains name then .keyword name
    else if (builtins.lookup name).isSome then .builtin name
    else if rest.head? == some '(' then .called name
    else .name name
  (token, rest)

/-- The token at the front of a text; `last` is the one before it. -/
def next (last : Token) (cs : List Char) : Token × List Char :=
  match cs with
  | [] => (.ending, [])
  | c :: rest =>
    let isNumber := c.isDigit || (c = '.' && (rest.head?.map Char.isDigit).getD false)
    if c = '\n' then (.newline, rest)
    else if isNumber then number cs
    else if isNameStart c then word cs
    else if c = '"' then
      match textEnd [] rest with
      | some (s, rest) => (.text (String.ofList (unescaped (s.length + 1) s)), rest)
      | none => (.bad ("runaway string constant \"" ++ lineRest rest ++ " ..."), [])
    else if c = '/' && !last.endsValue then
      match patternEnd false [] rest with
      | some (s, rest) => (.pattern (String.ofList (withoutSlashes s)), rest)
      | none => (.bad ("runaway regular expression /" ++ lineRest rest ++ " ..."), [])
    else match signs.find? fun s => s.toList.isPrefixOf cs with
    | some s => (.sign s, cs.drop s.length)
    | none => (.stray c, rest)

/-- Blanks, comments and line ends behind a backslash stand between tokens. -/
def skipBlanks : Nat → List Char → Nat → List Char × Nat
  | 0, cs, line => (cs, line)
  | n + 1, cs, line =>
    match cs with
    | '\\' :: '\n' :: rest => skipBlanks n rest (line + 1)
    | '\\' :: '\r' :: '\n' :: rest => skipBlanks n rest (line + 1)
    | '#' :: rest => skipBlanks n (rest.dropWhile (· != '\n')) line
    | c :: rest =>
      if c = ' ' || c = '\t' || c = '\r' || c = '\x0b' || c = '\x0c' then skipBlanks n rest line
      else (cs, line)
    | [] => ([], line)

/-- All tokens with their lines. The end counts as a line of its own. -/
def all (file : String) : Nat → Token → List Char → Nat → List Located
  | 0, _, _, line => [⟨.ending, ⟨file, line⟩⟩]
  | n + 1, last, cs, line =>
    let (cs, line) := skipBlanks (cs.length + 1) cs line
    match next last cs with
    | (.ending, _) => [⟨.newline, ⟨file, line⟩⟩, ⟨.ending, ⟨file, line + 1⟩⟩]
    | (token, rest) =>
      let passed := (cs.take (cs.length - rest.length)).count '\n'
      ⟨token, ⟨file, line⟩⟩ :: all file n token rest (line + passed)

def ofText (file source : String) : List Located :=
  all file (source.length + 2) .newline source.toList 1

def ofTexts : List (String × String) → List Located
  | [] => [⟨.ending, ⟨"", 1⟩⟩]
  | [(file, source)] => ofText file source
  | (file, source) :: rest => (ofText file source).dropLast ++ ofTexts rest

end Tokens

end PartitionTest.Shell.Records
