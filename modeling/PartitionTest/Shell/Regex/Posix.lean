import PartitionTest.Shell.Regex

/-! Reading regular expressions in the basic and in the extended form. Signs
are read one by one; what a sign means depends on the form and on where it
stands. -/
namespace PartitionTest.Shell.Regex

structure Form where
  extended : Bool
  /-- Whether a sign for repetition needs something to repeat, at the start as elsewhere. -/
  strict : Bool := true
  /-- Whether ranges may be empty. -/
  emptyRanges : Bool := false
  /-- Whether line feeds separate lines in a text. -/
  lines : Bool := false

/-- Whether bounds that make no sense stand for themselves, and so does a
parenthesis that closes nothing. -/
def Form.lenient (f : Form) : Bool := f.extended && !f.strict

inductive Fault where
  | invalid
  | collation
  | kindName
  | trailing
  | reference
  | bracket
  | parenthesis
  | brace
  | bounds
  | rangeEnd
  | nothingBefore
  | size
  | unopened
deriving DecidableEq, Repr, Inhabited

def Fault.message : Fault → String
  | invalid => "Invalid regular expression"
  | collation => "Invalid collation character"
  | kindName => "Invalid character class name"
  | trailing => "Trailing backslash"
  | reference => "Invalid back reference"
  | bracket => "Unmatched [, [^, [:, [., or [="
  | parenthesis => "Unmatched ( or \\("
  | brace => "Unmatched \\\x7b"
  | bounds => "Invalid content of \\\x7b\\\x7d"
  | rangeEnd => "Invalid range end"
  | nothingBefore => "Invalid preceding regular expression"
  | size => "Regular expression too big"
  | unopened => "Unmatched ) or \\)"

inductive Token where
  | char (c : Char)
  | fixed (r : Regex)
  /-- A place, after which nothing is repeated. -/
  | anchor (r : Regex)
  | openSet
  | openGroup
  | closeGroup
  | openBounds
  | closeBounds
  | repeated (least : Nat) (most : Option Nat)
  | reference (n : Nat)
  | either
  | backslash
  | ended
deriving Inhabited

def outside (members : List CharMember) : Regex :=
  .among true (.range Wide.firstStray Wide.lastStray :: members)

/-- What characters have that are not in a set. Where line feeds separate lines
none of them has. -/
def Form.apart (f : Form) (members : List CharMember) : Regex :=
  outside (if f.lines then .one '\n' :: members else members)

def sign (f : Form) (caret atStart : Bool) : List Char → Token × Nat
  | [] => (.ended, 0)
  | ['\\'] => (.backslash, 1)
  | '\\' :: c :: _ =>
    (match c with
      | '|' => if f.extended then .char c else .either
      | '(' => if f.extended then .char c else .openGroup
      | ')' => if f.extended then .char c else .closeGroup
      | '{' => if f.extended then .char c else .openBounds
      | '}' => if f.extended then .char c else .closeBounds
      | '+' => if f.extended then .char c else .repeated 1 none
      | '?' => if f.extended then .char c else .repeated 0 (some 1)
      | '<' => .anchor .wordStart
      | '>' => .anchor .wordEnd
      | 'b' => .anchor (.border true)
      | 'B' => .anchor (.border false)
      | '\x60' => .anchor .start
      | '\'' => .anchor .finish
      | 'w' => .fixed (.among false [.kind .word])
      | 'W' => .fixed (outside [.kind .word])
      | 's' => .fixed (.among false [.kind .space])
      | 'S' => .fixed (outside [.kind .space])
      | c => if '1' ≤ c && c ≤ '9' then .reference (c.toNat - '0'.toNat) else .char c, 2)
  | c :: rest =>
    (match c with
      | '|' => if f.extended then .either else .char c
      | '(' => if f.extended then .openGroup else .char c
      | ')' => if f.extended then .closeGroup else .char c
      | '{' => if f.extended then .openBounds else .char c
      | '}' => if f.extended then .closeBounds else .char c
      | '+' => if f.extended then .repeated 1 none else .char c
      | '?' => if f.extended then .repeated 0 (some 1) else .char c
      | '*' => .repeated 0 none
      | '[' => .openSet
      | '.' => .fixed (f.apart [])
      | '^' =>
        if f.extended || caret || atStart then .anchor (if f.lines then .lineStart else .start) else .char c
      | '$' =>
        let closes := f.extended || rest.isEmpty || ['\\', '|'].isPrefixOf rest || ['\\', ')'].isPrefixOf rest
        if closes then .anchor (if f.lines then .lineFinish else .finish) else .char c
      | c => .char c, 1)

structure Reading where
  rest : List Char
  /-- Whether nothing is read yet. -/
  fresh : Bool := true
  token : Token := .ended
  /-- How many groups are open or closed so far. -/
  groups : Nat := 0
  closed : List Nat := []

abbrev Read := StateT Reading (Except Fault)

def Read.next (f : Form) (caret : Bool := false) : Read Unit := modify fun s =>
  let (token, size) := sign f caret s.fresh s.rest
  { s with token := token, rest := s.rest.drop size, fresh := s.fresh && size = 0 }

def kinds : List (String × CharKind) := [
  ("alpha", .letter), ("digit", .digit), ("alnum", .alphanumeric), ("upper", .upper), ("lower", .lower),
  ("space", .space), ("blank", .blank), ("punct", .punctuation), ("xdigit", .hexDigit), ("cntrl", .control),
  ("print", .shown), ("graph", .graphic)]

def memberOf (name : String) : Option CharMember :=
  if name == "digit" then some (.range '0' '9') else (kinds.lookup name).map .kind

/-- A name between a bracket and a mark, up to the mark and the other bracket. -/
def markedName (mark : Char) : List Char → List Char → Except Fault (String × List Char)
  | _, [] | _, [_] => .error .bracket
  | found, c :: d :: rest =>
    if c = mark && d = ']' then .ok (String.ofList found.reverse, rest)
    else if 32 ≤ found.length then .error .bracket
    else markedName mark (c :: found) (d :: rest)

inductive Element where
  | char (c : Char)
  | members (m : CharMember)

/-- An element of a set. A dash is one only where it cannot mean a range. -/
def element (first : Bool) : List Char → Except Fault (Element × List Char)
  | '[' :: ':' :: rest => do
    let (name, rest) ← markedName ':' [] rest
    match memberOf name with
    | some m => return (.members m, rest)
    | none => throw .kindName
  | '[' :: '=' :: rest => do
    let (name, rest) ← markedName '=' [] rest
    match name.toList with
    | [c] => return (.members (.one c), rest)
    | _ => throw .collation
  | '[' :: '.' :: rest => do
    let (name, rest) ← markedName '.' [] rest
    match name.toList with
    | [c] => return (.char c, rest)
    | _ => throw .collation
  | '-' :: rest =>
    if !first && rest.head? != some ']' then .error .rangeEnd else .ok (.char '-', rest)
  | c :: rest => .ok (.char c, rest)
  | [] => .error .bracket

def members (f : Form) : Nat → Bool → List Char → Except Fault (List CharMember × List Char)
  | 0, _, _ | _, _, [] => .error .bracket
  | n + 1, first, cs =>
    if !first && cs.head? == some ']' then .ok ([], cs.drop 1)
    else do
      let (a, rest) ← element first cs
      let (own, rest) ← match rest with
        | '-' :: [] => match a with
          | .char _ => throw .bracket
          | .members m => pure (m, rest)
        | '-' :: b :: more =>
          match a with
          | .members m => pure (m, rest)
          | .char c =>
            if b = ']' then pure (CharMember.one c, rest)
            else do
              let (last, rest) ← element true (b :: more)
              match last with
              | .char d => if d < c && !f.emptyRanges then throw .rangeEnd else pure (.range c d, rest)
              | .members _ => throw .rangeEnd
        | _ => match a with
          | .char c => pure (CharMember.one c, rest)
          | .members m => pure (m, rest)
      let (others, rest) ← members f n false rest
      return (own :: others, rest)

def charSet (f : Form) : Read Regex := do
  let cs := (← get).rest
  let (negated, cs) := match cs with
    | '^' :: rest => (true, rest)
    | _ => (false, cs)
  if cs.isEmpty then throw .invalid
  let (found, rest) ← (members f (cs.length + 1) true cs : Except Fault _)
  modify fun s => { s with rest := rest }
  return if negated then f.apart found else .among false found

def maxRepeats : Nat := 32767

/-- A number in bounds: none, one that makes no sense, or its value. -/
inductive Bound where
  | absent
  | senseless
  | value (n : Nat)

def bound (f : Form) : Nat → Bound → Read Bound
  | 0, _ => return .senseless
  | n + 1, found => do
    Read.next f
    match (← get).token with
    | .ended => return .senseless
    | .closeBounds | .char ',' => return found
    | .char c =>
      bound f n (match found, c.isDigit with
        | .senseless, _ | _, false => .senseless
        | .absent, true => .value (c.toNat - '0'.toNat)
        | .value v, true => .value (Nat.min (maxRepeats + 1) (v * 10 + (c.toNat - '0'.toNat))))
    | _ => bound f n .senseless

def isComma : Token → Bool
  | .char ',' => true
  | _ => false

def closesBounds : Token → Bool
  | .closeBounds => true
  | _ => false

def repeats : Token → Bool
  | .repeated _ _ | .openBounds => true
  | _ => false

def repetition (f : Form) (r : Regex) : Read Regex := do
  let before ← get
  match before.token with
  | .repeated least most =>
    Read.next f
    return .repeated least most false r
  | _ =>
    let size := before.rest.length + 1
    let first ← bound f size .absent
    let sign := (← get).token
    let least ← match first, isComma sign with
      | .absent, false => throw .bounds
      | .absent, true => pure (.value 0)
      | l, _ => pure l
    let most ← match least, closesBounds sign, isComma sign with
      | .value _, true, _ => pure least
      | .value _, false, true => bound f size .absent
      | _, _, _ => pure .senseless
    match least, most with
    | .value l, .value m => closed l (some m)
    | .value l, .absent => closed l none
    | _, _ =>
      if f.lenient then
        set { before with token := .char '{' }
        return r
      else match (← get).token with
        | .ended => throw .brace
        | _ => throw .bounds
where
  closed (least : Nat) (most : Option Nat) : Read Regex := do
    if !closesBounds (← get).token || most.any (· < least) then throw .bounds
    if maxRepeats < most.getD least then throw .size
    Read.next f
    return .repeated least most false r

def repetitions (f : Form) : Nat → Regex → Read Regex
  | 0, r => return r
  | n + 1, r => do
    if repeats (← get).token then
      let r ← repetition f r
      let again := match (← get).token with
        | .repeated 0 none | .openBounds => true
        | _ => false
      if again && !f.extended && f.strict then throw .nothingBefore
      repetitions f n r
    else return r

def part (f : Form) (size : Nat) (whole : Read Regex) : Nat → Read Regex
  | 0 => throw .size
  | n + 1 => do
    let repeated (r : Regex) : Read Regex := do
      Read.next f
      repetitions f size r
    let token := (← get).token
    match token with
    | .char c => repeated (.char c)
    | .fixed r => repeated r
    | .anchor r =>
      Read.next f
      return r
    | .openSet => repeated (← charSet f)
    | .openGroup =>
      let number := (← get).groups + 1
      modify fun s => { s with groups := number }
      Read.next f true
      let inner ← match (← get).token with
        | .closeGroup => pure .empty
        | _ => whole
      match (← get).token with
      | .closeGroup =>
        modify fun s => { s with closed := number :: s.closed }
        repeated (.group number inner)
      | _ => throw .parenthesis
    | .reference k => if (← get).closed.contains k then repeated (.again k) else throw .reference
    | .repeated _ _ | .openBounds =>
      let bounds := match token with
        | .openBounds => true
        | _ => false
      if f.strict && (f.extended || bounds) then throw .nothingBefore
      else if f.extended then
        Read.next f
        part f size whole n
      else repeated (.char (if bounds then '{' else plain token))
    | .closeGroup => if f.lenient then repeated (.char ')') else throw .unopened
    | .closeBounds => repeated (.char '}')
    | .backslash => throw .trailing
    | .either | .ended => return .empty
where
  plain : Token → Char
    | .repeated 1 _ => '+'
    | .repeated _ (some _) => '?'
    | _ => '*'

def endsBranch (nested : Bool) : Token → Bool
  | .either | .ended => true
  | .closeGroup => nested
  | _ => false

def branch (f : Form) (size : Nat) (nested : Bool) (whole : Read Regex) : Nat → Read Regex
  | 0 => throw .size
  | n + 1 => do
    if endsBranch nested (← get).token then return .empty
    else
      let a ← part f size whole size
      return .concat a (← branch f size nested whole n)

def alternatives (f : Form) (size : Nat) : Nat → Bool → Read Regex
  | 0, _ => throw .size
  | n + 1, nested => do
    let a ← branch f size nested (alternatives f size n true) size
    match (← get).token with
    | .either =>
      Read.next f true
      return .either a (← alternatives f size n nested)
    | _ => return a

def parse (f : Form) (text : List Char) : Except Fault (Regex × Nat) := do
  let size := text.length + 2
  let whole : Read Regex := do
    Read.next f true
    alternatives f size size false
  let (r, s) ← whole.run { rest := text }
  return (r, s.groups)

end PartitionTest.Shell.Regex
