import PartitionTest.Shell.Regex

/-! Reading regular expressions whose alternatives are tried in their order:
with lazy repetition, names for groups, and what must come before or after. -/
namespace PartitionTest.Shell.Regex.Ordered

structure Flags where
  folded : Bool := false
  /-- Whether there are lines in a text. -/
  lines : Bool := false
  /-- Whether a dot also fits a line feed. -/
  dotAll : Bool := false
  /-- Whether blanks and comments mean nothing. -/
  spaced : Bool := false
  /-- Whether kinds of characters are those of ASCII. -/
  ascii : Bool := false
  /-- Whether the text is one line, for which some signs mean something else. -/
  line : Bool := false
deriving DecidableEq, Repr, Inhabited

inductive Flaw where
  | unclosed
  | unopened
  | nothingBefore
  | twice
  | openSet
  | endsInEscape
  | noGroup (n : String)
  | notFixed
  | badEscape (s : String)
  | disordered
  | badRange (s : String)
  | badKind
  | openName
  | other (message : String)
deriving DecidableEq, Repr, Inhabited

def Flaw.message : Flaw → String
  | unclosed => "missing ), unterminated subpattern"
  | unopened => "unbalanced parenthesis"
  | nothingBefore => "nothing to repeat"
  | twice => "multiple repeat"
  | openSet => "unterminated character set"
  | endsInEscape => "bad escape (end of pattern)"
  | noGroup n => "invalid group reference " ++ n
  | notFixed => "look-behind requires fixed-width pattern"
  | badEscape s => "bad escape " ++ s
  | disordered => "min repeat greater than max repeat"
  | badRange s => "bad character range " ++ s
  | badKind => "unknown character class"
  | openName => "missing >, unterminated name"
  | other message => message

def Flaw.lineMessage : Flaw → String
  | unclosed => "missing closing parenthesis"
  | unopened => "unmatched closing parenthesis"
  | nothingBefore | twice => "quantifier does not follow a repeatable item"
  | openSet => "missing terminating ] for character class"
  | endsInEscape => "\\ at end of pattern"
  | noGroup _ => "reference to non-existent subpattern"
  | notFixed => "lookbehind assertion is not fixed length"
  | badEscape _ => "unrecognized character follows \\"
  | disordered => "numbers out of order in \x7b\x7d quantifier"
  | badRange _ => "range out of order in character class"
  | badKind => "unknown POSIX class name"
  | openName => "syntax error in subpattern name (missing terminator?)"
  | other message => message

structure State where
  rest : List Char
  place : Nat := 0
  groups : Nat := 0
  names : List (String × Nat) := []
  /-- Groups that are not closed yet. -/
  opened : List Nat := []

abbrev Read := StateT State (Except (Flaw × Option Nat))

def flawed (f : Flaw) (place : Nat) : Read α := throw (f, some place)

def here : Read Nat := do return (← get).place

def peek : Read (Option Char) := do return (← get).rest.head?

def skip (n : Nat) : Read Unit := modify fun s => { s with rest := s.rest.drop n, place := s.place + n }

def take : Read (Option Char) := do
  let c ← peek
  if c.isSome then skip 1
  return c

def takes (text : String) : Read Bool := do
  if text.toList.isPrefixOf (← get).rest then
    skip text.length
    return true
  else return false

def takeWhile (most : Nat) (p : Char → Bool) : Read (List Char) := do
  let cs := ((← get).rest.take most).takeWhile p
  skip cs.length
  return cs

def isOctal (c : Char) : Bool := '0' ≤ c && c ≤ '7'

def isHex (c : Char) : Bool := CharKind.hexDigit.has c

def digitOf (c : Char) : Nat :=
  if c.isDigit then c.toNat - 48 else c.toLower.toNat - 87

def numberOf (base : Nat) (ds : List Char) : Nat := ds.foldl (fun n c => n * base + digitOf c) 0

def kindOf (fl : Flags) (c : Char) : Option CharMember :=
  let ranges (k : CharKind) (small : Bool) : CharMember := if small then .kind k else .notKind k
  match c with
  | 'd' => some (ranges .digit true)
  | 'D' => some (ranges .digit false)
  | 's' => some (ranges .space true)
  | 'S' => some (ranges .space false)
  | 'w' => some (ranges .word true)
  | 'W' => some (ranges .word false)
  | 'h' => if fl.line then some (.kind .blank) else none
  | 'H' => if fl.line then some (.notKind .blank) else none
  | _ => none

def asciiRanges : CharKind → List CharMember
  | .digit => [.range '0' '9']
  | .space => [.range '\t' '\x0d', .one ' ']
  | _ => [.range '0' '9', .range 'A' 'Z', .one '_', .range 'a' 'z']

def kindSet (fl : Flags) (m : CharMember) : Regex :=
  match fl.ascii, m with
  | true, .kind k => .among false (asciiRanges k)
  | true, .notKind k => .among true (asciiRanges k)
  | _, m => .among false [m]

/-- Members of a set for a kind; those that are not of it, if it is asked for. -/
def kindMembers (fl : Flags) (m : CharMember) : List CharMember :=
  match fl.ascii, m with
  | true, .kind k => asciiRanges k
  | true, .notKind .digit => [.range '\x00' '/', .range ':' (Char.ofNat 0x10FFFF)]
  | true, .notKind .space => [.range '\x00' '\x08', .range '\x0e' '\x1f', .range '!' (Char.ofNat 0x10FFFF)]
  | true, .notKind _ => [.range '\x00' '/', .range ':' '@', .range '[' '^', .one '\x60',
      .range '\x7b' (Char.ofNat 0x10FFFF)]
  | _, m => [m]

def letterEscape? : Char → Option Char
  | 'a' => some '\x07'
  | 'f' => some '\x0c'
  | 'n' => some '\n'
  | 'r' => some '\r'
  | 't' => some '\t'
  | 'v' => some '\x0b'
  | _ => none

def numbered (fl : Flags) (start : Nat) (c : Char) : Read Char := do
  if fl.line && (c = 'x' || c = 'o') then
    if ← takes "\x7b" then
      let ds ← takeWhile 12 fun d => d != '\x7d'
      let _ ← takes "\x7d"
      return Char.ofNat (numberOf (if c = 'x' then 16 else 8) ds)
    else return Char.ofNat (numberOf 16 (← takeWhile 2 isHex))
  let size := if c = 'x' then 2 else if c = 'u' then 4 else 8
  let ds ← takeWhile size isHex
  if ds.length < size then
    flawed (.other ("incomplete escape \\" ++ String.singleton c ++ String.ofList ds)) start
  else
    let n := numberOf 16 ds
    if 0x10FFFF < n then flawed (.badEscape ("\\" ++ String.singleton c ++ String.ofList ds)) start
    else return Char.ofNat n

def isNumbered (fl : Flags) (c : Char) : Bool :=
  c = 'x' || (if fl.line then c = 'o' else c = 'u' || c = 'U')

def setEscape (fl : Flags) (start : Nat) : Read (List CharMember ⊕ Char) := do
  match ← take with
  | none => flawed .endsInEscape start
  | some c =>
    match kindOf fl c, letterEscape? c with
    | some m, _ => return .inl (kindMembers fl m)
    | none, some d => return .inr d
    | none, none =>
      if c = 'b' then return .inr '\x08'
      else if isNumbered fl c then return .inr (← numbered fl start c)
      else if fl.line && c = 'e' then return .inr '\x1b'
      else if isOctal c then
        let ds ← takeWhile 2 isOctal
        let n := numberOf 8 (c :: ds)
        if 0o377 < n then
          flawed (.other ("octal escape value \\" ++ String.ofList (c :: ds) ++ " outside of range 0-0o377")) start
        else return .inr (Char.ofNat n)
      else if c.isAlpha || c.isDigit then flawed (.badEscape ("\\" ++ String.singleton c)) start
      else return .inr c

def namedKind (fl : Flags) : Read (Option CharMember) := do
  if !fl.line then return none
  let cs := (← get).rest
  match cs with
  | '[' :: ':' :: more =>
    let name := more.takeWhile fun c => c.isAlpha || c = '^'
    if [':', ']'].isPrefixOf (more.drop name.length) then
      let start ← here
      skip (name.length + 4)
      match CharMember.named? (String.ofList name) with
      | some m => return some m
      | none => flawed .badKind start
    else return none
  | _ => return none
where
  CharMember.named? (name : String) : Option CharMember :=
    [("alpha", CharKind.letter), ("digit", .digit), ("alnum", .alphanumeric), ("upper", .upper),
      ("lower", .lower), ("space", .space), ("blank", .blank), ("punct", .punctuation), ("word", .word),
      ("xdigit", .hexDigit), ("cntrl", .control), ("print", .shown), ("graph", .graphic)].lookup name |>.map .kind

def written (start : Nat) (before : List Char) : Read String := do
  return String.ofList (before.take ((← here) - start))

def setElement (fl : Flags) (start : Nat) : Read (List CharMember ⊕ Char) := do
  let place ← here
  match ← namedKind fl with
  | some m => return .inl [m]
  | none =>
    match ← take with
    | none => flawed .openSet start
    | some '\\' => setEscape fl place
    | some c => return .inr c

def members (fl : Flags) (start : Nat) : Nat → Bool → Read (List CharMember)
  | 0, _ => flawed .openSet start
  | n + 1, first => do
    if !first && (← peek) == some ']' then
      skip 1
      return []
    else
      let begun ← here
      let source := (← get).rest
      let low ← setElement fl start
      let single : List CharMember := match low with
        | .inl ms => ms
        | .inr c => [.one c]
      let (own, ended) ← match (← get).rest with
        | '-' :: more => do
          if more.isEmpty then flawed .openSet start
          else if more.head? == some ']' then do
            skip 2
            pure (single ++ [.one '-'], true)
          else do
            skip 1
            let high ← setElement fl start
            match low, high with
            | .inr a, .inr b =>
              if b < a then flawed (.badRange (← written begun source)) begun
              else pure ([CharMember.range a b], false)
            | _, _ =>
              if fl.line then
                pure (single ++ [.one '-'] ++ (match high with
                  | .inl ms => ms
                  | .inr c => [.one c]), false)
              else flawed (.badRange (← written begun source)) begun
        | _ => pure (single, false)
      if ended then return own
      else return own ++ (← members fl start n false)

def charSet (fl : Flags) (start : Nat) : Read Regex := do
  let negated ← takes "^"
  let found ← members fl start ((← get).rest.length + 1) true
  return .among negated found

/-- The width of all texts that an expression fits, if it is the same. -/
def width? : Regex → Option Nat
  | .char _ | .any | .among _ _ => some 1
  | .concat a b => do return (← width? a) + (← width? b)
  | .either a b => do
    let n ← width? a
    if n = (← width? b) then return n else none
  | .repeated least most _ a => do
    if most == some least then return least * (← width? a) else none
  | .group _ a | .once a | .folded a => width? a
  | .given _ a b => do
    let n ← width? a
    if n = (← width? b) then return n else none
  | .again _ => none
  | _ => some 0

/-- What must stand before: alternatives may differ in their width in lines. -/
def before (fl : Flags) (wanted : Bool) (a : Regex) : Option Regex :=
  match width? a with
  | some n => some (.behind wanted n a)
  | none =>
    match fl.line, a with
    | true, .either b c => do
      let n ← width? b
      let m ← width? c
      return if wanted then .either (.behind true n b) (.behind true m c)
        else .concat (.behind false n b) (.behind false m c)
    | _, _ => none

inductive Form where
  | plain
  /-- A place, which is not repeated. -/
  | place
  /-- Something that is repeated already. -/
  | repeated
deriving DecidableEq, Repr, Inhabited

def isNameStart (c : Char) : Bool := c = '_' || Text.Letters.isLetter c

def isName (s : List Char) : Bool :=
  match s with
  | [] => false
  | c :: cs => isNameStart c && cs.all fun c => isNameStart c || c.isDigit

def name (ending : Char) : Read String := do
  let start ← here
  let cs ← takeWhile (← get).rest.length (· != ending)
  if (← peek).isNone then
    if cs.isEmpty then flawed (.other "missing group name") start
    else flawed (if ending = '>' then .openName else .other "missing ), unterminated name") start
  else
    skip 1
    if cs.isEmpty then flawed (.other "missing group name") start
    else return String.ofList cs

/-- The number of a group that has a name, or is told by its number. -/
def groupOf (s : String) (place : Nat) : Read Nat := do
  match (← get).names.lookup s with
  | some n => return n
  | none => flawed (.other ("unknown group name '" ++ s ++ "'")) place

def again (fl : Flags) (n : Nat) (start : Nat) : Read Regex := do
  let s ← get
  if s.groups < n then flawed (.noGroup (toString n)) (start + 1)
  else if s.opened.contains n && !fl.line then flawed (.other "cannot refer to an open group") start
  else return .again n

def escape (fl : Flags) (start : Nat) : Read (Regex × Form) := do
  let plain (r : Regex) : Read (Regex × Form) := return (r, .plain)
  let atPlace (r : Regex) : Read (Regex × Form) := return (r, .place)
  match ← take with
  | none => flawed .endsInEscape start
  | some c =>
    match kindOf fl c, letterEscape? c with
    | some m, _ => plain (kindSet fl m)
    | none, some d => plain (.char d)
    | none, none =>
      if c = 'A' then atPlace .start
      else if c = 'b' then atPlace (.border true)
      else if c = 'B' then atPlace (.border false)
      else if c = 'Z' then atPlace (if fl.line then .nearFinish else .finish)
      else if fl.line && c = 'z' then atPlace .finish
      else if fl.line && c = 'N' then plain (.among true [.one '\n'])
      else if fl.line && c = 'R' then plain (.among false [.range '\n' '\x0d'])
      else if fl.line && c = 'e' then plain (.char '\x1b')
      else if isNumbered fl c then plain (.char (← numbered fl start c))
      else if c = '0' then plain (.char (Char.ofNat (numberOf 8 (← takeWhile 2 isOctal))))
      else if c.isDigit then
        let more := ((← get).rest.take 2).takeWhile Char.isDigit
        match more with
        | d :: e :: _ =>
          if isOctal c && isOctal d && isOctal e then
            skip 2
            let n := numberOf 8 [c, d, e]
            if 0o377 < n then
              flawed (.other ("octal escape value \\" ++ String.ofList [c, d, e] ++ " outside of range 0-0o377")) start
            else plain (.char (Char.ofNat n))
          else
            skip 1
            plain (← again fl (numberOf 10 [c, d]) start)
        | [d] =>
          skip 1
          plain (← again fl (numberOf 10 [c, d]) start)
        | [] => plain (← again fl (numberOf 10 [c]) start)
      else if fl.line && c = 'g' then
        let braced ← takes "\x7b"
        let ds ← takeWhile 3 Char.isDigit
        if braced then let _ ← takes "\x7d"
        plain (← again fl (numberOf 10 ds) start)
      else if c.isAlpha then flawed (.badEscape ("\\" ++ String.singleton c)) start
      else plain (.char c)

def withFlag (fl : Flags) (on : Bool) (c : Char) : Option Flags :=
  match c with
  | 'i' => some { fl with folded := on }
  | 'm' => some { fl with lines := on }
  | 's' => some { fl with dotAll := on }
  | 'x' => some { fl with spaced := on }
  | 'a' => some { fl with ascii := on }
  | 'u' | 'L' => some fl
  | _ => none

/-- Reads letters for flags up to a colon or a parenthesis; whether it was a colon. -/
def inlineFlags (start : Nat) : Nat → Bool → Bool → Flags → Read (Flags × Bool)
  | 0, _, _, fl => return (fl, false)
  | n + 1, on, seen, fl => do
    let place ← here
    match ← take with
    | none => flawed (.other (if !on && !seen then "missing flag" else if on then "missing -, : or )" else "missing :")) place
    | some ')' =>
      if on then return (fl, false) else flawed (.other "missing :") place
    | some ':' => if !on && !seen then flawed (.other "missing flag") place else return (fl, true)
    | some '-' =>
      if on then inlineFlags start n false false fl else flawed (.other "unknown flag") place
    | some c =>
      match withFlag fl on c with
      | some fl => inlineFlags start n on true fl
      | none =>
        flawed (.other (if c.isAlpha then "unknown flag" else if on then "missing -, : or )" else "missing :")) place

def remembered (start : Nat) (given : Option (String × Nat)) (whole : Read Regex) : Read Regex := do
  let n := (← get).groups + 1
  if let some (label, place) := given then
    if !isName label.toList then
      flawed (.other ("bad character in group name '" ++ label ++ "'")) place
    if let some old := (← get).names.lookup label then
      flawed (.other ("redefinition of group name '" ++ label ++ "' as group " ++ toString n ++
        "; was group " ++ toString old)) place
  modify fun s => { s with
    groups := n, opened := n :: s.opened
    names := match given with
      | some (label, _) => s.names ++ [(label, n)]
      | none => s.names }
  let r ← whole
  unless ← takes ")" do flawed .unclosed start
  modify fun s => { s with opened := s.opened.filter (· != n) }
  return .group n r

/-- What begins with a parenthesis and a question mark. Flags that hold from
there on come without an expression. -/
def extension (fl : Flags) (start : Nat) (whole : Flags → Read Regex) : Read (Option Regex × Flags) := do
  let closed (r : Regex) : Read (Option Regex × Flags) := do
    unless ← takes ")" do flawed .unclosed start
    return (some r, fl)
  match ← take with
  | none =>
    if fl.line then flawed .unclosed start else flawed (.other "unexpected end of pattern") (← here)
  | some ':' => closed (← whole fl)
  | some '>' => closed (.once (← whole fl))
  | some '=' => closed (.ahead true (← whole fl))
  | some '!' => closed (.ahead false (← whole fl))
  | some '|' => if fl.line then closed (← whole fl) else flawed (.other "unknown extension ?|") (start + 1)
  | some '#' =>
    let _ ← takeWhile (← get).rest.length (· != ')')
    if ← takes ")" then return (some .empty, fl)
    else flawed (.other "missing ), unterminated comment") start
  | some '<' =>
    match ← peek with
    | some '=' | some '!' =>
      let wanted := (← take) == some '='
      let r ← whole fl
      unless ← takes ")" do flawed .unclosed start
      match before fl wanted r with
      | some r => return (some r, fl)
      | none => throw (.notFixed, none)
    | some c =>
      if fl.line then
        let place ← here
        let label ← name '>'
        return (some (← remembered start (some (label, place)) (whole fl)), fl)
      else flawed (.other ("unknown extension ?<" ++ String.singleton c)) (start + 1)
    | none => flawed (.other "unexpected end of pattern") (← here)
  | some 'P' =>
    match ← take with
    | some '<' =>
      let place ← here
      let label ← name '>'
      return (some (← remembered start (some (label, place)) (whole fl)), fl)
    | some '=' =>
      let place ← here
      let label ← name ')'
      let n ← groupOf label place
      return (some (← again fl n start), fl)
    | some c => flawed (.other ("unknown extension ?P" ++ String.singleton c)) (start + 1)
    | none => flawed (.other "unexpected end of pattern") (← here)
  | some '(' =>
    let place ← here
    let label ← name ')'
    let n ← if label.toList.all Char.isDigit then pure (numberOf 10 label.toList) else groupOf label place
    if (← get).groups < n then flawed (.noGroup label) place
    let r ← whole fl
    unless ← takes ")" do flawed .unclosed start
    match r with
    | .either a b => return (some (.given n a b), fl)
    | r => return (some (.given n r .empty), fl)
  | some c =>
    if (withFlag fl true c).isSome || c = '-' then
      modify fun s => { s with rest := c :: s.rest, place := s.place - 1 }
      let (inner, limited) ← inlineFlags start ((← get).rest.length + 1) true false fl
      if limited then
        let r ← whole inner
        unless ← takes ")" do flawed .unclosed start
        return (some (if inner.folded && !fl.folded then .folded r else r), fl)
      else if fl.line || start = 0 then return (none, inner)
      else flawed (.other "global flags not at the start of the expression") start
    else flawed (.other ("unknown extension ?" ++ String.singleton c)) (start + 1)

def bounds (fl : Flags) (start : Nat) : Read (Option (Nat × Option Nat)) := do
  let saved ← get
  let low ← takeWhile 20 Char.isDigit
  let comma ← takes ","
  let high ← if comma then takeWhile 20 Char.isDigit else pure low
  let senseless := low.isEmpty && (fl.line || !comma)
  if senseless || !(← takes "\x7d") then
    set saved
    return none
  else
    let least := numberOf 10 low
    let most := if high.isEmpty then none else some (numberOf 10 high)
    if most.any (· < least) then flawed .disordered (start + 1)
    else return some (least, most)

def repetitions (fl : Flags) : Nat → Regex × Form → Read (Regex × Form)
  | 0, r => return r
  | n + 1, (r, form) => do
    let start ← here
    let asked ← match ← peek with
      | some '*' => do
        skip 1
        pure (some (0, none))
      | some '+' => do
        skip 1
        pure (some (1, none))
      | some '?' => do
        skip 1
        pure (some (0, some 1))
      | some '{' => do
        skip 1
        match ← bounds fl start with
        | some b => pure (some b)
        | none =>
          modify fun s => { s with rest := '{' :: s.rest, place := s.place - 1 }
          pure none
      | _ => pure none
    match asked with
    | none => return (r, form)
    | some (least, most) =>
      if form = .place then flawed .nothingBefore start
      if form = .repeated then flawed .twice start
      let lazy ← takes "?"
      let once ← if lazy then pure false else takes "+"
      let r := Regex.repeated least most lazy r
      repetitions fl n (if once then .once r else r, .repeated)

def skipSpaced : Nat → Read Unit
  | 0 => return ()
  | n + 1 => do
    match ← peek with
    | some '#' =>
      let _ ← takeWhile (← get).rest.length (· != '\n')
      skipSpaced n
    | some c =>
      if " \t\n\r\x0b\x0c".toList.contains c then
        skip 1
        skipSpaced n
    | none => return ()

def verbatim : Nat → Read Regex
  | 0 => return .empty
  | n + 1 => do
    if ← takes "\\E" then return .empty
    else match ← take with
    | none => return .empty
    | some c => return .concat (.char c) (← verbatim n)

def branch (size : Nat) (whole : Flags → Read Regex) : Nat → Flags → Read (Regex × Flags)
  | 0, fl => return (.empty, fl)
  | n + 1, fl => do
    if fl.spaced then skipSpaced size
    let start ← here
    let goOn (r : Regex × Form) : Read (Regex × Flags) := do
      let (a, _) ← repetitions fl size r
      let (b, after) ← branch size whole n fl
      return (.concat a b, after)
    match ← peek with
    | none | some '|' | some ')' => return (.empty, fl)
    | some '(' =>
      skip 1
      if ← takes "?" then
        match ← extension fl start whole with
        | (some r, _) => goOn (r, .plain)
        | (none, inner) =>
          let (r, after) ← branch size whole n inner
          return (if inner.folded && !fl.folded then .folded r else r, after)
      else goOn (← remembered start none (whole fl), .plain)
    | some '[' =>
      skip 1
      goOn (← charSet fl start, .plain)
    | some '.' =>
      skip 1
      goOn (if fl.dotAll then .any else .among true [.one '\n'], .plain)
    | some '^' =>
      skip 1
      goOn (if fl.lines then .lineStart else .start, .place)
    | some '$' =>
      skip 1
      goOn (if fl.lines then .lineFinish else if fl.line then .finish else .nearFinish, .place)
    | some '\\' =>
      skip 1
      if fl.line && (← takes "Q") then
        let r ← verbatim size
        let (b, after) ← branch size whole n fl
        return (.concat r b, after)
      goOn (← escape fl start)
    | some c =>
      if c = '*' || c = '+' || c = '?' then flawed .nothingBefore start
      if c = '{' then
        skip 1
        let found ← bounds fl start
        if found.isSome then flawed .nothingBefore start
        goOn (.char c, .plain)
      else
        skip 1
        goOn (.char c, .plain)

def alternatives (size : Nat) : Nat → Flags → Read Regex
  | 0, _ => flawed (.other "regular expression is too large") 0
  | n + 1, fl => do
    let (a, after) ← branch size (alternatives size n) size fl
    if ← takes "|" then return .either a (← alternatives size n after)
    else return a

structure Compiled where
  regex : Regex
  groups : Nat
  names : List (String × Nat)
  flags : Flags
deriving Inhabited

def leading : Nat → Flags → List Char → Flags × Nat
  | 0, fl, _ => (fl, 0)
  | n + 1, fl, cs =>
    match cs with
    | '(' :: '?' :: rest =>
      let letters := rest.takeWhile Char.isAlpha
      match letters.foldlM (fun fl c => withFlag fl true c) fl, rest.drop letters.length with
      | some inner, ')' :: more =>
        if letters.isEmpty then (fl, 0)
        else
          let (fl, size) := leading n inner more
          (fl, size + letters.length + 3)
      | _, _ => (fl, 0)
    | _ => (fl, 0)

/-- An expression as it is written, or what is wrong with it and where. -/
def parse (given : Flags) (text : List Char) : Except (Flaw × Option Nat) Compiled := do
  let size := text.length + 2
  let (fl, skipped) := leading size given text
  let (r, s) ← (alternatives size size fl).run { rest := text.drop skipped, place := skipped }
  match s.rest with
  | [] => return ⟨if fl.folded then .folded r else r, s.groups, s.names, fl⟩
  | _ => throw (.unopened, some s.place)

/-- An expression for lines, or the words for what is wrong with it. -/
def parseLine (text : List Char) : Except String Regex :=
  ((parse { line := true } text).map (·.regex)).mapError fun (f, _) => f.lineMessage

end PartitionTest.Shell.Regex.Ordered
