import PartitionTest.Shell.Edits.Script
import PartitionTest.Shell.Format
import PartitionTest.Shell.Regex.Posix

/-! Reading scripts that edit lines. A script comes in parts; a flaw is told with
the part it is in and how far that has been read. -/
namespace PartitionTest.Shell.Edits

inductive Origin where
  | expression (number : Nat)
  | file (path : String)
deriving DecidableEq, Repr, Inhabited

inductive Fault where
  | manyNegations
  | comma
  | stepFirst
  | openBlock
  | closeBlock
  | junk
  | lacksText
  | closeAddress
  | labelAddress
  | commentAddress
  | noCommand
  | oneAddress
  | openAddress
  | openSubstitution
  | openTransliteration
  | unknownFlag
  | manyPrints
  | manyAlls
  | manyNumbers
  | zeroNumber
  | lengths
  | wideDelimiter
  | newerVersion
  | lineZero
  | unknown (c : Char)
  | lacksLabel
  | lacksFile
  | emptyWithFlags
  | noGroup (n : Nat)
  | noneBefore
  | regex (f : Regex.Fault)
deriving DecidableEq, Repr, Inhabited

namespace Fault

def quoted (s : String) : String := "\x60" ++ s ++ "'"

def message : Fault → String
  | manyNegations => "multiple " ++ quoted "!" ++ "s"
  | comma => "unexpected " ++ quoted ","
  | stepFirst => "invalid usage of +N or ~N as first address"
  | openBlock => "unmatched " ++ quoted "\x7b"
  | closeBlock => "unexpected " ++ quoted "\x7d"
  | junk => "extra characters after command"
  | lacksText => "expected \\ after " ++ quoted "a" ++ ", " ++ quoted "c" ++ " or " ++ quoted "i"
  | closeAddress => quoted "\x7d" ++ " doesn't want any addresses"
  | labelAddress => ": doesn't want any addresses"
  | commentAddress => "comments don't accept any addresses"
  | noCommand => "missing command"
  | oneAddress => "command only uses one address"
  | openAddress => "unterminated address regex"
  | openSubstitution => "unterminated " ++ quoted "s" ++ " command"
  | openTransliteration => "unterminated " ++ quoted "y" ++ " command"
  | unknownFlag => "unknown option to " ++ quoted "s"
  | manyPrints => "multiple " ++ quoted "p" ++ " options to " ++ quoted "s" ++ " command"
  | manyAlls => "multiple " ++ quoted "g" ++ " options to " ++ quoted "s" ++ " command"
  | manyNumbers => "multiple number options to " ++ quoted "s" ++ " command"
  | zeroNumber => "number option to " ++ quoted "s" ++ " command may not be zero"
  | lengths => "strings for " ++ quoted "y" ++ " command are different lengths"
  | wideDelimiter => "delimiter character is not a single-byte character"
  | newerVersion => "expected newer version of sed"
  | lineZero => "invalid usage of line address 0"
  | unknown c => "unknown command: " ++ quoted (String.singleton c)
  | lacksLabel => "\":\" lacks a label"
  | lacksFile => "missing filename in r/R/w/W commands"
  | emptyWithFlags => "cannot specify modifiers on empty regexp"
  | noGroup n => "invalid reference \\" ++ toString n ++ " on " ++ quoted "s" ++ " command's RHS"
  | noneBefore => "no previous regular expression"
  | regex f => f.message

end Fault

structure Flaw where
  fault : Fault
  origin : Origin
  /-- How many bytes have been read, or lines. -/
  place : Nat
deriving Repr, Inhabited

def Flaw.message (f : Flaw) : String :=
  (match f.origin with
    | .expression k => "-e expression #" ++ toString k ++ ", char " ++ toString f.place
    | .file path => "file " ++ path ++ " line " ++ toString f.place) ++ ": " ++ f.fault.message

/-- What is left to read. Texts have a character for each of their code. -/
structure Reading where
  origin : Origin
  text : List Char
  rest : List Char
  later : List (Origin × List Char)
  /-- Whether expressions have the extended form. -/
  extended : Bool
  /-- Whether line feeds are nothing special in a line. -/
  zeroEnds : Bool
  /-- Blocks that are open, and where they were opened. -/
  opened : List Flaw := []
deriving Inhabited

abbrev Read := StateT Reading (Except Flaw)

namespace Read

def byteCount (cs : List Char) : Nat := (Wide.narrow cs).length

/-- A flaw at the place that has been reached; so many bytes back, if that is given. -/
def flaw (f : Fault) (back : Nat := 0) : Read Flaw := do
  let s ← get
  let place := match s.origin with
    | .expression _ => byteCount s.text - byteCount s.rest - back
    | .file _ => (s.text.take (s.text.length - s.rest.length)).count '\n' + 1
  return ⟨f, s.origin, place⟩

def fail (f : Fault) : Read α := do throw (← flaw f)

/-- A flaw of a character of which only the first byte has been looked at. -/
def failAt (c : Char) (f : Fault) : Read α := do throw (← flaw f (byteCount [c] - 1))

def next : Read (Option Char) := do
  let s ← get
  match s.rest with
  | [] => return none
  | c :: rest =>
    set { s with rest := rest }
    return some c

def back (c : Option Char) : Read Unit := modify fun s => { s with rest := c.toList ++ s.rest }

def isBlank (c : Char) : Bool := c = ' ' || c = '\t'

def isSpace (c : Char) : Bool := isBlank c || ('\n' ≤ c && c ≤ '\r')

def solid : Read (Option Char) := do
  modify fun s => { s with rest := s.rest.dropWhile isBlank }
  next

def upTo (ends : Char → Bool) : Read (List Char) := do
  let s ← get
  let cs := s.rest.takeWhile (!ends ·)
  set { s with rest := s.rest.drop cs.length }
  return cs

def number (c : Option Char) : Read Nat := do
  back c
  return Format.naturalOf (← upTo (!·.isDigit))

def turn : Read Bool := do
  let s ← get
  match s.later with
  | [] => return false
  | (origin, text) :: later =>
    set { s with origin := origin, text := text, rest := text, later := later }
    return true

end Read

inductive SetPlace where
  | plain
  | bracket
  | named (mark : Char)
  | closing (mark : Char)

/-- The rest of a set in brackets up to its end, given a bound on its size. -/
def setRest : Nat → SetPlace → List Char → List Char → Option (List Char × List Char)
  | 0, _, _, _ | _, _, _, [] => none
  | n + 1, place, found, c :: rest =>
    let goOn (place : SetPlace) := setRest n place (c :: found) rest
    if c = '\n' then none
    else match place, c with
    | .plain, ']' | .bracket, ']' => some ((c :: found).reverse, rest)
    | .plain, '[' => goOn .bracket
    | .bracket, '[' => goOn .bracket
    | .bracket, c => goOn (if c = '.' || c = ':' || c = '=' then .named c else .plain)
    | .named mark, c => goOn (if c = mark then .closing mark else .named mark)
    | .closing mark, c => goOn (if c = ']' then .plain else if c = mark then .closing mark else .named mark)
    | .plain, _ => goOn .plain

def setText (cs : List Char) : Option (List Char × List Char) :=
  let (lead, rest) := match cs with
    | '^' :: ']' :: rest => (['^', ']'], rest)
    | '^' :: rest => (['^'], rest)
    | ']' :: rest => ([']'], rest)
    | _ => ([], cs)
  (setRest (rest.length + 1) .plain [] rest).map fun (own, rest) => (lead ++ own, rest)

/-- A text up to a mark, which is taken too. A hidden mark loses its backslash. -/
def delimited (mark : Char) (isRegex : Bool) : Nat → List Char → Read (Option (List Char))
  | 0, _ => return none
  | n + 1, found => do
    match ← Read.next with
    | none => return none
    | some '\n' =>
      Read.back (some '\n')
      return none
    | some c =>
      if c = mark then return some found.reverse
      else if c = '\\' then
        match ← Read.next with
        | none => return none
        | some d =>
          if d = 'n' && isRegex then delimited mark isRegex n ('\n' :: found)
          else if d = '\n' || (d = mark && (isRegex || d != '&')) then delimited mark isRegex n (d :: found)
          else delimited mark isRegex n (d :: c :: found)
      else if c = '[' && isRegex then
        match setText (← get).rest with
        | some (own, rest) =>
          modify fun s => { s with rest := rest }
          delimited mark isRegex n (own.reverse ++ c :: found)
        | none =>
          modify fun s => { s with rest := s.rest.dropWhile (· != '\n') }
          return none
      else delimited mark isRegex n (c :: found)

def between (mark : Char) (isRegex : Bool) : Read (Option (List Char)) := do
  if 0x80 ≤ mark.toNat then Read.failAt mark .wideDelimiter
  delimited mark isRegex ((← get).rest.length + 1) []

def charBase? : Char → Option (Nat × Nat)
  | 'd' => some (10, 3)
  | 'o' => some (8, 3)
  | 'x' => some (16, 2)
  | _ => none

def digitValue (c : Char) : Nat :=
  if c.isDigit then c.toNat - 48
  else if 'a' ≤ c.toLower && c.toLower ≤ 'f' then c.toLower.toNat - 87
  else 99

def letterSign? : Char → Option Char
  | 'a' => some '\x07'
  | 'f' => some '\x0c'
  | 'n' | '\n' => some '\n'
  | 'r' => some '\r'
  | 't' => some '\t'
  | 'v' => some '\x0b'
  | _ => none

/-- Replaces signs for characters, given a bound on the size. In a replacement an
ampersand or a backslash that comes from a number stands for itself. -/
def unescaped (inReplacement : Bool) : Nat → List Char → List Char
  | 0, cs => cs
  | _, [] => []
  | n + 1, '\\' :: c :: rest =>
    match letterSign? c, charBase? c with
    | some d, _ => d :: unescaped inReplacement n rest
    | none, some (base, most) =>
      let digits := (rest.take most).takeWhile (digitValue · < base)
      if digits.isEmpty then c :: unescaped inReplacement n rest
      else
        let value := digits.foldl (fun v d => v * base + digitValue d) 0 % 256
        let d := if value < 0x80 then Char.ofNat value else Wide.stray (Char.ofNat value)
        let own := if inReplacement && (d = '&' || d = '\\') then ['\\', d] else [d]
        own ++ unescaped inReplacement n (rest.drop digits.length)
    | none, none =>
      match c, rest with
      | 'c', d :: rest => Char.ofNat (d.toUpper.toNat ^^^ 0x40) :: unescaped inReplacement n rest
      | _, _ => '\\' :: c :: unescaped inReplacement n rest
  | n + 1, c :: rest => c :: unescaped inReplacement n rest

def signsRead (inReplacement : Bool) (cs : List Char) : List Char :=
  let cs := unescaped inReplacement cs.length cs
  if cs.any Wide.isStray then Wide.wide (Wide.narrow cs) else cs

def bare : List Char → List Char
  | '\\' :: c :: rest => c :: bare rest
  | c :: rest => c :: bare rest
  | [] => []

/-- An expression, and how many groups it has; nothing if it is empty. -/
def sought (text : List Char) (folded lines : Bool) : Read (Option Sought × Nat) := do
  if text.isEmpty then
    if folded || lines then Read.fail .emptyWithFlags
    return (none, 0)
  else
    let s ← get
    match Regex.parse { extended := s.extended, lines := lines && !s.zeroEnds } (signsRead false text) with
    | .ok (regex, groups) => return (some { regex, folded }, groups)
    | .error f => Read.fail (.regex f)

/-- The pieces of a replacement: the letters from now on, and those of the next piece. -/
def piecesOf : Letters → Letters × Letters → List Char → List Char → List Piece
  | _, (letters, first), found, [] =>
    if found.isEmpty then [] else [{ text := found.reverse, letters, first }]
  | kept, (letters, first), found, '\\' :: c :: rest =>
    let piece : Piece := { text := found.reverse, letters, first }
    let all (l : Letters) := piece :: piecesOf l (l, .asIs) [] rest
    match c with
    | 'L' => all .lower
    | 'U' => all .upper
    | 'E' => all .asIs
    | 'l' => piece :: piecesOf kept (kept, .lower) [] rest
    | 'u' => piece :: piecesOf kept (kept, .upper) [] rest
    | c =>
      if c.isDigit then { piece with part := some (c.toNat - 48) } :: piecesOf kept (kept, .asIs) [] rest
      else { piece with text := (c :: found).reverse } :: piecesOf kept (kept, .asIs) [] rest
  | kept, (letters, first), found, '&' :: rest =>
    { text := found.reverse, letters, first, part := some 0 } :: piecesOf kept (kept, .asIs) [] rest
  | kept, next, found, c :: rest => piecesOf kept next (c :: found) rest

def fileName : Read String := do
  Read.back (← Read.solid)
  let path ← Read.upTo (· = '\n')
  if path.isEmpty then Read.fail .lacksFile
  return String.ofList (Wide.narrow path)

structure Flags where
  all : Bool := false
  prints : Bool := false
  number : Option Nat := none
  folded : Bool := false
  lines : Bool := false
  outlet : Option String := none

def flags : Nat → Flags → Read Flags
  | 0, f => return f
  | n + 1, f => do
    match ← Read.next with
    | none | some '\n' | some ';' => return f
    | some 'i' | some 'I' => flags n { f with folded := true }
    | some 'm' | some 'M' => flags n { f with lines := true }
    | some 'p' =>
      if f.prints then Read.fail .manyPrints
      flags n { f with prints := true }
    | some 'g' =>
      if f.all then Read.fail .manyAlls
      flags n { f with all := true }
    | some 'w' => return { f with outlet := some (← fileName) }
    | some '\x7d' =>
      Read.back (some '\x7d')
      return f
    | some '#' =>
      Read.back (some '#')
      return f
    | some c =>
      if Read.isBlank c then flags n f
      else if c.isDigit then
        if f.number.isSome then Read.fail .manyNumbers
        let k ← Read.number (some c)
        if k = 0 then Read.fail .zeroNumber
        flags n { f with number := some k }
      else if c = '\r' && (← get).rest.head? == some '\n' then
        let _ ← Read.next
        return f
      else Read.failAt c .unknownFlag

def substitution : Read Substitution := do
  match ← Read.next with
  | none => Read.fail .openSubstitution
  | some mark =>
    match ← between mark true with
    | none => Read.fail .openSubstitution
    | some pattern =>
      match ← between mark false with
      | none => Read.fail .openSubstitution
      | some new =>
        let pieces := piecesOf .asIs (.asIs, .asIs) [] (signsRead true new)
        let f ← flags ((← get).rest.length + 1) {}
        let (s, groups) ← sought pattern f.folded f.lines
        let asked := pieces.foldl (fun k p => Nat.max k (p.part.getD 0)) 0
        if s.isSome && groups < asked then Read.fail (.noGroup asked)
        return { sought := s, pieces, number := f.number.getD 1, all := f.all, prints := f.prints, outlet := f.outlet }

def ending : Read Unit := do
  match ← Read.solid with
  | none | some '\n' | some ';' => pure ()
  | some c =>
    if c = '\x7d' || c = '#' then Read.back (some c) else Read.failAt c .junk

def transliteration : Read (List (Char × Char)) := do
  match ← Read.next with
  | none => Read.fail .openTransliteration
  | some mark =>
    match ← between mark false with
    | none => Read.fail .openTransliteration
    | some source =>
      match ← between mark false with
      | none => Read.fail .openTransliteration
      | some target =>
        let source := bare (signsRead false source)
        let target := bare (signsRead false target)
        if source.length != target.length then Read.fail .lengths
        ending
        return source.zip target

/-- The lines of a text. A backslash hides the end of a line, and the end of a
part if another one follows. -/
def textLines : Nat → List Char → Read (List Char)
  | 0, found => return found.reverse
  | n + 1, found => do
    let done := bare (signsRead false found.reverse) ++ ['\n']
    match ← Read.next with
    | none | some '\n' => return done
    | some '\\' =>
      match ← Read.next with
      | some c => textLines n (c :: '\\' :: found)
      | none => if ← Read.turn then textLines n ('\n' :: found) else return found.reverse ++ ['\n']
    | some c => textLines n (c :: found)

/-- The text of a command: the rest of its line, or what follows a backslash. -/
def textOf : Read (List Char) := do
  let s ← get
  let size := s.rest.length + s.later.foldl (fun n part => n + part.2.length) 0 + s.later.length + 1
  match ← Read.solid with
  | none => Read.fail .lacksText
  | some '\\' =>
    match ← Read.next with
    | none => if ← Read.turn then textLines size [] else return []
    | some '\n' => textLines size []
    | c =>
      Read.back c
      textLines size []
  | some c =>
    Read.back (if c = '\n' then none else some c)
    if c = '\n' then return ['\n'] else textLines size []

def labelOf : Read String := do
  Read.back (← Read.solid)
  let cs ← Read.upTo fun c => Read.isSpace c || c = ';' || c = '\x7d'
  return String.ofList cs

def address (c : Option Char) : Read (Option Bound) := do
  match c with
  | some '/' => fitting '/'
  | some '\\' =>
    match ← Read.next with
    | some mark => fitting mark
    | none => Read.fail .openAddress
  | some '$' => return some (.on .last)
  | some '+' => return some (.after (← Read.number (← Read.solid)))
  | some '~' => return some (.multiple (← Read.number (← Read.solid)))
  | some c =>
    if c.isDigit then
      let n ← Read.number (some c)
      match ← Read.solid with
      | some '~' =>
        let step ← Read.number (← Read.solid)
        return some (.on (if step = 0 then .line n else .step n step))
      | d =>
        Read.back d
        return some (.on (.line n))
    else return none
  | none => return none
where
  fitting (mark : Char) : Read (Option Bound) := do
    match ← between mark true with
    | none => Read.fail .openAddress
    | some text =>
      let (folded, lines) ← letters ((← get).rest.length + 1) (false, false)
      let (s, _) ← sought text folded lines
      return some (.on (.fits s))
  letters : Nat → Bool × Bool → Read (Bool × Bool)
    | 0, f => return f
    | n + 1, (folded, lines) => do
      match ← Read.solid with
      | some 'I' => letters n (true, lines)
      | some 'M' => letters n (folded, true)
      | c =>
        Read.back c
        return (folded, lines)

def selection (c : Option Char) : Read (Selection × Option Char) := do
  match ← address c with
  | none => return (.all, c)
  | some (.on first) =>
    let isZero := match first with
      | .line 0 => true
      | _ => false
    match ← Read.solid with
    | some ',' =>
      match ← address (← Read.solid) with
      | none => Read.fail .comma
      | some last =>
        let c ← Read.solid
        let isFitting := match last with
          | .on (.fits _) => true
          | _ => false
        if isZero && !isFitting then Read.fail .lineZero
        return (.range first last, c)
    | c =>
      if isZero then Read.fail .lineZero
      return (.one first, c)
  | some _ => Read.fail .stepFirst

def Selection.isAll : Selection → Bool
  | .all => true
  | _ => false

def numbered : Read (Option Nat) := do
  let c ← Read.solid
  let n ← if c.any Char.isDigit then some <$> Read.number c
    else do
      Read.back c
      pure none
  ending
  return n

def version : List Nat := [4, 9]

def action (selection : Selection) (c : Char) : Read Action := do
  let single : Read Unit := do
    if let .range _ _ := selection then Read.fail .oneAddress
  match c with
  | '\x7b' =>
    let f ← Read.flaw .openBlock
    let f := match f.origin with
      | .expression _ => { f with place := 0 }
      | .file _ => f
    modify fun s => { s with opened := f :: s.opened }
    return .openBlock
  | '\x7d' =>
    match (← get).opened with
    | [] => Read.fail .closeBlock
    | _ :: opened =>
      if !selection.isAll then Read.fail .closeAddress
      ending
      modify fun s => { s with opened := opened }
      return .closeBlock
  | 's' => return .substitute (← substitution)
  | 'y' => return .transliterate (← transliteration)
  | 'a' => return .append (← textOf)
  | 'i' => return .insert (← textOf)
  | 'c' => return .change (← textOf)
  | ':' =>
    if !selection.isAll then Read.fail .labelAddress
    let s ← labelOf
    if s.isEmpty then Read.fail .lacksLabel
    return .label s
  | 'b' => return .branch none (← labelOf)
  | 't' => return .branch (some true) (← labelOf)
  | 'T' => return .branch (some false) (← labelOf)
  | 'q' =>
    single
    return .quit false ((← numbered).getD 0)
  | 'Q' =>
    single
    return .quit true ((← numbered).getD 0)
  | 'l' => return .list (← numbered)
  | 'r' => return .appendFile (← fileName)
  | 'R' => return .appendLine (← fileName)
  | 'w' => return .write (← fileName)
  | 'W' => return .writeFirst (← fileName)
  | c =>
    match Plain.ofLetter? c with
    | some p =>
      ending
      return .plain p
    | none => Read.failAt c (.unknown ((Wide.narrow [c]).headD c))

def isNewer (s : String) : Bool :=
  let asked := (s.splitOn ".").map fun p => Format.naturalOf (p.toList.takeWhile Char.isDigit)
  compare asked version == .gt

def command (c : Char) : Read (Option Command) := do
  let (selection, c) ← selection (some c)
  let (negated, c) ← if c == some '!' then do
      let c ← Read.solid
      if c == some '!' then Read.fail .manyNegations
      pure (true, c)
    else pure (false, c)
  match c with
  | none => Read.fail .noCommand
  | some '#' =>
    if !selection.isAll then Read.fail .commentAddress
    let _ ← Read.upTo (· = '\n')
    return none
  | some 'v' =>
    if isNewer (← labelOf) then Read.fail .newerVersion
    return none
  | some c => return some { selection, negated, action := ← action selection c }

def readCommands : Nat → List Command → Read (List Command)
  | 0, found => return found.reverse
  | n + 1, found => do
    modify fun s => { s with rest := s.rest.dropWhile fun c => c = ';' || Read.isSpace c }
    match ← Read.next with
    | none => if ← Read.turn then readCommands n found else return found.reverse
    | some c => readCommands n ((← command c).toList ++ found)

/-- Whether a script begins with the remark that asks for silence. -/
def isSilent (text : List Char) : Bool :=
  match text with
  | ['#', 'n'] => true
  | '#' :: 'n' :: '\n' :: _ => true
  | _ => false

def Script.read (extended zeroEnds : Bool) (parts : List (Origin × List Char)) : Except Flaw Script := do
  let parts := parts.map fun (o, text) => (o, Wide.wide text)
  match parts with
  | [] => return .ofCommands [] false
  | (origin, text) :: later =>
    let size := parts.foldl (fun n part => n + part.2.length) 0 + parts.length + 1
    let (cs, s) ← (readCommands size []).run { origin, text, rest := text, later, extended, zeroEnds }
    match s.opened with
    | f :: _ => throw f
    | [] => return .ofCommands cs (isSilent text)

end PartitionTest.Shell.Edits
