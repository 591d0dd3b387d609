import PartitionTest.Shell.Pattern
import PartitionTest.Shell.Regex.Posix
import PartitionTest.Shell.Regex.Ordered
import PartitionTest.Shell.Utility.Lines

/-! Searching in lines. -/
namespace PartitionTest.Shell.Utility.Search

open Machine

inductive Kind where
  | basic
  | extended
  | fixed
  | ordered
deriving DecidableEq, Repr, Inhabited

structure Sought where
  regex : Regex
  folded : Bool
  words : Bool
  lines : Bool
  /-- Whether the first way to fit counts, not the longest. -/
  ordered : Bool
  inverted : Bool

def literal (text : List Char) : Regex :=
  text.foldr (fun c r => .concat (.char c) r) .empty

def oneOf : List Regex → Regex
  | [] => .never
  | [r] => r
  | r :: rest => .either r (oneOf rest)

/-- Whether a match from one place to another one may count: as a whole line, or
with no word going on at its ends. -/
def Sought.allows (s : Sought) (a b : Regex.Spot) : Bool :=
  let beside (c : Option Char) : Bool := (c.map Regex.isWord).getD false
  (!s.words || (!beside a.before.head? && !beside b.rest.head?)) &&
    (!s.lines || (a.before.isEmpty && b.rest.isEmpty))

def Sought.at? (s : Sought) (a : Regex.Spot) : Option Regex.Match :=
  if s.ordered then
    (s.regex.first s.folded a fun b => if s.allows a b then some b else none).map (⟨a, ·⟩)
  else s.regex.longestAt? s.folded (s.allows a) a

def Sought.find? (s : Sought) (a : Regex.Spot) : Option Regex.Match :=
  Regex.scan s.at? a.rest.length a

def Sought.selects (s : Sought) (line : List Char) : Bool :=
  let fits (a : Regex.Spot) : Option Regex.Match :=
    (s.regex.first s.folded a fun b => if s.allows a b then some b else none).map (⟨a, ·⟩)
  (Regex.scan fits line.length (.ofText line)).isSome != s.inverted

def Sought.all (s : Sought) : Nat → Regex.Spot → List Regex.Match
  | 0, _ => []
  | n + 1, a =>
    match s.find? a with
    | none => []
    | some m =>
      if m.isEmpty then ((m.ending.over? fun _ => true).map (s.all n)).getD []
      else m :: s.all n { m.ending with parts := [] }

structure Layout where
  named : Bool
  numbered : Bool
  offsets : Bool
  onlyMatches : Bool
  coloured : Bool
  /-- What follows the name of a file: nothing printable if it is to end there. -/
  nulls : Bool
  before : Nat
  after : Nat
  separator : Option String
  /-- What ends a line. -/
  mark : Char

def Layout.paint (l : Layout) (colour text : String) : String :=
  if l.coloured && !text.isEmpty then "\x1b[" ++ colour ++ "m\x1b[K" ++ text ++ "\x1b[m\x1b[K" else text

def Layout.lead (l : Layout) (label : String) (sign : Char) (number offset : Nat) : String :=
  let mark := l.paint "36" (String.singleton sign)
  (if l.named then l.paint "35" label ++ (if l.nulls then String.singleton (Char.ofNat 0) else mark) else "") ++
    (if l.numbered then l.paint "32" (toString number) ++ mark else "") ++
    (if l.offsets then l.paint "32" (toString offset) ++ mark else "")

def painted (l : Layout) (line : List Char) : Nat → List Regex.Match → List Char
  | _, [] => line
  | place, m :: rest =>
    line.take (m.origin.place - place) ++ (l.paint "01;31" (String.ofList m.text)).toList ++
      painted l (line.drop (m.ending.place - place)) m.ending.place rest

/-- A line of a text: its characters, its number, where it starts, and whether it was chosen. -/
structure Line where
  text : List Char
  number : Nat
  offset : Nat
  chosen : Bool
deriving Inhabited

def hasStrays (cs : List Char) : Bool := cs.any Wide.isStray

def Layout.show (l : Layout) (s : Sought) (label : String) (line : Line) (sign : Char) : String :=
  let narrow (cs : List Char) : String := String.ofList (Wide.narrow cs)
  let ending := String.singleton l.mark
  let matches' := if s.inverted && !l.coloured then [] else s.all (line.text.length + 1) (.ofText line.text)
  if l.onlyMatches then
    if s.inverted || !line.chosen then "" else String.join (matches'.map fun m =>
      let inside := (Wide.narrow m.before).length
      l.lead label sign line.number (line.offset + inside) ++ l.paint "01;31" (narrow m.text) ++ ending)
  else
    let text := if l.coloured && line.chosen != s.inverted then painted l line.text 0 matches' else line.text
    l.lead label sign line.number line.offset ++ narrow text ++ ending

/-- Which lines are shown: those that were chosen, and those around them. -/
def Layout.shown (l : Layout) : Nat → Nat → List Line → List Line
  | _, _, [] => []
  | left, n, line :: rest =>
    if line.chosen then line :: l.shown l.after n rest
    else
      let near := (rest.take l.before).any (·.chosen)
      if 0 < left || near then line :: l.shown (left - 1) n rest else l.shown 0 n rest

/-- The lines of one text as they are shown. Between lines that do not follow
each other stands a separator. Lines that are no text are left out. -/
def Layout.print (l : Layout) (s : Sought) (label : String) (binaryFine : Bool) :
    Option Nat → List Line → List String
  | _, [] => []
  | last, line :: rest =>
    let gap := match last, l.separator with
      | some n, some sep => if n + 1 < line.number && 0 < l.before + l.after && !l.onlyMatches
          then l.paint "36" sep ++ "\n" else ""
      | _, _ => ""
    let own := if !binaryFine && hasStrays line.text then ""
      else gap ++ l.show s label line (if line.chosen then ':' else '-')
    own :: l.print s label binaryFine (some line.number) rest

structure Found where
  text : String
  count : Nat
  /-- Whether lines were found that cannot be shown. -/
  binary : Bool
  /-- Whether the rest of the text does not matter. -/
  complete : Bool

def placed (s : Sought) : Nat → Nat → List (List Char) → List Line
  | _, _, [] => []
  | number, offset, line :: rest =>
    let wide := Wide.wide line
    ⟨wide, number, offset, s.selects wide⟩ :: placed s (number + 1) (offset + line.length + 1) rest

/-- Lines up to the one with which so many are chosen, and those after it. -/
def upTo : Nat → List Line → List Line × List Line
  | 0, lines => ([], lines)
  | _, [] => ([], [])
  | n + 1, line :: rest =>
    let (front, back) := upTo (if line.chosen then n else n + 1) rest
    (line :: front, back)

inductive Report where
  | lines
  | count
  | quiet
  /-- The name of the text, if something was found in it, or if nothing was. -/
  | label (wanted : Bool)
deriving DecidableEq, Repr, Inhabited

structure Task where
  sought : Sought
  layout : Layout
  report : Report
  most : Option Nat
  /-- What to do with texts that are none. -/
  binary : String

def Task.search (t : Task) (label : String) (cs : List Char) : Found :=
  let l := t.layout
  let zero := Char.ofNat 0
  let isBinary := t.binary != "text" && l.mark = '\n' && cs.contains zero
  if isBinary && t.binary == "without-match" then ⟨"", 0, false, true⟩
  else
    let cs := if isBinary then cs.map fun c => if c = zero then '\n' else c else cs
    let pieces := Text.split (· == l.mark) cs
    let pieces := if pieces.getLast? == some [] then pieces.dropLast else pieces
    let lines := placed t.sought 1 0 pieces
    let (front, back) := match t.most with
      | some n => upTo n lines
      | none => (lines, [])
    let count := (front.filter (·.chosen)).length
    let named (text : String) : String :=
      if l.named then l.paint "35" label ++ (if l.nulls then String.singleton zero else l.paint "36" ":") ++ text
      else text
    let name := l.paint "35" label ++ (if l.nulls then String.singleton zero else "\n")
    let enough := (t.most.map fun n => decide (n ≤ count)).getD false
    match t.report with
    | .quiet => ⟨"", count, false, 0 < count⟩
    | .label wanted => ⟨if (0 < count) == wanted then name else "", count, false, 0 < count⟩
    | .count => ⟨named (toString count ++ "\n"), count, false, enough⟩
    | .lines =>
      if isBinary then ⟨"", count, 0 < count, 0 < count⟩
      else
        let after := ((back.take l.after).takeWhile (!·.chosen)).map fun line => { line with chosen := false }
        let shown := l.shown 0 0 front
        let tail := if enough && 0 < count then after else []
        let all := shown ++ tail.filter fun line => !(shown.any (·.number = line.number))
        let hidden := t.binary != "text" && all.any fun line => hasStrays line.text
        ⟨String.join (l.print t.sought label (t.binary == "text") none all), count, hidden, enough⟩

def usage : Usage :=
  { flags := "EFGPivcnlLoqswxhHaIyrRzZbUTu0123456789ĀāĂăĄ", valued := "efmABCdDąĆćĈĉ", optional := "Ċ",
    long := [("basic-regexp", 'G'), ("extended-regexp", 'E'), ("fixed-regexp", 'F'), ("fixed-strings", 'F'),
      ("perl-regexp", 'P'), ("after-context", 'A'), ("before-context", 'B'), ("group-separator", 'ą'),
      ("no-group-separator", 'Ā'), ("binary-files", 'Ć'), ("line-buffered", 'ā'), ("byte-offset", 'b'),
      ("context", 'C'), ("color", 'Ċ'), ("colour", 'Ċ'), ("count", 'c'), ("devices", 'D'),
      ("directories", 'd'), ("exclude", 'ĉ'), ("exclude-from", 'ĉ'), ("exclude-dir", 'ĉ'), ("file", 'f'),
      ("files-with-matches", 'l'), ("files-without-match", 'L'), ("include", 'ć'), ("ignore-case", 'i'),
      ("no-ignore-case", 'Ă'), ("initial-tab", 'T'), ("label", 'Ĉ'), ("line-number", 'n'),
      ("line-regexp", 'x'), ("max-count", 'm'), ("no-filename", 'h'), ("no-messages", 's'), ("null", 'Z'),
      ("null-data", 'z'), ("only-matching", 'o'), ("quiet", 'q'), ("recursive", 'r'),
      ("dereference-recursive", 'R'), ("regexp", 'e'), ("invert-match", 'v'), ("silent", 'q'), ("text", 'a'),
      ("binary", 'U'), ("unix-byte-offsets", 'u'), ("version", 'Ą'), ("with-filename", 'H'),
      ("word-regexp", 'w')] }

def misuse (name : String) (reason : Option String) : Run Nat := do
  if let some reason := reason then say name reason
  report ("Usage: " ++ name ++ " [OPTION]... PATTERNS [FILE]...\nTry '" ++ name ++
    " --help' for more information.\n")
  return 2

def digits (o : Options) : Option String :=
  let ds := (o.given.map (·.1)).filter Char.isDigit
  if ds.isEmpty then none else some (String.ofList ds)

def readPatterns (kind : Kind) (texts : List (List Char)) : Except String Regex :=
  (texts.mapM fun text => one (Wide.wide text)).map oneOf
where
  one (text : List Char) : Except String Regex :=
    let inForm (extended : Bool) : Except String Regex :=
      match Regex.parse { extended, strict := false } text with
      | .ok (r, _) => .ok r
      | .error fault => .error fault.message
    match kind with
    | .fixed => .ok (literal text)
    | .ordered => Regex.Ordered.parseLine text
    | .basic => inForm false
    | .extended => inForm true

/-- What is strange about an extended pattern, though it has a meaning: signs
for repetition with nothing before them. -/
def oddities : Nat → Bool → List Char → List String
  | 0, _, _ | _, _, [] => []
  | n + 1, fresh, cs =>
    let (sign, size) := Regex.sign { extended := true, strict := false } false false cs
    let rest := cs.drop (Nat.max size 1)
    match sign with
    | .openSet =>
      let inside := match rest with
        | '^' :: more => more
        | _ => rest
      match Regex.members { extended := true } (inside.length + 1) true inside with
      | .ok (_, after) => oddities n false after
      | .error _ => []
    | .openGroup | .either => oddities n true rest
    | .anchor _ => oddities n fresh rest
    | .repeated _ _ =>
      if fresh then (String.ofList (cs.take 1) ++ " at start of expression") :: oddities n fresh rest
      else oddities n false rest
    | .openBounds =>
      let inside := rest.takeWhile (· != '}')
      if fresh && !inside.isEmpty && inside.length < rest.length && inside.all (fun c => c.isDigit || c = ',') then
        "\x7b...\x7d at start of expression" :: oddities n false rest
      else oddities n false rest
    | _ => oddities n false rest

/-- How patterns are written, by the options; `none` if they disagree. -/
def kindOf (given : Kind) (o : Options) : Option Kind :=
  let asked := (o.given.map (·.1)).filter "EFGP".toList.contains
  let kind : Char → Kind := fun c =>
    if c = 'E' then .extended else if c = 'F' then .fixed else if c = 'P' then .ordered else .basic
  match asked.map kind with
  | [] => some given
  | k :: rest => if rest.all (· = k) && (given = .basic || given = k) then some k else none

def lineCount? (s : String) : Option Nat :=
  if !s.isEmpty && s.toList.all Char.isDigit then some (Nat.min (Format.naturalOf s.toList) (Nat.pow 2 62)) else none

/-- What is searched: files, or for a directory all that is in it. -/
def targets (recursive : Bool) (chosen : String → Bool) (paths : List String) : Run (List String) := do
  if !recursive then return paths
  else paths.flatMapM fun path => do
    match ← entry path with
    | .ok .directory =>
      let m ← get
      let base := Place.ofPath (toUtf8 path) m.process.directory
      let inside := m.files.entries.filter fun (p, e) => p != base && base.isSuffixOf p && (match e with
        | .file _ _ => true
        | _ => false)
      let names := inside.map fun (p, _) => String.intercalate "/" (p.take (p.length - base.length)).reverse
      let lead := if path.endsWith "/" then path else path ++ "/"
      return (names.mergeSort.filter fun n => chosen ((n.splitOn "/").getLast?.getD n)).map fun n => lead ++ ofUtf8 n
    | _ => return [path]

/-- Searches with patterns of one kind unless options say otherwise. -/
def searchAs (given : Kind) : Program := fun _ args => do
  let name := "grep"
  match usage.read (args.length + 1) args with
  | .error reason => misuse name (some reason)
  | .ok o =>
    if o.has 'Ą' then
      put name "grep (GNU grep) 3.8\n"
      return 0
    let files ← (o.values 'f').mapM fun path => do return (path, ← contents path)
    let missing := files.findSome? fun (path, r) => match r with
      | .error e => some (path, e)
      | .ok _ => none
    match kindOf given o, missing with
    | none, _ => fail name "conflicting matchers specified" 2
    | _, some (path, e) => fail name (path ++ ": " ++ e.reason) 2
    | some kind, none =>
      let listed (cs : List Char) : List (List Char) :=
        let pieces := Text.split (· == '\n') cs
        if pieces.getLast? == some [] then pieces.dropLast else pieces
      let filed := files.flatMap fun (_, r) => listed (r.toOption.getD [])
      let typed := (o.values 'e').flatMap fun p => Text.split (· == '\n') p.toList
      match o.has 'e' || o.has 'f', o.operands with
      | false, [] => misuse name none
      | own, operands =>
        let texts := if own then filed ++ typed else Text.split (· == '\n') (operands.headD "").toList
        let paths := if own then operands else operands.drop 1
        let numbers := (o.values 'A' ++ o.values 'B' ++ o.values 'C').find? fun s => (lineCount? s).isNone
        match numbers, o.value? 'm' with
        | some bad, _ => fail name (bad ++ ": invalid context length argument") 2
        | none, m =>
          if m.any fun s => (lineCount? s).isNone && !(s.startsWith "-" && (lineCount? (s.drop 1).toString).isSome) then
            fail name "invalid max count" 2
          else match readPatterns kind texts with
          | .error reason => fail name reason 2
          | .ok regex => go name o kind texts regex paths
where
  go (name : String) (o : Options) (kind : Kind) (texts : List (List Char)) (regex : Regex)
      (paths : List String) : Run Nat := do
    if kind = .extended then
      texts.forM fun text => (oddities (text.length + 1) true text).forM fun odd =>
        say name ("warning: " ++ odd)
    let around := (o.value? 'C').orElse fun _ => digits o
    let near (letter : Char) : Nat := (((o.value? letter).orElse fun _ => around).bind lineCount?).getD 0
    let recursive := o.has 'r' || o.has 'R' || o.value? 'd' == some "recurse"
    let wanted (n : String) : Bool :=
      let fits (glob : String) : Bool := Pattern.fits (Pattern.ofGlyphs (glob.toList.map (⟨·, false⟩))) n.toList
      ((o.values 'ć').isEmpty || (o.values 'ć').any fits) && !(o.values 'ĉ').any fits
    let given := if paths.isEmpty then [if recursive then "." else "-"] else paths
    let paths ← targets recursive wanted given
    let paths := if recursive && given == ["."] && o.operands.length ≤ 1 then
      paths.map fun p => if p.startsWith "./" then (p.drop 2).toString else p else paths
    let report : Report := if o.has 'q' then .quiet
      else match o.last? ['l', 'L'] with
      | some c => .label (c = 'l')
      | none => if o.has 'c' then .count else .lines
    let task : Task := {
      sought := {
        regex, words := o.has 'w', lines := o.has 'x', ordered := kind = .ordered, inverted := o.has 'v'
        folded := (o.last? ['i', 'y', 'Ă']).any (· != 'Ă') }
      layout := {
        named := match o.last? ['h', 'H'] with
          | some c => c = 'H'
          | none => 1 < paths.length || recursive
        numbered := o.has 'n', offsets := o.has 'b', onlyMatches := o.has 'o'
        coloured := o.value? 'Ċ' == some "always"
        nulls := o.has 'Z', before := near 'B', after := near 'A'
        separator := match o.last? ['Ā', 'ą'] with
          | some 'Ā' => none
          | _ => some ((o.value? 'ą').getD "--")
        mark := if o.has 'z' then Char.ofNat 0 else '\n' }
      report
      most := (o.value? 'm').bind lineCount?
      binary := (o.value? 'Ć').getD (if o.has 'a' then "text" else if o.has 'I' then "without-match" else "binary") }
    if task.most == some 0 then return 1
    let (found, failed) ← paths.foldlM (fun (state : Bool × Bool) path => do
      if state.1 && report = .quiet then return state
      match ← contentsOrSample path with
      | .error e =>
        if e = .isDirectory && o.value? 'd' == some "skip" then return state
        unless o.has 's' do say name (path ++ ": " ++ e.reason)
        return (state.1, true)
      | .ok (cs, ends) =>
        let label := if path == "-" then (o.value? 'Ĉ').getD "(standard input)" else path
        let f := task.search label cs
        put name f.text
        if f.binary then say name (label ++ ": binary file matches")
        if !ends && !f.complete then
          if f.text.isEmpty || report != .lines then throw .late
          putForever name f.text
        return (state.1 || 0 < f.count, state.2)) (false, false)
    return if found && (report = .quiet || !failed) then 0 else if failed then 2 else 1

end PartitionTest.Shell.Utility.Search

namespace PartitionTest.Shell.Utility

def grep : Program := Search.searchAs .basic

def egrep : Program := Search.searchAs .extended

def fgrep : Program := Search.searchAs .fixed

end PartitionTest.Shell.Utility
