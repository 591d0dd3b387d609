import PartitionTest.Shell.Edits.Reader
import PartitionTest.Shell.Utility.Basic

/-! Running scripts on lines. -/
namespace PartitionTest.Shell.Edits

/-- A text that is worked on, and whether it came with the end of its line. -/
structure Line where
  text : List Char := []
  ended : Bool := true
deriving DecidableEq, Repr, Inhabited

structure Coming where
  line : Line
  number : Nat
  file : String
  isLast : Bool
deriving Inhabited

inductive Waiting where
  | text (cs : List Char)
  | file (path : String)
  | line (path : String)
deriving Inhabited

structure Session where
  coming : List Coming
  /-- The lines of files that are read on the way, and those read line by line. -/
  sources : List (String × List Char) := []
  lineSources : List (String × List Line) := []
  /-- What ends a line. -/
  mark : Char := '\n'
  /-- The width of lines that show what does not print. -/
  width : Nat := 70
  number : Nat := 0
  file : String := "-"
  isLast : Bool := false
  pattern : Line := {}
  held : Line := {}
  /-- Commands that are within their range, and the line where it ends. -/
  within : List (Nat × Option Nat) := []
  lastSought : Option Sought := none
  substituted : Bool := false
  waiting : List Waiting := []
  /-- What was written to each outlet, the last one first. -/
  written : List (String × List (List Char)) := []
  /-- Outlets whose last line lacks its end. -/
  lacking : List String := []
deriving Inhabited

inductive Halt where
  | status (n : Nat)
  | flaw (f : Fault)
  /-- It does not seem to end at all. -/
  | endless
deriving Inhabited

abbrev Edit := ExceptT Halt (StateM Session)

def mainOutlet : String := ""

def outletTarget (outlet : String) : String := if outlet == "/dev/stdout" then mainOutlet else outlet

namespace Session

def put (s : Session) (outlet : String) (bytes : List Char) : Session :=
  let target := outletTarget outlet
  let lacks := s.lacking.contains outlet
  let bytes := if lacks then s.mark :: bytes else bytes
  let before := (s.written.lookup target).getD []
  { s with
    written := (target, bytes :: before) :: s.written.filter (·.1 != target)
    lacking := if lacks then s.lacking.filter (· != outlet) else s.lacking }

def putLine (s : Session) (outlet : String) (line : Line) : Session :=
  let bytes := Wide.narrow line.text
  if line.ended then s.put outlet (bytes ++ [s.mark])
  else
    let s := s.put outlet bytes
    { s with lacking := outlet :: s.lacking }

def textOf (s : Session) (outlet : String) : List Char :=
  ((s.written.lookup outlet).getD []).reverse.flatten

def putText (s : Session) (text : List Char) : Session :=
  if text.isEmpty then s else s.put mainOutlet (Wide.narrow text.dropLast ++ [s.mark])

def flush (s : Session) : Session :=
  let s := s.waiting.foldl (fun s w => match w with
    | .text cs => s.put mainOutlet (Wide.narrow cs)
    | .file path =>
      s.put mainOutlet ((s.sources.lookup path).getD [])
    | .line path =>
      match s.lineSources.lookup path with
      | some (line :: rest) =>
        let s := s.putLine mainOutlet { line with text := Wide.wide line.text }
        { s with lineSources := (path, rest) :: s.lineSources.filter (·.1 != path) }
      | _ => s) s
  { s with waiting := [] }

def advance? (s : Session) (before : List Char) : Option Session :=
  match s.coming with
  | [] => none
  | c :: rest => some { s.flush with
      coming := rest, number := c.number, file := c.file, isLast := c.isLast, substituted := false
      pattern := { c.line with text := before ++ Wide.wide c.line.text } }

end Session

/-- What is to be looked for, which is from now on what was looked for last. -/
def resolve (given : Option Sought) : Edit Sought := do
  match given with
  | some s =>
    modify fun m => { m with lastSought := some s }
    return s
  | none =>
    match (← get).lastSought with
    | some s => return s
    | none => throw (.flaw .noneBefore)

def Address.holds (a : Address) : Edit Bool := do
  let m ← get
  match a with
  | .line n => return m.number = n
  | .step origin size => return origin ≤ m.number && (m.number - origin) % size = 0
  | .last => return m.isLast
  | .fits given =>
    let s ← resolve given
    return s.regex.occurs s.folded m.pattern.text

def leaveRange (index : Nat) : Edit Unit :=
  modify fun m => { m with within := m.within.filter (·.1 != index) }

/-- Enters the range of a command if its first line has come; whether it has. -/
def enterRange (index : Nat) (first : Address) (last : Bound) : Edit Bool := do
  if !(← first.holds) then return false
  let n := (← get).number
  let enter (limit : Option Nat) : Edit Unit :=
    modify fun m => { m with within := (index, limit) :: m.within }
  match last with
  | .after count => if 0 < count then enter (some (n + count))
  | .multiple k => if 0 < k then enter (some ((n / k + 1) * k))
  | .on (.line k) => if n < k then enter (some k)
  | .on .last => unless (← get).isLast do enter none
  | .on _ => enter none
  return true

def Selection.holds (index : Nat) : Selection → Edit Bool
  | .all => return true
  | .one a => a.holds
  | .range first last => do
    match (← get).within.lookup index with
    | none => enterRange index first last
    | some (some limit) =>
      let n := (← get).number
      if n < limit then return true
      leaveRange index
      if n = limit then return true else enterRange index first last
    | some none =>
      match last with
      | .on a => if ← a.holds then leaveRange index
      | _ => pure ()
      return true

def Letters.write : Letters → Char → Char
  | .asIs, c => c
  | .upper, c => Text.Letters.toUpper c
  | .lower, c => Text.Letters.toLower c

/-- A text whose first letter is written in one way, if it has one, and the others in another. -/
def written (first others : Letters) : List Char → List Char
  | [] => []
  | c :: cs => (if first = .asIs then others else first).write c :: cs.map others.write

/-- The text of a replacement. A way to write one letter waits for a part that is not empty. -/
def replaced (m : Regex.Match) : Letters → List Piece → List Char
  | _, [] => []
  | kept, p :: rest =>
    let first := if p.first = .asIs then kept else p.first
    let lead := written first p.letters p.text
    let after := if p.text.isEmpty then first else .asIs
    match p.part with
    | none => lead ++ replaced m .asIs rest
    | some k =>
      match (m.part? k).getD [] with
      | [] => lead ++ replaced m (if p.first = .asIs then .asIs else after) rest
      | own => lead ++ written after p.letters own ++ replaced m .asIs rest

/-- Replaces matches from a place on; the new text, and whether anything was replaced. -/
def substituteFrom (s : Sought) (sub : Substitution) :
    Nat → Nat → Bool → Regex.Spot → List Char → List Char × Bool
  | 0, _, _, spot, found => (found.reverse ++ spot.rest, false)
  | fuel + 1, count, afterMatch, spot, found =>
    match s.regex.find? s.folded spot with
    | none => (found.reverse ++ spot.rest, false)
    | some m =>
      let skipped := spot.between m.origin
      let found := skipped.reverse ++ found
      if m.isEmpty && afterMatch && skipped.isEmpty then
        match m.ending.over? fun _ => true with
        | none => (found.reverse, false)
        | some next => substituteFrom s sub fuel count false next ((m.rest.take 1).reverse ++ found)
      else
        let isReplaced := sub.number ≤ count && (sub.all || count = sub.number)
        let own := if isReplaced then replaced m .asIs sub.pieces else m.text
        let found := own.reverse ++ found
        if isReplaced && !sub.all then (found.reverse ++ m.rest, true)
        else
          let (text, more) :=
            if !m.isEmpty then substituteFrom s sub fuel (count + 1) true m.ending found
            else match m.ending.over? fun _ => true with
            | none => (found.reverse, false)
            | some next => substituteFrom s sub fuel (count + 1) false next ((m.rest.take 1).reverse ++ found)
          (text, more || isReplaced)

def shownByte (c : Char) : List Char :=
  match c with
  | '\\' => ['\\', '\\']
  | '\x07' => ['\\', 'a']
  | '\x08' => ['\\', 'b']
  | '\x0c' => ['\\', 'f']
  | '\n' => ['\\', 'n']
  | '\r' => ['\\', 'r']
  | '\t' => ['\\', 't']
  | '\x0b' => ['\\', 'v']
  | c =>
    if ' ' ≤ c && c ≤ '~' then [c]
    else '\\' :: (List.range 3).map fun i => Char.ofNat ('0'.toNat + c.toNat / Nat.pow 8 (2 - i) % 8)

/-- Bytes as they are shown, in lines that are not wider than a bound. -/
def shownBytes (mark : Char) (width : Nat) : Nat → List Char → List Char
  | _, [] => []
  | column, c :: rest =>
    let own := shownByte c
    if width ≠ 0 && width - 1 < column + own.length then
      ['\\', mark] ++ own ++ shownBytes mark width own.length rest
    else own ++ shownBytes mark width (column + own.length) rest

inductive Next where
  | go (index : Nat)
  /-- The end of the script for this line. -/
  | cycle
  /-- The same, but nothing is shown. -/
  | drop
  /-- Again with what is left of the line, without a new one. -/
  | again
  /-- The end of the session, as there are no more lines. -/
  | finish
  /-- The end of the session with a status; what is at hand may be shown first. -/
  | stop (shows : Bool) (status : Nat)

def Line.first (mark : Char) (line : Line) : Line where
  text := line.text.takeWhile (· != mark)
  ended := line.ended || line.text.contains mark

def changePattern (f : List Char → List Char) : Edit Unit :=
  modify fun s => { s with pattern := { s.pattern with text := f s.pattern.text } }

/-- Puts a line behind another one, whose end is from now on that of the first. -/
def Line.append (mark : Char) (first line : Line) : Line where
  text := first.text ++ mark :: line.text
  ended := line.ended

def Plain.run (p : Plain) (silent : Bool) (after : Next) : Edit Next := do
  let s ← get
  match p with
  | print =>
    modify fun s => s.putLine mainOutlet s.pattern
    return after
  | printFirst =>
    modify fun s => s.putLine mainOutlet (s.pattern.first s.mark)
    return after
  | delete => return .drop
  | deleteFirst =>
    if s.pattern.text.contains s.mark then
      changePattern (·.drop ((s.pattern.first s.mark).text.length + 1))
      return .again
    else return .drop
  | next =>
    if s.coming.isEmpty then return .finish
    let shown := if silent then s else s.putLine mainOutlet s.pattern
    set ((shown.advance? []).getD shown)
    return after
  | join =>
    match s.advance? (s.pattern.text ++ [s.mark]) with
    | none => return .finish
    | some s =>
      set s
      return after
  | number =>
    modify fun s => s.putLine mainOutlet { text := (toString s.number).toList }
    return after
  | fileName =>
    modify fun s => s.putLine mainOutlet { text := Wide.wide s.file.toList }
    return after
  | hold =>
    set { s with held := s.pattern }
    return after
  | holdMore =>
    set { s with held := s.held.append s.mark s.pattern }
    return after
  | bring =>
    set { s with pattern := s.held }
    return after
  | bringMore =>
    set { s with pattern := s.pattern.append s.mark s.held }
    return after
  | exchange =>
    set { s with pattern := s.held, held := s.pattern }
    return after
  | clear =>
    changePattern fun _ => []
    return after

def substitute (sub : Substitution) : Edit Unit := do
  let s ← resolve sub.sought
  let text := (← get).pattern.text
  let (text, isReplaced) := substituteFrom s sub (2 * text.length + 2) 1 false (.ofText text) []
  if isReplaced then
    changePattern fun _ => text
    modify fun s => { s with substituted := true }
    if sub.prints then modify fun s => s.putLine mainOutlet s.pattern
    if let some outlet := sub.outlet then modify fun s => s.putLine outlet s.pattern

def Script.target (script : Script) (label : String) : Nat :=
  if label.isEmpty then script.commands.size else (script.labels.lookup label).getD script.commands.size

def Command.run (script : Script) (silent : Bool) (index : Nat) (c : Command) : Edit Next := do
  let after := Next.go (index + 1)
  match c.action with
  | .openBlock | .closeBlock | .label _ => return after
  | .plain p => p.run silent after
  | .substitute sub =>
    substitute sub
    return after
  | .transliterate pairs =>
    changePattern (·.map fun c => (pairs.lookup c).getD c)
    return after
  | .append text =>
    modify fun s => { s with waiting := s.waiting ++ [.text text] }
    return after
  | .appendFile path =>
    modify fun s => { s with waiting := s.waiting ++ [.file path] }
    return after
  | .appendLine path =>
    modify fun s => { s with waiting := s.waiting ++ [.line path] }
    return after
  | .insert text =>
    modify (·.putText text)
    return after
  | .change text =>
    if ((← get).within.lookup index).isNone then modify (·.putText text)
    return .drop
  | .list width =>
    modify fun s => s.put mainOutlet
      (shownBytes s.mark (width.getD s.width) 0 (Wide.narrow s.pattern.text) ++ ['$', s.mark])
    return after
  | .quit isQuiet status => return .stop (!isQuiet) status
  | .write path =>
    modify fun s => s.putLine path s.pattern
    return after
  | .writeFirst path =>
    modify fun s => s.putLine path (s.pattern.first s.mark)
    return after
  | .branch tested label =>
    let had := (← get).substituted
    if tested.isSome then modify fun s => { s with substituted := false }
    return if tested.all (· == had) then .go (script.target label) else after

def runLine (script : Script) (silent : Bool) : Nat → Nat → Edit Next
  | 0, _ => throw .endless
  | fuel + 1, index => do
    match script.commands[index]? with
    | none => return .cycle
    | some c =>
      let chosen := (← c.selection.holds index) != c.negated
      let next ← if chosen then c.run script silent index
        else pure (match c.action with
          | .openBlock => .go (((script.closings.lookup index).getD index) + 1)
          | _ => .go (index + 1))
      match next with
      | .go index => runLine script silent fuel index
      | next => return next

def maxSteps : Nat := 1000000

/-- Runs the script on the lines that come; a new line is read first if that is asked for. -/
def runLines (script : Script) (silent : Bool) : Nat → Bool → Edit Unit
  | 0, _ => throw .endless
  | n + 1, fresh => do
    let s ← get
    let ready ← if fresh then
        match s.advance? [] with
        | some s =>
          set s
          pure true
        | none => pure false
      else pure true
    if ready then
      let shows : Edit Unit := unless silent do modify fun s => s.putLine mainOutlet s.pattern
      let ends : Edit Unit := modify Session.flush
      match ← runLine script silent maxSteps 0 with
      | .go _ | .cycle =>
        shows
        ends
        runLines script silent n true
      | .drop =>
        ends
        runLines script silent n true
      | .again =>
        ends
        runLines script silent n false
      | .finish =>
        shows
        ends
      | .stop isShown status =>
        if isShown then
          shows
          ends
          modify (·.put mainOutlet [])
        throw (.status status)

def Script.entered (script : Script) : List (Nat × Option Nat) :=
  (script.commands.toList.mapIdx fun i c => (i, c)).filterMap fun (i, c) => match c.selection with
    | .range (.line 0) _ => some (i, none)
    | _ => none

/-- The lines of texts, with the names of the files they are in. Numbers start
again with each file, and each has a last line, if they are taken for themselves. -/
def comingOf (mark : Char) (apart : Bool) (files : List (String × List Char)) : List Coming :=
  let lines := files.flatMap fun (file, cs) =>
    let (texts, isEnded) := Utility.linesWith mark cs
    let last := texts.length - 1
    if cs.isEmpty then []
    else texts.mapIdx fun i text => (file, i, ({ text, ended := i < last || isEnded } : Line), i == last)
  let size := lines.length
  lines.mapIdx fun k (file, i, line, isLast) => {
    line, file, number := (if apart then i else k) + 1, isLast := if apart then isLast else k + 1 == size }

def Script.run (script : Script) (silent : Bool) (s : Session) : Except Halt Unit × Session :=
  let rounds := s.coming.length + maxSteps
  (runLines script silent rounds true).run.run { s with within := script.entered }

end PartitionTest.Shell.Edits
