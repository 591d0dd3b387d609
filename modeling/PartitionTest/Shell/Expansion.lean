import PartitionTest.Shell.Arithmetic
import PartitionTest.Shell.Grammar
import PartitionTest.Shell.Machine
import PartitionTest.Shell.Pattern

/-! Expansion of words: parameters, output of scripts and arithmetic are put
in, what is not quoted is cut into fields, and fields become paths. -/
namespace PartitionTest.Shell.Glob

def parts (gs : List Glyph) : List (List Glyph) :=
  gs.foldr (fun g parts =>
    match parts with
    | [] => [[g]]
    | part :: rest => if g.char = '/' then [] :: part :: rest else (g :: part) :: rest) [[]]

def text (gs : List Glyph) : String := String.ofList (gs.map (·.char))

/-- The names in a directory that fit. A dot in front must be written. -/
def fitting (files : FileTree) (p : Place) (gs : List Glyph) : List String :=
  let names := (files.names p).map ofUtf8
  let names := if (gs.head?.map (·.char)) == some '.' then "." :: ".." :: names
    else names.filter fun name => !name.startsWith "."
  names.filter fun name => Pattern.fits (Pattern.ofGlyphs gs) name.toList

/-- The paths below a place that fit, each with the text in front of it. -/
def paths (files : FileTree) (p : Place) (lead : String) : List (List Glyph) → List String
  | [] => []
  | [last] =>
    let found := if Pattern.isWild last then fitting files p last
      else if (files.entry? (p.child (toUtf8 (text last)))).isSome then [text last] else []
    found.map (lead ++ ·)
  | part :: rest =>
    let found := if Pattern.isWild part then fitting files p part else [text part]
    found.flatMap fun name =>
      let q := p.child (toUtf8 name)
      match files.entry? q with
      | some .directory => paths files q (lead ++ name ++ "/") rest
      | _ => []

/-- What a field stands for: paths if there are any, otherwise its own text. -/
def expand (files : FileTree) (directory : Place) (gs : List Glyph) : List String :=
  if !Pattern.isWild gs then [text gs]
  else
    let found := match parts gs with
      | [] :: rest => paths files Place.root "/" rest
      | parts => paths files directory "" parts
    if found.isEmpty then [text gs] else found

end PartitionTest.Shell.Glob

namespace PartitionTest.Shell

inductive Mark where
  | glyph (g : Glyph)
  /-- The end of a field, and the character that stands there. -/
  | cut (c : Char)
  /-- Quotes, which make a field even if there is nothing between them. -/
  | quotes
deriving DecidableEq, Repr, Inhabited

abbrev Runner := Script → Run Unit

namespace Expansion

open Machine

def isSpace (c : Char) : Bool := c = ' ' || c = '\t' || c = '\n'

def separators : Run (List Char) := do
  return ((← value? "IFS").getD " \t\n").toList

/-- Cuts what is not quoted. Spaces around another separator belong to it;
such a separator ends a field even if it is empty. -/
def cutGlyphs (seps : List Char) : Nat → List Glyph → List Mark
  | 0, _ | _, [] => []
  | n + 1, g :: rest =>
    let cuts (g : Glyph) := !g.quoted && seps.contains g.char
    let blank (g : Glyph) := cuts g && isSpace g.char
    if !cuts g then .glyph g :: cutGlyphs seps n rest
    else
      match (g :: rest).dropWhile blank with
      | [] => [.cut g.char]
      | h :: more =>
        if cuts h then .quotes :: .cut h.char :: cutGlyphs seps n (more.dropWhile blank)
        else .cut g.char :: cutGlyphs seps n (h :: more)

def ofValue (quoted : Bool) (value : String) : Run (List Mark) := do
  if quoted then return .quotes :: value.toList.map fun c => .glyph ⟨c, true⟩
  else return cutGlyphs (← separators) (value.length + 1) (value.toList.map fun c => ⟨c, false⟩)

def text (marks : List Mark) : String :=
  String.ofList (marks.filterMap fun
    | .glyph g => some g.char
    | .cut c => some c
    | .quotes => none)

def glyphs (marks : List Mark) : List Glyph :=
  marks.filterMap fun
    | .glyph g => some g
    | .cut c => some ⟨c, false⟩
    | .quotes => none

def fields (marks : List Mark) : List (List Glyph) :=
  let pieces := marks.foldr (fun mark pieces =>
    match mark, pieces with
    | .cut _, _ => [] :: pieces
    | _, [] => [[mark]]
    | _, piece :: rest => (mark :: piece) :: rest) [[]]
  (pieces.filter fun piece => !piece.isEmpty).map glyphs

def optionLetters : List Char := "pubaCEVvxsnmiIfe".toList

def parameter? (name : String) : Run (Option String) := do
  let p ← current
  match name with
  | "?" => return some (toString p.status)
  | "#" => return some (toString p.params.length)
  | "$" => return some (toString p.shellPid)
  | "!" => return p.lastJob.map toString
  | "-" => return some (String.ofList (optionLetters.filter p.options.contains))
  | "0" => return some p.name
  | "@" => return if p.params.isEmpty then none else some (String.intercalate " " p.params)
  | "*" =>
    let glue := match ← value? "IFS" with
      | none => " "
      | some s => String.ofList (s.toList.take 1)
    return if p.params.isEmpty then none else some (String.intercalate glue p.params)
  | _ =>
    match name.toNat? with
    | some 0 => return some p.name
    | some n => return p.params[n - 1]?
    | none => value? name

def parts (source : String) : String × String × String :=
  let cs := source.toList
  let name := match cs with
    | c :: _ => if isNameStart c then cs.takeWhile isNameChar
      else if c.isDigit then cs.takeWhile Char.isDigit
      else if isSpecialName c then [c] else []
    | [] => []
  let rest := cs.drop name.length
  let op := ["##", "%%", ":-", ":=", ":+", ":?", "#", "%", "-", "=", "+", "?"].find? fun op =>
    op.toList.isPrefixOf rest
  let op := op.getD ""
  (String.ofList name, op, String.ofList (rest.drop op.length))

def separate (quoted : Bool) : List String → Run (List Mark)
  | [] => return []
  | [s] => ofValue quoted s
  | s :: rest => do return (← ofValue quoted s) ++ .cut ' ' :: (← separate quoted rest)

def breakOff (message : String) : Run α := do
  complain message
  throw (.exit 2)

/-- Runs the lines of a script, and reports a faulty one when it is reached. -/
def runLines (run : Runner) (source : String) (line : Nat := 1) : Run Unit := do
  let (scripts, fault) := parse source line
  if !(← hasOption 'n') then scripts.forM run
  match fault with
  | none => pure ()
  | some e =>
    change fun p => { p with line := e.line }
    breakOff ("Syntax error: " ++ e.reason)

def output (run : Runner) (line : Nat) (source : String) : Run String := do
  pass startTime
  let (text, status) ← outputOf (runLines run source line)
  change fun p => { p with outputStatus := status }
  return String.ofList ((text.toList.reverse.dropWhile (· = '\n')).reverse.filter
    (· != Char.ofNat 0))

def arithmetic (source : String) : Run String := do
  let p ← current
  match Arithmetic.eval (fun name => p.bindings.lookup name) source with
  | .ok (n, stored) =>
    stored.reverse.forM fun (name, value) => assignOr name (toString value.toInt)
    return toString n.toInt
  | .error .overflow => throw (.killed Signal.arithmetic)
  | .error e => breakOff e.message

/-- The value of a parameter that must have one if the script asks for that. -/
def given (name : String) : Run String := do
  match ← parameter? name with
  | some v => return v
  | none =>
    if name != "@" && name != "*" && (← hasOption 'u') then
      breakOff (name ++ ": parameter not set")
    else return ""

/-- What a word in braces gives: between quotes all of it is quoted. -/
def requote (quoted : Bool) (marks : List Mark) : Run (List Mark) := do
  if quoted then return .quotes :: (glyphs marks).map fun g => .glyph ⟨g.char, true⟩
  else
    let seps ← separators
    return marks.flatMap fun
      | .glyph g => cutGlyphs seps 2 [g]
      | m => [m]

/-- A parameter with an operator; the word is expanded only if it is needed. -/
def adjusted (quoted : Bool) (name op : String) (word pattern : Run (List Mark)) :
    Run (List Mark) := do
  let value ← parameter? name
  let isThere := match value with
    | some v => !(op.startsWith ":" && v.isEmpty)
    | none => false
  let v := value.getD ""
  let trimmed (drop : List Pattern.Atom → Bool → List Char → List Char) (longest : Bool) := do
    let v ← given name
    let atoms := Pattern.ofGlyphs (glyphs (← pattern))
    ofValue quoted (String.ofList (drop atoms longest v.toList))
  match op with
  | ":-" | "-" => if isThere then ofValue quoted v else requote quoted (← word)
  | ":+" | "+" => if isThere then requote quoted (← word) else ofValue quoted ""
  | ":=" | "=" =>
    if isThere then ofValue quoted v
    else
      let w := text (← word)
      if !(name.toList.head?.map isNameStart).getD false then breakOff (name ++ ": bad variable name")
      assignOr name w
      ofValue quoted w
  | ":?" | "?" =>
    if isThere then ofValue quoted v
    else
      let w := text (← word)
      let reason := if op == "?" then "parameter not set" else "parameter not set or null"
      breakOff (name ++ ": " ++ (if w.isEmpty then reason else w))
  | "#" => trimmed Pattern.dropStart false
  | "##" => trimmed Pattern.dropStart true
  | "%" => trimmed Pattern.dropEnd false
  | "%%" => trimmed Pattern.dropEnd true
  | _ => ofValue quoted (← given name)

/-- One piece of a word; words inside of braces may be nested so deep. -/
def piece (run : Runner) : Nat → Piece → Run (List Mark)
  | _, .text s quoted => do
    let gs := s.toList.map fun c => Mark.glyph ⟨c, quoted⟩
    return if quoted then .quotes :: gs else gs
  | _, .output line source quoted => do ofValue quoted (← output run line source)
  | 0, _ => return []
  | n + 1, .arithmetic source quoted => do
    let marks ← (textPieces source).flatMapM (piece run n)
    ofValue quoted (← arithmetic (text marks))
  | n + 1, .parameter source quoted => do
    if source == "@" || (source == "*" && !quoted) then separate quoted (← current).params
    else if source.length > 1 && source.startsWith "#" then
      let (name, op, word) := parts (String.ofList (source.toList.drop 1))
      if name.isEmpty || !op.isEmpty || !word.isEmpty then breakOff "Bad substitution"
      ofValue quoted (toString (← given name).length)
    else
      let (name, op, word) := parts source
      if name.isEmpty || (op.isEmpty && !word.isEmpty) then breakOff "Bad substitution"
      let pieces := if quoted then quotedPieces word else wordPieces word
      adjusted quoted name op (pieces.flatMapM (piece run n))
        ((wordPieces word).flatMapM (piece run n))

def maxDepth : Nat := 50

def marks (run : Runner) (w : Word) : Run (List Mark) :=
  w.flatMapM (piece run maxDepth)

def whole (run : Runner) (w : Word) : Run String := do
  return text (← marks run w)

/-- Words as fields. All parameters between quotes are no field at all if
there are none. -/
def wordFields (run : Runner) (ws : List Word) : Run (List String) :=
  ws.flatMapM fun w => do
    if w == [.text "" true, .parameter "@" true] then return (← current).params
    else
      let gs := fields (← marks run w)
      if ← hasOption 'f' then return gs.map Glob.text
      else
        let m ← get
        return gs.flatMap (Glob.expand m.files m.process.directory)

end Expansion

end PartitionTest.Shell
