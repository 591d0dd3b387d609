import PartitionTest.Shell.Objects.Texts
import PartitionTest.Shell.Regex.Ordered

/-! Regular expressions as values: looking for places that fit, cutting texts
there, and putting others in their place. -/
namespace PartitionTest.Shell.Objects.Matching

open Memory Shown

def flagBits : List (String × String × Nat) := [
  ("I", "IGNORECASE", 2), ("L", "LOCALE", 4), ("M", "MULTILINE", 8), ("S", "DOTALL", 16), ("U", "UNICODE", 32),
  ("X", "VERBOSE", 64), ("A", "ASCII", 256)]

def flag? (name : String) : Option Nat :=
  flagBits.findSome? fun (letter, word, bit) => if name == letter || name == word then some bit else none

def has (flags bit : Nat) : Bool := flags / bit % 2 = 1

def given (p : Pattern) : Regex.Ordered.Flags := {
  folded := has p.flags 2, lines := has p.flags 8, dotAll := has p.flags 16, spaced := has p.flags 64
  ascii := has p.flags 256 || p.isBytes }

def allFlags (p : Pattern) (fl : Regex.Ordered.Flags) : Nat :=
  let bits : List (Bool × Nat) := [(fl.folded, 2), (fl.lines, 8), (fl.dotAll, 16), (fl.spaced, 64),
    (fl.ascii && !p.isBytes, 256), (!fl.ascii && !p.isBytes, 32)]
  bits.foldl (fun n (isSet, bit) => if isSet then n + bit else n) 0

def placeText (source : List Char) (place : Option Nat) : String :=
  match place with
  | none => ""
  | some n =>
    let before := source.take n
    let line := before.count '\n' + 1
    let column := (before.reverse.takeWhile (· != '\n')).length + 1
    " at position " ++ toString n ++
      (if source.contains '\n' then " (line " ++ toString line ++ ", column " ++ toString column ++ ")" else "")

def flawed (message : String) (source : List Char) (place : Option Nat) : Eval α :=
  fail "re.error" (message ++ placeText source place)

def compiled (p : Pattern) : Eval Regex.Ordered.Compiled := do
  match Regex.Ordered.parse (given p) p.source.toList with
  | .ok c => return c
  | .error (f, place) => flawed f.message p.source.toList place

def patternOf (v flags : Value) : Eval Pattern := do
  match ← core v with
  | .pattern p => return p
  | .text s =>
    let p : Pattern := ⟨s, false, (flags.whole?.getD 0).toNat⟩
    let c ← compiled p
    return { p with flags := allFlags p c.flags }
  | .bytes s =>
    let p : Pattern := ⟨s, true, (flags.whole?.getD 0).toNat⟩
    let c ← compiled p
    return { p with flags := allFlags p c.flags }
  | _ => typeError "first argument must be string or compiled pattern"

def subjectOf (p : Pattern) (v : Value) : Eval String := do
  match ← core v, p.isBytes with
  | .text s, false | .bytes s, true => return s
  | .text _, true => typeError "cannot use a bytes pattern on a string-like object"
  | .bytes _, false => typeError "cannot use a string pattern on a bytes-like object"
  | _, _ => typeError ("expected string or bytes-like object, got '" ++ (← kindName v) ++ "'")

/-- A way of looking: from the place on, only at it, or over all of the text. -/
inductive Way where
  | anywhere
  | atStart
  | whole
deriving DecidableEq, Repr, Inhabited

def foundOf (p : Pattern) (c : Regex.Ordered.Compiled) (subject : String) (start stop : Nat)
    (a b : Regex.Spot) : Found :=
  let span (n : Nat) : Option (Nat × Nat) := (b.part? n).map fun q => (q.place, q.place + q.text.length)
  { pattern := p, names := c.names, subject := subject
    spans := some (a.place, b.place) :: (List.range c.groups).map fun i => span (i + 1)
    start := start, stop := stop, last := b.parts.head?.map (·.number) }

/-- The first place that fits from a spot on. After a place without extent, the
next one must not be the same. -/
def search (c : Regex.Ordered.Compiled) (way : Way) (mustAdvance : Bool) :
    Nat → Nat → Regex.Spot → Option (Regex.Spot × Regex.Spot)
  | 0, _, _ => none
  | n + 1, origin, s =>
    let accepts (t : Regex.Spot) : Option Regex.Spot :=
      if mustAdvance && t.place = origin then none
      else if way = .whole && !t.rest.isEmpty then none
      else some t
    match Regex.first false c.regex { s with parts := [] } accepts with
    | some t => some (s, t)
    | none =>
      if way != .anywhere then none
      else match s.over? fun _ => true with
      | some t => search c way mustAdvance n origin t
      | none => none

def spotAt (subject : String) (start stop : Nat) : Regex.Spot :=
  let cs := subject.toList.take stop
  { place := start, before := (cs.take start).reverse, rest := cs.drop start }

def clipped (size : Nat) (n : Int) : Nat := (max 0 (min n size)).toNat

def one (p : Pattern) (way : Way) (subject : String) (start stop : Nat) : Eval (Option Found) := do
  let c ← compiled p
  let s := spotAt subject start stop
  return (search c way false (subject.length + 2) start s).map fun (a, b) =>
    foundOf p c subject start stop a b

def all (p : Pattern) (subject : String) (start stop : Nat) : Eval (List Found) := do
  let c ← compiled p
  let rec go : Nat → Bool → Regex.Spot → List Found → List Found
    | 0, _, _, read => read.reverse
    | n + 1, mustAdvance, s, read =>
      match search c .anywhere mustAdvance (subject.length + 2) s.place s with
      | none => read.reverse
      | some (a, b) =>
        go n (a.place = b.place) { b with parts := [] } (foundOf p c subject start stop a b :: read)
  return go (2 * subject.length + 3) false (spotAt subject start stop) []

def wrap (m : Found) (s : String) : Value := if m.pattern.isBytes then .bytes s else .text s

def group (m : Found) (missing : Value) (n : Nat) : Value :=
  match (m.spans[n]?).bind fun s => s with
  | some span => wrap m (groupText m span)
  | none => missing

def groupCount (m : Found) : Nat := m.spans.length - 1

def groupNumber (r : Running) (m : Found) (v : Value) : Eval Nat := do
  let n : Option Int ← match v with
    | .text s => pure ((m.names.lookup s).map Int.ofNat)
    | v => Operations.index? r v
  match n with
  | some n =>
    if 0 ≤ n && n.toNat < m.spans.length then return n.toNat else fail "IndexError" "no such group"
  | none => fail "IndexError" "no such group"

/-- What `findall` gives for a place: the groups, if there are some. -/
def summary (m : Found) : Value :=
  let missing := wrap m ""
  match groupCount m with
  | 0 => group m missing 0
  | 1 => group m missing 1
  | n => .tuple ((List.range n).map fun i => group m missing (i + 1))

inductive Piece where
  | char (c : Char)
  | group (n : Nat)
deriving Repr, Inhabited

def template (p : Pattern) (c : Regex.Ordered.Compiled) (source : List Char) :
    Nat → Nat → List Char → List Piece → Eval (List Piece)
  | 0, _, _, read | _, _, [], read => return read.reverse
  | n + 1, place, '\\' :: rest, read => do
    let number (ds : List Char) (start : Nat) : Eval Nat := do
      let k := Format.naturalOf ds
      if c.groups < k then flawed ("invalid group reference " ++ toString k) source (some start)
      return k
    match rest with
    | [] => flawed "bad escape (end of pattern)" source (some place)
    | 'g' :: '<' :: more =>
      let name := more.takeWhile (· != '>')
      if name.length = more.length then
        if name.isEmpty then flawed "missing group name" source (some (place + 3))
        else flawed "missing >, unterminated name" source (some (place + 3))
      if name.isEmpty then flawed "missing group name" source (some (place + 3))
      let k ← if name.all Char.isDigit then number name (place + 3)
        else if !Regex.Ordered.isName name then
          flawed ("bad character in group name '" ++ String.ofList name ++ "'") source (some (place + 3))
        else match c.names.lookup (String.ofList name) with
        | some k => pure k
        | none => fail "IndexError" ("unknown group name '" ++ String.ofList name ++ "'")
      template p c source n (place + name.length + 4) (more.drop (name.length + 1)) (.group k :: read)
    | 'g' :: _ => flawed "missing <" source (some (place + 2))
    | d :: more =>
      if d = '0' then
        let ds := (more.take 2).takeWhile Regex.Ordered.isOctal
        template p c source n (place + ds.length + 2) (more.drop ds.length)
          (.char (Char.ofNat (Regex.Ordered.numberOf 8 ds)) :: read)
      else if d.isDigit then
        let ds := (more.take 2).takeWhile Regex.Ordered.isOctal
        if Regex.Ordered.isOctal d && ds.length = 2 then
          let k := Regex.Ordered.numberOf 8 (d :: ds)
          if 0o377 < k then
            flawed ("octal escape value \\" ++ String.ofList (d :: ds) ++ " outside of range 0-0o377") source (some place)
          template p c source n (place + 4) (more.drop 2) (.char (Char.ofNat k) :: read)
        else
          let ds := d :: (more.take 1).takeWhile Char.isDigit
          let k ← number ds (place + 1)
          template p c source n (place + ds.length + 1) (more.drop (ds.length - 1)) (.group k :: read)
      else match Regex.Ordered.letterEscape? d with
      | some e => template p c source n (place + 2) more (.char e :: read)
      | none =>
        if d.isAlpha then flawed ("bad escape \\" ++ String.singleton d) source (some place)
        else if d = '\\' then template p c source n (place + 2) more (.char d :: read)
        else template p c source n (place + 2) more (.char d :: .char '\\' :: read)
  | n + 1, place, d :: rest, read => template p c source n (place + 1) rest (.char d :: read)

def filled (m : Found) (pieces : List Piece) : String :=
  String.join (pieces.map fun piece => match piece with
    | .char c => String.singleton c
    | .group n => match group m (.text "") n with
      | .text s | .bytes s => s
      | _ => "")

def templateOf (p : Pattern) (s : String) : Eval (List Piece) := do
  template p (← compiled p) s.toList (s.length + 1) 0 s.toList []

def between (subject : List Char) (a b : Nat) : String := String.ofList ((subject.take b).drop a)

/-- Other texts in the place of what fits, and how often that was. -/
def substitute (r : Running) (p : Pattern) (replacement : Value) (subject : String) (count : Nat) :
    Eval (String × Nat) := do
  let found ← all p subject 0 subject.length
  let found := if count = 0 then found else found.take count
  let put : Found → Eval String ← match replacement with
    | .text s | .bytes s => do
      let pieces ← templateOf p s
      pure fun m => return filled m pieces
    | f => pure fun m => do
      match ← r.call f [.found m] [] with
      | .text s | .bytes s => return s
      | .nothing => return ""
      | w => typeError ("expected str instance, " ++ (← kindName w) ++ " found")
  let cs := subject.toList
  let (parts, last) ← found.foldlM (fun (parts, last) (m : Found) => do
    let (a, b) := (m.spans.head?.bind fun s => s).getD (last, last)
    return (parts ++ [between cs last a, ← put m], b)) (([] : List String), 0)
  return (String.join (parts ++ [between cs last cs.length]), found.length)

def split (p : Pattern) (subject : String) (most : Nat) : Eval (List Value) := do
  let found ← all p subject 0 subject.length
  let found := if most = 0 then found else found.take most
  let cs := subject.toList
  let made (s : String) : Value := if p.isBytes then .bytes s else .text s
  let (parts, last) := found.foldl (fun (parts, last) (m : Found) =>
    let (a, b) := (m.spans.head?.bind fun s => s).getD (last, last)
    let groups := (List.range (groupCount m)).map fun i => group m .nothing (i + 1)
    (parts ++ made (between cs last a) :: groups, b)) (([] : List Value), 0)
  return parts ++ [made (between cs last cs.length)]

def escaped (s : String) : String :=
  String.ofList (s.toList.flatMap fun c =>
    if "()[]\x7b\x7d?*+-|^$\\.&~# \t\n\r\x0b\x0c".toList.contains c then ['\\', c] else [c])

def functionNames : List String := [
  "match", "fullmatch", "search", "findall", "finditer", "split", "sub", "subn", "compile", "escape", "purge"]

def patternNames : List String := [
  "match", "fullmatch", "search", "findall", "finditer", "split", "sub", "subn"]

def way? (name : String) : Option Way :=
  [("match", Way.atStart), ("fullmatch", .whole), ("search", .anywhere)].lookup name

def call (r : Running) (p : Pattern) (name : String) (args : List Value) (named : List (String × Value)) :
    Eval Value := do
  let arg (i : Nat) (key : String) : Value :=
    ((args[i]?).orElse fun _ => named.lookup key).getD .nothing
  let count (i : Nat) (key : String) : Eval Nat := do
    match arg i key with
    | .nothing => return 0
    | v => return (← Operations.intArgument r v).toNat
  let within (subject : String) : Eval (Nat × Nat) := do
    let size := subject.length
    let start ← match arg 1 "pos" with
      | .nothing => pure 0
      | v => do pure (clipped size (← Operations.intArgument r v))
    let stop ← match arg 2 "endpos" with
      | .nothing => pure size
      | v => do pure (clipped size (← Operations.intArgument r v))
    return (start, stop)
  match way? name, name with
  | some way, _ =>
    let subject ← subjectOf p (arg 0 "string")
    let (start, stop) ← within subject
    if stop < start then return .nothing
    return ((← one p way subject start stop).map Value.found).getD .nothing
  | none, "findall" =>
    let subject ← subjectOf p (arg 0 "string")
    let (start, stop) ← within subject
    newList ((← all p subject start stop).map summary)
  | none, "finditer" =>
    let subject ← subjectOf p (arg 0 "string")
    let (start, stop) ← within subject
    return .stream (← newStream (.found (← all p subject start stop)))
  | none, "split" =>
    let subject ← subjectOf p (arg 0 "string")
    newList (← split p subject (← count 1 "maxsplit"))
  | none, _ =>
    let subject ← subjectOf p (arg 1 "string")
    let replacement ← core (arg 0 "repl")
    let (s, n) ← substitute r p replacement subject (← count 2 "count")
    let v : Value := if p.isBytes then .bytes s else .text s
    return if name == "subn" then .tuple [v, .int n] else v

def function (r : Running) (name : String) (args : List Value) (named : List (String × Value)) : Eval Value := do
  let arg (i : Nat) (key : String) : Value :=
    ((args[i]?).orElse fun _ => named.lookup key).getD .nothing
  match name with
  | "escape" =>
    match arg 0 "pattern" with
    | .bytes s => return .bytes (escaped s)
    | v => return .text (escaped (String.ofList (← Texts.textArgument v)))
  | "purge" => return .nothing
  | "compile" => return .pattern (← patternOf (arg 0 "pattern") (arg 1 "flags"))
  | _ =>
    /- Flags stand behind the other arguments. -/
    let place := if name == "sub" || name == "subn" then 4 else if name == "split" then 3 else 2
    let p ← patternOf (arg 0 "pattern") (arg place "flags")
    let rest := (args.take place).drop 1
    call r p name rest (named.filter fun (k, _) => k != "flags" && k != "pattern")

def foundNames : List String := ["group", "groups", "groupdict", "start", "end", "span", "expand"]

def foundCall (r : Running) (m : Found) (name : String) (args : List Value) (named : List (String × Value)) :
    Eval Value := do
  let missing (i : Nat) : Value := ((args[i]?).orElse fun _ => named.lookup "default").getD .nothing
  let span : Eval (Int × Int) := do
    let n ← match args[0]? with
      | some v => groupNumber r m v
      | none => pure 0
    match (m.spans[n]?).bind fun s => s with
    | some (a, b) => return ((a : Int), (b : Int))
    | none => return (-1, -1)
  match name with
  | "group" =>
    match args with
    | [] => return group m .nothing 0
    | [v] => return group m .nothing (← groupNumber r m v)
    | vs => return .tuple (← vs.mapM fun v => do return group m .nothing (← groupNumber r m v))
  | "groups" => return .tuple ((List.range (groupCount m)).map fun i => group m (missing 0) (i + 1))
  | "groupdict" => newNames (m.names.map fun (s, n) => (s, group m (missing 0) n))
  | "start" => return .int (← span).1
  | "end" => return .int (← span).2
  | "span" =>
    let (a, b) ← span
    return .tuple [.int a, .int b]
  | _ =>
    match args with
    | .text s :: _ | .bytes s :: _ => return wrap m (filled m (← templateOf m.pattern s))
    | _ => typeError "expand() takes exactly one argument (0 given)"

/-- What an expression has under a name, besides what can be done with it. -/
def patternMember? (p : Pattern) (name : String) : Eval (Option Value) := do
  match name with
  | "pattern" => return some (if p.isBytes then .bytes p.source else .text p.source)
  | "flags" => return some (.int p.flags)
  | "groups" => return some (.int (← compiled p).groups)
  | "groupindex" => some <$> newNames ((← compiled p).names.map fun (s, n) => (s, .int n))
  | _ => return none

def foundMember? (m : Found) (name : String) : Option Value :=
  match name with
  | "string" => some (wrap m m.subject)
  | "re" => some (.pattern m.pattern)
  | "pos" => some (.int m.start)
  | "endpos" => some (.int m.stop)
  | "lastindex" => some ((m.last.map fun n => Value.int n).getD .nothing)
  | "lastgroup" =>
    some ((m.last.bind fun n => (m.names.find? (·.2 = n)).map fun (s, _) => Value.text s).getD .nothing)
  | _ => none

end PartitionTest.Shell.Objects.Matching
