import PartitionTest.Shell.Utility.Basic

/-! Programs that pass on, select and count lines. -/
namespace PartitionTest.Shell.Utility

open Machine Quotation

def visible (c : Char) : List Char :=
  let n := c.toNat
  let low (n : Nat) : List Char :=
    if n < 32 then ['^', Char.ofNat (n + 64)] else if n = 127 then ['^', '?'] else [Char.ofNat n]
  if c = '\n' || c = '\t' then [c]
  else if n < 128 then low n else 'M' :: '-' :: low (n - 128)

/-- Numbers and marks for lines, which go on from one file to the next. -/
structure Decoration where
  numbered : Bool
  onlyFull : Bool
  squeezed : Bool
  ends : Bool
  tabs : Bool
  bytes : Bool

def Decoration.line (d : Decoration) (n : Nat) (line : List Char) (ended : Bool) :
    Nat × List Char :=
  let counts := d.numbered && (ended || !line.isEmpty) && !(d.onlyFull && line.isEmpty)
  let text := if d.bytes then line.flatMap visible else line
  let text := if d.tabs then text.flatMap fun c => if c = '\t' then ['^', 'I'] else [c] else text
  let lead := if counts then (padLeft 6 (toString (n + 1)) ++ "\t").toList else []
  (if counts then n + 1 else n,
    lead ++ text ++ (if !ended then [] else if d.ends then ['$', '\n'] else ['\n']))

/-- Where the numbering stands, and whether the last line was empty. -/
abbrev Numbering := Nat × Bool

def Decoration.text (d : Decoration) : Numbering → List (List Char) → Bool → Numbering × List Char
  | s, [], _ => (s, [])
  | (n, wasEmpty), line :: rest, ended =>
    if d.squeezed && wasEmpty && line.isEmpty then d.text (n, true) rest ended
    else
      let (n, text) := d.line n line (ended || !rest.isEmpty)
      let (s, more) := d.text (n, line.isEmpty) rest ended
      (s, text ++ more)

def cat : Program :=
  withOptions { flags := "AbeEnstTuv", long := [("number", 'n'), ("number-nonblank", 'b'),
    ("squeeze-blank", 's'), ("show-ends", 'E'), ("show-tabs", 'T'), ("show-all", 'A'),
    ("show-nonprinting", 'v')] } 1 fun name o => do
    let plain := o.given.all (·.1 = 'u')
    let d : Decoration := {
      numbered := o.has 'n' || o.has 'b', onlyFull := o.has 'b', squeezed := o.has 's'
      ends := o.has 'E' || o.has 'e' || o.has 'A', tabs := o.has 'T' || o.has 't' || o.has 'A'
      bytes := o.has 'v' || o.has 'e' || o.has 't' || o.has 'A' }
    if (← channel? 1).isNone then fail name "standard output: Bad file descriptor" 1
    else
      let paths := if o.operands.isEmpty then ["-"] else o.operands
      let (texts, status) ← paths.foldlM (fun (state : List (List Char) × Nat) path => do
        let failed (e : FileError) : Run (List (List Char) × Nat) := do
          say name (plainComplaint path e)
          return (state.1, 1)
        if plain then
          match ← openInput path with
          | .error e => failed e
          | .ok c =>
            match ← passOn name c id with
            | .ok () => return state
            | .error e => failed e
        else
          match ← contents path with
          | .error e => failed e
          | .ok cs => return (cs :: state.1, state.2)) ([], 0)
      let (lines, ended) := linesOf texts.reverse.flatten
      put name (String.ofList (d.text (0, false) lines ended).2)
      if (← channel? 0).isNone && paths.contains "-" then
        say name "closing standard input: Bad file descriptor"
      return status

def tee : Program :=
  withOptions { flags := "ai", long := [("append", 'a')] } 1 fun name o => do
    match ← readAll (← channel 0) with
    | .error e => fail name ("-: " ++ e.reason) 1
    | .ok cs =>
      put name (String.ofList cs)
      let bytes : ByteArray := ⟨(bytesOf (String.ofList cs)).toArray⟩
      o.operands.foldlM (fun status path => do
        let m ← get
        let written := m.files.update m.process.directory (toUtf8 path) fun before =>
          if o.has 'a' then before ++ bytes else bytes
        match written with
        | .ok (.stored files) =>
          modify fun m => { m with files := files }
          return status
        | .ok (.passed n) =>
          let _ ← write n (String.ofList cs)
          return status
        | .ok .lost => return status
        | .error e => fail name (plainComplaint path e) 1) 0

def yes : Program := fun name args => do
  putForever name ((if args.isEmpty then "y" else String.intercalate " " args) ++ "\n")
  return 0

structure Amount where
  lines : Bool := true
  count : Nat := 10
  /-- A minus or plus sign in front of the count. -/
  sign : Option Char := none

def unit? : List Char → Option Nat
  | [] => some 1
  | ['b'] => some 512
  | ['k', 'B'] => some 1000
  | ['k'] | ['K'] | ['K', 'i', 'B'] => some 1024
  | ['M', 'B'] => some 1000000
  | ['M'] | ['M', 'i', 'B'] => some 1048576
  | _ => none

def amount? (lines : Bool) (text : String) : Option Amount :=
  let (sign, cs) := match text.toList with
    | '-' :: cs => (some '-', cs)
    | '+' :: cs => (some '+', cs)
    | cs => (none, cs)
  let digits := cs.takeWhile Char.isDigit
  if digits.isEmpty then none
  else (unit? (cs.drop digits.length)).map fun u => ⟨lines, Format.naturalOf digits * u, sign⟩

/-- A count directly behind the first dash or plus stands for an option. -/
def oldCount (signs : List Char) : List String → List String
  | arg :: rest =>
    match arg.toList with
    | sign :: d :: ds =>
      if signs.contains sign && d.isDigit then
        let digits := (d :: ds).takeWhile Char.isDigit
        let letters := (d :: ds).drop digits.length
        let text := String.ofList (if sign = '+' then '+' :: digits else digits)
        (if letters.contains 'c' then "-c" else "-n") :: text ::
          ((letters.filter fun c => c != 'c' && c != 'l').map fun c => "-" ++ String.singleton c) ++ rest
      else arg :: rest
    | _ => arg :: rest
  | [] => []

def takeLines : Nat → List Char → List Char
  | 0, _ => []
  | n + 1, cs =>
    let line := cs.takeWhile (· != '\n')
    match cs.drop line.length with
    | [] => line
    | _ :: rest => line ++ '\n' :: takeLines n rest

def lastLines (n : Nat) (cs : List Char) : List Char :=
  let (lines, ended) := linesOf cs
  if n = 0 then []
  else Text.join ['\n'] (lines.drop (lines.length - n)) ++ (if ended && !cs.isEmpty then ['\n'] else [])

/-- Reads blocks until so many lines or characters have come. What is read
too much is lost, unless the source can go back. -/
def headOf (name : String) (c : Channel) (lines : Bool) : Nat → Nat → Run Unit
  | 0, _ | _, 0 => return
  | fuel + 1, count => do
    let block ← readBlock c
    if block.isEmpty then return
    let part := if lines then takeLines count block else block.take count
    put name (String.ofList part)
    let left := count - (if lines then part.count '\n' else part.length)
    if left = 0 then giveBack (block.drop part.length) else headOf name c lines fuel left
where
  giveBack (cs : List Char) : Run Unit := do
    if let some (n, s) ← source? c then
      if s.seekable then setSource n { s with pieces := (0, cs) :: s.pieces }

/-- How many blocks can come from a channel before a count is reached. -/
def blocksOf (c : Channel) (count : Nat) : Run Nat := do
  match ← source? c with
  | none => return 1
  | some (_, s) =>
    return s.pieces.foldl (fun n p => n + p.2.length + 1) 1 + (if s.endless.isSome then count + 1 else 0)

def title (first : Bool) (path : String) : String :=
  (if first then "==> " else "\n==> ") ++ (if path == "-" then "standard input" else path) ++ " <==\n"

def headUsage : Usage :=
  { flags := "qvzfF", valued := "nc", long := [("lines", 'n'), ("bytes", 'c'), ("quiet", 'q'),
    ("silent", 'q'), ("verbose", 'v')] }

def openComplaint (path : String) (e : FileError) : String :=
  if e = .isDirectory then "error reading " ++ shellQuoted path ++ ": " ++ e.reason
  else if path == "-" then "error reading 'standard input': " ++ e.reason
  else "cannot open " ++ shellQuoted path ++ " for reading: " ++ e.reason

def part (signs : List Char) (display : String → Amount → Channel → Run (Except FileError Unit)) :
    Program := fun name args =>
  withOptions headUsage 1 (fun name o => do
    let (lines, text) := match o.last? ['n', 'c'] with
      | some letter => (letter == 'n', (o.value? letter).getD "")
      | none => (true, "10")
    match amount? lines text with
    | none =>
      fail name ("invalid number of " ++ (if lines then "lines" else "bytes") ++ ": " ++ quoted text) 1
    | some a =>
      let paths := if o.operands.isEmpty then ["-"] else o.operands
      let titled := (1 < paths.length || o.has 'v') && !o.has 'q'
      let step (state : Bool × Nat) (path : String) : Run (Bool × Nat) := do
        match ← openInput path with
        | .error e => return (state.1, ← fail name (openComplaint path e) 1)
        | .ok c =>
          if titled then put name (title state.1 path)
          match ← display name a c with
          | .ok () => return (false, state.2)
          | .error e => return (false, ← fail name (openComplaint path e) 1)
      return (← paths.foldlM step (true, 0)).2) name (oldCount signs args)

def head : Program := part ['-'] fun name a c => do
  if a.sign == some '-' then
    match ← readAll c with
    | .error e => return .error e
    | .ok cs =>
      let kept := if a.lines then cs.take (cs.length - (lastLines a.count cs).length)
        else cs.take (cs.length - a.count)
      put name (String.ofList kept)
      return .ok ()
  else
    match ← source? c with
    | none => return .error .badDescriptor
    | some (_, s) =>
      if let some e := s.fault then return .error e
      headOf name c a.lines (← blocksOf c a.count) a.count
      return .ok ()

def tail : Program := part ['-', '+'] fun name a c => do
  match ← readAll c with
  | .error e => return .error e
  | .ok cs =>
    let kept := match a.sign == some '+', a.lines with
      | true, true => cs.drop (takeLines (a.count - 1) cs).length
      | true, false => cs.drop (a.count - 1)
      | false, true => lastLines a.count cs
      | false, false => cs.drop (cs.length - a.count)
    put name (String.ofList kept)
    return .ok ()

def tac : Program :=
  withOptions { flags := "br", valued := "s" } 1 fun name o =>
    let complaint (path : String) (e : FileError) :=
      if e = .isDirectory then path ++ ": read error: Invalid argument"
      else "failed to open " ++ shellQuoted path ++ " for reading: " ++ e.reason
    eachInput name complaint 1 o.operands fun _ cs =>
      let (lines, ended) := linesOf cs
      match lines.reverse with
      | [] => pure ()
      | last :: rest =>
        put name (String.ofList last ++ (if ended then "\n" else "") ++ ofLines rest)

def rev : Program :=
  withOptions {} 1 fun name o =>
    eachInput name (fun path e => "cannot open " ++ path ++ ": " ++ e.reason) 1 o.operands
      fun _ cs =>
        let (lines, ended) := linesOf cs
        let text := Text.join ['\n'] (lines.map List.reverse)
        put name (String.ofList text ++ (if ended && !lines.isEmpty then "\n" else ""))

def nl : Program :=
  withOptions { flags := "p", valued := "bdfhilnsvw" } 1 fun name o => do
    let all := o.value? 'b' == some "a"
    let none' := o.value? 'b' == some "n"
    let width := ((o.value? 'w').bind String.toNat?).getD 6
    let start := ((o.value? 'v').bind String.toNat?).getD 1
    let step := ((o.value? 'i').bind String.toNat?).getD 1
    let separator := (o.value? 's').getD "\t"
    let number (n : Nat) : String :=
      let text := toString n
      match o.value? 'n' with
      | some "ln" => text ++ String.ofList (List.replicate (width - text.length) ' ')
      | some "rz" => String.ofList (List.replicate (width - text.length) '0') ++ text
      | _ => padLeft width text
    let paths := if o.operands.isEmpty then ["-"] else o.operands
    let (_, status) ← paths.foldlM (fun (state : Nat × Nat) path => do
      match ← contents path with
      | .error e => return (state.1, ← fail name (plainComplaint path e) 1)
      | .ok cs =>
        let (n, lines) := (linesOf cs).1.foldl (fun (s : Nat × List String) line =>
          if !none' && (all || !line.isEmpty) then
            (s.1 + step, (number s.1 ++ separator ++ String.ofList line ++ "\n") :: s.2)
          else
            let blank := String.ofList (List.replicate (width + separator.length) ' ')
            (s.1, (blank ++ String.ofList line ++ "\n") :: s.2)) (state.1, [])
        put name (String.join lines.reverse)
        return (n, state.2)) (start, 0)
    return status

structure Counts where
  lines : Nat := 0
  words : Nat := 0
  chars : Nat := 0
  width : Nat := 0

def isBlank (c : Char) : Bool := c = ' ' || ('\t' ≤ c && c ≤ '\x0d')

def countsOf (cs : List Char) : Counts where
  lines := cs.count '\n'
  words := ((Text.split isBlank cs).filter fun w => !w.isEmpty).length
  chars := cs.length
  width := ((linesOf cs).1.map List.length).foldl Nat.max 0

def Counts.add (a b : Counts) : Counts :=
  ⟨a.lines + b.lines, a.words + b.words, a.chars + b.chars, Nat.max a.width b.width⟩

def Counts.asked (c : Counts) (o : Options) : List Nat :=
  let few := (if o.has 'l' then [c.lines] else []) ++ (if o.has 'w' then [c.words] else []) ++
    (if o.has 'm' then [c.chars] else []) ++ (if o.has 'c' then [c.chars] else []) ++
    (if o.has 'L' then [c.width] else [])
  if few.isEmpty then [c.lines, c.words, c.chars] else few

def wc : Program :=
  withOptions { flags := "lwmcL", long := [("lines", 'l'), ("words", 'w'), ("chars", 'm'),
    ("bytes", 'c'), ("max-line-length", 'L')] } 1 fun name o => do
    let single := ((Counts.asked {} o).length = 1) && o.operands.length ≤ 1
    let m ← get
    /- Sizes that are known before reading. -/
    let sizes ← (if o.operands.isEmpty then ["-"] else o.operands).mapM fun path => do
      if path == "-" then
        match ← source? (← channel 0) with
        | some (_, s) =>
          return if s.seekable then some (s.pieces.foldl (fun n p => n + p.2.length) 0) else none
        | none => return none
      else match m.files.lookupFrom m.process.directory (toUtf8 path) with
      | .ok (.file contents _) => return some contents.size
      | .error _ => return some 0
      | .ok _ => return none
    let width := if single then 1
      else match sizes.mapM id with
      | some sizes => (toString (sizes.foldl (· + ·) 0)).length
      | none => 7
    let line (counts : Counts) (path : Option String) : String :=
      String.intercalate " " ((counts.asked o).map (fun n => padLeft width (toString n)) ++ path.toList)
        ++ "\n"
    if o.operands.isEmpty then
      match ← readAll (← channel 0) with
      | .error e => fail name ("standard input: " ++ e.reason) 1
      | .ok cs =>
        put name (line (countsOf cs) none)
        return 0
    else
      let (total, status) ← o.operands.foldlM (fun (state : Counts × Nat) path => do
        match ← contents path with
        | .ok cs =>
          put name (line (countsOf cs) (some path))
          return (state.1.add (countsOf cs), state.2)
        | .error e =>
          say name (plainComplaint path e)
          if e = .isDirectory then put name (line {} (some path))
          return (state.1, 1)) ({}, 0)
      if 1 < o.operands.length then put name (line total (some "total"))
      return status

def groups (same : List Char → List Char → Bool) : List (List Char) → List (List Char × Nat)
  | [] => []
  | line :: rest =>
    match groups same rest with
    | (next, n) :: more => if same line next then (line, n + 1) :: more else (line, 1) :: (next, n) :: more
    | [] => [(line, 1)]

def skipped (fields chars : Nat) (line : List Char) : List Char :=
  let rest := (List.range fields).foldl (fun cs _ =>
    (cs.dropWhile isBlank).dropWhile fun c => !isBlank c) line
  rest.drop chars

def uniq : Program :=
  withOptions { flags := "cduiDz", valued := "fsw", long := [("count", 'c'), ("repeated", 'd'),
    ("unique", 'u'), ("ignore-case", 'i'), ("skip-fields", 'f'), ("skip-chars", 's')] } 1
    fun name o => do
      let number (letter : Char) := (o.value? letter).bind String.toNat?
      let key (line : List Char) :=
        let line := skipped ((number 'f').getD 0) ((number 's').getD 0) line
        let line := match number 'w' with
          | some n => line.take n
          | none => line
        if o.has 'i' then line.map Char.toLower else line
      match ← contents (o.operands.headD "-") with
      | .error e =>
        fail name (if e = .isDirectory then "error reading " ++ shellQuoted (o.operands.headD "-") ++ ": " ++ e.reason
          else plainComplaint (o.operands.headD "-") e) 1
      | .ok cs =>
        let found := groups (fun a b => key a == key b) (linesOf cs).1
        let kept := found.filter fun (_, n) =>
          (!o.has 'd' || 1 < n) && (!o.has 'u' || n = 1)
        let text := String.join (kept.map fun (line, n) =>
          (if o.has 'c' then padLeft 7 (toString n) ++ " " else "") ++ String.ofList line ++ "\n")
        put name text
        return 0

end PartitionTest.Shell.Utility
