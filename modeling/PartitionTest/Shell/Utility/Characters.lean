import PartitionTest.Shell.Pattern
import PartitionTest.Shell.Utility.Lines

/-! Programs that work on the characters and fields of lines. -/
namespace PartitionTest.Shell.Utility

open Machine Quotation

def charRange (a b : Char) : List Char :=
  (List.range (b.toNat + 1 - a.toNat)).map fun i => Char.ofNat (a.toNat + i)

def setChar : List Char → Option (Char × List Char)
  | [] => none
  | '\\' :: c :: rest =>
    match Format.escape? c with
    | some d => some (d, rest)
    | none => if Format.isOctal c then some (Format.octal 3 (c :: rest)) else some (c, rest)
  | c :: rest => some (c, rest)

/-- The characters of a set in order: classes, ranges, repetitions and single
ones. A repetition without a count fills the set up to a length. -/
def charSet (length : Nat) : Nat → List Char → List Char → List Char
  | 0, _, found => found
  | n + 1, cs, found =>
    match cs with
    | [] => found
    | '[' :: ':' :: rest =>
      let name := rest.takeWhile (· != ':')
      match rest.drop name.length, Pattern.classes.lookup (String.ofList name) with
      | ':' :: ']' :: rest, some ranges =>
        charSet length n rest (found ++ ranges.flatMap fun (a, b) => charRange a b)
      | _, _ => charSet length n (':' :: rest) (found ++ ['['])
    | '[' :: c :: '*' :: rest =>
      let digits := rest.takeWhile Char.isDigit
      match rest.drop digits.length with
      | ']' :: rest =>
        let count := if digits.isEmpty || Format.naturalOf digits = 0 then length - found.length
          else Format.naturalOf digits
        charSet length n rest (found ++ List.replicate count c)
      | _ => charSet length n (c :: '*' :: rest) (found ++ ['['])
    | _ =>
      match setChar cs with
      | none => found
      | some (a, '-' :: rest) =>
        match setChar rest with
        | some (b, rest) => charSet length n rest (found ++ charRange a b)
        | none => found ++ [a, '-']
      | some (a, rest) => charSet length n rest (found ++ [a])

def setOf (length : Nat) (s : String) : List Char := charSet length (s.length + 1) s.toList []

def backwards? : List Char → Option String
  | a :: '-' :: b :: rest =>
    if b.toNat < a.toNat && a != '\\' && a != '[' then
      some (String.ofList [a, '-', b]) else backwards? ('-' :: b :: rest)
  | _ :: rest => backwards? rest
  | [] => none

/-- A character as one set is carried over to the other; the last character
of the second stands for all that are missing. -/
def translate (source target : List Char) (c : Char) : Char :=
  match source.findIdx? (· == c) with
  | none => c
  | some i => (target[i]?).getD (target.getLast?.getD c)

def squeeze (isMember : Char → Bool) : List Char → List Char
  | a :: b :: rest =>
    if a = b && isMember a then squeeze isMember (b :: rest) else a :: squeeze isMember (b :: rest)
  | cs => cs

def allBytes : List Char := charRange '\x00' '\xff'

def tr : Program := fun name args =>
  withOptions { flags := "cCdst", strict := true, long := [("delete", 'd'),
    ("squeeze-repeats", 's'), ("complement", 'c'), ("truncate-set1", 't')] } 1 (fun name o => do
    let deletes := o.has 'd'
    let squeezes := o.has 's'
    let most := if deletes && !squeezes then 1 else 2
    let least := if deletes == squeezes then 2 else 1
    match o.operands with
    | [] => misused name "missing operand" 1
    | first :: rest =>
      if o.operands.length < least then
        say name ("missing operand after " ++ quoted first)
        report (if squeezes then "Two strings must be given when both deleting and squeezing repeats.\n"
          else "Two strings must be given when translating.\n")
        report ("Try '" ++ name ++ " --help' for more information.\n")
        return 1
      else if most < o.operands.length then
        say name ("extra operand " ++ quoted ((o.operands[most]?).getD ""))
        if deletes && !squeezes then
          report "Only one string may be given when deleting without squeezing repeats.\n"
        report ("Try '" ++ name ++ " --help' for more information.\n")
        return 1
      else
        match (first :: rest).findSome? fun s => backwards? s.toList with
        | some range =>
          fail name ("range-endpoints of '" ++ range ++ "' are in reverse collating sequence order") 1
        | none =>
          let listed := setOf 0 first
          let source := if o.has 'c' || o.has 'C' then allBytes.filter fun c => !listed.contains c
            else listed
          let second := setOf source.length (rest.headD "")
          let target := if o.has 't' then second else
            second ++ List.replicate (source.length - second.length) (second.getLast?.getD ' ')
          if !deletes && !rest.isEmpty && second.isEmpty then
            fail name "when not truncating set1, string2 must be non-empty" 1
          else
            let source := if o.has 't' then source.take second.length else source
            let change (cs : List Char) : List Char :=
              if deletes then cs.filter fun c => !source.contains c
              else if rest.isEmpty then cs
              else cs.map (translate source target)
            let squeezed := if rest.isEmpty then source else second
            if squeezes then
              match ← readAll (← channel 0) with
              | .error e => fail name ("read error: " ++ e.reason) 1
              | .ok cs =>
                put name (String.ofList (squeeze squeezed.contains (change cs)))
                return 0
            else
              match ← passOn name (← channel 0) change with
              | .error e => fail name ("read error: " ++ e.reason) 1
              | .ok () => return 0) name args

structure Span where
  first : Nat
  last : Option Nat

def Span.contains (s : Span) (n : Nat) : Bool :=
  s.first ≤ n && (match s.last with
    | some last => n ≤ last
    | none => true)

def spans (fields : Bool) (text : String) : Except String (List Span) :=
  let what := if fields then "field value" else "byte/character position"
  (Text.split (fun c => c = ',' || c = ' ') text.toList).mapM fun part => do
    let first := part.takeWhile Char.isDigit
    let rest := part.drop first.length
    let zero : Except String Span := .error
      (if fields then "fields are numbered from 1" else "byte/character positions are numbered from 1")
    match rest with
    | [] =>
      let n := Format.naturalOf first
      if n = 0 then zero else return ⟨n, some n⟩
    | '-' :: last =>
      if !last.all Char.isDigit then
        throw ("invalid " ++ what ++ " " ++ quoted (String.ofList last))
      else if first.isEmpty && last.isEmpty then throw "invalid range with no endpoint: -"
      else
        let a := if first.isEmpty then 1 else Format.naturalOf first
        if a = 0 then zero
        else if last.isEmpty then return ⟨a, none⟩
        else if Format.naturalOf last < a then throw "invalid decreasing range"
        else return ⟨a, some (Format.naturalOf last)⟩
    | _ => throw ("invalid " ++ what ++ " " ++ quoted (String.ofList part))

def chosen (spans : List Span) (complement : Bool) (xs : List α) : List α :=
  (xs.zip (List.range' 1 xs.length)).filterMap fun (x, n) =>
    if (spans.any fun s => s.contains n) != complement then some x else none

def cut : Program :=
  withOptions { flags := "nsz", valued := "bcfdω", long := [("bytes", 'b'), ("characters", 'c'),
    ("fields", 'f'), ("delimiter", 'd'), ("only-delimited", 's'), ("output-delimiter", 'ω'),
    ("complement", 'κ')] } 1 fun name o => do
    match o.last? ['b', 'c', 'f'] with
    | none => misused name "you must specify a list of bytes, characters, or fields" 1
    | some kind =>
      let byFields := kind = 'f'
      if 1 < (o.given.filter fun g => ['b', 'c', 'f'].contains g.1).length then
        misused name "only one list may be specified" 1
      else if !byFields && o.has 'd' then
        misused name "an input delimiter may be specified only when operating on fields" 1
      else if !byFields && o.has 's' then
        misused name
          "suppressing non-delimited lines makes sense\n\tonly when operating on fields" 1
      else if byFields && 1 < ((o.value? 'd').getD "x").length then
        misused name "the delimiter must be a single character" 1
      else
        match spans byFields ((o.value? kind).getD "") with
        | .error reason => misused name reason 1
        | .ok wanted =>
          let delimiter := ((o.value? 'd').bind fun d => d.toList.head?).getD '\t'
          let glue := (o.value? 'ω').getD (String.singleton delimiter)
          let line (cs : List Char) : Option (List Char) :=
            if !byFields then some (chosen wanted (o.has 'κ') cs)
            else
              let fields := Text.split (· == delimiter) cs
              if fields.length = 1 then if o.has 's' then none else some cs
              else some (Text.join glue.toList (chosen wanted (o.has 'κ') fields))
          eachInput name plainComplaint 1 o.operands fun _ cs =>
            put name (ofLines ((linesOf cs).1.filterMap line))

def foldLine (width : Nat) (atBlanks : Bool) : Nat → List Char → List (List Char)
  | 0, cs => [cs]
  | n + 1, cs =>
    if cs.length ≤ width || width = 0 then [cs]
    else
      let piece := cs.take width
      let upToBlank := (piece.reverse.dropWhile (· != ' ')).reverse
      let piece := if atBlanks && !upToBlank.isEmpty then upToBlank else piece
      piece :: foldLine width atBlanks n (cs.drop piece.length)

def fold : Program :=
  withOptions { flags := "bs", valued := "w", long := [("width", 'w'), ("spaces", 's')] } 1
    fun name o => do
      let text := (o.value? 'w').getD "80"
      match text.toNat? with
      | none => fail name ("invalid number of columns: " ++ quoted text) 1
      | some 0 =>
        fail name ("invalid number of columns: " ++ quoted text ++ ": Numerical result out of range") 1
      | some width =>
        eachInput name plainComplaint 1 o.operands fun _ cs =>
          let (lines, ended) := linesOf cs
          let folded := lines.flatMap fun line => foldLine width (o.has 's') line.length line
          put name (String.ofList (Text.join ['\n'] folded) ++
            (if ended && !lines.isEmpty then "\n" else ""))

def paste : Program :=
  withOptions { flags := "sz", valued := "d", long := [("serial", 's'), ("delimiters", 'd')] } 1
    fun name o => do
      let delimiters := setOf 0 ((o.value? 'd').getD "\t")
      let glue (parts : List (List Char)) : List Char :=
        match parts with
        | [] => []
        | first :: rest => first ++ (rest.zip (List.range rest.length)).flatMap fun (part, i) =>
          (delimiters[i % Nat.max 1 delimiters.length]?).toList ++ part
      let paths := if o.operands.isEmpty then ["-"] else o.operands
      let inputs := paths.filter (· == "-")
      let texts ← paths.eraseDups.mapM fun path => do return (path, ← contents path)
      match texts.findSome? fun (path, text) => match text with
        | .error e => some (plainComplaint path e)
        | .ok _ => none with
      | some complaint => fail name complaint 1
      | none =>
        let linesAt (path : String) : List (List Char) := match texts.lookup path with
          | some (.ok cs) => (linesOf cs).1
          | _ => []
        if o.has 's' then
          put name (ofLines (paths.eraseDups.map fun path => glue (linesAt path)))
        else
          /- Files that are the standard input take turns. -/
          let columns := (paths.zip (List.range paths.length)).map fun (path, i) =>
            if path != "-" || inputs.length ≤ 1 then linesAt path
            else
              let turn := ((paths.take i).filter (· == "-")).length
              ((linesAt path).zip (List.range (linesAt path).length)).filterMap fun (line, j) =>
                if j % inputs.length = turn then some line else none
          let height := (columns.map List.length).foldl Nat.max 0
          put name (ofLines ((List.range height).map fun i =>
            glue (columns.map fun column => (column[i]?).getD [])))
        return 0

end PartitionTest.Shell.Utility
