import PartitionTest.Shell.Objects.Codes
import PartitionTest.Shell.Objects.Layouts
import PartitionTest.Text.Letters

/-! What can be done with texts and bytes, by names. -/
namespace PartitionTest.Shell.Objects.Texts

open Memory Shown
open Operations (intArgument)

def splitOn (sep : List Char) : Nat → Nat → List Char → List Char → List (List Char)
  | 0, _, read, cs => [read.reverse ++ cs]
  | _, _, read, [] => [read.reverse]
  | n + 1, cuts, read, c :: rest =>
    if cuts ≠ 0 && sep.isPrefixOf (c :: rest) then
      read.reverse :: splitOn sep n (cuts - 1) [] ((c :: rest).drop sep.length)
    else splitOn sep n cuts (c :: read) rest

def splitBlanks : Nat → Nat → List Char → List (List Char)
  | 0, _, _ => []
  | n + 1, cuts, cs =>
    let cs := cs.dropWhile Numbers.isSpace
    if cs.isEmpty then []
    else if cuts = 0 then [(cs.reverse.dropWhile Numbers.isSpace).reverse]
    else
      let word := cs.takeWhile (!Numbers.isSpace ·)
      word :: splitBlanks n (cuts - 1) (cs.drop word.length)

def fromEnd (split : List Char → List (List Char)) (cs : List Char) : List (List Char) :=
  ((split cs.reverse).map List.reverse).reverse

def endsLine (c : Char) : Bool :=
  (10 ≤ c.toNat && c.toNat ≤ 13) || (28 ≤ c.toNat && c.toNat ≤ 30) || c.toNat = 0x85 || c.toNat = 0x2028 ||
    c.toNat = 0x2029

def endsByteLine (c : Char) : Bool := c = '\n' || c = '\r'

def lines (ends : Char → Bool) (keep : Bool) : Nat → List Char → List (List Char)
  | 0, _ | _, [] => []
  | n + 1, cs =>
    let line := cs.takeWhile (!ends ·)
    let mark := match cs.drop line.length with
      | '\r' :: '\n' :: _ => ['\r', '\n']
      | c :: _ => [c]
      | [] => []
    (if keep then line ++ mark else line) :: lines ends keep n (cs.drop (line.length + mark.length))

def find (part whole : List Char) : Option Nat := go 0 whole
where
  go (i : Nat) (whole : List Char) : Option Nat :=
    if part.isPrefixOf whole then some i
    else match whole with
    | [] => none
    | _ :: rest => go (i + 1) rest

def findLast (part whole : List Char) : Option Nat :=
  (find part.reverse whole.reverse).map fun i => whole.length - i - part.length

def replaceAll (old new : List Char) : Nat → Nat → List Char → List Char
  | 0, _, cs => cs
  | n + 1, count, cs =>
    if count = 0 then cs
    else if old.isEmpty then
      match cs with
      | [] => new
      | c :: rest => new ++ c :: replaceAll old new n (count - 1) rest
    else if old.isPrefixOf cs then new ++ replaceAll old new n (count - 1) (cs.drop old.length)
    else match cs with
    | [] => []
    | c :: rest => c :: replaceAll old new n count rest

def stripped (left right : Bool) (isOut : Char → Bool) (cs : List Char) : List Char :=
  let cs := if left then cs.dropWhile isOut else cs
  if right then (cs.reverse.dropWhile isOut).reverse else cs

structure Alphabet where
  upper : Char → List Char
  lower : Char → List Char
  isUpper : Char → Bool
  isLower : Char → Bool
  isLetter : Char → Bool
  isDecimal : Char → Bool
  isDigit : Char → Bool
  endsLine : Char → Bool

def allLetters : Alphabet := {
  upper := Text.Letters.upperOf, lower := Text.Letters.lowerOf, isUpper := Text.Letters.isUpper, isLower := Text.Letters.isLower
  isLetter := Text.Letters.isLetter, isDecimal := Text.Letters.isDecimal, isDigit := Text.Letters.isDigit, endsLine := endsLine }

def byteLetters : Alphabet := {
  upper := fun c => [c.toUpper], lower := fun c => [c.toLower], isUpper := Char.isUpper, isLower := Char.isLower
  isLetter := Char.isAlpha, isDecimal := Char.isDigit, isDigit := Char.isDigit, endsLine := endsByteLine }

namespace Alphabet

def isCased (a : Alphabet) (c : Char) : Bool := a.isUpper c || a.isLower c

def capital (a : Alphabet) (c : Char) : List Char :=
  match a.upper c with
  | [d] => [d]
  | d :: rest => d :: rest.flatMap a.lower
  | [] => []

def titled (a : Alphabet) (inWord : Bool) : List Char → List Char
  | [] => []
  | c :: rest =>
    if a.isCased c then (if inWord then a.lower c else a.capital c) ++ titled a true rest
    else c :: titled a false rest

/-- Whether large letters stand only at the start of words, and all others are small. -/
def isTitled (a : Alphabet) : Bool → Bool → List Char → Bool
  | _, found, [] => found
  | inWord, found, c :: rest =>
    if a.isUpper c then !inWord && isTitled a true true rest
    else if a.isLower c then inWord && isTitled a true true rest
    else isTitled a false found rest

end Alphabet

def noBound : Nat := 1000000000000

def textArgument (v : Value) : Eval (List Char) := do
  match ← core v with
  | .text s | .bytes s => return s.toList
  | _ => typeError ("must be str, not " ++ (← kindName v))

def countOf (r : Running) (v : Option Value) : Eval Nat := do
  match v with
  | none => return noBound
  | some v =>
    let n ← intArgument r v
    return if n < 0 then noBound else n.toNat

def names : List String := [
  "upper", "lower", "casefold", "strip", "lstrip", "rstrip", "split", "rsplit", "splitlines", "join",
  "replace", "startswith", "endswith", "find", "rfind", "index", "rindex", "count", "isdigit", "isdecimal",
  "isnumeric", "isalpha", "isalnum", "isspace", "isupper", "islower", "isidentifier", "istitle", "isascii",
  "isprintable", "title", "capitalize", "swapcase", "center", "ljust", "rjust", "zfill", "format", "format_map",
  "encode", "partition", "rpartition", "removeprefix", "removesuffix", "expandtabs", "translate", "decode", "hex"]

def expanded (size : Nat) (cs : List Char) : List Char :=
  ((cs.foldl (fun (read, column) c =>
    if c = '\t' then
      let n := if size = 0 then 0 else size - column % size
      ((List.replicate n ' ').foldl (fun read c => c :: read) read, column + n)
    else (c :: read, if c = '\n' || c = '\r' then 0 else column + 1)) (([] : List Char), 0)).1).reverse

def centered (width : Nat) (fill : Char) (cs : List Char) : List Char :=
  let space := width - cs.length
  let left := space / 2 + (if space % 2 = 1 && width % 2 = 1 then 1 else 0)
  List.replicate left fill ++ cs ++ List.replicate (space - left) fill

def call (r : Running) (isBytes : Bool) (s : String) (name : String) (args : List Value)
    (named : List (String × Value)) : Eval Value := do
  let cs := s.toList
  let wrap : String → Value := if isBytes then .bytes else .text
  let letters := if isBytes then byteLetters else allLetters
  let made (cs : List Char) : Value := wrap (String.ofList cs)
  let arg (i : Nat) : Option Value := args[i]?
  let kind := if isBytes then "bytes" else "str"
  /- A text of the same sort. -/
  let sameSort (message : String → String) (v : Value) : Eval (List Char) := do
    match ← core v, isBytes with
    | .text s, false | .bytes s, true => return s.toList
    | _, true => typeError ("a bytes-like object is required, not '" ++ (← kindName v) ++ "'")
    | _, false => typeError (message (← kindName v))
  let mustBe (given : String) : String := "must be str, not " ++ given
  let first : Eval (List Char) := do
    match arg 0 with
    | some v =>
      match v, isBytes with
      | .int n, true => return [Char.ofNat n.toNat]
      | v, _ => sameSort mustBe v
    | none => typeError (name ++ "() takes at least 1 argument (0 given)")
  let strip (left right : Bool) : Eval Value := do
    match arg 0 with
    | none | some .nothing => return made (stripped left right Numbers.isSpace cs)
    | some v => return made (stripped left right
        (← sameSort (fun _ => name ++ " arg must be None or str") v).contains cs)
  let all (p : Char → Bool) : Value := .bool (!cs.isEmpty && cs.all p)
  let separator := (arg 0).orElse fun _ => named.lookup "sep"
  let cuts := (arg 1).orElse fun _ => named.lookup "maxsplit"
  /- The text between two positions, and where it starts. -/
  let within : Eval (Option (List Char × Nat)) := do
    let bound (v : Option Value) : Eval (Option Int) := (v.map (Operations.boundOf r)).getD (pure none)
    let start ← bound (arg 1)
    let b ← Operations.bounds start (← bound (arg 2)) none cs.length
    let isPast : Bool := (start.map fun n => decide ((cs.length : Int) < n)).getD false
    if isPast || b.stop < b.start then return none
    else return some ((cs.take b.stop.toNat).drop b.start.toNat, b.start.toNat)
  let found (search : List Char → List Char → Option Nat) (orFail : Bool) : Eval Value := do
    let part ← first
    let at_ : Option Nat := (← within).bind fun (cs, start) => (search part cs).map (· + start)
    match at_ with
    | some i => return .int i
    | none =>
      if orFail then valueError (if isBytes then "subsection not found" else "substring not found")
      else return .int (-1)
  let affix (test : List Char → List Char → Bool) : Eval Value := do
    let message (given : String) : String := name ++ " first arg must be str or a tuple of str, not " ++ given
    match arg 0 with
    | none => typeError (name ++ "() takes at least 1 argument (0 given)")
    | some v =>
      let parts ← match v with
        | .tuple vs => vs.mapM (sameSort fun given => "tuple for " ++ name ++ " must only contain str, not " ++ given)
        | v => do pure [← sameSort message v]
      match ← within with
      | some (cs, _) => return .bool (parts.any fun part => test part cs)
      | none => return .bool false
  let width : Eval Nat := do return (← intArgument r ((arg 0).getD .nothing)).toNat
  let fill : Eval Char := do
    match arg 1 with
    | none => return ' '
    | some v =>
      match ← sameSort (fun given => "The fill character must be a unicode character, not " ++ given) v with
      | [c] => return c
      | _ => typeError "The fill character must be exactly one character long"
  match name with
  | "upper" => return made (cs.flatMap letters.upper)
  | "lower" => return made (cs.flatMap letters.lower)
  | "casefold" => return made (cs.flatMap fun c => if c = 'ß' then ['s', 's'] else letters.lower c)
  | "strip" => strip true true
  | "lstrip" => strip true false
  | "rstrip" => strip false true
  | "split" | "rsplit" =>
    let cuts ← countOf r cuts
    let turned := name == "rsplit"
    let parts ← match separator with
      | none | some .nothing =>
        let split := splitBlanks (cs.length + 1) cuts
        pure (if turned then fromEnd split cs else split cs)
      | some v => do
        let sep ← sameSort (fun given => "must be str or None, not " ++ given) v
        if sep.isEmpty then valueError "empty separator"
        let split (sep : List Char) := splitOn sep (cs.length + 1) cuts []
        pure (if turned then fromEnd (split sep.reverse) cs else split sep cs)
    newList (parts.map made)
  | "splitlines" =>
    let keep ← (((arg 0).orElse fun _ => named.lookup "keepends").map r.truth).getD (pure false)
    newList ((lines letters.endsLine keep (cs.length + 1) cs).map made)
  | "join" =>
    let vs ← try r.items ((arg 0).getD .nothing)
      catch
        | .raised e => match e.value with
          | .error "TypeError" [.text m] =>
            if m.endsWith "object is not iterable" then typeError "can only join an iterable" else throw (.raised e)
          | _ => throw (.raised e)
        | l => throw l
    let parts ← (vs.mapIdx fun i v => (i, v)).mapM fun (i, v) => do
      match ← core v, isBytes with
      | .text s, false | .bytes s, true => return s
      | _, _ => typeError ("sequence item " ++ toString i ++ ": expected " ++
          (if isBytes then "a bytes-like object" else "str instance") ++ ", " ++ (← kindName v) ++ " found")
    return wrap (String.intercalate s parts)
  | "replace" =>
    let part (i : Nat) : Eval (List Char) :=
      sameSort (fun given => "replace() argument " ++ toString (i + 1) ++ " must be str, not " ++ given)
        ((arg i).getD .nothing)
    let old ← part 0
    let new ← part 1
    return made (replaceAll old new (cs.length + 2) (← countOf r (arg 2)) cs)
  | "startswith" => affix List.isPrefixOf
  | "endswith" => affix fun part whole => part.reverse.isPrefixOf whole.reverse
  | "find" => found find false
  | "rfind" => found findLast false
  | "index" => found find true
  | "rindex" => found findLast true
  | "count" =>
    let part ← first
    match ← within with
    | none => return .int 0
    | some (cs, _) =>
      if part.isEmpty then return .int (cs.length + 1)
      else return .int ((splitOn part (cs.length + 1) noBound [] cs).length - 1 : Nat)
  | "isdigit" => return all letters.isDigit
  | "isdecimal" => return all letters.isDecimal
  | "isnumeric" => return all letters.isDigit
  | "isalpha" => return all letters.isLetter
  | "isalnum" => return all fun c => letters.isLetter c || letters.isDigit c
  | "isspace" => return all Numbers.isSpace
  | "isascii" => return .bool (cs.all (·.toNat < 128))
  | "isprintable" => return .bool (cs.all fun c => c.toNat = 32 || Text.isShown c)
  | "isupper" => return .bool (cs.any letters.isUpper && !cs.any letters.isLower)
  | "islower" => return .bool (cs.any letters.isLower && !cs.any letters.isUpper)
  | "istitle" => return .bool (letters.isTitled false false cs)
  | "isidentifier" => return .bool ((cs.head?.map fun c => letters.isLetter c || c = '_').getD false &&
      cs.all fun c => letters.isLetter c || letters.isDecimal c || c = '_')
  | "title" => return made (letters.titled false cs)
  | "capitalize" => return made (match cs with
      | c :: rest => letters.capital c ++ rest.flatMap letters.lower
      | [] => [])
  | "swapcase" => return made (cs.flatMap fun c =>
      if letters.isUpper c then letters.lower c else if letters.isLower c then letters.upper c else [c])
  | "ljust" =>
    let w ← width
    return made (cs ++ List.replicate (w - cs.length) (← fill))
  | "rjust" =>
    let w ← width
    return made (List.replicate (w - cs.length) (← fill) ++ cs)
  | "center" =>
    let w ← width
    return made (centered w (← fill) cs)
  | "zfill" =>
    let w ← width
    let (sign, rest) := match cs with
      | c :: rest => if c = '-' || c = '+' then ([c], rest) else ([], cs)
      | [] => ([], [])
    return made (sign ++ List.replicate (w - cs.length) '0' ++ rest)
  | "format" =>
    let (text, _) ← Layouts.braces r args named (2 * cs.length + 2) cs 0 ""
    return .text text
  | "format_map" =>
    let names ← match ← core ((arg 0).getD .nothing) with
      | .dict id => do pure ((← dictAt id).all.filterMap fun (k, v) => match k with
          | .text s => some (s, v)
          | _ => none)
      | _ => pure []
    let (text, _) ← Layouts.braces r [] names (2 * cs.length + 2) cs 0 ""
    return .text text
  | "translate" =>
    let table := (arg 0).getD .nothing
    let parts ← cs.mapM fun c => do
      match table with
      | .nothing => return [c]
      | table =>
        let w : Option Value ← try some <$> Operations.item r table (.int c.toNat)
          catch
            | .raised e => match e.value with
              | .error "KeyError" _ | .error "IndexError" _ => pure none
              | _ => throw (.raised e)
            | l => throw l
        match w with
        | none => return [c]
        | some .nothing => return []
        | some (.int n) => return [Char.ofNat n.toNat]
        | some (.text s) => return s.toList
        | some _ => typeError "character mapping must return integer, None or str"
    return made parts.flatten
  | "encode" | "decode" =>
    let word (i : Nat) (key missing : String) : String :=
      match (arg i).orElse fun _ => named.lookup key with
      | some (.text s) => s
      | _ => missing
    let code := word 0 "encoding" "utf-8"
    let errors := word 1 "errors" "strict"
    if name == "encode" then return .bytes (← checked (Codes.encoded code errors s))
    else return .text (← checked (Codes.decoded code errors s))
  | "hex" =>
    let pairs := cs.map fun c => String.ofList (hexText 2 c.toNat)
    let sep := match arg 0 with
      | some (.text s) | some (.bytes s) => s
      | _ => ""
    return .text (String.intercalate sep pairs)
  | "partition" | "rpartition" =>
    let sep ← first
    if sep.isEmpty then valueError "empty separator"
    let isFirst := name == "partition"
    match if isFirst then find sep cs else findLast sep cs with
    | some i => return .tuple [made (cs.take i), made sep, made (cs.drop (i + sep.length))]
    | none => return .tuple (if isFirst then [wrap s, wrap "", wrap ""] else [wrap "", wrap "", wrap s])
  | "removeprefix" =>
    let part ← first
    return made (if part.isPrefixOf cs then cs.drop part.length else cs)
  | "removesuffix" =>
    let part ← first
    return made (if !part.isEmpty && part.reverse.isPrefixOf cs.reverse then cs.take (cs.length - part.length)
      else cs)
  | _ =>
    let size := (arg 0).orElse fun _ => named.lookup "tabsize"
    let _ := kind
    return made (expanded ((← size.mapM (intArgument r)).getD 8).toNat cs)

def table (r : Running) (args : List Value) : Eval Value := do
  let codes (v : Value) : Eval (List Value) := do return (← textArgument v).map fun c => .int c.toNat
  match args with
  | [.dict id] =>
    let entries ← (← dictAt id).all.mapM fun (k, v) => do
      match k with
      | .text s =>
        match s.toList with
        | [c] => return (Value.int c.toNat, v)
        | _ => valueError "string keys in translate table must be of length 1"
      | k => return (k, v)
    newDict r entries
  | [_] => typeError "if you give only one argument to maketrans it must be a dict"
  | a :: b :: rest =>
    let x ← codes a
    let y ← codes b
    if x.length != y.length then valueError "the first two maketrans arguments must have equal length"
    let gone ← match rest with
      | c :: _ => codes c
      | [] => pure []
    newDict r (x.zip y ++ gone.map fun k => (k, .nothing))
  | [] => typeError "maketrans expected at least 1 argument, got 0"

end PartitionTest.Shell.Objects.Texts
