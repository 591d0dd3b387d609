import PartitionTest.Shell.Objects.Memory
import PartitionTest.Shell.Objects.Numbers
import PartitionTest.Shell.Objects.Sets
import PartitionTest.Text.Printable

/-! Values as texts. What values of the script's own kinds look like is a
parameter: printed, or as they could stand in a script. -/
namespace PartitionTest.Shell.Objects.Shown

open Memory

def checked (r : Numbers.Result α) : Eval α :=
  match r with
  | .ok a => return a
  | .error (kind, message) => fail kind message

def hexText (width n : Nat) : List Char :=
  let ds := Nat.toDigits 16 n
  List.replicate (width - ds.length) '0' ++ ds

def quotedChar (quote c : Char) (isBytes : Bool) : List Char :=
  if c = quote || c = '\\' then ['\\', c]
  else if c = '\n' then ['\\', 'n']
  else if c = '\r' then ['\\', 'r']
  else if c = '\t' then ['\\', 't']
  else if if isBytes then 32 ≤ c.toNat && c.toNat < 127 else Text.isShown c then [c]
  else if c.toNat < 256 then '\\' :: 'x' :: hexText 2 c.toNat
  else if c.toNat < 65536 then '\\' :: 'u' :: hexText 4 c.toNat
  else '\\' :: 'U' :: hexText 8 c.toNat

def quoted (isBytes : Bool) (s : String) : String :=
  let cs := s.toList
  let quote := if cs.contains '\'' && !cs.contains '"' then '"' else '\''
  String.ofList (quote :: cs.flatMap (quotedChar quote · isBytes) ++ [quote])

def address : String := "0x7f0000000000"

def kindName (v : Value) : Eval String := do
  match v with
  | .nothing => return "NoneType"
  | .ellipsis => return "ellipsis"
  | .bool _ => return "bool"
  | .int _ => return "int"
  | .float _ => return "float"
  | .complex _ _ => return "complex"
  | .fraction _ _ => return "Fraction"
  | .decimal _ => return "decimal.Decimal"
  | .text _ => return "str"
  | .bytes _ => return "bytes"
  | .tuple _ => return "tuple"
  | .range _ _ _ => return "range"
  | .slice _ _ _ => return "slice"
  | .list _ => return "list"
  | .dict _ => return "dict"
  | .set _ => return "set"
  | .frozen _ => return "frozenset"
  | .view _ .keys => return "dict_keys"
  | .view _ .values => return "dict_values"
  | .view _ .entries => return "dict_items"
  | .stream id =>
    match (← get).streams[id]? with
    | some (.list _ _) => return "list_iterator"
    | some (.turned _ _) => return "list_reverseiterator"
    | some (.entries _ .keys _ _) => return "dict_keyiterator"
    | some (.entries _ .values _ _) => return "dict_valueiterator"
    | some (.entries _ .entries _ _) => return "dict_itemiterator"
    | some (.calls _ _) => return "callable_iterator"
    | some (.found _) => return "callable_iterator"
    | some (.places _ _) => return "iterator"
    | some (.mapped _ _) => return "map"
    | some (.filtered _ _) => return "filter"
    | some (.zipped _ _) => return "zip"
    | some (.numbered _ _) => return "enumerate"
    | some (.counting _ _ _) => return "range_iterator"
    | _ => return "generator"
  | .function _ => return "function"
  | .builtin _ | .bound _ _ => return "builtin_function_or_method"
  | .method _ _ => return "method"
  | .above _ _ => return "super"
  | .marked how _ => return how
  | .property _ _ _ => return "property"
  | .pattern _ => return "re.Pattern"
  | .found _ => return "re.Match"
  | .declined => return "NotImplementedType"
  | .kept _ _ => return "functools._lru_cache_wrapper"
  | .kind _ => return "type"
  | .generic _ _ => return "types.GenericAlias"
  | .either _ => return "types.UnionType"
  | .ownKind id =>
    match (← kindAt id).above with
    | some above => return (← kindAt above).name
    | none => return "type"
  | .object id => return (← kindAt (← objectAt id).kind).name
  | .error kind _ => return kind
  | .module _ => return "module"
  | .channel _ isBinary => return if isBinary then "_io.BufferedReader" else "_io.TextIOWrapper"

def lastName (s : String) : String := (s.splitOn ".").getLast?.getD s

def again : Value → String
  | .list _ => "[...]"
  | _ => "\x7b...\x7d"

def place? : Value → Option (Bool × Nat)
  | .list id => some (false, id)
  | .dict id => some (true, id)
  | _ => none

def bareFloat (x : Float) : String :=
  let s := Numbers.floatText x
  if s.endsWith ".0" then String.ofList (s.toList.take (s.length - 2)) else s

def complexText (x y : Float) : String :=
  let sign := if Number.isNegative y || y.isNaN then "" else "+"
  if x == 0.0 && !Number.isNegative x then bareFloat y ++ "j"
  else "(" ++ bareFloat x ++ sign ++ bareFloat y ++ "j)"

def fractionText (num : Int) (den : Nat) : String :=
  if den = 1 then toString num else toString num ++ "/" ++ toString den

/-- The flags of regular expressions that are shown, each with its bit. -/
def patternFlags : List (Nat × String) := [
  (2, "re.IGNORECASE"), (8, "re.MULTILINE"), (16, "re.DOTALL"), (64, "re.VERBOSE"), (128, "re.DEBUG"),
  (256, "re.ASCII")]

def patternText (p : Pattern) : String :=
  let flags := (patternFlags.filter fun (bit, _) => p.flags / bit % 2 = 1).map (·.2)
  let source := (if p.isBytes then "b" else "") ++ quoted p.isBytes p.source
  "re.compile(" ++ source ++ (if flags.isEmpty then "" else ", " ++ String.intercalate "|" flags) ++ ")"

def groupText (m : Found) (span : Nat × Nat) : String :=
  String.ofList ((m.subject.toList.take span.2).drop span.1)

def foundText (m : Found) : String :=
  let (a, b) := (m.spans.head?.bind fun s => s).getD (0, 0)
  let fits := (if m.pattern.isBytes then "b" else "") ++ quoted m.pattern.isBytes (groupText m (a, b))
  "<re.Match object; span=(" ++ toString a ++ ", " ++ toString b ++ "), match=" ++ fits ++ ">"

mutual

/-- A value as it could stand in a script, inside of those at given places. -/
def shownIn (own : Bool → Value → Eval String) : Nat → List (Bool × Nat) → Value → Eval String
  | 0, _, _ => return "..."
  | n + 1, outer, v => do
    if let some p := place? v then
      if outer.contains p then return again v
    let outer := (place? v).toList ++ outer
    match v with
    | .nothing => return "None"
    | .ellipsis => return "Ellipsis"
    | .bool b => return if b then "True" else "False"
    | .int k => checked (Numbers.intText k)
    | .float x => return Numbers.floatText x
    | .complex x y => return complexText x y
    | .fraction num den => return "Fraction(" ++ toString num ++ ", " ++ toString den ++ ")"
    | .decimal d => return "Decimal('" ++ d.text ++ "')"
    | .pattern p => return patternText p
    | .found m => return foundText m
    | .declined => return "NotImplemented"
    | .text s => return quoted false s
    | .bytes s => return "b" ++ quoted true s
    | .tuple [e] => return "(" ++ (← shownIn own n outer e) ++ ",)"
    | .tuple items => return "(" ++ (← allIn own n outer items) ++ ")"
    | .range a b c =>
      let step := if c = 1 then "" else ", " ++ toString c
      return "range(" ++ toString a ++ ", " ++ toString b ++ step ++ ")"
    | .slice a b c => return "slice(" ++ (← allIn own n outer [a, b, c]) ++ ")"
    | .list id => return "[" ++ (← allIn own n outer (← listAt id).toList) ++ "]"
    | .dict id => return "\x7b" ++ (← entriesIn own n outer (← dictAt id).all) ++ "\x7d"
    | .set id =>
      let d ← dictAt id
      if d.size = 0 then return "set()"
      else return "\x7b" ++ (← allIn own n outer (Sets.items d)) ++ "\x7d"
    | .frozen id =>
      let d ← dictAt id
      if d.size = 0 then return "frozenset()"
      else return "frozenset(\x7b" ++ (← allIn own n outer (Sets.items d)) ++ "\x7d)"
    | .view id side =>
      let all := (← dictAt id).all.map fun (k, v) => match side with
        | .keys => k
        | .values => v
        | .entries => .tuple [k, v]
      return (← kindName v) ++ "([" ++ (← allIn own n outer all) ++ "])"
    | .function id => return "<function " ++ (← functionAt id).path ++ " at " ++ address ++ ">"
    | .builtin s => return "<built-in function " ++ s ++ ">"
    | .bound self s =>
      return "<built-in method " ++ s ++ " of " ++ (← kindName self) ++ " object at " ++ address ++ ">"
    | .kind s => return "<class '" ++ s ++ "'>"
    | .generic k args =>
      let all ← terms own n outer args
      let inner := if all.isEmpty then "()" else String.intercalate ", " all
      return (← kindTerm own n outer k) ++ "[" ++ inner ++ "]"
    | .either ks => return String.intercalate " | " (← terms own n outer ks)
    | .ownKind id =>
      match ← special? v "__repr__" with
      | some _ => own false v
      | none => return "<class '" ++ (← kindAt id).module ++ "." ++ (← kindAt id).path ++ "'>"
    | .method self id =>
      return "<bound method " ++ (← functionAt id).path ++ " of " ++ (← shownIn own n outer self) ++ ">"
    | .error kind args => return lastName kind ++ "(" ++ (← allIn own n outer args) ++ ")"
    | .module s => return "<module '" ++ s ++ "' (built-in)>"
    | .channel k isBinary =>
      let (name, mode) := if k = 0 then ("stdin", "r") else if k = 1 then ("stdout", "w") else ("stderr", "w")
      return "<" ++ (← kindName (.channel k isBinary)) ++ " name='<" ++ name ++ ">'" ++
        (if isBinary then "" else " mode='" ++ mode ++ "' encoding='utf-8'") ++ ">"
    | .object _ => own false v
    | v => return "<" ++ (← kindName v) ++ " object at " ++ address ++ ">"

def kindTerm (own : Bool → Value → Eval String) : Nat → List (Bool × Nat) → Value → Eval String
  | 0, _, _ => return "..."
  | n + 1, outer, v => do
    match v with
    | .kind s => return if s == "NoneType" then "None" else s
    | .ownKind id =>
      let k ← kindAt id
      return if k.module == "builtins" then k.path else k.module ++ "." ++ k.path
    | .ellipsis => return "..."
    | .nothing => return "None"
    | v => shownIn own n outer v

def terms (own : Bool → Value → Eval String) : Nat → List (Bool × Nat) → List Value → Eval (List String)
  | 0, _, _ | _, _, [] => return []
  | n + 1, outer, v :: vs => do return (← kindTerm own n outer v) :: (← terms own (n + 1) outer vs)

def allIn (own : Bool → Value → Eval String) : Nat → List (Bool × Nat) → List Value → Eval String
  | 0, _, _ | _, _, [] => return ""
  | n + 1, outer, [v] => shownIn own n outer v
  | n + 1, outer, v :: vs => do return (← shownIn own n outer v) ++ ", " ++ (← allIn own (n + 1) outer vs)

def entriesIn (own : Bool → Value → Eval String) :
    Nat → List (Bool × Nat) → List (Value × Value) → Eval String
  | 0, _, _ | _, _, [] => return ""
  | n + 1, outer, (k, v) :: rest => do
    let one := (← shownIn own n outer k) ++ ": " ++ (← shownIn own n outer v)
    if rest.isEmpty then return one else return one ++ ", " ++ (← entriesIn own (n + 1) outer rest)

end

def shown (own : Bool → Value → Eval String) (depth : Nat) (v : Value) : Eval String := shownIn own depth [] v

def allShown (own : Bool → Value → Eval String) (depth : Nat) (vs : List Value) : Eval String :=
  allIn own depth [] vs

def maxDepth : Nat := 200

def errorText (own : Bool → Value → Eval String) (kind : String) (args : List Value) : Eval String := do
  match args with
  | [] => return ""
  | [.text s] => if kind == "KeyError" then return quoted false s else return s
  | [.int n, reason] =>
    if isErrorOf kind "OSError" then
      let reason ← match reason with
        | .text s => pure s
        | v => shown own maxDepth v
      return "[Errno " ++ toString n ++ "] " ++ reason
    else return "(" ++ toString n ++ ", " ++ (← shown own maxDepth reason) ++ ")"
  | [.int n, .text reason, path] =>
    if isErrorOf kind "OSError" then
      return "[Errno " ++ toString n ++ "] " ++ reason ++ ": " ++ (← shown own maxDepth path)
    else shown own maxDepth (.tuple args)
  | [.object id] => own true (.object id)
  | [v] => shown own maxDepth v
  | vs => shown own maxDepth (.tuple vs)

def plain (own : Bool → Value → Eval String) (v : Value) : Eval String := do
  match v with
  | .text s => return s
  | .error kind args => errorText own kind args
  | .object _ | .ownKind _ => own true v
  | .fraction num den => return fractionText num den
  | .decimal d => return d.text
  | v => shown own maxDepth v

structure Layout where
  fill : Char := ' '
  align : Option Char := none
  sign : Char := '-'
  marked : Bool := false
  width : Nat := 0
  grouping : Option Char := none
  precision : Option Nat := none
  letter : Option Char := none
deriving Inhabited

namespace Layout

def isAlign (c : Char) : Bool := c = '<' || c = '>' || c = '=' || c = '^'

def read? (s : String) : Option Layout :=
  let cs := s.toList
  let (l, cs) : Layout × List Char := match cs with
    | f :: a :: rest =>
      if isAlign a then ({ fill := f, align := some a }, rest)
      else if isAlign f then ({ align := some f }, a :: rest) else ({}, cs)
    | [a] => if isAlign a then ({ align := some a }, []) else ({}, cs)
    | [] => ({}, [])
  let (l, cs) := match cs with
    | c :: rest => if c = '+' || c = '-' || c = ' ' then ({ l with sign := c }, rest) else (l, cs)
    | [] => (l, cs)
  let (l, cs) := match cs with
    | '#' :: rest => ({ l with marked := true }, rest)
    | _ => (l, cs)
  let (l, cs) := match cs with
    | '0' :: rest => (if l.align.isSome then l else { l with fill := '0', align := some '=' }, rest)
    | _ => (l, cs)
  let width := cs.takeWhile Char.isDigit
  let cs := cs.drop width.length
  let l := { l with width := Format.naturalOf width }
  let (l, cs) := match cs with
    | c :: rest => if c = ',' || c = '_' then ({ l with grouping := some c }, rest) else (l, cs)
    | [] => (l, cs)
  let read : Option (Layout × List Char) := match cs with
    | '.' :: rest =>
      let ds := rest.takeWhile Char.isDigit
      if ds.isEmpty then none else some ({ l with precision := some (Format.naturalOf ds) }, rest.drop ds.length)
    | _ => some (l, cs)
  read.bind fun (l, cs) => match cs with
    | [] => some l
    | [c] => some { l with letter := some c }
    | _ => none

def grouped (size : Nat) (mark : Char) (ds : List Char) : List Char :=
  let rec go (k : Nat) : List Char → List Char
    | [] => []
    | c :: rest => if k = size then mark :: c :: go 1 rest else c :: go (k + 1) rest
  (go 0 ds.reverse).reverse

def placed (l : Layout) (missing : Char) (lead body : List Char) : String :=
  let space := l.width - lead.length - body.length
  let fill (n : Nat) := List.replicate n l.fill
  String.ofList (match l.align.getD missing with
    | '<' => lead ++ body ++ fill space
    | '^' => fill (space / 2) ++ lead ++ body ++ fill (space - space / 2)
    | '=' => lead ++ fill space ++ body
    | _ => fill space ++ lead ++ body)

def signOf (l : Layout) (negative : Bool) : List Char :=
  if negative then ['-'] else if l.sign = '-' then [] else [l.sign]

/-- Digits with marks between groups, and zeros in front up to the width. -/
def digits (l : Layout) (size : Nat) (lead whole rest : List Char) : List Char :=
  match l.grouping with
  | none => whole ++ rest
  | some mark =>
    let need := if l.fill = '0' && l.align == some '=' then l.width - lead.length - rest.length else 0
    let rec widen : Nat → List Char → List Char
      | 0, ds => grouped size mark ds
      | n + 1, ds => if (grouped size mark ds).length < need then widen n ('0' :: ds) else grouped size mark ds
    widen need whole ++ rest

def int (l : Layout) (n : Int) : Option String :=
  let base : Option (Nat × String) := match l.letter with
    | none | some 'd' | some 'n' => some (10, "")
    | some 'b' => some (2, "0b")
    | some 'o' => some (8, "0o")
    | some 'x' => some (16, "0x")
    | some 'X' => some (16, "0X")
    | _ => none
  match l.letter, base with
  | some 'c', _ => some (l.placed '<' [] [Char.ofNat n.toNat])
  | _, some (base, mark) =>
    let ds := Nat.toDigits base n.natAbs
    let ds := if l.letter == some 'X' then ds.map Char.toUpper else ds
    let lead := l.signOf (n < 0) ++ if l.marked then mark.toList else []
    some (l.placed '>' lead (l.digits (if base = 10 then 3 else 4) lead ds []))
  | _, none => none

def float (l : Layout) (x : Float) : Option String :=
  let lead := l.signOf (Number.isNegative x && !x.isNaN)
  let body : Option (List Char) := match Number.toBinary64? x with
    | none =>
      let word := if x.isNaN then "nan" else "inf"
      some ((if (l.letter.map Char.isUpper).getD false then word.toUpper else word) ++
        (if l.letter == some '%' then "%" else "")).toList
    | some b =>
      let p := l.precision.getD 6
      match l.letter with
      | some 'f' | some 'F' => some (Format.fixed b p l.marked)
      | some 'e' | some 'E' =>
        let (ds, top) := Format.leading b (p + 1)
        some (Format.scientific ds top l.marked)
      | some 'g' | some 'G' | some 'n' => some (Format.general b (Nat.max p 1) l.marked)
      | some '%' =>
        let scaled := Number.toBinary64? (x * 100.0)
        some (Format.fixed (scaled.getD b) p l.marked ++ ['%'])
      | none =>
        match l.precision with
        | none => some ((Numbers.floatText x.abs).toList)
        | some p =>
          let (ds, top) := Format.leading b (Nat.max p 1)
          let cs := if -4 ≤ top && top < (Nat.max p 1 : Nat) - (1 : Int) then
              Format.trimZeros (Format.fixed b (Nat.max p 1 - 1 - top).toNat false)
            else
              let kept := (ds.drop 1).reverse.dropWhile (· == '0')
              Format.scientific (ds.take 1 ++ kept.reverse) top false
          some (if cs.contains '.' || cs.contains 'e' then cs else cs ++ ['.', '0'])
      | _ => none
  body.map fun cs =>
    let cs := if (l.letter.map Char.isUpper).getD false then cs.map Char.toUpper else cs
    let whole := cs.takeWhile Char.isDigit
    l.placed '>' lead (l.digits 3 lead whole (cs.drop whole.length))

def text (l : Layout) (s : String) : String :=
  l.placed '<' [] (match l.precision with
    | some p => s.toList.take p
    | none => s.toList)

end Layout

def Layout.decimal (l : Layout) (c : Decimal.Context) (d : Decimal) : Option String :=
  let letter := l.letter.getD (if l.precision.isSome then 'G' else ' ')
  let isUpper := letter.isUpper
  let kind := letter.toLower
  match d with
  | .infinite s => some (l.placed '>' (l.signOf s) "Infinity".toList)
  | .nan s => some (l.placed '>' [] (if s then "sNaN" else "NaN").toList)
  | .finite s digits power =>
    if !" efgn%".toList.contains kind then none
    else
      let power := if kind = '%' then power + 2 else power
      let count (n : Nat) : Int := Decimal.digitCount n
      /- With so many digits. -/
      let cut (k : Nat) : Nat × Int :=
        if count digits ≤ k then (if kind = 'e' then (digits * Nat.pow 10 (k - (count digits).toNat), power - (k - count digits)) else (digits, power))
        else
          let p := power + count digits - k
          let ds := Decimal.rescaled c.rounding s digits power p
          if (k : Int) < count ds then (ds / 10, p + 1) else (ds, p)
      let (ds, p) := match l.precision with
        | none => (digits, power)
        | some k =>
          if kind = 'e' then (if digits = 0 then (0, power) else cut (k + 1))
          else if kind = 'f' || kind = '%' then (Decimal.rescaled c.rounding s digits power (-(k : Int)), -(k : Int))
          else if (k : Int) < count digits && k ≠ 0 then cut k
          else if k = 0 && 1 < count digits then cut 1
          else (digits, power)
      let (ds, p) := if ds = 0 && 0 < p && (kind = 'f' || kind = '%') then (0, 0) else (ds, p)
      let text := (toString ds).toList
      let left := p + text.length
      let place := if kind = 'e' then (if ds = 0 then (match l.precision with
            | some k => 1 - (k : Int)
            | none => 1) else 1)
        else if kind = 'f' || kind = '%' then left
        else if p ≤ 0 && -6 < left then left else 1
      let (whole, rest) := Decimal.pointed text place
      let e := left - place
      let mark := if kind = ' ' || isUpper then 'E' else 'e'
      let tail := (if rest.isEmpty then [] else '.' :: rest) ++
        (if e != 0 || kind = 'e' then mark :: (Decimal.signedText e).toList else []) ++ (if kind = '%' then ['%'] else [])
      let lead := l.signOf s
      some (l.placed '>' lead (l.digits 3 lead whole tail))

def fitted (own : Bool → Value → Eval String) (c : Decimal.Context) (v : Value) (layout : String) :
    Eval String := do
  if layout.isEmpty then plain own v
  else
    let kind ← kindName v
    match Layout.read? layout with
    | none => valueError "Invalid format specifier"
    | some l =>
      let unknown : Eval String := valueError ("Unknown format code '" ++
        String.singleton (l.letter.getD ' ') ++ "' for object of type '" ++ kind ++ "'")
      let isReal := (l.letter.map "eEfFgG%".toList.contains).getD false
      let real (x : Float) : Eval String := do
        match l.float x with
        | some s => return s
        | none => unknown
      let whole (n : Int) : Eval String := do
        if isReal then real (← checked (Numbers.toFloat n))
        else if l.precision.isSome then valueError "Precision not allowed in integer format specifier"
        else match l.int n with
        | some s => return s
        | none => unknown
      match v with
      | .int n => whole n
      | .bool b => if l.letter.isNone then return l.text (← plain own v) else whole (if b then 1 else 0)
      | .float x => real x
      | .decimal d =>
        match l.decimal c d with
        | some s => return s
        | none => valueError "invalid format string"
      | .text s =>
        if l.letter.isSome && l.letter != some 's' then unknown
        else if l.align == some '=' && l.fill != '0' then
          valueError "'=' alignment not allowed in string format specifier"
        else
          let l := if l.align == some '=' then { l with align := some '<' } else l
          return l.text s
      | _ => typeError ("unsupported format string passed to " ++ kind ++ ".__format__")

end PartitionTest.Shell.Objects.Shown
