import PartitionTest.Shell.Objects.Operations

/-! Values put into texts: behind signs for a part, and in braces. -/
namespace PartitionTest.Shell.Objects.Layouts

open Memory Shown

structure Part where
  name : Option String := none
  flags : List Char := []
  /-- Nothing for a size that is an argument. -/
  width : Option Nat := some 0
  precision : Option (Option Nat) := none
  letter : Char := 's'
deriving Inhabited

def size (cs : List Char) : Option Nat × List Char :=
  match cs with
  | '*' :: rest => (none, rest)
  | _ =>
    let ds := cs.takeWhile Char.isDigit
    (some (Format.naturalOf ds), cs.drop ds.length)

def part (cs : List Char) : Eval (Part × List Char) := do
  let (name, cs) := match cs with
    | '(' :: rest =>
      let name := rest.takeWhile (· != ')')
      (some (String.ofList name), rest.drop (name.length + 1))
    | _ => (none, cs)
  let flags := cs.takeWhile "-+ 0#".toList.contains
  let (width, cs) := size (cs.drop flags.length)
  let (precision, cs) := match cs with
    | '.' :: rest =>
      let (p, rest) := size rest
      (some p, rest)
    | _ => (none, cs)
  let cs := cs.dropWhile "hlL".toList.contains
  match cs with
  | [] => valueError "incomplete format"
  | letter :: rest => return ({ name, flags, width, precision, letter }, rest)

def asciiText (s : String) : String :=
  String.ofList (s.toList.flatMap fun c =>
    if c.toNat < 128 then [c]
    else if c.toNat < 256 then '\\' :: 'x' :: hexText 2 c.toNat
    else if c.toNat < 65536 then '\\' :: 'u' :: hexText 4 c.toNat
    else '\\' :: 'U' :: hexText 8 c.toNat)

/-- A value in a layout, which kinds of the script can see to themselves. -/
def formatted (r : Running) (v : Value) (layout : String) : Eval String := do
  match ← r.special? v "__format__" [.text layout] with
  | some (.text s) => return s
  | some w => typeError ("__format__ must return a str, not " ++ (← kindName w))
  | none =>
    if layout.isEmpty then plain r.own v
    else match ← core v with
    | .object id => typeError ("unsupported format string passed to " ++ (← kindName (.object id)) ++ ".__format__")
    | w => fitted r.own (← get).decimals w layout

def converted (r : Running) (letter : Option Char) (v : Value) : Eval Value := do
  match letter with
  | some 'r' => Value.text <$> shown r.own maxDepth v
  | some 'a' => (fun s => .text (asciiText s)) <$> shown r.own maxDepth v
  | some 's' => Value.text <$> plain r.own v
  | _ => return v

def numberOf? (r : Running) (v : Value) : Eval (Option Numbers.Num) := do
  match ← Operations.num? v with
  | some n => return some n
  | none =>
    match ← r.special? v "__float__" [] with
    | some w => return w.num?
    | none => return (← Operations.index? r v).map .int

def one (r : Running) (p : Part) (width : Nat) (precision : Option Nat) (v : Value) (position : Nat) :
    Eval String := do
  let own := r.own
  let l : Format.Layout := ⟨p.flags, width, precision⟩
  let whole (n : Int) : Eval String := do
    let base := match p.letter with
      | 'o' => 8
      | 'x' | 'X' => 16
      | _ => 10
    let ds := Nat.toDigits base n.natAbs
    let ds := if p.letter = 'X' then ds.map Char.toUpper else ds
    let mark := if !p.flags.contains '#' then [] else match p.letter with
      | 'o' => ['0', 'o']
      | 'x' => ['0', 'x']
      | 'X' => ['0', 'X']
      | _ => []
    let least := precision.getD 1
    return l.number (l.sign (n < 0) ++ mark) (List.replicate (least - ds.length) '0' ++ ds) true
  let kind ← kindName v
  match p.letter with
  | 's' =>
    let cs ← match v with
      | .bytes s => pure s.toList
      | v => do pure (← plain own v).toList
    return l.padded ((precision.map cs.take).getD cs)
  | 'r' | 'a' =>
    let s ← shown own maxDepth v
    let cs := (if p.letter = 'a' then asciiText s else s).toList
    return l.padded ((precision.map cs.take).getD cs)
  | 'c' =>
    match v with
    | .int n =>
      if n < 0 || 0x110000 ≤ n then fail "OverflowError" "%c arg not in range(0x110000)"
      return l.padded [Char.ofNat n.toNat]
    | .text s => if s.length = 1 then return l.padded s.toList else typeError "%c requires int or char"
    | _ => typeError "%c requires int or char"
  | 'd' | 'i' | 'u' =>
    match ← Operations.num? v with
    | some (.int n) => whole n
    | some (.float x) => whole (← checked (Numbers.truncated x))
    | some n =>
      match n.fraction? with
      | some (num, den) => whole (num.tdiv den)
      | none => typeError ("%" ++ String.singleton p.letter ++ " format: a real number is required, not " ++ kind)
    | none =>
      match ← r.special? v "__int__" [] with
      | some (.int n) => whole n
      | _ =>
        match ← Operations.index? r v with
        | some n => whole n
        | none => typeError ("%" ++ String.singleton p.letter ++ " format: a real number is required, not " ++ kind)
  | 'o' | 'x' | 'X' =>
    match ← Operations.index? r v with
    | some n => whole n
    | none => typeError ("%" ++ String.singleton p.letter ++ " format: an integer is required, not " ++ kind)
  | 'e' | 'E' | 'f' | 'F' | 'g' | 'G' =>
    match ← numberOf? r v with
    | some n => return Number.format l p.letter (← checked n.toFloat)
    | none => typeError ("must be real number, not " ++ kind)
  | c =>
    valueError ("unsupported format character '" ++ String.singleton c ++ "' (0x" ++
      String.ofList (Nat.toDigits 16 c.toNat) ++ ") at index " ++ toString position)

def percent (r : Running) (format : String) (arg : Value) : Eval String := do
  let args := match ← core arg with
    | .tuple items => items
    | v => [v]
  go format.length.succ format.toList args false ""
where
  take (args : List Value) : Eval (Value × List Value) :=
    match args with
    | v :: rest => return (v, rest)
    | [] => typeError "not enough arguments for format string"
  sized (given : Option Nat) (args : List Value) : Eval (Nat × List Value) := do
    match given with
    | some n => return (n, args)
    | none =>
      let (v, rest) ← take args
      match v.whole? with
      | some n => return (n.toNat, rest)
      | none => typeError "* wants int"
  go : Nat → List Char → List Value → Bool → String → Eval String
    | 0, _, _, _, read => return read
    | _, [], args, named, read => do
      let isTable ← match ← core arg with
        | .dict _ | .list _ | .range _ _ _ => pure true
        | .object id => do pure (← special? (.object id) "__getitem__").isSome
        | _ => pure false
      if !args.isEmpty && !named && !isTable then
        typeError "not all arguments converted during string formatting"
      return read
    | n + 1, '%' :: '%' :: rest, args, named, read => go n rest args named (read ++ "%")
    | n + 1, '%' :: rest, args, named, read => do
      let (p, after) ← part rest
      let position := format.length - after.length - 1
      match p.name with
      | some key =>
        let v ← Operations.item r arg (.text key)
        go n after args true (read ++ (← one r p (p.width.getD 0) (p.precision.bind fun q => q) v position))
      | none =>
        let (width, args) ← sized p.width args
        let (precision, args) ← match p.precision with
          | none => pure (none, args)
          | some q => do
            let (k, args) ← sized q args
            pure (some k, args)
        let (v, args) ← take args
        go n after args named (read ++ (← one r p width precision v position))
    | n + 1, c :: rest, args, named, read => go n rest args named (read.push c)

/-- The source of a field up to its closing brace, and what follows. -/
def fieldEnd (depth : Nat) (read : List Char) : List Char → Option (List Char × List Char)
  | [] => none
  | '\x7d' :: rest => if depth = 0 then some (read.reverse, rest) else fieldEnd (depth - 1) ('\x7d' :: read) rest
  | '\x7b' :: rest => fieldEnd (depth + 1) ('\x7b' :: read) rest
  | c :: rest => fieldEnd depth (c :: read) rest

/-- What leads from a value to a part of it: attributes and indices. -/
def follow (r : Running) : Nat → Value → List Char → Eval Value
  | 0, v, _ | _, v, [] => return v
  | n + 1, v, '.' :: rest => do
    let name := rest.takeWhile fun c => c != '.' && c != '['
    follow r n (← r.member v (String.ofList name)) (rest.drop name.length)
  | n + 1, v, '[' :: rest => do
    let index := rest.takeWhile (· != ']')
    let key : Value := if index.all Char.isDigit then .int (Format.naturalOf index) else .text (String.ofList index)
    follow r n (← Operations.item r v key) (rest.drop (index.length + 1))
  | _, _, _ => valueError "Only '.' or '[' may follow ']' in format field specifier"

/-- Values put into a text in braces. The number is that of the next argument. -/
def braces (r : Running) (args : List Value)
    (named : List (String × Value)) : Nat → List Char → Nat → String → Eval (String × Nat)
  | 0, _, k, read | _, [], k, read => return (read, k)
  | n + 1, '\x7b' :: '\x7b' :: rest, k, read => braces r args named n rest k (read.push '\x7b')
  | n + 1, '\x7d' :: '\x7d' :: rest, k, read => braces r args named n rest k (read.push '\x7d')
  | _, '\x7d' :: _, _, _ => valueError "Single '\x7d' encountered in format string"
  | _, ['\x7b'], _, _ => valueError "Single '\x7b' encountered in format string"
  | n + 1, '\x7b' :: rest, k, read => do
    match fieldEnd 0 [] rest with
    | none => valueError "expected '\x7d' before end of string"
    | some (source, rest) =>
      let path := source.takeWhile fun c => c != '!' && c != ':'
      let (conversion, more) := match source.drop path.length with
        | '!' :: c :: more => (some c, more)
        | more => (none, more)
      let first := path.takeWhile fun c => c != '.' && c != '['
      let (v, k) ← if first.isEmpty then pure (args[k]?, k + 1)
        else if first.all Char.isDigit then pure (args[Format.naturalOf first]?, k)
        else match named.lookup (String.ofList first) with
        | some v => pure (some v, k)
        | none => raise (.error "KeyError" [.text (String.ofList first)])
      match v with
      | none =>
        let i := if first.isEmpty then k - 1 else Format.naturalOf first
        fail "IndexError" ("Replacement index " ++ toString i ++ " out of range for positional args tuple")
      | some v =>
        let v ← follow r source.length.succ v (path.drop first.length)
        let (layout, k) ← braces r args named n (more.drop 1) k ""
        let v ← converted r conversion v
        braces r args named n rest k (read ++ (← formatted r v layout))
  | n + 1, c :: rest, k, read => braces r args named n rest k (read.push c)

end PartitionTest.Shell.Objects.Layouts
