import PartitionTest.Shell.Objects.Methods

/-! Values as JSON texts. -/
namespace PartitionTest.Shell.Objects.JsonText

open Memory Shown Methods

structure Settings where
  /-- What each level is set in by; nothing writes all in one line. -/
  indent : Option String := none
  itemMark : String := ", "
  keyMark : String := ": "
  isSorted : Bool := false
  isAscii : Bool := true
  /-- What makes something that can be written of a value. -/
  other : Option Value := none

def quotedChar (isAscii : Bool) (c : Char) : List Char :=
  let unit (n : Nat) : List Char := '\\' :: 'u' :: hexText 4 n
  if c = '"' then ['\\', '"']
  else if c = '\\' then ['\\', '\\']
  else if c = '\n' then ['\\', 'n']
  else if c = '\r' then ['\\', 'r']
  else if c = '\t' then ['\\', 't']
  else if c.toNat = 8 then ['\\', 'b']
  else if c.toNat = 12 then ['\\', 'f']
  else if c.toNat < 32 then unit c.toNat
  else if c.toNat < 127 || !isAscii then [c]
  else if c.toNat < 65536 then unit c.toNat
  else
    let n := c.toNat - 65536
    unit (0xD800 + n / 1024) ++ unit (0xDC00 + n % 1024)

def quotedText (isAscii : Bool) (s : String) : String :=
  "\"" ++ String.ofList (s.toList.flatMap (quotedChar isAscii)) ++ "\""

def floatText (x : Float) : String :=
  if x.isNaN then "NaN"
  else if Numbers.isFinite x then Numbers.floatText x
  else if 0.0 < x then "Infinity" else "-Infinity"

def keyText (v : Value) : Eval String := do
  match ← core v with
  | .text s => return s
  | .int n => return toString n
  | .float x => return floatText x
  | .bool b => return if b then "true" else "false"
  | .nothing => return "null"
  | _ => typeError ("keys must be str, int, float, bool or None, not " ++ (← kindName v))

def bracketed (s : Settings) (level : Nat) (opening closing : String) (parts : List String) : String :=
  match parts, s.indent with
  | [], _ => opening ++ closing
  | parts, none => opening ++ String.intercalate s.itemMark parts ++ closing
  | parts, some indent =>
    let line (n : Nat) : String := "\n" ++ String.join (List.replicate n indent)
    opening ++ line (level + 1) ++ String.intercalate (s.itemMark ++ line (level + 1)) parts ++ line level ++ closing

def written (r : Running) (s : Settings) : Nat → Nat → Value → Eval String
  | 0, _, _ => fail "RecursionError" "maximum recursion depth exceeded"
  | n + 1, level, v => do
    match ← core v with
    | .nothing => return "null"
    | .bool b => return if b then "true" else "false"
    | .int k => return toString k
    | .float x => return floatText x
    | .text t => return quotedText s.isAscii t
    | .list _ | .tuple _ =>
      let vs := (← Operations.heldItems? (← core v)).getD []
      return bracketed s level "[" "]" (← vs.mapM (written r s n (level + 1)))
    | .dict id =>
      let pairs ← (← dictAt id).all.mapM fun (k, v) => do return (← keyText k, v)
      let pairs := if s.isSorted then pairs.mergeSort fun a b => (Operations.textOrder a.1 b.1).isLE else pairs
      return bracketed s level "\x7b" "\x7d" (← pairs.mapM fun (k, v) => do
        return quotedText s.isAscii k ++ s.keyMark ++ (← written r s n (level + 1) v))
    | _ =>
      match s.other with
      | some f => written r s n level (← r.call f [v] [])
      | none => typeError ("Object of type " ++ lastName (← kindName v) ++ " is not JSON serializable")

def maxDepth : Nat := 990

def settingsOf (r : Running) (named : List (String × Value)) : Eval Settings := do
  let isTrue (name : String) (missing : Bool) : Eval Bool :=
    ((named.lookup name).map r.truth).getD (pure missing)
  let indent : Option String := match named.lookup "indent" with
    | some (.text s) => some s
    | some v => v.whole?.map fun n => String.ofList (List.replicate n.toNat ' ')
    | none => none
  let (itemMark, keyMark) ← match named.lookup "separators" with
    | none | some .nothing => pure (if indent.isSome then "," else ", ", ": ")
    | some v => do
      match ← r.items v with
      | [.text a, .text b] => pure (a, b)
      | _ => pure (", ", ": ")
  let other := match named.lookup "default" with
    | some .nothing => none
    | f => f
  return { indent, itemMark, keyMark, other, isSorted := ← isTrue "sort_keys" false, isAscii := ← isTrue "ensure_ascii" true }

def refuse (whole rest : List Char) (message : String) : Eval α := do
  let place := whole.length - rest.length
  let before := whole.take place
  let line := before.count '\n' + 1
  let column := (before.reverse.takeWhile (· != '\n')).length + 1
  fail "json.decoder.JSONDecodeError" (message ++ ": line " ++ toString line ++ " column " ++ toString column ++
    " (char " ++ toString place ++ ")")

def isBlank (c : Char) : Bool := c = ' ' || c = '\t' || c = '\n' || c = '\r'

def unit? (cs : List Char) : Option Nat :=
  let ds := cs.take 4
  if ds.length = 4 && ds.all Arithmetic.isHexDigit then some (Arithmetic.magnitude 16 ds) else none

def text (whole start : List Char) : Nat → List Char → List Char → Eval (String × List Char)
  | 0, _, _ => refuse whole start "Unterminated string starting at"
  | n + 1, read, cs => do
    match cs with
    | [] => refuse whole start "Unterminated string starting at"
    | '"' :: rest => return (String.ofList read.reverse, rest)
    | '\\' :: 'u' :: rest =>
      match unit? rest with
      | none => refuse whole rest "Invalid \\uXXXX escape"
      | some high =>
        let rest := rest.drop 4
        match rest with
        | '\\' :: 'u' :: more =>
          match unit? more with
          | some low =>
            if 0xD800 ≤ high && high < 0xDC00 && 0xDC00 ≤ low && low < 0xE000 then
              text whole start n (Char.ofNat (65536 + (high - 0xD800) * 1024 + (low - 0xDC00)) :: read) (more.drop 4)
            else text whole start n (Char.ofNat high :: read) rest
          | none => text whole start n (Char.ofNat high :: read) rest
        | _ => text whole start n (Char.ofNat high :: read) rest
    | '\\' :: c :: rest =>
      if "\"\\/".toList.contains c then text whole start n (c :: read) rest
      else match [('b', '\x08'), ('f', '\x0c'), ('n', '\n'), ('r', '\r'), ('t', '\t')].lookup c with
      | some d => text whole start n (d :: read) rest
      | none => refuse whole cs "Invalid \\escape"
    | ['\\'] => refuse whole start "Unterminated string starting at"
    | c :: rest =>
      if c.toNat < 32 then refuse whole cs "Invalid control character at"
      else text whole start n (c :: read) rest

def number? (cs : List Char) : Option (Value × List Char) :=
  let sign := cs.takeWhile (· == '-') |>.take 1
  let rest := cs.drop sign.length
  let whole := match rest with
    | '0' :: _ => ['0']
    | rest => rest.takeWhile Char.isDigit
  if whole.isEmpty then none else
  let rest := rest.drop whole.length
  let point := match rest with
    | '.' :: more =>
      let ds := more.takeWhile Char.isDigit
      if ds.isEmpty then [] else '.' :: ds
    | _ => []
  let rest := rest.drop point.length
  let power := match rest with
    | e :: more =>
      if e = 'e' || e = 'E' then
        let sign := (more.take 1).filter fun c => c = '+' || c = '-'
        let ds := (more.drop sign.length).takeWhile Char.isDigit
        if ds.isEmpty then [] else e :: sign ++ ds
      else []
    | [] => []
  let rest := rest.drop power.length
  let body := sign ++ whole ++ point ++ power
  if point.isEmpty && power.isEmpty then
    let n : Int := Arithmetic.magnitude 10 whole
    some (.int (if sign.isEmpty then n else -n), rest)
  else (Numbers.readFloat (String.ofList body)).map fun x => (.float x, rest)

def words : List (String × Value) := [
  ("null", .nothing), ("true", .bool true), ("false", .bool false), ("NaN", .float (0.0 / 0.0)),
  ("Infinity", .float (1.0 / 0.0)), ("-Infinity", .float (-1.0 / 0.0))]

structure Hooks where
  running : Running
  named : List (String × Value)

def Hooks.use (h : Hooks) (name : String) (arg : Value) (missing : Eval Value) : Eval Value := do
  match h.named.lookup name with
  | none | some .nothing => missing
  | some f => h.running.call f [arg] []

def Hooks.dict (h : Hooks) (entries : List (String × Value)) : Eval Value := do
  let plain : Eval Value := do
    let d ← newNames entries
    h.use "object_hook" d (pure d)
  match h.named.lookup "object_pairs_hook" with
  | none | some .nothing => plain
  | some f => do
    h.running.call f [← newList (entries.map fun (s, v) => .tuple [.text s, v])] []

mutual

def value (h : Hooks) (whole : List Char) : Nat → List Char → Eval (Value × List Char)
  | 0, _ => fail "RecursionError" "maximum recursion depth exceeded"
  | n + 1, cs => do
    match cs with
    | '"' :: rest =>
      let (s, rest) ← text whole cs (rest.length + 1) [] rest
      return (.text s, rest)
    | '[' :: rest =>
      let rest := rest.dropWhile isBlank
      match rest with
      | ']' :: rest => return (← newList [], rest)
      | rest =>
        let (vs, rest) ← items h whole n rest
        return (← newList vs, rest)
    | '\x7b' :: rest =>
      let rest := rest.dropWhile isBlank
      match rest with
      | '\x7d' :: rest => return (← h.dict [], rest)
      | rest =>
        let (entries, rest) ← entries h whole n rest
        return (← h.dict entries, rest)
    | cs =>
      match words.find? fun (w, _) => w.toList.isPrefixOf cs with
      | some (w, v) => return (v, cs.drop w.length)
      | none =>
        match number? cs with
        | some (v, rest) =>
          let source := String.ofList (cs.take (cs.length - rest.length))
          let hook := match v with
            | .float _ => "parse_float"
            | _ => "parse_int"
          return (← h.use hook (.text source) (pure v), rest)
        | none => refuse whole cs "Expecting value"

def items (h : Hooks) (whole : List Char) : Nat → List Char → Eval (List Value × List Char)
  | 0, _ => fail "RecursionError" "maximum recursion depth exceeded"
  | n + 1, cs => do
    let (v, rest) ← value h whole n cs
    match rest.dropWhile isBlank with
    | ']' :: rest => return ([v], rest)
    | ',' :: rest =>
      let (vs, rest) ← items h whole n (rest.dropWhile isBlank)
      return (v :: vs, rest)
    | rest => refuse whole rest "Expecting ',' delimiter"

def entries (h : Hooks) (whole : List Char) : Nat → List Char → Eval (List (String × Value) × List Char)
  | 0, _ => fail "RecursionError" "maximum recursion depth exceeded"
  | n + 1, cs => do
    match cs with
    | '"' :: rest =>
      let (k, rest) ← text whole cs (rest.length + 1) [] rest
      match rest.dropWhile isBlank with
      | ':' :: rest =>
        let (v, rest) ← value h whole n (rest.dropWhile isBlank)
        match rest.dropWhile isBlank with
        | '\x7d' :: rest => return ([(k, v)], rest)
        | ',' :: rest =>
          let (more, rest) ← entries h whole n (rest.dropWhile isBlank)
          return ((k, v) :: more, rest)
        | rest => refuse whole rest "Expecting ',' delimiter"
      | rest => refuse whole rest "Expecting ':' delimiter"
    | rest => refuse whole rest "Expecting property name enclosed in double quotes"

end

def read (h : Hooks) (s : String) : Eval Value := do
  let whole := s.toList
  let (v, rest) ← value h whole (whole.length + 2) (whole.dropWhile isBlank)
  match rest.dropWhile isBlank with
  | [] => return v
  | rest => refuse whole rest "Extra data"

def function (r : Running) (name : String) (args : List Value) (named : List (String × Value)) : Eval Value := do
  let arg (i : Nat) : Value := (args[i]?).getD .nothing
  let contents (v : Value) : Eval Value := do
    match v with
    | .text s | .bytes s => return .text s
    | v => typeError ("the JSON object must be str, bytes or bytearray, not " ++ (← kindName v))
  match name with
  | "dumps" => return .text (← written r (← settingsOf r named) maxDepth 0 (arg 0))
  | "dump" =>
    let s ← written r (← settingsOf r named) maxDepth 0 (arg 0)
    r.call (← r.member (arg 1) "write") [.text s] []
  | _ =>
    let source ← if name == "load" then r.call (← r.member (arg 0) "read") [] [] else pure (arg 0)
    match ← contents source with
    | .text s => read ⟨r, named⟩ s
    | _ => return .nothing

end PartitionTest.Shell.Objects.JsonText
