import PartitionTest.Shell.Utility.Lines

/-! Showing the bytes of files as numbers or characters. -/
namespace PartitionTest.Shell.Utility.Dump

open Machine Quotation

inductive Notation where
  /-- Names for what does not print; the highest bit does not count. -/
  | named
  | char
  | signed
  | unsigned
  | octal
  | hex
deriving DecidableEq, Repr, Inhabited

structure Form where
  style : Notation
  /-- How many bytes a field has. -/
  size : Nat
  /-- Whether the characters follow at the end of the line. -/
  trailer : Bool := false
deriving DecidableEq, Repr, Inhabited

def Form.width (f : Form) : Nat :=
  match f.style with
  | .named | .char => 3
  | .hex => 2 * f.size
  | .octal => (8 * f.size + 2) / 3
  | .unsigned => (toString (Nat.pow 256 f.size - 1)).length
  | .signed => (toString (Nat.pow 256 f.size / 2)).length + 1

def names : List String := [
  "nul", "soh", "stx", "etx", "eot", "enq", "ack", "bel", "bs", "ht", "nl", "vt", "ff", "cr",
  "so", "si", "dle", "dc1", "dc2", "dc3", "dc4", "nak", "syn", "etb", "can", "em", "sub", "esc",
  "fs", "gs", "rs", "us", "sp"]

def digits (base width n : Nat) : String :=
  let cs := Nat.toDigits base n
  String.ofList (List.replicate (width - cs.length) '0' ++ cs)

def isShown (n : Nat) : Bool := 32 ≤ n && n < 127

def charText (n : Nat) : String :=
  match n with
  | 0 => "\\0"
  | 7 => "\\a"
  | 8 => "\\b"
  | 9 => "\\t"
  | 10 => "\\n"
  | 11 => "\\v"
  | 12 => "\\f"
  | 13 => "\\r"
  | _ => if isShown n then String.singleton (Char.ofNat n) else digits 8 3 n

def Form.text (f : Form) (bytes : List Nat) : String :=
  let n := bytes.foldr (fun b n => n * 256 + b) 0
  match f.style with
  | .named =>
    let n := n % 128
    if n = 127 then "del" else (names[n]?).getD (String.singleton (Char.ofNat n))
  | .char => charText n
  | .hex => digits 16 f.width n
  | .octal => digits 8 f.width n
  | .unsigned => toString n
  | .signed =>
    let top := Nat.pow 256 f.size
    if top ≤ 2 * n then toString ((n : Int) - top) else toString n

/-- Some fields out of a number that would fill a line. What is left of the
width of the line is spread over all of them. -/
def fields (f : Form) (pad : Nat) (count : Nat) : List (List Nat) → Nat → Nat → String
  | [], _, _ => ""
  | bytes :: rest, left, index =>
    let next := pad * (index - 1) / count
    padLeft (left - next + f.width) (f.text bytes) ++ fields f pad count rest next (index - 1)

def groups (size : Nat) : Nat → List Nat → List (List Nat)
  | 0, _ | _, [] => []
  | n + 1, bytes =>
    (bytes.take size ++ List.replicate (size - (bytes.take size).length) 0) ::
      groups size n (bytes.drop size)

def lineOf (f : Form) (perLine widest : Nat) (bytes : List Nat) : String :=
  let count := perLine / f.size
  let pad := widest - f.width * count
  let missing := (perLine - bytes.length) / f.size
  let shown := fields f pad count ((groups f.size bytes.length bytes).take (count - missing)) pad count
  let tail := if f.trailer then
      String.ofList (List.replicate (missing * f.width + pad * missing / count) ' ') ++ "  >" ++
        String.ofList (bytes.map fun n => if isShown n then Char.ofNat n else '.') ++ "<"
    else ""
  shown ++ tail

structure Layout where
  /-- The base of positions, unless they are left out. -/
  radix : Option Nat := some 8
  forms : List Form
  perLine : Nat
  /-- Whether lines that are equal to the one before are shown. -/
  all : Bool := false
  /-- A length of lines that is asked for and cannot be. -/
  misfit : Option Nat := none

def Layout.position (l : Layout) (n : Nat) : String :=
  match l.radix with
  | none => ""
  | some base => digits base (if base = 16 then 6 else 7) n

def Layout.lines (l : Layout) : Nat → Nat → Option (List Nat × Bool) → List Nat → List String
  | 0, _, _, _ => []
  | _, start, _, [] => if l.radix.isNone then [] else [l.position start]
  | n + 1, start, before, bytes =>
    let line := bytes.take l.perLine
    let rest := bytes.drop l.perLine
    let next := start + line.length
    match before with
    | some (previous, starred) =>
      if !l.all && line == previous && line.length = l.perLine then
        (if starred then [] else ["*"]) ++ l.lines n next (some (line, true)) rest
      else shown line next n rest
    | none => shown line next n rest
where
  shown (line : List Nat) (next n : Nat) (rest : List Nat) : List String :=
    let widest := (l.forms.map fun f => (f.width + 1) * (l.perLine / f.size)).foldl Nat.max 0
    let lead := l.position (next - line.length)
    let blank := String.ofList (List.replicate lead.length ' ')
    (l.forms.mapIdx fun i f =>
      (if i = 0 then lead else blank) ++ lineOf f l.perLine widest line) ++
        l.lines n next (some (line, false)) rest

def size (style : Notation) (standard : Nat) (all : String) (cs : List Char) :
    Except String (Form × List Char) :=
  let letter? : Char → Option Nat
    | 'C' => some 1
    | 'S' => some 2
    | 'I' => some 4
    | 'L' => some 8
    | _ => none
  let digits := cs.takeWhile Char.isDigit
  match (cs.head?).bind letter? with
  | some n => .ok (⟨style, n, false⟩, cs.drop 1)
  | none =>
    if digits.isEmpty then .ok (⟨style, standard, false⟩, cs)
    else
      let n := Format.naturalOf digits
      if [1, 2, 4, 8].contains n then .ok (⟨style, n, false⟩, cs.drop digits.length)
      else .error ("invalid type string " ++ quoted all ++ ";\nthis system doesn't provide a " ++
        toString n ++ "-byte integral type")

def forms (all : String) : Nat → List Char → Except String (List Form)
  | 0, _ | _, [] => .ok []
  | n + 1, c :: cs => do
    let (f, rest) ← match c with
      | 'a' => .ok (⟨.named, 1, false⟩, cs)
      | 'c' => .ok (⟨.char, 1, false⟩, cs)
      | 'd' => size .signed 4 all cs
      | 'u' => size .unsigned 4 all cs
      | 'o' => size .octal 4 all cs
      | 'x' => size .hex 4 all cs
      | _ => .error ("invalid character '" ++ String.singleton c ++ "' in type string " ++ quoted all)
    match rest with
    | 'z' :: rest => return { f with trailer := true } :: (← forms all n rest)
    | rest => return f :: (← forms all n rest)

def letterForm? : Char → Option Form
  | 'a' => some ⟨.named, 1, false⟩
  | 'b' => some ⟨.octal, 1, false⟩
  | 'c' => some ⟨.char, 1, false⟩
  | 'd' => some ⟨.unsigned, 2, false⟩
  | 'i' => some ⟨.signed, 4, false⟩
  | 'l' => some ⟨.signed, 8, false⟩
  | 'o' => some ⟨.octal, 2, false⟩
  | 's' => some ⟨.signed, 2, false⟩
  | 'x' => some ⟨.hex, 2, false⟩
  | _ => none

def usage : Usage :=
  { flags := "abcdilosvx", valued := "AjNtwS", long := [("address-radix", 'A'), ("format", 't'),
    ("output-duplicates", 'v'), ("read-bytes", 'N'), ("skip-bytes", 'j'), ("width", 'w')] }

def count? (text : String) : Option Nat :=
  match Arithmetic.numeral text.toList with
  | ([], _, _) => none
  | (ds, base, rest) => (unit? rest).map (Arithmetic.magnitude base ds * ·)

def layout (o : Options) : Except String Layout := do
  let radix ← match o.value? 'A' with
    | none | some "o" => .ok (some 8)
    | some "d" => .ok (some 10)
    | some "x" => .ok (some 16)
    | some "n" => .ok none
    | some text => .error ("invalid output address radix '" ++ text ++
        "'; it must be one character from [doxn]")
  let given ← o.given.flatMapM fun (letter, value) =>
    if letter = 't' then forms value (value.length + 1) value.toList
    else .ok (letterForm? letter).toList
  let forms := if given.isEmpty then [⟨.octal, 2, false⟩] else given
  let largest := (forms.map Form.size).foldl Nat.max 1
  let perLine ← match o.value? 'w' with
    | none => .ok 16
    | some text => match count? text with
      | some n => .ok n
      | none => .error ("invalid -w argument " ++ quoted text)
  let fits := perLine != 0 && perLine % largest = 0
  return { radix := radix, forms := forms, perLine := if fits then perLine else largest
           all := o.has 'v', misfit := if fits then none else some perLine }

def countOf (o : Options) (letter : Char) : Except String (Option Nat) :=
  match o.value? letter with
  | none => .ok none
  | some text => match count? text with
    | some n => .ok (some n)
    | none => .error ("invalid -" ++ String.singleton letter ++ " argument " ++ quoted text)

def od : Program := fun name args =>
  withOptions usage 1 (fun name o => do
    let asked : Except String (Layout × Nat × Option Nat) := do
      return (← layout o, ((← countOf o 'j').getD 0), ← countOf o 'N')
    match asked with
    | .error reason => fail name reason 1
    | .ok (l, skipped, most) =>
      let paths := if o.operands.isEmpty then ["-"] else o.operands
      let (texts, status) ← paths.foldlM (fun (state : List (List Char) × Nat) path => do
        match ← contents path with
        | .ok cs => return (cs :: state.1, state.2)
        | .error e => return (state.1, ← fail name (plainComplaint path e) 1)) ([], 0)
      if texts.isEmpty then return status
      let cs := texts.reverse.flatten
      if cs.length < skipped then fail name "cannot skip past end of combined input" 1
      else
        let cs := cs.drop skipped
        if let some n := l.misfit then
          say name ("warning: invalid width " ++ toString n ++ "; using " ++ toString l.perLine ++ " instead")
        let bytes := (match most with
          | some n => cs.take n
          | none => cs).map Char.toNat
        put name (String.join ((l.lines (bytes.length + 1) skipped none bytes).map (· ++ "\n")))
        return status) name (args.map fun arg => if arg == "-w" then "-w32" else arg)

end PartitionTest.Shell.Utility.Dump
