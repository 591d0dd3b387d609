import PartitionTest.Shell.Utility.Lines

/-! Sorting of lines by keys. -/
namespace PartitionTest.Shell.Utility.Sorting

open Machine Quotation

structure Order where
  numeric : Bool := false
  folded : Bool := false
  reversed : Bool := false
  /-- Blanks at the front of a key do not count. -/
  blankless : Bool := false
  /-- Only blanks, letters and digits count. -/
  dictionary : Bool := false
deriving DecidableEq, Inhabited

structure Key where
  field : Nat
  char : Nat := 1
  last : Option (Nat × Nat) := none
  /-- Whether blanks at the front of the last field do not count. -/
  lastBlankless : Bool := false
  order : Order := {}
deriving Inhabited

/-- A decimal number at the front of a text: a whole number and how many of
its digits stand behind the point. -/
def numberOf (cs : List Char) : Int × Nat :=
  let cs := cs.dropWhile fun c => c = ' ' || c = '\t' || c = '\n'
  let (negative, cs) := match cs with
    | '-' :: cs => (true, cs)
    | _ => (false, cs)
  let whole := cs.takeWhile Char.isDigit
  let fraction := match cs.drop whole.length with
    | '.' :: rest => rest.takeWhile Char.isDigit
    | _ => []
  let n : Int := Format.naturalOf (whole ++ fraction)
  (if negative then -n else n, fraction.length)

def compareNumbers (a b : Int × Nat) : Ordering :=
  compare (a.1 * Nat.pow 10 b.2) (b.1 * Nat.pow 10 a.2)

def compareTexts : List Char → List Char → Ordering
  | [], [] => .eq
  | [], _ => .lt
  | _, [] => .gt
  | a :: as, b :: bs => if a = b then compareTexts as bs else compare a.toNat b.toNat

def compareKeys (o : Order) (a b : List Char) : Ordering :=
  let order :=
    if o.numeric then compareNumbers (numberOf a) (numberOf b)
    else
      let kept (cs : List Char) :=
        let cs := if o.blankless then cs.dropWhile isBlank else cs
        let cs := if o.dictionary then cs.filter fun c => c.isAlphanum || isBlank c else cs
        if o.folded then cs.map Char.toUpper else cs
      compareTexts (kept a) (kept b)
  if o.reversed then order.swap else order

def afterFields (separator : Option Char) (count : Nat) (line : List Char) : List Char :=
  (List.range count).foldl (fun cs _ =>
    match separator with
    | some c => (cs.dropWhile (· != c)).drop 1
    | none => (cs.dropWhile isBlank).dropWhile fun c => !isBlank c) line

def Key.text (k : Key) (separator : Option Char) (line : List Char) : List Char :=
  let blankless (yes : Bool) (cs : List Char) := if yes then cs.dropWhile isBlank else cs
  let start := (blankless k.order.blankless (afterFields separator (k.field - 1) line)).drop (k.char - 1)
  let left := match k.last with
    | none => 0
    | some (field, 0) =>
      let after := afterFields separator field line
      /- The separator after the last field is no part of it. -/
      if separator.isSome && (after.length != 0 || line.getLast? == separator) &&
          (line.filter fun c => some c == separator).length ≥ field then after.length + 1
      else after.length
    | some (field, char) =>
      (((blankless k.lastBlankless (afterFields separator (field - 1) line)).drop char)).length
  start.take (start.length - left)

def orderOf (letters : List Char) : Order where
  numeric := letters.contains 'n' || letters.contains 'g' || letters.contains 'h'
  folded := letters.contains 'f'
  reversed := letters.contains 'r'
  blankless := letters.contains 'b'
  dictionary := letters.contains 'd'

def position? (cs : List Char) : Option (Nat × Option Nat × List Char) :=
  let field := cs.takeWhile Char.isDigit
  if field.isEmpty then none
  else match cs.drop field.length with
  | '.' :: rest =>
    let char := rest.takeWhile Char.isDigit
    some (Format.naturalOf field, some (Format.naturalOf char), rest.drop char.length)
  | rest => some (Format.naturalOf field, none, rest)

/-- A key as it is written; one without letters takes the order of all. -/
def key? (general : Order) (text : String) : Option Key := do
  let (field, char, rest) ← position? text.toList
  let letters := rest.takeWhile (· != ',')
  let (last, more) ← match rest.drop letters.length with
    | ',' :: second => do
      let (field, char, more) ← position? second
      pure (some (field, char.getD 0), more)
    | _ => pure (none, [])
  let own := orderOf (letters ++ more)
  let order := if letters.isEmpty && more.isEmpty then general
    else { own with blankless := letters.contains 'b' }
  if field = 0 then none
  else some { field, char := char.getD 1, last, order
              lastBlankless := if letters.isEmpty && more.isEmpty then general.blankless
                else more.contains 'b' }

structure Plan where
  keys : List Key
  separator : Option Char
  general : Order
  /-- Whether equal keys leave lines in their order. -/
  stable : Bool

def Plan.byKeys (p : Plan) (a b : List Char) : Ordering :=
  if p.keys.isEmpty then compareKeys p.general a b
  else p.keys.foldl (fun order k =>
    order.then (compareKeys k.order (k.text p.separator a) (k.text p.separator b))) .eq

def Plan.order (p : Plan) (a b : List Char) : Ordering :=
  (p.byKeys a b).then
    (if p.stable then .eq
    else if p.general.reversed then (compareTexts a b).swap else compareTexts a b)

/-- The first line that stands before the one in front of it, with its number. -/
def disorder? (p : Plan) (unique : Bool) : Nat → List (List Char) → Option (Nat × List Char)
  | n, a :: b :: rest =>
    let order := p.order a b
    if order == .gt || (unique && p.byKeys a b == .eq) then some (n + 1, b)
    else disorder? p unique (n + 1) (b :: rest)
  | _, _ => none

def usage : Usage :=
  { flags := "bcCdfghinrsumMVRz", valued := "ktoST", long := [("numeric-sort", 'n'),
    ("reverse", 'r'), ("unique", 'u'), ("key", 'k'), ("field-separator", 't'), ("ignore-case", 'f'),
    ("ignore-leading-blanks", 'b'), ("stable", 's'), ("output", 'o'), ("check", 'c'),
    ("dictionary-order", 'd'), ("general-numeric-sort", 'g')] }

def deliverTo (name : String) (path : Option String) (text : String) : Run Nat := do
  match path with
  | none =>
    if let some e ← write 1 text then
      say name ("fflush failed: 'standard output': " ++ e.reason)
      fail name "write error" 2
    else return 0
  | some path =>
    let m ← get
    match m.files.write m.process.directory (toUtf8 path) ⟨(bytesOf text).toArray⟩ m.process.newMode with
    | .ok (.stored files) =>
      modify fun m => { m with files := files }
      return 0
    | .ok _ => return 0
    | .error e => fail name ("open failed: " ++ path ++ ": " ++ e.reason) 2

def sort : Program :=
  withOptions usage 2 fun name o => do
    let general := orderOf (o.given.map (·.1))
    match (o.values 'k').mapM (key? general) with
    | none =>
      let bad := ((o.values 'k').find? fun k => (key? general k).isNone).getD ""
      if (position? bad.toList).isSome then
        fail name ("field number is zero: invalid field specification " ++ quoted bad) 2
      else fail name ("invalid number at field start: invalid count at start of " ++ quoted bad) 2
    | some keys =>
      let p : Plan := { keys, general, stable := o.has 's' || o.has 'u'
                        separator := (o.value? 't').bind fun t => t.toList.head? }
      let paths := if o.operands.isEmpty then ["-"] else o.operands
      let texts ← paths.mapM fun path => do return (path, ← contents path)
      match texts.findSome? fun (path, text) => match text with
        | .error e => some (path, e)
        | .ok _ => none with
      | some (path, e) =>
        fail name ((if e = .isDirectory || path == "-" then "read failed: " else "cannot read: ") ++
          plainComplaint path e) 2
      | none =>
        let lines := texts.flatMap fun (_, text) => match text with
          | .ok cs => (linesOf cs).1
          | .error _ => []
        if o.has 'c' || o.has 'C' then
          match disorder? p (o.has 'u') 1 lines with
          | none => return 0
          | some (n, line) =>
            if o.has 'C' then return 1
            else fail name (paths.headD "-" ++ ":" ++ toString n ++ ": disorder: " ++ String.ofList line) 1
        else
          let sorted := lines.mergeSort fun a b => p.order a b != .gt
          let kept := if o.has 'u' then (groups (fun a b => p.byKeys a b == .eq) sorted).map (·.1)
            else sorted
          deliverTo name (o.value? 'o') (ofLines kept)

end PartitionTest.Shell.Utility.Sorting
