import PartitionTest.Shell.Utility.Sorting

/-! Programs that compare files. -/
namespace PartitionTest.Shell.Utility.Comparison

open Machine Quotation

/-- Two files, or one and the standard input; paths are told as given. -/
def both (name : String) (status : Nat) (given : String → String) (first second : String) :
    Run (Except Nat (List Char × List Char)) := do
  match ← contents first with
  | .error e => return .error (← fail name (given first ++ ": " ++ e.reason) status)
  | .ok a =>
    match ← if second == first then pure (.ok a) else contents second with
    | .error e => return .error (← fail name (given second ++ ": " ++ e.reason) status)
    | .ok b => return .ok (a, b)

/-- A message about a wrong use, all of it under the name of the program. -/
def misusedHere (name reason : String) : Run Nat := do
  say name reason
  fail name ("Try '" ++ name ++ " --help' for more information.") 2

def withOptionsHere (u : Usage) (run : String → Options → Run Nat) : Program := fun name args =>
  match u.read (args.length + 1) args with
  | .ok o => run name o
  | .error reason => misusedHere name reason

def sharedLength : List Char → List Char → Nat
  | a :: as, b :: bs => if a = b then sharedLength as bs + 1 else 0
  | _, _ => 0

def octal (c : Char) : String := padLeft 3 (String.ofList (Nat.toDigits 8 c.toNat))

def differences (shown : Bool) (width : Nat) : Nat → List Char → List Char → List String
  | n, a :: as, b :: bs =>
    let rest := differences shown width (n + 1) as bs
    if a = b then rest
    else
      let first := octal a ++ (if shown then " " ++ padRight 4 (String.ofList (visible a)) else "")
      let second := octal b ++ (if shown then " " ++ String.ofList (visible b) else "")
      (padLeft width (toString n) ++ " " ++ first ++ " " ++ second ++ "\n") :: rest
  | _, _, _ => []
where
  padRight (width : Nat) (s : String) : String :=
    s ++ String.ofList (List.replicate (width - s.length) ' ')

def skips? (text : String) : Option (Nat × Nat) :=
  match (Text.split (· == ':') text.toList).map String.ofList with
  | [a] => (a.toNat?).map fun n => (n, n)
  | [a, b] => do return (← a.toNat?, ← b.toNat?)
  | _ => none

def regularSize? (path : String) (skipped : Nat) : Run (Option Nat) := do
  match ← entry path with
  | .ok (.file bytes _) => return some (bytes.size - skipped)
  | _ => return none

def cmp : Program :=
  withOptionsHere { flags := "bls", valued := "in", long := [("print-bytes", 'b'), ("verbose", 'l'),
    ("silent", 's'), ("quiet", 's'), ("ignore-initial", 'i'), ("bytes", 'n')] } fun name o => do
    match o.operands with
    | [] => misusedHere name ("missing operand after '" ++ name ++ "'")
    | first :: rest =>
      let second := rest.headD "-"
      let given := match rest.drop 1 with
        | [] => skips? ((o.value? 'i').getD "0")
        | [a] => (a.toNat?).map fun n => (n, 0)
        | a :: b :: _ => do return (← a.toNat?, ← b.toNat?)
      match given with
      | none => misusedHere name ("invalid --ignore-initial value '" ++
          ((rest.drop 1).headD ((o.value? 'i').getD "")) ++ "'")
      | some (skipA, skipB) =>
        match ← both name 2 id first second with
        | .error status => return status
        | .ok (a, b) =>
          let most := ((o.value? 'n').bind count?).getD (a.length + b.length)
          let a := (a.drop skipA).take most
          let b := (b.drop skipB).take most
          let shared := sharedLength a b
          if a == b then return 0
          else if o.has 's' then return 1
          else
            let newlines := (a.take shared).count '\n'
            let ended : Run Unit := do
              let (path, cs) := if a.length < b.length then (first, a) else (second, b)
              if cs.isEmpty then say name ("EOF on " ++ path ++ " which is empty")
              else
                let lines := cs.count '\n'
                say name ("EOF on " ++ path ++ " after byte " ++ toString cs.length ++
                  (if o.has 'l' then ""
                    else if cs.getLast? == some '\n' then ", line " ++ toString lines
                    else ", in line " ++ toString (lines + 1)))
            if o.has 'l' then
              let sizes := [← regularSize? first skipA, ← regularSize? second skipB].filterMap (fun x => x)
              let most := ((o.value? 'n').bind count?).getD Int64.maxValue.toInt.toNat
              let width := (toString (sizes.foldl Nat.min most)).length
              put name (String.join (differences (o.has 'b') width 1 a b))
              if a.length != b.length then ended
            else
              match a[shared]?, b[shared]? with
              | some c, some d =>
                put name (first ++ " " ++ second ++ " differ: " ++ (if o.has 'b' then "byte " else "char ") ++
                  toString (shared + 1) ++ ", line " ++ toString (newlines + 1) ++
                  (if o.has 'b' then " is " ++ octal c ++ " " ++ String.ofList (visible c) ++ " " ++
                    octal d ++ " " ++ String.ofList (visible d) else "") ++ "\n")
              | _, _ => ended
            return 1
where
  count? (text : String) : Option Nat := text.toNat?

inductive Side where
  | first
  | second
  | both
deriving DecidableEq, Repr

structure Reader where
  /-- The line before the ones that are left. -/
  before : Option (List Char) := none
  left : List (List Char)

/-- Two lines that have become known to follow each other when the reading goes
on; at the end these are the last two. -/
def Reader.neighbours (r : Reader) : Option (List Char × List Char) :=
  match r.left, r.before with
  | line :: next :: _, _ => some (line, next)
  | [line], some before => some (before, line)
  | _, _ => none

def Reader.next (r : Reader) : Reader := ⟨r.left.head?, r.left.tail⟩

def Reader.isWrong (r : Reader) : Bool :=
  r.neighbours.any fun (a, b) => Sorting.compareTexts a b == .gt

/-- Sorted lines side by side, and the numbers of files that turn out not to be
sorted. That is looked at with `strict`, or once a line has had no partner. -/
def merged (strict : Bool) : Nat → Bool → List Nat → Reader → Reader → List (Side × List Char) × List Nat
  | 0, _, wrong, _, _ => ([], wrong)
  | n + 1, seen, wrong, as, bs =>
    let step (side : Side) (line : List Char) :=
      let seen := seen || side != .both
      let moves (file : Nat) := side = .both || side = (if file = 1 then .first else .second)
      let found := [(1, as), (2, bs)].filterMap fun (file, r) =>
        if moves file && (seen || strict) && !wrong.contains file && r.isWrong then some file else none
      let wrong := wrong ++ (if strict then found.take 1 else found)
      if strict && !wrong.isEmpty then ([(side, line)], wrong)
      else
        let (rest, wrong) := merged strict n seen wrong (if moves 1 then as.next else as)
          (if moves 2 then bs.next else bs)
        ((side, line) :: rest, wrong)
    match as.left, bs.left with
    | [], [] => ([], wrong)
    | [], b :: _ => step .second b
    | a :: _, [] => step .first a
    | a :: _, b :: _ =>
      match Sorting.compareTexts a b with
      | .eq => step .both a
      | .lt => step .first a
      | .gt => step .second b

def comm : Program :=
  withOptions { flags := "123z", valued := "ω", long := [("output-delimiter", 'ω'), ("total", 'τ'),
    ("check-order", 'ξ'), ("nocheck-order", 'ν')] } 1 fun name o => do
    match o.operands with
    | [] => misused name "missing operand" 1
    | [a] => misused name ("missing operand after " ++ quoted a) 1
    | _ :: _ :: extra :: _ => misused name ("extra operand " ++ quoted extra) 1
    | [first, second] =>
      match ← both name 1 inMessage first second with
      | .error status => return status
      | .ok (a, b) =>
        let as := (linesOf a).1
        let bs := (linesOf b).1
        let tab := (o.value? 'ω').getD "\t"
        let (all, wrong) := merged (o.has 'ξ') (as.length + bs.length + 1) false
          (if o.has 'ν' then [1, 2] else []) ⟨none, as⟩ ⟨none, bs⟩
        let lead : Side → Option String
          | .first => if o.has '1' then none else some ""
          | .second => if o.has '2' then none else some (if o.has '1' then "" else tab)
          | .both => if o.has '3' then none else
              some ((if o.has '1' then "" else tab) ++ (if o.has '2' then "" else tab))
        put name (String.join (all.filterMap fun (side, line) =>
          (lead side).map fun s => s ++ String.ofList line ++ "\n"))
        let wrong := if o.has 'ν' then [] else wrong
        wrong.forM fun file => say name ("file " ++ toString file ++ " is not in sorted order")
        if o.has 'ξ' && !wrong.isEmpty then return 1
        if o.has 'τ' then
          let count (side : Side) := toString (all.countP fun l => l.1 = side)
          put name (count .first ++ tab ++ count .second ++ tab ++ count .both ++ tab ++ "total\n")
        if wrong.isEmpty then return 0 else fail name "input is not in sorted order" 1

def fieldsOf (separator : Option Char) (line : List Char) : List (List Char) :=
  match separator with
  | some c => Text.split (· == c) line
  | none => (Text.split (fun c => c = ' ' || c = '\t') line).filter (!·.isEmpty)

/-- Where a field of a joined line comes from: the key, or a field of a file. -/
def formatOf? (text : String) : Option (Option (Nat × Nat)) :=
  if text == "0" then some none
  else match text.toList with
  | f :: '.' :: digits =>
    if f = '1' || f = '2' then
      ((String.ofList digits).toNat?).map fun n => some (f.toNat - '0'.toNat, n - 1)
    else none
  | _ => none

structure Joining where
  separator : Option Char
  keyA : Nat
  keyB : Nat
  empty : String
  format : Option (List (Option (Nat × Nat)))
  folded : Bool

namespace Joining

def key (j : Joining) (n : Nat) (fields : List (List Char)) : List Char :=
  let k := fields[n]?.getD []
  if j.folded then k.map Char.toLower else k

def line (j : Joining) (a b : Option (List (List Char))) : String :=
  let glue := String.singleton (j.separator.getD ' ')
  let shownKey := match a, b with
    | some fields, _ => fields[j.keyA]?.getD []
    | none, some fields => fields[j.keyB]?.getD []
    | none, none => []
  let shown (fields : Option (List (List Char))) (n : Nat) : String :=
    match fields.bind fun fs => fs[n]? with
    | some f => if f.isEmpty then j.empty else String.ofList f
    | none => j.empty
  let words := match j.format with
    | some places => places.map fun
      | none => String.ofList shownKey
      | some (1, n) => shown a n
      | some (_, n) => shown b n
    | none =>
      let others (n : Nat) (fields : Option (List (List Char))) : List String :=
        ((fields.getD []).eraseIdx n).map String.ofList
      String.ofList shownKey :: others j.keyA a ++ others j.keyB b
  String.intercalate glue words ++ "\n"

structure Order where
  /-- Whether a line has had no partner; only then the order counts. -/
  seen : Bool := false
  /-- The first line of a file that stands in the wrong place, by file and number. -/
  wrong : List (Nat × Nat) := []

def read (j : Joining) (file : Nat) (lines : Array (List (List Char))) (first stop : Nat) (o : Order) : Order :=
  (List.range' first (stop - first)).foldl (fun o i =>
    let keyAt (i : Nat) := j.key (if file = 1 then j.keyA else j.keyB) (lines[i]?.getD [])
    if 0 < i && i < lines.size && o.seen && !(o.wrong.any fun w => w.1 = file) &&
      Sorting.compareTexts (keyAt (i - 1)) (keyAt i) == .gt then { o with wrong := o.wrong ++ [(file, i)] }
    else o) o

/-- Lines with the same key from both files in all pairs, and those without a
partner where they are asked for. -/
def run (j : Joining) (onlyPairs : Bool) (alone : List Nat) (as bs : Array (List (List Char))) :
    Nat → Nat → Nat → Order → List String × Order
  | 0, _, _, o => ([], o)
  | n + 1, i, k, o =>
    match as[i]?, bs[k]? with
    | none, none => ([], o)
    | none, some _ =>
      (if alone.contains 2 then ((bs.toList.drop k).map fun b => j.line none (some b)) else [],
        j.read 2 bs (k + 1) bs.size o)
    | some _, none =>
      (if alone.contains 1 then ((as.toList.drop i).map fun a => j.line (some a) none) else [],
        j.read 1 as (i + 1) as.size o)
    | some a, some b =>
      let ka := j.key j.keyA a
      let kb := j.key j.keyB b
      match Sorting.compareTexts ka kb with
      | .lt =>
        let (rest, o) := j.run onlyPairs alone as bs n (i + 1) k
          { j.read 1 as (i + 1) (i + 2) o with seen := true }
        ((if alone.contains 1 then [j.line (some a) none] else []) ++ rest, o)
      | .gt =>
        let (rest, o) := j.run onlyPairs alone as bs n i (k + 1)
          { j.read 2 bs (k + 1) (k + 2) o with seen := true }
        ((if alone.contains 2 then [j.line none (some b)] else []) ++ rest, o)
      | .eq =>
        let sameA := (as.toList.drop i).takeWhile fun l => j.key j.keyA l == ka
        let sameB := (bs.toList.drop k).takeWhile fun l => j.key j.keyB l == kb
        let o := j.read 2 bs (k + 1) (k + sameB.length + 1)
          (j.read 1 as (i + 1) (i + sameA.length + 1) o)
        let pairs := sameA.flatMap fun x => sameB.map fun y => j.line (some x) (some y)
        let (rest, o) := j.run onlyPairs alone as bs n (i + sameA.length) (k + sameB.length) o
        ((if onlyPairs then pairs else []) ++ rest, o)

end Joining

def join : Program :=
  withOptions { flags := "iz", valued := "12jtaveo", long := [("ignore-case", 'i'),
    ("nocheck-order", 'ν'), ("check-order", 'ξ')] } 1 fun name o => do
    match o.operands with
    | [] => misused name "missing operand" 1
    | [a] => misused name ("missing operand after " ++ quoted a) 1
    | _ :: _ :: extra :: _ => misused name ("extra operand " ++ quoted extra) 1
    | [first, second] =>
      match ← both name 1 inMessage first second with
      | .error status => return status
      | .ok (a, b) =>
        let number (letter : Char) : Nat :=
          ((((o.value? letter).orElse fun _ => o.value? 'j').bind String.toNat?).getD 1) - 1
        let separator := (o.value? 't').bind fun s => s.toList.head?
        let format := (o.values 'o').flatMap fun s =>
          ((Text.split (fun c => c = ',' || c = ' ') s.toList).filter (!·.isEmpty)).map String.ofList
        let j : Joining := {
          separator := separator, keyA := number '1', keyB := number '2'
          empty := (o.value? 'e').getD ""
          format := if format.isEmpty then none else some (format.filterMap formatOf?)
          folded := o.has 'i' }
        let alone := (o.values 'a' ++ o.values 'v').filterMap String.toNat?
        let as := (linesOf a).1.toArray
        let bs := (linesOf b).1.toArray
        let cut (lines : Array (List Char)) := lines.map (fieldsOf separator)
        let (lines, order) := j.run (!o.has 'v') alone (cut as) (cut bs) (as.size + bs.size + 1) 0 0 {}
        put name (String.join lines)
        let wrong := if o.has 'ν' then [] else order.wrong
        wrong.forM fun (file, i) =>
          let (path, line) := if file = 1 then (first, as[i]?) else (second, bs[i]?)
          say name (path ++ ":" ++ toString (i + 1) ++ ": is not sorted: " ++ String.ofList (line.getD []))
        if wrong.isEmpty then return 0 else fail name "input is not in sorted order" 1

end PartitionTest.Shell.Utility.Comparison
