import PartitionTest.Shell.Utility.Comparison

/-! Differences between files, line by line. -/
namespace PartitionTest.Shell.Utility.Difference

open Machine Quotation

structure Pair where
  a : Array Nat
  b : Array Nat

structure Range where
  aStart : Nat
  aEnd : Nat
  bStart : Nat
  bEnd : Nat

def Pair.same (p : Pair) (x y : Nat) : Bool := p.a[x]? == p.b[y]?

def slide (p : Pair) (r : Range) : Nat → Nat → Nat → Nat
  | 0, x, _ => x
  | n + 1, x, y =>
    if x < r.aEnd && y < r.bEnd && p.same x y then slide p r n (x + 1) (y + 1) else x

def slideBack (p : Pair) (r : Range) : Nat → Nat → Nat → Nat
  | 0, x, _ => x
  | n + 1, x, y =>
    if r.aStart < x && r.bStart < y && p.same (x - 1) (y - 1) then slideBack p r n (x - 1) (y - 1)
    else x

/-- The state of both searches. Diagonals are numbered from `offset`. -/
structure Search where
  forward : Array Int
  backward : Array Int
  /-- The diagonals that are reached forwards and backwards. -/
  fMin : Int
  fMax : Int
  bMin : Int
  bMax : Int

def reached (front : Array Int) (offset d : Int) : Int := front[(d + offset).toNat]?.getD 0

def reach (front : Array Int) (offset d x : Int) : Array Int :=
  front.setIfInBounds (d + offset).toNat x

def downBy2 (high low : Int) : List Int :=
  (List.range ((high - low) / 2 + 1).toNat).map fun (i : Nat) => high - 2 * i

/-- One more step on each diagonal, up to the place where the searches meet. -/
def forwardSteps (p : Pair) (r : Range) (offset : Int) (odd : Bool) (bMin bMax : Int)
    (backward : Array Int) : List Int → Array Int → Array Int × Option (Nat × Nat)
  | [], front => (front, none)
  | d :: ds, front =>
    let low := reached front offset (d - 1)
    let high := reached front offset (d + 1)
    let x0 := if low < high then high else low + 1
    let x := slide p r (r.aEnd - x0.toNat + 1) x0.toNat (x0 - d).toNat
    let front := reach front offset d x
    if odd && bMin ≤ d && d ≤ bMax && reached backward offset d ≤ x then (front, some (x, (x - d).toNat))
    else forwardSteps p r offset odd bMin bMax backward ds front

def backwardSteps (p : Pair) (r : Range) (offset : Int) (odd : Bool) (fMin fMax : Int)
    (forward : Array Int) : List Int → Array Int → Array Int × Option (Nat × Nat)
  | [], front => (front, none)
  | d :: ds, front =>
    let low := reached front offset (d - 1)
    let high := reached front offset (d + 1)
    let x0 := if low < high then low else high - 1
    let x := slideBack p r (x0.toNat + 1) x0.toNat (x0 - d).toNat
    let front := reach front offset d x
    if !odd && fMin ≤ d && d ≤ fMax && x ≤ reached forward offset d then (front, some (x, (x - d).toNat))
    else backwardSteps p r offset odd fMin fMax forward ds front

def middle (p : Pair) (r : Range) (offset least most : Int) (odd : Bool) : Nat → Search → Nat × Nat
  | 0, _ => (r.aStart, r.bStart)
  | n + 1, s =>
    let far : Int := r.aEnd + r.bEnd + 2
    let (fMin, forward) := if least < s.fMin then
      (s.fMin - 1, reach s.forward offset (s.fMin - 2) (-1)) else (s.fMin + 1, s.forward)
    let (fMax, forward) := if s.fMax < most then
      (s.fMax + 1, reach forward offset (s.fMax + 2) (-1)) else (s.fMax - 1, forward)
    match forwardSteps p r offset odd s.bMin s.bMax s.backward (downBy2 fMax fMin) forward with
    | (_, some found) => found
    | (forward, none) =>
      let (bMin, backward) := if least < s.bMin then
        (s.bMin - 1, reach s.backward offset (s.bMin - 2) far) else (s.bMin + 1, s.backward)
      let (bMax, backward) := if s.bMax < most then
        (s.bMax + 1, reach backward offset (s.bMax + 2) far) else (s.bMax - 1, backward)
      match backwardSteps p r offset odd fMin fMax forward (downBy2 bMax bMin) backward with
      | (_, some found) => found
      | (backward, none) => middle p r offset least most odd n ⟨forward, backward, fMin, fMax, bMin, bMax⟩

def onlyLines (p : Pair) : Nat → Range → List Nat × List Nat
  | 0, _ => ([], [])
  | n + 1, r =>
    let x := slide p r (r.aEnd - r.aStart + 1) r.aStart r.bStart
    let r := { r with aStart := x, bStart := r.bStart + (x - r.aStart) }
    let x := slideBack p r (r.aEnd - r.aStart + 1) r.aEnd r.bEnd
    let r := { r with aEnd := x, bEnd := r.bEnd - (r.aEnd - x) }
    let numbers (low high : Nat) := (List.range (high - low)).map (· + low)
    if r.aStart = r.aEnd then ([], numbers r.bStart r.bEnd)
    else if r.bStart = r.bEnd then (numbers r.aStart r.aEnd, [])
    else
      let fMid : Int := (r.aStart : Int) - r.bStart
      let bMid : Int := (r.aEnd : Int) - r.bEnd
      let offset : Int := r.bEnd + 2
      let size := r.aEnd + r.bEnd + 6
      let start : Search := {
        forward := reach (Array.replicate size 0) offset fMid r.aStart
        backward := reach (Array.replicate size 0) offset bMid r.aEnd
        fMin := fMid, fMax := fMid, bMin := bMid, bMax := bMid }
      let (x, y) := middle p r offset ((r.aStart : Int) - r.bEnd) ((r.aEnd : Int) - r.bStart)
        ((fMid - bMid) % 2 != 0) size start
      let (a1, b1) := onlyLines p n { r with aEnd := x, bEnd := y }
      let (a2, b2) := onlyLines p n { r with aStart := x, bStart := y }
      (a1 ++ a2, b1 ++ b2)

/-- Marks for the lines of one text and the other; line `i` has mark `i + 1`,
and there are unmarked ends. -/
structure Marks where
  own : Array Bool
  other : Array Bool

def mark (marks : Array Bool) (i : Int) : Bool := marks[(i + 1).toNat]?.getD false

def setMark (marks : Array Bool) (i : Int) (b : Bool) : Array Bool := marks.setIfInBounds (i + 1).toNat b

def afterRun (marks : Array Bool) : Nat → Int → Int
  | 0, i => i
  | n + 1, i => if mark marks i then afterRun marks n (i + 1) else i

def beforeRun (marks : Array Bool) : Nat → Int → Int
  | 0, i => i
  | n + 1, i => if mark marks (i - 1) then beforeRun marks n (i - 1) else i - 1

def runStart (marks : Array Bool) : Nat → Int → Int
  | 0, i => i
  | n + 1, i => if mark marks (i - 1) then runStart marks n (i - 1) else i

/-- A run of marked lines: its start, its end, and the place in the other text. -/
structure Stretch where
  marks : Array Bool
  start : Int
  stop : Int
  place : Int

def back (lines : Array Nat) (other : Array Bool) (fuel : Nat) : Nat → Stretch → Stretch
  | 0, s => s
  | n + 1, s =>
    if 0 < s.start && lines[(s.start - 1).toNat]? == lines[(s.stop - 1).toNat]? then
      let marks := setMark (setMark s.marks (s.start - 1) true) (s.stop - 1) false
      back lines other fuel n
        ⟨marks, runStart marks fuel (s.start - 1), s.stop - 1, beforeRun other fuel s.place⟩
    else s

/-- Moves a run down; also the last end at which the other text has a run. -/
def forth (lines : Array Nat) (other : Array Bool) (fuel : Nat) : Nat → Stretch → Int → Stretch × Int
  | 0, s, together => (s, together)
  | n + 1, s, together =>
    if s.stop < lines.size && lines[s.start.toNat]? == lines[s.stop.toNat]? then
      let marks := setMark (setMark s.marks s.start false) s.stop true
      let stop := afterRun marks fuel (s.stop + 1)
      let place := afterRun other fuel (s.place + 1)
      forth lines other fuel n ⟨marks, s.start + 1, stop, place⟩
        (if mark other (s.place + 1) then stop else together)
    else (s, together)

def settle (lines : Array Nat) (other : Array Bool) (fuel : Nat) : Nat → Stretch → Stretch × Int
  | 0, s => (s, lines.size)
  | n + 1, s =>
    let s' := back lines other fuel fuel s
    let together : Int := if mark other (s'.place - 1) then s'.stop else lines.size
    let (t, together) := forth lines other fuel fuel s' together
    if t.stop - t.start = s.stop - s.start then (t, together) else settle lines other fuel n t

def backTo (other : Array Bool) (fuel : Nat) (together : Int) : Nat → Stretch → Stretch
  | 0, s => s
  | n + 1, s =>
    if together < s.stop then
      let marks := setMark (setMark s.marks (s.start - 1) true) (s.stop - 1) false
      backTo other fuel together n ⟨marks, s.start - 1, s.stop - 1, beforeRun other fuel s.place⟩
    else s

def nextRun (own other : Array Bool) (fuel : Nat) (size : Int) : Nat → Int → Int → Int × Int
  | 0, i, j => (i, j)
  | n + 1, i, j =>
    if i < size && !mark own i then
      nextRun own other fuel size n (i + 1) (afterRun other fuel j + 1)
    else (i, j)

def shifted (lines : Array Nat) (other : Array Bool) (fuel : Nat) : Nat → Int → Int → Array Bool → Array Bool
  | 0, _, _, own => own
  | n + 1, i, j, own =>
    let (start, j) := nextRun own other fuel lines.size fuel i j
    if lines.size ≤ start then own
    else
      let s : Stretch := ⟨own, start, afterRun own fuel (start + 1), afterRun other fuel j⟩
      let (s, together) := settle lines other fuel fuel s
      let s := backTo other fuel together fuel s
      shifted lines other fuel n s.stop s.place s.marks

/-- Lines of the first text that the second has others for, or none. -/
structure Hunk where
  aStart : Nat
  aCount : Nat
  bStart : Nat
  bCount : Nat

/-- Lines that the other text does not have at all are set aside before the search. -/
def marksOf (p : Pair) : Array Bool × Array Bool :=
  let keptA := (List.range p.a.size).filter fun i => (p.a[i]?.map p.b.contains).getD false
  let keptB := (List.range p.b.size).filter fun i => (p.b[i]?.map p.a.contains).getD false
  let lines (all : Array Nat) (kept : List Nat) := (kept.filterMap fun i => all[i]?).toArray
  let small : Pair := ⟨lines p.a keptA, lines p.b keptB⟩
  let (onlyA, onlyB) := onlyLines small (small.a.size + small.b.size + 2)
    ⟨0, small.a.size, 0, small.b.size⟩
  let marks (size : Nat) (kept : List Nat) (only : List Nat) : Array Bool :=
    let start := (Array.replicate (size + 2) true).setIfInBounds 0 false |>.setIfInBounds (size + 1) false
    (kept.mapIdx fun k i => (k, i)).foldl (fun marks (k, i) =>
      if only.contains k then marks else marks.setIfInBounds (i + 1) false) start
  (marks p.a.size keptA onlyA, marks p.b.size keptB onlyB)

def hunksOf (a b : Array Bool) : Nat → Nat → Nat → List Hunk
  | 0, _, _ => []
  | n + 1, i, j =>
    if a.size - 2 ≤ i && b.size - 2 ≤ j then []
    else
      let aEnd := (afterRun a (a.size + 1) i).toNat
      let bEnd := (afterRun b (b.size + 1) j).toNat
      if aEnd = i && bEnd = j then hunksOf a b n (i + 1) (j + 1)
      else ⟨i, aEnd - i, j, bEnd - j⟩ :: hunksOf a b n aEnd bEnd

def hunks (p : Pair) : List Hunk :=
  let (a, b) := marksOf p
  let fuel := p.a.size + p.b.size + 4
  let a := shifted p.a b fuel fuel 0 0 a
  let b := shifted p.b a fuel fuel 0 0 b
  hunksOf a b fuel 0 0

structure Listing where
  lines : Array String
  ended : Bool

namespace Listing

def ofChars (cs : List Char) : Listing :=
  let (lines, ended) := linesOf cs
  ⟨(lines.map String.ofList).toArray, ended⟩

def line (t : Listing) (lead : String) (i : Nat) : String :=
  lead ++ t.lines[i]?.getD "" ++ "\n" ++
    (if i + 1 = t.lines.size && !t.ended then "\\ No newline at end of file\n" else "")

def part (t : Listing) (lead : String) (start count : Nat) : String :=
  String.join ((List.range count).map fun i => t.line lead (start + i))

end Listing

def span (start count : Nat) : String :=
  if count ≤ 1 then toString (start + count)
  else toString (start + 1) ++ "," ++ toString (start + count)

def Hunk.letter (h : Hunk) : String :=
  if h.aCount = 0 then "a" else if h.bCount = 0 then "d" else "c"

def Hunk.plain (a b : Listing) (h : Hunk) : String :=
  span h.aStart h.aCount ++ h.letter ++ span h.bStart h.bCount ++ "\n" ++
    a.part "< " h.aStart h.aCount ++ (if h.letter == "c" then "---\n" else "") ++
    b.part "> " h.bStart h.bCount

def Hunk.edit (b : Listing) (h : Hunk) : String :=
  let range := if h.aCount ≤ 1 then toString (h.aStart + h.aCount)
    else toString (h.aStart + 1) ++ "," ++ toString (h.aStart + h.aCount)
  range ++ h.letter ++ "\n" ++
    (if h.bCount = 0 then "" else String.join ((List.range h.bCount).map fun i =>
      b.lines[h.bStart + i]?.getD "" ++ "\n") ++ ".\n")

def grouped (context : Nat) : List Hunk → List (List Hunk)
  | [] => []
  | h :: rest =>
    match grouped context rest with
    | (g :: gs) :: more =>
      if g.aStart - (h.aStart + h.aCount) ≤ 2 * context then (h :: g :: gs) :: more
      else [h] :: (g :: gs) :: more
    | more => [h] :: more

def covered (context : Nat) (a b : Listing) (hs : List Hunk) : Range :=
  let first := hs.headD ⟨0, 0, 0, 0⟩
  let last := hs.getLastD ⟨0, 0, 0, 0⟩
  { aStart := first.aStart - context
    aEnd := Nat.min (last.aStart + last.aCount + context) a.lines.size
    bStart := first.bStart - context
    bEnd := Nat.min (last.bStart + last.bCount + context) b.lines.size }

def counted (start stop : Nat) : String :=
  let count := stop - start
  if count = 0 then toString start ++ ",0"
  else if count = 1 then toString (start + 1)
  else toString (start + 1) ++ "," ++ toString count

def unifiedGroup (context : Nat) (a b : Listing) (hs : List Hunk) : String :=
  let r := covered context a b hs
  let (text, i) := hs.foldl (fun (s : String × Nat) h =>
    (s.1 ++ a.part " " s.2 (h.aStart - s.2) ++ a.part "-" h.aStart h.aCount ++
      b.part "+" h.bStart h.bCount, h.aStart + h.aCount)) ("", r.aStart)
  "@@ -" ++ counted r.aStart r.aEnd ++ " +" ++ counted r.bStart r.bEnd ++ " @@\n" ++ text ++
    a.part " " i (r.aEnd - i)

/-- One side of a group, with marks in front of what is not the same. -/
def contextSide (t : Listing) (start stop : Nat) (marks : List (Nat × Nat × String)) : String :=
  let (text, i) := marks.foldl (fun (s : String × Nat) (first, count, lead) =>
    (s.1 ++ t.part "  " s.2 (first - s.2) ++ t.part lead first count, first + count)) ("", start)
  text ++ t.part "  " i (stop - i)

def contextGroup (context : Nat) (a b : Listing) (hs : List Hunk) : String :=
  let r := covered context a b hs
  let range (start stop : Nat) := if stop - start ≤ 1 then toString stop
    else toString (start + 1) ++ "," ++ toString stop
  let left := if hs.any fun h => h.aCount != 0 then
      contextSide a r.aStart r.aEnd (hs.map fun h =>
        (h.aStart, h.aCount, if h.bCount = 0 then "- " else "! "))
    else ""
  let right := if hs.any fun h => h.bCount != 0 then
      contextSide b r.bStart r.bEnd (hs.map fun h =>
        (h.bStart, h.bCount, if h.aCount = 0 then "+ " else "! "))
    else ""
  "***************\n*** " ++ range r.aStart r.aEnd ++ " ****\n" ++ left ++
    "--- " ++ range r.bStart r.bEnd ++ " ----\n" ++ right

structure Halves where
  size : Nat
  /-- Where the second half starts. -/
  second : Nat

def halves (width : Nat) : Halves :=
  let second := (width + 11) / 16 * 8
  let size := Nat.min (second - 3) (width - second)
  ⟨size, if size = 0 then width else second⟩

def blanks : Nat → Nat → Nat → String
  | 0, _, _ => ""
  | n + 1, column, target =>
    let stop := column + (8 - column % 8)
    if stop ≤ target then "\t" ++ blanks n stop target
    else String.ofList (List.replicate (target - column) ' ')

/-- As much of a line as fits into a half, and the column behind it. -/
def halfLine (size : Nat) (line : String) : String × Nat :=
  let (shown, column) := line.toList.foldl (fun (s : List Char × Nat) c =>
    let next := if c = '\t' then s.2 + (8 - s.2 % 8) else s.2 + 1
    if next ≤ size then (c :: s.1, next) else (s.1, size + 1)) ([], 0)
  (String.ofList shown.reverse, Nat.min column size)

def sideLine (h : Halves) (a b : Listing) (left right : Option Nat) (mark : Char) : String :=
  let isEnded (t : Listing) (i : Nat) : Bool := t.ended || i + 1 != t.lines.size
  let (first, column) := match left with
    | some i => halfLine h.size (a.lines[i]?.getD "")
    | none => ("", 0)
  let leftEnded := left.any (isEnded a)
  let mark := if mark = '|' && leftEnded != right.any (isEnded b) then
    (if leftEnded then '/' else '\\') else mark
  let middle := (h.size + h.second - 1) / 2
  let (gap, column) := if mark = ' ' then ("", column)
    else (blanks (middle + 1) column middle ++ String.singleton mark, middle + 1)
  let last := match right with
    | some i =>
      let text := b.lines[i]?.getD ""
      if text.isEmpty then "" else blanks (h.second + 1) column h.second ++ (halfLine h.size text).1
    | none => ""
  first ++ gap ++ last ++ (if leftEnded || right.any (isEnded b) then "\n" else "")

def sideBySide (h : Halves) (a b : Listing) (common leftOnly : Bool) (hs : List Hunk) : String :=
  let same (i j count : Nat) : String := if !common then "" else
    String.join ((List.range count).map fun k =>
      if leftOnly then sideLine h a b (some (i + k)) none '(' else sideLine h a b (some (i + k)) (some (j + k)) ' ')
  let (text, i, j) := hs.foldl (fun (s : String × Nat × Nat) hunk =>
    let (text, i, j) := s
    let paired := Nat.min hunk.aCount hunk.bCount
    let rest (count : Nat) := (List.range (count - paired)).map (paired + ·)
    (text ++ same i j (hunk.aStart - i) ++
      String.join ((List.range paired).map fun k =>
        sideLine h a b (some (hunk.aStart + k)) (some (hunk.bStart + k)) '|') ++
      String.join ((rest hunk.bCount).map fun k => sideLine h a b none (some (hunk.bStart + k)) '>') ++
      String.join ((rest hunk.aCount).map fun k => sideLine h a b (some (hunk.aStart + k)) none '<'),
      hunk.aStart + hunk.aCount, hunk.bStart + hunk.bCount)) ("", 0, 0)
  text ++ same i j (a.lines.size - i)

def keyOf (o : Options) (line : String) : List Char :=
  let cs := line.toList
  let cs := if o.has 'w' then cs.filter fun c => !isBlank c
    else if o.has 'b' then squeezed ((cs.reverse.dropWhile isBlank).reverse)
    else if o.has 'Z' then (cs.reverse.dropWhile isBlank).reverse
    else cs
  if o.has 'i' then cs.map Char.toLower else cs
where
  squeezed : List Char → List Char
    | c :: d :: rest =>
      if isBlank c && isBlank d then squeezed (d :: rest)
      else (if isBlank c then ' ' else c) :: squeezed (d :: rest)
    | [c] => [if isBlank c then ' ' else c]
    | [] => []

/-- Lines by numbers; the last line counts as another one without its end. -/
def pairOf (o : Options) (a b : Listing) : Pair :=
  let keys (t : Listing) := (t.lines.toList.mapIdx fun i line =>
    (keyOf o line, i + 1 = t.lines.size && !t.ended && !o.has 'w' && !o.has 'b' && !o.has 'Z' && !o.has 'e'))
  let all := (keys a ++ keys b).eraseDups
  let number (k : List Char × Bool) : Nat := (all.findIdx? (· == k)).getD 0
  ⟨((keys a).map number).toArray, ((keys b).map number).toArray⟩

def usage : Usage :=
  { flags := "acdeilnqrstuwbBEZNTpy", valued := "CULW", long := [("brief", 'q'), ("unified", 'u'),
    ("context", 'c'), ("report-identical-files", 's'), ("ignore-case", 'i'), ("ignore-all-space", 'w'),
    ("ignore-space-change", 'b'), ("ignore-blank-lines", 'B'), ("ignore-trailing-space", 'Z'),
    ("label", 'L'), ("normal", 'ν'), ("left-column", 'λ'), ("suppress-common-lines", 'σ'), ("ed", 'e'), ("recursive", 'r'), ("text", 'a'), ("minimal", 'd'),
    ("new-file", 'N'), ("side-by-side", 'y'), ("width", 'W')] }

def contextCounts (args : List String) : List String :=
  args.map fun arg =>
    match arg.toList with
    | '-' :: 'u' :: d :: ds => if d.isDigit then "-U" ++ String.ofList (d :: ds) else arg
    | '-' :: 'c' :: d :: ds => if d.isDigit then "-C" ++ String.ofList (d :: ds) else arg
    | _ => arg

def diff : Program := fun name args =>
  Comparison.withOptionsHere usage (fun name o => do
    match o.operands with
    | [] => Comparison.misusedHere name ("missing operand after '" ++ args.getLast?.getD name ++ "'")
    | [a] => Comparison.misusedHere name ("missing operand after '" ++ a ++ "'")
    | _ :: _ :: extra :: _ => Comparison.misusedHere name ("extra operand '" ++ extra ++ "'")
    | [first, second] =>
      let isDirectory (path : String) : Run Bool := do
        return match ← if path == "-" then pure (.error .notFound) else entry path with
          | .ok .directory => true
          | _ => false
      let inside (directory path : String) : String :=
        directory ++ (if directory.endsWith "/" then "" else "/") ++ lastPart path
      let firstIn ← isDirectory first
      let secondIn ← isDirectory second
      let left := if firstIn && !secondIn then inside first second else first
      let right := if secondIn && !firstIn then inside second first else second
      match ← Comparison.both name 2 id left right with
      | .error status => return status
      | .ok (csA, csB) =>
        let width := ((o.value? 'W').bind String.toNat?).getD 130
        let a := Listing.ofChars csA
        let b := Listing.ofChars csB
        let hs := hunks (pairOf o a b)
        let blank (t : Listing) (start count : Nat) : Bool :=
          (List.range count).all fun i => (t.lines[start + i]?.getD "").isEmpty
        let hs := if o.has 'B' then hs.filter fun h =>
          !(blank a h.aStart h.aCount && blank b h.bStart h.bCount) else hs
        let halved := o.has 'y'
        let unended := if o.has 'e' && csA != csB then [(left, a), (right, b)].filter fun f => !f.2.ended else []
        let opened : Run Nat := do
          unended.forM fun f => say name (f.1 ++ ": No newline at end of file\n")
          return 2
        if hs.isEmpty && !unended.isEmpty then opened
        else if hs.isEmpty then
          if halved && !o.has 'q' then
            put name (sideBySide (halves width) a b (!o.has 'σ') (o.has 'λ') [])
          if o.has 's' then put name ("Files " ++ left ++ " and " ++ right ++ " are identical\n")
          return 0
        else
          let number (letter : Char) : Nat := ((o.value? letter).bind String.toNat?).getD 3
          let labels := o.values 'L'
          let header (mark path : String) (i : Nat) : String :=
            mark ++ " " ++ labels[i]?.getD (path ++ "\t1970-01-01 00:00:00.000000000 +0000") ++ "\n"
          if o.has 'q' then put name ("Files " ++ left ++ " and " ++ right ++ " differ\n")
          else if o.has 'u' || o.has 'U' then
            put name (header "---" left 0 ++ header "+++" right 1 ++
              String.join ((grouped (number 'U') hs).map (unifiedGroup (number 'U') a b)))
          else if o.has 'c' || o.has 'C' then
            put name (header "***" left 0 ++ header "---" right 1 ++
              String.join ((grouped (number 'C') hs).map (contextGroup (number 'C') a b)))
          else if halved then
            put name (sideBySide (halves width) a b (!o.has 'σ') (o.has 'λ') hs)
          else if o.has 'e' then put name (String.join (hs.reverse.map (Hunk.edit b)))
          else put name (String.join (hs.map (Hunk.plain a b)))
          if unended.isEmpty then return 1 else opened) name (contextCounts args)
where
  lastPart (path : String) : String :=
    String.ofList (path.toList.reverse.takeWhile (· != '/')).reverse

end PartitionTest.Shell.Utility.Difference
