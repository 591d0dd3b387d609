import PartitionTest.Shell.Utility.Lines

/-! Programs that exchange tabs and blanks. A line is read from left to right
with the column that it has reached. -/
namespace PartitionTest.Shell.Utility.Columns

open Machine Quotation

structure Stops where
  /-- Columns that are listed, in order. -/
  listed : List Nat := []
  /-- How far apart the stops after those are, counted from the first column. -/
  every : Option Nat := none
  /-- How far apart they are, counted from the last one that is listed. -/
  further : Option Nat := none

namespace Stops

def next? (s : Stops) (column : Nat) : Option Nat :=
  match s.listed.find? (column < ·), s.every, s.further with
  | some stop, _, _ => some stop
  | none, some size, _ => some (column + (size - column % size))
  | none, none, some size =>
    some (column + (size - (column - s.listed.getLast?.getD 0) % size))
  | none, none, none => none

def settled (s : Stops) : Stops :=
  match s.listed, s.every, s.further with
  | [], none, none => { every := some 8 }
  | [size], none, none => { every := some size }
  | [], none, some size => { every := some size }
  | _, _, _ => s

def add (s : Stops) (text : List Char) : Except String Stops :=
  match text with
  | [] => .ok s
  | mark :: rest =>
    let digits := if mark = '/' || mark = '+' then rest else text
    let wrong := digits.dropWhile Char.isDigit
    if !wrong.isEmpty then
      .error ("tab size contains invalid character(s): " ++ quoted (String.ofList wrong))
    else
      let n := Format.naturalOf digits
      if mark = '/' then .ok { s with every := if n = 0 then none else some n }
      else if mark = '+' then .ok { s with further := if n = 0 then none else some n }
      else .ok { s with listed := s.listed ++ [n] }

def isAscending : List Nat → Bool
  | a :: b :: rest => a < b && isAscending (b :: rest)
  | _ => true

def ofLists (lists : List String) : Except String Stops := do
  let parts := lists.flatMap fun list => Text.split (fun c => c = ',' || c = ' ' || c = '\t') list.toList
  let s ← parts.foldlM add {}
  if s.listed.contains 0 then throw "tab size cannot be 0"
  if !isAscending s.listed then throw "tab sizes must be ascending"
  return s.settled

end Stops

/-- A line with blanks in place of its tabs; with `leading`, only of those in
front of all else. -/
def expandLine (s : Stops) (leading : Bool) : Nat → List Char → List Char
  | _, [] => []
  | column, c :: rest =>
    if c = '\t' then
      let stop := (s.next? column).getD (column + 1)
      List.replicate (stop - column) ' ' ++ expandLine s leading stop rest
    else if c = '\x08' then
      if leading then c :: rest else c :: expandLine s leading (column - 1) rest
    else if leading && c != ' ' then c :: rest
    else c :: expandLine s leading (column + 1) rest

structure Pending where
  column : Nat := 0
  /-- The blanks before the column that are not yet written. -/
  blanks : List Char := []
  /-- Whether the first of them stands just before a tab stop. -/
  atStop : Bool := false
  /-- Whether a blank came last, or nothing at all. -/
  afterBlank : Bool := true

/-- What is written of the blanks in the end: more than one, with the first
just before a stop, starts with a tab. -/
def Pending.written (p : Pending) : List Char :=
  match p.blanks with
  | _ :: second :: rest => if p.atStop then '\t' :: second :: rest else p.blanks
  | blanks => blanks

/-- A line with tabs in place of the blanks up to a stop; with `leading`, only
of those in front of all else. -/
def contractLine (s : Stops) (leading : Bool) : Pending → List Char → List Char
  | p, [] => p.written
  | p, c :: rest =>
    let after := p.written
    if c = ' ' || c = '\t' then
      match s.next? p.column with
      | none => after ++ c :: rest
      | some stop =>
        if c = '\t' then
          let blanks := if p.blanks.isEmpty then [] else '\t' :: p.blanks.drop 1
          let kept := { p with blanks := if p.atStop then blanks.take 1 else [] }
          kept.written ++ c :: contractLine s leading { column := stop } rest
        else
          let column := p.column + 1
          if p.afterBlank && column = stop then
            let kept := { p with blanks := if p.atStop then ['\t'] else [] }
            kept.written ++ '\t' :: contractLine s leading { column := column } rest
          else contractLine s leading {
            column := column
            blanks := p.blanks ++ [c]
            atStop := p.atStop || column = stop } rest
    else if leading then after ++ c :: rest
    else
      let column := if c = '\x08' then p.column - 1 else p.column + 1
      after ++ c :: contractLine s leading { column := column, afterBlank := false } rest

def oldStops (args : List String) : List String :=
  args.map fun arg => match arg.toList with
    | '-' :: c :: cs => if c.isDigit then "-t" ++ String.ofList (c :: cs) else arg
    | _ => arg

def program (usage : Usage) (line : Options → Stops → List Char → List Char) : Program :=
  fun name args => withOptions usage 1 (fun name o => do
    match Stops.ofLists (o.values 't') with
    | .error reason => fail name reason 1
    | .ok stops =>
      eachInput name plainComplaint 1 o.operands fun _ cs => do
        let (lines, ended) := linesOf cs
        put name (String.ofList (Text.join ['\n'] (lines.map (line o stops))) ++
          (if ended && !lines.isEmpty then "\n" else ""))) name (oldStops args)

def expand : Program :=
  program { flags := "i", valued := "t", long := [("initial", 'i'), ("tabs", 't')] }
    fun o stops => expandLine stops (o.has 'i') 0

def unexpand : Program :=
  program { flags := "a", valued := "t", long := [("all", 'a'), ("first-only", 'f'), ("tabs", 't')] }
    fun o stops => contractLine stops (o.has 'f' || !(o.has 'a' || o.has 't')) {}

end PartitionTest.Shell.Utility.Columns
