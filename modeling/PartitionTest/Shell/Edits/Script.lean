import PartitionTest.Shell.Regex

/-! Scripts that edit a text line by line: which lines are chosen, and what is
done with them. -/
namespace PartitionTest.Shell.Edits

structure Sought where
  regex : Regex
  folded : Bool
deriving Inhabited

inductive Address where
  | line (n : Nat)
  /-- A line and those that follow in steps. -/
  | step (first step : Nat)
  | last
  /-- Lines that something fits; without it, what was looked for last. -/
  | fits (s : Option Sought)
deriving Inhabited

inductive Bound where
  | on (a : Address)
  /-- So many lines further on. -/
  | after (count : Nat)
  /-- On a line whose number is a multiple. -/
  | multiple (of : Nat)
deriving Inhabited

inductive Selection where
  | all
  | one (a : Address)
  | range (first : Address) (last : Bound)
deriving Inhabited

inductive Letters where
  | asIs
  | upper
  | lower
deriving DecidableEq, Repr, Inhabited

/-- A part of a replacement: a text, and a part of the match behind it. -/
structure Piece where
  text : List Char := []
  letters : Letters := .asIs
  /-- How the first letter is written, if not like the others. -/
  first : Letters := .asIs
  part : Option Nat := none
deriving DecidableEq, Repr, Inhabited

structure Substitution where
  /-- Without it, what was looked for last. -/
  sought : Option Sought
  pieces : List Piece
  /-- The number of the match that is replaced. -/
  number : Nat := 1
  /-- Whether those behind it are replaced as well. -/
  all : Bool := false
  prints : Bool := false
  /-- Where the line is written to as well. -/
  outlet : Option String := none
deriving Inhabited

inductive Plain where
  | print
  | printFirst
  | delete
  | deleteFirst
  | next
  | join
  | number
  | hold
  | holdMore
  | bring
  | bringMore
  | exchange
  | clear
  | fileName
deriving DecidableEq, Repr, Inhabited

def Plain.ofLetter? : Char → Option Plain
  | 'p' => some print
  | 'P' => some printFirst
  | 'd' => some delete
  | 'D' => some deleteFirst
  | 'n' => some next
  | 'N' => some join
  | '=' => some number
  | 'h' => some hold
  | 'H' => some holdMore
  | 'g' => some bring
  | 'G' => some bringMore
  | 'x' => some exchange
  | 'z' => some clear
  | 'F' => some fileName
  | _ => none

inductive Action where
  | plain (p : Plain)
  | substitute (s : Substitution)
  | transliterate (pairs : List (Char × Char))
  | append (text : List Char)
  | insert (text : List Char)
  | change (text : List Char)
  /-- Shows the line with marks for what does not print, in so wide lines. -/
  | list (width : Option Nat)
  | quit (silent : Bool) (status : Nat)
  | appendFile (path : String)
  | appendLine (path : String)
  | write (path : String)
  | writeFirst (path : String)
  /-- Goes to a label or to the end; perhaps only if something was substituted, or was not. -/
  | branch (tested : Option Bool) (label : String)
  | label (name : String)
  | openBlock
  | closeBlock
deriving Inhabited

structure Command where
  selection : Selection := .all
  negated : Bool := false
  action : Action
deriving Inhabited

/-- Commands, with the places of labels and of the ends of blocks. -/
structure Script where
  commands : Array Command
  labels : List (String × Nat) := []
  closings : List (Nat × Nat) := []
  /-- Whether lines are shown only if a command says so. -/
  silent : Bool := false
deriving Inhabited

def closingsOf : Nat → List Nat → List Command → List (Nat × Nat)
  | _, _, [] => []
  | i, opened, c :: rest =>
    match c.action, opened with
    | .openBlock, _ => closingsOf (i + 1) (i :: opened) rest
    | .closeBlock, o :: opened => (o, i) :: closingsOf (i + 1) opened rest
    | _, _ => closingsOf (i + 1) opened rest

def Script.ofCommands (cs : List Command) (silent : Bool) : Script where
  commands := cs.toArray
  labels := (cs.mapIdx fun i c => (i, c)).filterMap fun (i, c) => match c.action with
    | .label name => some (name, i)
    | _ => none
  closings := closingsOf 0 [] cs
  silent := silent

def Script.missingLabel? (s : Script) : Option String :=
  s.commands.toList.findSome? fun c => match c.action with
    | .branch _ label => if label.isEmpty || (s.labels.lookup label).isSome then none else some label
    | _ => none

def Script.readPaths (s : Script) : List String :=
  s.commands.toList.filterMap fun c => match c.action with
    | .appendFile p | .appendLine p => some p
    | _ => none

def Script.writtenPaths (s : Script) : List String :=
  s.commands.toList.filterMap fun c => match c.action with
    | .write p | .writeFirst p => some p
    | .substitute sub => sub.outlet
    | _ => none

end PartitionTest.Shell.Edits
