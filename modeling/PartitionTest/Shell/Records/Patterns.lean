import PartitionTest.Shell.Format
import PartitionTest.Shell.Pattern
import PartitionTest.Shell.Records.Script

/-! Reading the patterns of the language: regular expressions with operators
that must have operands, and escapes as in texts. -/
namespace PartitionTest.Shell.Records.Patterns

abbrev Read := StateT (List Char) (Except String)

def peek : Read (List Char) := get

def skip (n : Nat) : Read Unit := modify fun cs => cs.drop n

def escaped (c : Char) (rest : List Char) : Char × List Char :=
  if Format.isOctal c then Format.octal 3 (c :: rest)
  else match c with
  | 'e' => ('e', rest)
  | c => ((Format.escape? c).getD c, rest)

def badClass : String := "bad class -- [], [^] or ["

def member? : List Char → Option (Char × List Char)
  | '\\' :: c :: rest => some (escaped c rest)
  | c :: rest => some (c, rest)
  | [] => none

def ranges : Nat → Bool → List Char → Option (List (Char × Char) × List Char)
  | 0, _, _ | _, _, [] => none
  | n + 1, first, c :: rest => do
    if c = ']' && !first then return ([], rest)
    let (found, rest) ← match c, rest with
      | '[', ':' :: _ => Pattern.class? (c :: rest)
      | _, _ => do
        let (a, after) ← member? (c :: rest)
        match after with
        | '-' :: b :: more =>
          if b = ']' then pure ([(a, a)], after)
          else do
            let (b, more) ← member? (b :: more)
            pure ([(a, b)], more)
        | _ => pure ([(a, a)], after)
    let (others, rest) ← ranges n false rest
    return (found ++ others, rest)

def set : Read Regex := do
  let cs ← peek
  let (negated, cs) := match cs with
    | '^' :: rest => (true, rest)
    | _ => (false, cs)
  match ranges (cs.length + 1) true cs with
  | none => throw badClass
  | some (found, rest) =>
    modify fun _ => rest
    return .among negated (found.map fun (a, b) => .range a b)

def endsHere (depth : Nat) : List Char → Bool
  | [] => true
  | c :: _ => c = '|' || (c = ')' && 0 < depth)

def tooLarge : String := "resource exhaustion -- regular expression too large"

def repetition : Nat → Regex → Read Regex
  | 0, r => return r
  | n + 1, r => do
    let times (least : Nat) (most : Option Nat) (size : Nat) : Read Regex := do
      skip size
      repetition n (.repeated least most false r)
    match ← peek with
    | '*' :: _ => times 0 none 1
    | '+' :: _ => times 1 none 1
    | '?' :: _ => times 0 (some 1) 1
    | _ => return r

/-- An operand; `atStart` is whether it is the first of its branch. -/
def operand (depth : Nat) (whole : Nat → Read Regex) (atStart : Bool) : Read Regex := do
  match ← peek with
  | [] => throw "missing operand"
  | '(' :: _ =>
    skip 1
    let r ← whole (depth + 1)
    match ← peek with
    | ')' :: _ =>
      skip 1
      repetition (← peek).length.succ r
    | _ => throw "missing ')'"
  | '[' :: _ =>
    skip 1
    let r ← set
    repetition (← peek).length.succ r
  | '.' :: _ =>
    skip 1
    repetition (← peek).length.succ .any
  | '\\' :: c :: rest =>
    let (c, rest) := escaped c rest
    modify fun _ => rest
    repetition rest.length.succ (.char c)
  | c :: rest =>
    if c = '*' || c = '+' || c = '?' then throw "missing operand"
    skip 1
    if c = '^' && atStart then
      if rest.head? == some '*' || rest.head? == some '+' then throw "syntax error ^* or ^+"
      return .start
    else if c = '$' && endsHere depth rest then return .finish
    else repetition rest.length.succ (.char c)

def branch (depth : Nat) (whole : Nat → Read Regex) : Nat → Bool → Read Regex
  | 0, _ => return .empty
  | n + 1, atStart => do
    let cs ← peek
    if endsHere depth cs then
      if !atStart then return .empty
      else throw (if cs.isEmpty && 0 < depth then "missing ')'" else "missing operand")
    else
      let a ← operand depth whole atStart
      let rest ← branch depth whole n false
      return .concat a rest

def alternatives (size : Nat) : Nat → Nat → Read Regex
  | 0, _ => throw tooLarge
  | n + 1, depth => do
    let a ← branch depth (alternatives size n) size true
    match ← peek with
    | '|' :: _ =>
      skip 1
      return .either a (← alternatives size n depth)
    | _ => return a

/-- A pattern as it is written, or what is wrong with it. The empty one fits
everywhere. -/
def parse (source : String) : Except String Regex := do
  if source.isEmpty then return .empty
  let size := source.length + 2
  let (r, _) ← (alternatives size size 0).run source.toList
  return r

end PartitionTest.Shell.Records.Patterns
