/-! Permissions: who may do what with a file. A mode has three bits, for
reading, writing and running, for each of the owner, the group and all others,
and three more in front of them. -/
namespace PartitionTest

abbrev Mode := Nat

namespace Mode

def everyone : Mode := 0o777

def fresh : Mode := 0o666

def usual : Mode := 0o644

def usualRunnable : Mode := 0o755

def without (m mask : Mode) : Mode := m ^^^ (m &&& mask)

def isRunnable (m : Mode) : Bool := m &&& 0o111 != 0

def octal (width : Nat) (m : Mode) : String :=
  let ds := Nat.toDigits 8 m
  String.ofList (List.replicate (width - ds.length) '0' ++ ds)

def triple (m place : Nat) (extra : Bool) (mark : Char) : List Char :=
  let bits := m >>> (3 * place)
  [if bits / 4 % 2 = 1 then 'r' else '-', if bits / 2 % 2 = 1 then 'w' else '-',
    match extra, bits % 2 == 1 with
    | true, true => mark
    | true, false => mark.toUpper
    | false, true => 'x'
    | false, false => '-']

def letters (m : Mode) : String :=
  String.ofList (triple m 2 (m / 0o4000 % 2 == 1) 's' ++ triple m 1 (m / 0o2000 % 2 == 1) 's' ++
    triple m 0 (m / 0o1000 % 2 == 1) 't')

def clauses (m : Mode) : String :=
  let allowed (who : String) (place : Nat) : String :=
    who ++ "=" ++ String.ofList ((triple m place false 's').filter (· != '-'))
  allowed "u" 2 ++ "," ++ allowed "g" 1 ++ "," ++ allowed "o" 0

inductive Operation where
  | add
  | remove
  | set
deriving DecidableEq, Repr, Inhabited

inductive Grant where
  | bits (m : Mode)
  /-- Running, where the file can be run already. -/
  | alsoRun (m : Mode)
  /-- What is allowed at one of the three places. -/
  | like (place : Nat)
deriving DecidableEq, Repr, Inhabited

/-- A change for some; nobody stands for all, less what is kept from new files. -/
structure Change where
  who : Mode
  operation : Operation
  grant : Grant
deriving DecidableEq, Repr, Inhabited

def person? : Char → Option Mode
  | 'u' => some 0o4700
  | 'g' => some 0o2070
  | 'o' => some 0o1007
  | 'a' => some 0o7777
  | _ => none

def operation? : Char → Option Operation
  | '+' => some .add
  | '-' => some .remove
  | '=' => some .set
  | _ => none

def permission? : Char → Option Mode
  | 'r' => some 0o444
  | 'w' => some 0o222
  | 'x' => some 0o111
  | 's' => some 0o6000
  | 't' => some 0o1000
  | _ => none

def place? : Char → Option Nat
  | 'u' => some 2
  | 'g' => some 1
  | 'o' => some 0
  | _ => none

def isOctal (c : Char) : Bool := '0' ≤ c && c ≤ '7'

def ofOctal (ds : List Char) : Mode := ds.foldl (fun n c => n * 8 + (c.toNat - '0'.toNat)) 0

def grant (cs : List Char) : Grant × List Char :=
  let more := cs.takeWhile fun c => (permission? c).isSome || c = 'X'
  let bits := more.foldl (fun m c => m ||| (permission? c).getD 0) 0
  match more, cs with
  | [], c :: rest =>
    match place? c with
    | some place => (.like place, rest)
    | none => (.bits 0, cs)
  | _, _ => (if more.contains 'X' then .alsoRun bits else .bits bits, cs.drop more.length)

def actions (who : Mode) : Nat → List Char → Option (List Change)
  | 0, _ => none
  | _ + 1, [] => some []
  | n + 1, c :: cs => do
    let operation ← operation? c
    let (g, rest) := grant cs
    return ⟨who, operation, g⟩ :: (← actions who n rest)

def clause? (cs : List Char) : Option (List Change) :=
  let people := cs.takeWhile fun c => (person? c).isSome
  let who := people.foldl (fun m c => m ||| (person? c).getD 0) 0
  let rest := cs.drop people.length
  if rest.isEmpty then none else actions who (cs.length + 1) rest

def changes? (text : String) : Option (List Change) :=
  let cs := text.toList
  if !cs.isEmpty && cs.all isOctal then
    if ofOctal cs ≤ 0o7777 then some [⟨0o7777, .set, .bits (ofOctal cs)⟩] else none
  else ((text.splitOn ",").mapM fun c => clause? c.toList).map List.flatten

def spread (m place : Nat) : Mode :=
  let bits := (m >>> (3 * place)) % 8
  bits * 0o111

def Change.apply (mask : Mode) (isDirectory : Bool) (m : Mode) (c : Change) : Mode :=
  let value := match c.grant with
    | .bits b => b
    | .alsoRun b => if isRunnable m || isDirectory then b ||| 0o111 else b
    | .like place => spread m place
  let value := if c.who = 0 then value.without mask else value &&& c.who
  match c.operation with
  | .add => m ||| value
  | .remove => m.without value
  | .set => (if c.who = 0 then 0 else m.without c.who) ||| value

/-- A mode after changes; what a mask keeps from new files is kept where nobody is named. -/
def changed (mask : Mode) (isDirectory : Bool) (changes : List Change) (m : Mode) : Mode :=
  changes.foldl (Change.apply mask isDirectory) m

end Mode

end PartitionTest
