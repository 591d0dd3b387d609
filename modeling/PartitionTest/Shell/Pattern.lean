/-! Patterns of a case: characters, wild cards and sets. -/
namespace PartitionTest.Shell

/-- A character of a word; a quoted one is never part of a wild card. -/
structure Glyph where
  char : Char
  quoted : Bool
deriving DecidableEq, Repr, Inhabited

namespace Pattern

inductive Atom where
  | char (c : Char)
  | one
  | many
  | among (negated : Bool) (ranges : List (Char × Char))
deriving DecidableEq, Repr, Inhabited

def classes : List (String × List (Char × Char)) := [
  ("alpha", [('A', 'Z'), ('a', 'z')]),
  ("digit", [('0', '9')]),
  ("alnum", [('0', '9'), ('A', 'Z'), ('a', 'z')]),
  ("upper", [('A', 'Z')]),
  ("lower", [('a', 'z')]),
  ("space", [('\t', '\x0d'), (' ', ' ')]),
  ("blank", [('\t', '\t'), (' ', ' ')]),
  ("punct", [('!', '/'), (':', '@'), ('[', '\x60'), ('\x7b', '~')]),
  ("xdigit", [('0', '9'), ('A', 'F'), ('a', 'f')]),
  ("cntrl", [('\x00', '\x1f'), ('\x7f', '\x7f')]),
  ("print", [(' ', '~')]),
  ("graph", [('!', '~')])]

/-- The class that a set begins with, and what comes after its brackets. -/
def class? (cs : List Char) : Option (List (Char × Char) × List Char) :=
  match cs with
  | '[' :: ':' :: rest =>
    let name := rest.takeWhile (· != ':')
    match rest.drop name.length, classes.lookup (String.ofList name) with
    | ':' :: ']' :: rest, some found => some (found, rest)
    | _, _ => none
  | _ => none

/-- The ranges of a set up to the bracket that closes it, and what comes after
it. A bracket at the very start is a member. -/
def setRanges : Nat → Bool → List Char → Option (List (Char × Char) × List Char)
  | 0, _, _ | _, _, [] => none
  | n + 1, first, c :: rest =>
    let more (found : List (Char × Char)) (rest : List Char) :=
      (setRanges n false rest).map fun (others, rest) => (found ++ others, rest)
    if c = ']' && !first then some ([], rest)
    else match class? (c :: rest) with
    | some (found, rest) => more found rest
    | none =>
      match rest with
      | '-' :: b :: after => if b = ']' then more [(c, c)] rest else more [(c, b)] after
      | _ => more [(c, c)] rest

/-- A set in brackets in front of glyphs, and the glyphs after it. A quoted
character has no meaning of its own in it. -/
def set? (gs : List Glyph) : Option (Atom × List Glyph) :=
  let (negated, gs) := match gs with
    | ⟨'!', false⟩ :: rest => (true, rest)
    | _ => (false, gs)
  match gs with
  | [] => none
  | g :: _ =>
    let plain := gs.map fun g => if g.quoted && g.char = ']' then '\x00' else g.char
    (setRanges (gs.length + 1) (g.char = ']') plain).map fun (found, rest) =>
      (.among negated found, gs.drop (gs.length - rest.length))

def atoms : Nat → List Glyph → List Atom
  | 0, _ | _, [] => []
  | n + 1, ⟨'*', false⟩ :: rest => .many :: atoms n rest
  | n + 1, ⟨'?', false⟩ :: rest => .one :: atoms n rest
  | n + 1, ⟨'[', false⟩ :: rest =>
    match set? rest with
    | some (atom, rest) => atom :: atoms n rest
    | none => .char '[' :: atoms n rest
  | n + 1, g :: rest => .char g.char :: atoms n rest

def ofGlyphs (gs : List Glyph) : List Atom := atoms gs.length gs

def isWild (gs : List Glyph) : Bool :=
  gs.any fun g => !g.quoted && (g.char = '*' || g.char = '?' || g.char = '[')

def fits : List Atom → List Char → Bool
  | [], s => s.isEmpty
  | .many :: rest, s => (List.range (s.length + 1)).any fun i => fits rest (s.drop i)
  | .char c :: rest, d :: s => c == d && fits rest s
  | .one :: rest, _ :: s => fits rest s
  | .among negated ranges :: rest, d :: s =>
    (ranges.any fun (a, b) => a ≤ d && d ≤ b) != negated && fits rest s
  | _ :: _, [] => false

def dropStart (atoms : List Atom) (longest : Bool) (s : List Char) : List Char :=
  let sizes := List.range (s.length + 1)
  match (if longest then sizes.reverse else sizes).find? fun i => fits atoms (s.take i) with
  | some i => s.drop i
  | none => s

def dropEnd (atoms : List Atom) (longest : Bool) (s : List Char) : List Char :=
  let sizes := List.range (s.length + 1)
  match (if longest then sizes else sizes.reverse).find? fun i => fits atoms (s.drop i) with
  | some i => s.take i
  | none => s

end Pattern

end PartitionTest.Shell
