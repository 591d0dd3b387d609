import PartitionTest.Text.Letters
import PartitionTest.Text.Utf8
import Std.Data.HashSet.Basic

/-! Regular expressions and how they fit texts. What is read from a text is a
list of places; there are two ways to choose among them. The longest match
wins where alternatives have no order, the first one where they have. -/
namespace PartitionTest.Shell

/-! Texts that have one character a byte, and the same texts in characters of
their code. A byte that belongs to no character becomes one of the last plane,
so nothing is lost. -/
namespace Wide

def strayBase : Nat := 0x10FF00

def stray (c : Char) : Char := Char.ofNat (strayBase + c.toNat)

def isStray (c : Char) : Bool := strayBase ≤ c.toNat

def firstStray : Char := Char.ofNat (strayBase + 0x80)

def lastStray : Char := Char.ofNat (strayBase + 0xFF)

def ofBytes : Nat → List Char → List Char → List Char
  | 0, found, _ | _, found, [] => found.reverse
  | n + 1, found, c :: rest =>
    if c.toNat < 0x80 then ofBytes n (c :: found) rest
    else match Text.Utf8.first? (((c :: rest).take 4).map fun c => c.toNat.toUInt8) with
    | some (d, size) => ofBytes n (d :: found) (rest.drop (size - 1))
    | none => ofBytes n (stray c :: found) rest

def wide (cs : List Char) : List Char :=
  if cs.all (·.toNat < 0x80) then cs else ofBytes cs.length [] cs

def narrow (cs : List Char) : List Char :=
  if cs.all (·.toNat < 0x80) then cs
  else cs.flatMap fun c =>
    if isStray c then [Char.ofNat (c.toNat - strayBase)]
    else (Text.Utf8.encode [c]).map fun b => Char.ofNat b.toNat

end Wide

inductive CharKind where
  | letter
  | digit
  | word
  | space
  | upper
  | lower
  | alphanumeric
  | blank
  | control
  | punctuation
  | shown
  | graphic
  | hexDigit
deriving DecidableEq, Repr, Inhabited

namespace CharKind

def isPunctuation (c : Char) : Bool :=
  let n := c.toNat
  if n < 128 then '!' ≤ c && c ≤ '~' && !c.isAlphanum
  else 0xA0 ≤ n && n < 0x10FF00 && !Text.Letters.isLetter c && !Text.Letters.isSpace c &&
    !Text.Letters.isDecimal c

def has : CharKind → Char → Bool
  | letter, c => Text.Letters.isLetter c
  | digit, c => Text.Letters.isDecimal c
  | word, c => c = '_' || Text.Letters.isLetter c || Text.Letters.isDecimal c
  | space, c => Text.Letters.isSpace c
  | upper, c => Text.Letters.isUpper c
  | lower, c => Text.Letters.isLower c
  | alphanumeric, c => Text.Letters.isLetter c || Text.Letters.isDecimal c
  | blank, c => c = ' ' || c = '\t' || (128 ≤ c.toNat && c.toNat != 0xA0 && Text.Letters.isSpace c)
  | control, c => c.toNat < 32 || (127 ≤ c.toNat && c.toNat < 160)
  | punctuation, c => isPunctuation c
  | shown, c => (' ' ≤ c && c ≤ '~') || (160 ≤ c.toNat && c.toNat < 0x10FF00)
  | graphic, c => ('!' ≤ c && c ≤ '~') || (160 < c.toNat && c.toNat < 0x10FF00 && !Text.Letters.isSpace c)
  | hexDigit, c => c.isDigit || ('a' ≤ c && c ≤ 'f') || ('A' ≤ c && c ≤ 'F')

end CharKind

inductive CharMember where
  | range (first last : Char)
  | kind (k : CharKind)
  | notKind (k : CharKind)
deriving DecidableEq, Repr, Inhabited

namespace CharMember

def has (m : CharMember) (c : Char) : Bool :=
  match m with
  | range a b => a ≤ c && c ≤ b
  | kind k => k.has c
  | notKind k => !k.has c

def one (c : Char) : CharMember := range c c

/-- Whether a character is a member, or another one that differs only in case. -/
def hasFolded (m : CharMember) (c : Char) : Bool :=
  m.has c || m.has (Text.Letters.toLower c) || m.has (Text.Letters.toUpper c)

end CharMember

inductive Regex where
  | empty
  /-- Fits nowhere. -/
  | never
  | char (c : Char)
  | any
  | among (negated : Bool) (members : List CharMember)
  /-- The beginning of the text. -/
  | start
  | finish
  /-- The beginning of a line. -/
  | lineStart
  | lineFinish
  /-- The end of the text, or before a line feed that ends it. -/
  | nearFinish
  /-- A border between the inside and the outside of a word, or the lack of one. -/
  | border (there : Bool)
  | wordStart
  | wordEnd
  | concat (a b : Regex)
  | either (a b : Regex)
  /-- How often a part comes; as often as it can, or as rarely if it is lazy. -/
  | repeated (least : Nat) (most : Option Nat) (lazy : Bool) (a : Regex)
  /-- A part that is remembered by its number. -/
  | group (n : Nat) (a : Regex)
  /-- What a part has matched before. -/
  | again (n : Nat)
  /-- What must come next, or must not, without being taken. -/
  | ahead (wanted : Bool) (a : Regex)
  /-- What must stand before, in so many characters, or must not. -/
  | behind (wanted : Bool) (width : Nat) (a : Regex)
  /-- One of two, by whether a part has matched. -/
  | given (n : Nat) (a b : Regex)
  /-- A part that is not tried again once it has fitted. -/
  | once (a : Regex)
  /-- A part in which cases do not matter. -/
  | folded (a : Regex)
deriving Inhabited

namespace Regex

structure Part where
  number : Nat
  place : Nat
  text : List Char
deriving DecidableEq, Repr, Inhabited

/-- A place in a text: what is before it, last character first, what comes
after it, and what the parts have matched. -/
structure Spot where
  place : Nat := 0
  before : List Char := []
  rest : List Char
  parts : List Part := []
deriving DecidableEq, Repr, Inhabited

def isWord (c : Char) : Bool := CharKind.word.has c

namespace Spot

def inWord (s : Spot) : Bool × Bool :=
  ((s.before.head?.map isWord).getD false, (s.rest.head?.map isWord).getD false)

def over? (s : Spot) (fits : Char → Bool) : Option Spot :=
  match s.rest with
  | c :: rest =>
    if fits c then some { s with place := s.place + 1, before := c :: s.before, rest := rest } else none
  | [] => none

def between (a b : Spot) : List Char := a.rest.take (b.place - a.place)

def past (same : Char → Char → Bool) : List Char → Spot → Option Spot
  | [], s => some s
  | c :: cs, s => (s.over? (same c)).bind (past same cs)

def back? : Nat → Spot → Option Spot
  | 0, s => some s
  | n + 1, s =>
    match s.before with
    | c :: before => back? n { s with place := s.place - 1, before := before, rest := c :: s.rest }
    | [] => none

def part? (s : Spot) (n : Nat) : Option Part := s.parts.find? (·.number = n)

def remember (s : Spot) (n : Nat) (origin : Spot) : Spot :=
  { s with parts := ⟨n, origin.place, origin.between s⟩ :: s.parts.filter (·.number != n) }

end Spot

def Spot.ofText (text : List Char) : Spot := { rest := text }

def sameChar (folded : Bool) (a b : Char) : Bool :=
  a = b || (folded && Text.Letters.toLower a = Text.Letters.toLower b)

/-- A step that looks at the place alone: the place after it, if it fits. -/
def single? (folded : Bool) (s : Spot) : Regex → Option Spot
  | .char c => s.over? (sameChar folded c)
  | .any => s.over? fun _ => true
  | .among negated members =>
    s.over? fun c => members.any (if folded then (·.hasFolded c) else (·.has c)) != negated
  | .start => if s.before.isEmpty then some s else none
  | .finish => if s.rest.isEmpty then some s else none
  | .lineStart => if s.before.isEmpty || s.before.head? == some '\n' then some s else none
  | .lineFinish => if s.rest.isEmpty || s.rest.head? == some '\n' then some s else none
  | .nearFinish => if s.rest.isEmpty || s.rest == ['\n'] then some s else none
  | .border there => if (s.inWord.1 != s.inWord.2) == there then some s else none
  | .wordStart => if !s.inWord.1 && s.inWord.2 then some s else none
  | .wordEnd => if s.inWord.1 && !s.inWord.2 then some s else none
  | .again n =>
    match s.part? n with
    | some p => s.past (sameChar folded) p.text
    | none => none
  | .empty => some s
  | _ => none

/-- Whether an expression takes one character and looks at nothing else. -/
def isSingle : Regex → Bool
  | .char _ | .any | .among _ _ => true
  | _ => false

def walk (step : Spot → Option Spot) : Nat → Spot → List Spot → List Spot
  | 0, s, passed => s :: passed
  | n + 1, s, passed =>
    match step s with
    | some t => walk step n t (s :: passed)
    | none => s :: passed

/-- Places after at least and at most so many characters that fit, the last one first. -/
def run (folded : Bool) (least : Nat) (most : Option Nat) (a : Regex) (s : Spot) : List Spot :=
  let size := s.rest.length
  let all := walk (single? folded · a) (Nat.min size (most.getD size)) s []
  all.take (all.length - least)

/-- As often as it goes, the preferred way first. Only what moves on is tried again. -/
def repeatFirst (step : Spot → (Spot → Option Spot) → Option Spot) (lazy : Bool) :
    Nat → Nat → Option Nat → Spot → (Spot → Option Spot) → Option Spot
  | 0, least, _, s, k => if least = 0 then k s else none
  | n + 1, least, most, s, k =>
    let more (_ : Unit) : Option Spot :=
      if most == some 0 then none
      else step s fun t =>
        if t.place = s.place && least = 0 then none
        else repeatFirst step lazy n (least - 1) (most.map (· - 1)) t k
    if 0 < least then more ()
    else if lazy then (k s).orElse more
    else (more ()).orElse fun _ => k s

/-- The first way to fit from a place on that something else accepts. -/
def first (folded : Bool) : Regex → Spot → (Spot → Option Spot) → Option Spot
  | .concat a b, s, k => first folded a s fun t => first folded b t k
  | .either a b, s, k => (first folded a s k).orElse fun _ => first folded b s k
  | .repeated least most lazy a, s, k =>
    if a.isSingle then
      let spots := run folded least most a s
      (if lazy then spots.reverse else spots).findSome? k
    else repeatFirst (first folded a) lazy (s.rest.length + least + 1) least most s k
  | .group n a, s, k => first folded a s fun t => k (t.remember n s)
  | .ahead wanted a, s, k =>
    match first folded a s some with
    | some t => if wanted then k { s with parts := t.parts } else none
    | none => if wanted then none else k s
  | .behind wanted width a, s, k =>
    let found := (s.back? width).bind fun t =>
      first folded a t fun u => if u.place = s.place then some u else none
    match found with
    | some t => if wanted then k { s with parts := t.parts } else none
    | none => if wanted then none else k s
  | .given n a b, s, k => if (s.part? n).isSome then first folded a s k else first folded b s k
  | .once a, s, k => (first folded a s some).bind k
  | .folded a, s, k => first true a s k
  | r, s, k => (single? folded s r).bind k

def distinct (spots : List Spot) : List Spot :=
  match spots with
  | [] | [_] => spots
  | _ =>
    if spots.all (·.parts.isEmpty) then
      (spots.foldl (fun (seen, kept) s =>
        if seen.contains s.place then (seen, kept) else (seen.insert s.place, s :: kept))
        ((∅ : Std.HashSet Nat), ([] : List Spot))).2.reverse
    else spots.eraseDups

/-- What is known of places: those without parts by where they are. -/
structure Known where
  plain : Std.HashSet Nat := ∅
  all : List Spot := []

def Known.add (k : Known) (s : Spot) : Known :=
  { plain := if s.parts.isEmpty then k.plain.insert s.place else k.plain, all := s :: k.all }

def Known.has (k : Known) (s : Spot) : Bool :=
  if s.parts.isEmpty then k.plain.contains s.place else k.all.contains s

/-- All places that are reached from some by at most so many steps, with those known before. -/
def closure (step : Spot → List Spot) : Nat → Option Nat → List Spot → Known → List Spot
  | 0, _, _, known => known.all
  | n + 1, most, front, known =>
    if most == some 0 || front.isEmpty then known.all
    else
      let fresh := (distinct (front.flatMap step)).filter (!known.has ·)
      closure step n (most.map (· - 1)) fresh (fresh.foldl Known.add known)

/-- All places that can be reached from a place; the order does not matter.
Parts are remembered only if something asks for them again. -/
def reach (folded track : Bool) : Regex → Spot → List Spot
  | .concat a b, s => distinct ((reach folded track a s).flatMap (reach folded track b))
  | .either a b, s => distinct (reach folded track a s ++ reach folded track b s)
  | .repeated least most _ a, s =>
    if a.isSingle then run folded least most a s
    else
      let step := reach folded track a
      let base := (List.range least).foldl (fun spots _ => distinct (spots.flatMap step)) [s]
      closure step (s.rest.length + 1) (most.map (· - least)) base (base.foldl Known.add {})
  | .group n a, s =>
    let found := reach folded track a s
    if track then found.map (·.remember n s) else found
  | .folded a, s => reach true track a s
  | r, s => (first folded r s some).toList

def asksBack : Regex → Bool
  | .again _ | .given _ _ _ => true
  | .concat a b | .either a b => a.asksBack || b.asksBack
  | .repeated _ _ _ a | .group _ a | .ahead _ a | .behind _ _ a | .once a | .folded a => a.asksBack
  | _ => false

structure Match where
  origin : Spot
  ending : Spot
deriving Inhabited

namespace Match

def text (m : Match) : List Char := m.origin.between m.ending

def before (m : Match) : List Char := m.origin.before.reverse

def rest (m : Match) : List Char := m.ending.rest

def isEmpty (m : Match) : Bool := m.origin.place = m.ending.place

def part? (m : Match) (n : Nat) : Option (List Char) :=
  if n = 0 then some m.text else (m.ending.part? n).map (·.text)

end Match

/-- The longest match at a place of those that are allowed. Of several ways to
it the first one counts. -/
def longestAt? (folded : Bool) (allowed : Spot → Bool) (r : Regex) (s : Spot) : Option Match :=
  match (reach folded r.asksBack r s).filter allowed with
  | [] => none
  | t :: ts =>
    let best := ts.foldl (fun best t => Nat.max best t.place) t.place
    (r.first folded s fun t => if t.place = best then some t else none).map (⟨s, ·⟩)

def scan (found : Spot → Option Match) : Nat → Spot → Option Match
  | 0, s => found s
  | n + 1, s =>
    match found s with
    | some m => some m
    | none => (s.over? fun _ => true).bind (scan found n)

def find? (folded : Bool) (r : Regex) (s : Spot) : Option Match :=
  scan (r.longestAt? folded fun _ => true) s.rest.length s

def search? (folded : Bool) (r : Regex) (text : List Char) : Option Match :=
  r.find? folded (.ofText text)

def occurs (folded : Bool) (r : Regex) (text : List Char) : Bool :=
  (scan (fun s => (r.first folded s some).map (⟨s, ·⟩)) text.length (.ofText text)).isSome

end Regex

end PartitionTest.Shell
