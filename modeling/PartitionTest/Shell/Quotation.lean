import PartitionTest.Text.Utf8

/-! How programs show a text in their messages so that nothing in it is
mistaken for something else. Texts have one character a byte. -/
namespace PartitionTest.Shell.Quotation

def letter? : Char → Option Char
  | '\x07' => some 'a'
  | '\x08' => some 'b'
  | '\x0c' => some 'f'
  | '\n' => some 'n'
  | '\r' => some 'r'
  | '\t' => some 't'
  | '\x0b' => some 'v'
  | _ => none

/-- Whether a character is shown as it is: all but controls and the separators
of lines and paragraphs. -/
def isShown (c : Char) : Bool :=
  let n := c.toNat
  (' ' ≤ c && c ≤ '~') || (0xA0 ≤ n && n != 0x2028 && n != 0x2029)

def escaped (c : Char) : List Char :=
  match letter? c with
  | some letter => ['\\', letter]
  | none =>
    let ds := Nat.toDigits 8 c.toNat
    '\\' :: (List.replicate (3 - ds.length) '0' ++ ds)

/-- The bytes of a character that is shown, or a byte that is not. -/
inductive Part where
  | shown (bytes : List Char)
  | hidden (byte : Char)
deriving DecidableEq, Repr, Inhabited

def parts : Nat → List Char → List Part
  | 0, _ | _, [] => []
  | n + 1, c :: rest =>
    match Text.Utf8.first? (((c :: rest).take 4).map fun c => c.toNat.toUInt8) with
    | some (d, size) =>
      let own := (c :: rest).take size
      (if isShown d then [.shown own] else own.map .hidden) ++ parts n ((c :: rest).drop size)
    | none => .hidden c :: parts n rest

def partsOf (s : String) : List Part := parts s.length s.toList

def bytesOf (c : Char) : List Char :=
  (Text.Utf8.encode [c]).map fun b => Char.ofNat b.toNat

def opening : List Char := bytesOf '‘'

def closing : List Char := bytesOf '’'

/-- A text between quotes, with backslashes in front of what would confuse. -/
def quoted (s : String) : String :=
  String.ofList (opening ++ (partsOf s).flatMap (fun
    | .shown own => if own == ['\\'] || own == closing then '\\' :: own else own
    | .hidden c => escaped c) ++ closing)

def isSpecial (c : Char) : Bool := " !\"$&()*;<=>[^\x60|\\'?".toList.contains c

def Part.isHidden : Part → Bool
  | .hidden _ => true
  | .shown _ => false

/-- Whether a text could be taken for more than one word by a shell. -/
def isRisky (s : String) : Bool :=
  s.isEmpty || s == "\x7b" || s == "\x7d" || s.startsWith "#" || s.startsWith "~" ||
    s.toList.any isSpecial || (partsOf s).any Part.isHidden

def isPlainInDouble (s : String) : Bool :=
  (partsOf s).all (!·.isHidden) && s.toList.all fun c => !"!\"$&()*;<=>[^\x60|\\?#~\x7b\x7d".toList.contains c

/-- The parts between single quotes; some are written as numbers between
quotes of their own. -/
def inSingle : Bool → List Part → List Char
  | _, [] => []
  | coded, .hidden c :: rest => (if coded then [] else "'$'".toList) ++ escaped c ++ inSingle true rest
  | coded, .shown own :: rest =>
    if own == ['\''] then "'\\''".toList ++ inSingle false rest
    else (if coded then ['\'', '\''] else []) ++ own ++ inSingle false rest

def shellQuoted (s : String) : String :=
  if s.toList.contains '\'' && isPlainInDouble s then "\"" ++ s ++ "\""
  else String.ofList ('\'' :: inSingle false (partsOf s) ++ ['\''])

/-- A path in front of a colon; it is only quoted where that is needed. -/
def inMessage (s : String) : String :=
  if isRisky s || s.toList.contains ':' then shellQuoted s else s

end PartitionTest.Shell.Quotation
