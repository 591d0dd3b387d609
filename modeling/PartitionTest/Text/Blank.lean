/-! Blank characters, and the three ways a text is cut at them. The blank set
is Unicode's `White_Space`, which is neither ASCII's nor core's. -/
namespace PartitionTest.Text

def isBlank (c : Char) : Bool :=
  let n := c.toNat
  (9 ≤ n && n ≤ 13) || n == 0x20 || n == 0x85 || n == 0xA0 || n == 0x1680 ||
  (0x2000 ≤ n && n ≤ 0x200A) || n == 0x2028 || n == 0x2029 || n == 0x202F ||
  n == 0x205F || n == 0x3000

/-- The pieces between the characters that satisfy `p`; one more than there
are such characters. -/
def split (p : Char → Bool) (s : List Char) : List (List Char) :=
  s.foldr (fun c pieces =>
    if p c then [] :: pieces else
      match pieces with
      | [] => [[c]]
      | piece :: rest => (c :: piece) :: rest) [[]]

def words (s : List Char) : List (List Char) :=
  (split isBlank s).filter fun w => !w.isEmpty

def dropReturn (line : List Char) : List Char :=
  if line.getLast? = some '\r' then line.dropLast else line

/-- Lines end at a line feed or at the end of the text. A line feed loses one
carriage return before it; a text that ends in a line feed has no line after it. -/
def lines (s : List Char) : List (List Char) :=
  let pieces := split (· == '\n') s
  let terminated := pieces.dropLast.map dropReturn
  match pieces.getLast? with
  | none | some [] => terminated
  | some last => terminated ++ [last]

def trimStart (s : List Char) : List Char :=
  s.dropWhile isBlank

def trimEnd (s : List Char) : List Char :=
  (s.reverse.dropWhile isBlank).reverse

def trim (s : List Char) : List Char :=
  trimEnd (trimStart s)

def join (sep : List Char) (parts : List (List Char)) : List Char :=
  sep.intercalate parts

end PartitionTest.Text
