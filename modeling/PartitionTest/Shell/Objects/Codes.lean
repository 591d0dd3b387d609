import PartitionTest.Shell.Machine
import PartitionTest.Shell.Objects.Numbers

/-! Codes: texts as bytes, and bytes as texts. Bytes are characters below 256. -/
namespace PartitionTest.Shell.Objects.Codes

inductive Reason where
  | start
  | continuation
  | ended
deriving DecidableEq, Repr, Inhabited

def Reason.text : Reason → String
  | start => "invalid start byte"
  | continuation => "invalid continuation byte"
  | ended => "unexpected end of data"

def secondBytes (first : Nat) : Nat × Nat :=
  if first = 0xE0 then (0xA0, 0xBF)
  else if first = 0xED then (0x80, 0x9F)
  else if first = 0xF0 then (0x90, 0xBF)
  else if first = 0xF4 then (0x80, 0x8F)
  else (0x80, 0xBF)

def size? (first : Nat) : Option Nat :=
  if first < 0x80 then some 1
  else if 0xC2 ≤ first && first ≤ 0xDF then some 2
  else if 0xE0 ≤ first && first ≤ 0xEF then some 3
  else if 0xF0 ≤ first && first ≤ 0xF4 then some 4
  else none

def front (first : Nat) (rest : List Nat) : Except (Nat × Reason) Nat :=
  match size? first with
  | none => .error (1, .start)
  | some size =>
    let good := rest.take (size - 1)
    let fits (i b : Nat) : Bool :=
      let (low, high) := if i = 0 then secondBytes first else (0x80, 0xBF)
      low ≤ b && b ≤ high
    let count := ((good.mapIdx fun i b => (i, b)).takeWhile fun (i, b) => fits i b).length
    if count = size - 1 then .ok size
    else .error (count + 1, if count = good.length then .ended else .continuation)

/-- The parts of bytes: those that are text, and those that are not. -/
def parts : Nat → List Nat → List (Except (Nat × Reason) (List Nat))
  | 0, _ | _, [] => []
  | n + 1, b :: bs =>
    match front b bs with
    | .ok size => .ok ((b :: bs).take size) :: parts n ((b :: bs).drop size)
    | .error (size, reason) => .error (size, reason) :: parts n ((b :: bs).drop size)

def fault? : Nat → List (Except (Nat × Reason) (List Nat)) → Option (Nat × Nat × Reason)
  | _, [] => none
  | place, .ok bs :: rest => fault? (place + bs.length) rest
  | place, .error (size, reason) :: _ => some (place, size, reason)

def named (s : String) : String :=
  match (s.toLower.replace "_" "-") with
  | "utf8" | "utf-8" => "utf-8"
  | "latin1" | "latin-1" | "iso-8859-1" | "iso8859-1" | "l1" => "latin-1"
  | "ascii" | "us-ascii" => "ascii"
  | other => other

def hexByte (n : Nat) : String :=
  let ds := Nat.toDigits 16 n
  "0x" ++ String.ofList (List.replicate (2 - ds.length) '0' ++ ds)

def placed (one several : String) (place size : Nat) : String :=
  if size = 1 then one ++ " in position " ++ toString place
  else several ++ " in position " ++ toString place ++ "-" ++ toString (place + size - 1)

def decoded (code errors s : String) : Numbers.Result String :=
  let bytes := s.toList.map Char.toNat
  let fail (message : String) : Numbers.Result String := .error ("UnicodeDecodeError", message)
  match named code with
  | "latin-1" => .ok s
  | "ascii" =>
    match bytes.findIdx? (128 ≤ ·), errors with
    | some i, "strict" => fail ("'ascii' codec can't decode byte " ++ hexByte ((bytes[i]?).getD 0) ++
        " in position " ++ toString i ++ ": ordinal not in range(128)")
    | _, "ignore" => .ok (String.ofList (s.toList.filter (·.toNat < 128)))
    | _, _ => .ok (String.ofList (s.toList.map fun c => if c.toNat < 128 then c else '\uFFFD'))
  | "utf-8" =>
    let all := parts (bytes.length + 1) bytes
    match fault? 0 all, errors with
    | some (place, size, reason), "strict" =>
      fail ("'utf-8' codec can't decode " ++
        placed ("byte " ++ hexByte ((bytes[place]?).getD 0)) "bytes" place size ++ ": " ++ reason.text)
    | _, "ignore" =>
      .ok (toUtf8 (String.ofList ((all.flatMap fun p => (p.toOption.getD [])).map Char.ofNat)))
    | _, _ => .ok (toUtf8 s)
  | _ => .error ("LookupError", "unknown encoding: " ++ code)

def shownChar (c : Char) : String :=
  let n := c.toNat
  let hex (width : Nat) : String :=
    let ds := Nat.toDigits 16 n
    String.ofList (List.replicate (width - ds.length) '0' ++ ds)
  if n < 256 then "\\x" ++ hex 2 else if n < 65536 then "\\u" ++ hex 4 else "\\U" ++ hex 8

def encoded (code errors s : String) : Numbers.Result String :=
  let cs := s.toList
  let within (name : String) (limit : Nat) : Numbers.Result String :=
    match cs.findIdx? (limit ≤ ·.toNat), errors with
    | some i, "strict" =>
      let bad := (cs.drop i).takeWhile (limit ≤ ·.toNat)
      .error ("UnicodeEncodeError", "'" ++ name ++ "' codec can't encode " ++
        placed ("character '" ++ shownChar (bad.headD ' ') ++ "'") "characters" i bad.length ++
        ": ordinal not in range(" ++ toString limit ++ ")")
    | _, "ignore" => .ok (String.ofList (cs.filter (·.toNat < limit)))
    | _, _ => .ok (String.ofList (cs.map fun c => if c.toNat < limit then c else '?'))
  match named code with
  | "utf-8" => .ok (ofUtf8 s)
  | "ascii" => within "ascii" 128
  | "latin-1" => within "latin-1" 256
  | _ => .error ("LookupError", "unknown encoding: " ++ code)

end PartitionTest.Shell.Objects.Codes
