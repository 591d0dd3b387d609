import PartitionTest.Shell.Utility.Lines

/-! Digests and checksums of files. -/
namespace PartitionTest.Shell.Utility.Digest

open Machine

def rotateLeft (x : UInt32) (n : UInt32) : UInt32 := (x <<< n) ||| (x >>> (32 - n))

def rotateRight (x : UInt32) (n : UInt32) : UInt32 := rotateLeft x (32 - n)

def rotateRight64 (x : UInt64) (n : UInt64) : UInt64 := (x >>> n) ||| (x <<< (64 - n))

def bytesOfNumber (count n : Nat) : List Nat :=
  (List.range count).map fun i => n / Nat.pow 256 i % 256

def numberOfBytes (bytes : List Nat) : Nat := bytes.foldl (fun n b => n * 256 + b) 0

/-- A message filled up to whole blocks: a bit, zeros and its length. -/
def padded (block lengthSize : Nat) (lastFirst : Bool) (message : List Nat) : List Nat :=
  let used := message.length + 1 + lengthSize
  let zeros := (block - used % block) % block
  let length := bytesOfNumber lengthSize (message.length * 8)
  message ++ 128 :: List.replicate zeros 0 ++ (if lastFirst then length else length.reverse)

def blocks (size : Nat) : Nat → List Nat → List (List Nat)
  | 0, _ | _, [] => []
  | n + 1, bytes => bytes.take size :: blocks size n (bytes.drop size)

def wordsOf (size : Nat) (lastFirst : Bool) (block : List Nat) : List Nat :=
  (blocks size block.length block).map fun word =>
    numberOfBytes (if lastFirst then word.reverse else word)

def hex (bytes : List Nat) : String :=
  String.ofList (bytes.flatMap fun b => [Nat.digitChar (b / 16), Nat.digitChar (b % 16)])

/-- Whole parts of the sine of 1, 2, …, 64, each times two to the power of 32. -/
def sines : List UInt32 := [
  0xd76aa478, 0xe8c7b756, 0x242070db, 0xc1bdceee, 0xf57c0faf, 0x4787c62a, 0xa8304613, 0xfd469501,
  0x698098d8, 0x8b44f7af, 0xffff5bb1, 0x895cd7be, 0x6b901122, 0xfd987193, 0xa679438e, 0x49b40821,
  0xf61e2562, 0xc040b340, 0x265e5a51, 0xe9b6c7aa, 0xd62f105d, 0x02441453, 0xd8a1e681, 0xe7d3fbc8,
  0x21e1cde6, 0xc33707d6, 0xf4d50d87, 0x455a14ed, 0xa9e3e905, 0xfcefa3f8, 0x676f02d9, 0x8d2a4c8a,
  0xfffa3942, 0x8771f681, 0x6d9d6122, 0xfde5380c, 0xa4beea44, 0x4bdecfa9, 0xf6bb4b60, 0xbebfbc70,
  0x289b7ec6, 0xeaa127fa, 0xd4ef3085, 0x04881d05, 0xd9d4d039, 0xe6db99e5, 0x1fa27cf8, 0xc4ac5665,
  0xf4292244, 0x432aff97, 0xab9423a7, 0xfc93a039, 0x655b59c3, 0x8f0ccc92, 0xffeff47d, 0x85845dd1,
  0x6fa87e4f, 0xfe2ce6e0, 0xa3014314, 0x4e0811a1, 0xf7537e82, 0xbd3af235, 0x2ad7d2bb, 0xeb86d391]

def shifts : List (List UInt32) := [[7, 12, 17, 22], [5, 9, 14, 20], [4, 11, 16, 23], [6, 10, 15, 21]]

structure Quad where
  a : UInt32
  b : UInt32
  c : UInt32
  d : UInt32

def quadStep (words : Array UInt32) (q : Quad) (i : Nat × UInt32) : Quad :=
  let (i, sine) := i
  let (mixed, index) := match i / 16 with
    | 0 => ((q.b &&& q.c) ||| (~~~q.b &&& q.d), i)
    | 1 => ((q.d &&& q.b) ||| (~~~q.d &&& q.c), 5 * i + 1)
    | 2 => (q.b ^^^ q.c ^^^ q.d, 3 * i + 5)
    | _ => (q.c ^^^ (q.b ||| ~~~q.d), 7 * i)
  let shift := ((shifts[i / 16]?.getD [])[i % 4]?).getD 0
  let sum := mixed + q.a + sine + words[index % 16]?.getD 0
  ⟨q.d, q.b + rotateLeft sum shift, q.b, q.c⟩

def md5 (message : List Nat) : List Nat :=
  let filled := padded 64 8 true message
  let last := (blocks 64 filled.length filled).foldl (fun q block =>
    let words := ((wordsOf 4 true block).map UInt32.ofNat).toArray
    let r := (sines.mapIdx fun i s => (i, s)).foldl (quadStep words) q
    ⟨q.a + r.a, q.b + r.b, q.c + r.c, q.d + r.d⟩)
    (Quad.mk 0x67452301 0xefcdab89 0x98badcfe 0x10325476)
  [last.a, last.b, last.c, last.d].flatMap fun w => bytesOfNumber 4 w.toNat

def extended (next : Array α → α) : Nat → Array α → Array α
  | 0, words => words
  | n + 1, words => extended next n (words.push (next words))

def back [Inhabited α] (words : Array α) (n : Nat) : α := words[words.size - n]?.getD default

structure Quint where
  a : UInt32
  b : UInt32
  c : UInt32
  d : UInt32
  e : UInt32

def quintStep (q : Quint) (w : Nat × UInt32) : Quint :=
  let (i, word) := w
  let (mixed, constant) : UInt32 × UInt32 := match i / 20 with
    | 0 => ((q.b &&& q.c) ||| (~~~q.b &&& q.d), 0x5a827999)
    | 1 => (q.b ^^^ q.c ^^^ q.d, 0x6ed9eba1)
    | 2 => ((q.b &&& q.c) ||| (q.b &&& q.d) ||| (q.c &&& q.d), 0x8f1bbcdc)
    | _ => (q.b ^^^ q.c ^^^ q.d, 0xca62c1d6)
  ⟨rotateLeft q.a 5 + mixed + q.e + constant + word, q.a, rotateLeft q.b 30, q.c, q.d⟩

def sha1 (message : List Nat) : List Nat :=
  let filled := padded 64 8 false message
  let last := (blocks 64 filled.length filled).foldl (fun q block =>
    let words := extended (fun ws => rotateLeft (back ws 3 ^^^ back ws 8 ^^^ back ws 14 ^^^ back ws 16) 1)
      64 ((wordsOf 4 false block).map UInt32.ofNat).toArray
    let r := (words.toList.mapIdx fun i w => (i, w)).foldl quintStep q
    ⟨q.a + r.a, q.b + r.b, q.c + r.c, q.d + r.d, q.e + r.e⟩)
    (Quint.mk 0x67452301 0xefcdab89 0x98badcfe 0x10325476 0xc3d2e1f0)
  [last.a, last.b, last.c, last.d, last.e].flatMap fun w => (bytesOfNumber 4 w.toNat).reverse

structure Octet (α : Type) where
  a : α
  b : α
  c : α
  d : α
  e : α
  f : α
  g : α
  h : α

namespace Octet

def ofList [Inhabited α] (ws : List α) : Octet α :=
  let word (i : Nat) : α := ws[i]?.getD default
  ⟨word 0, word 1, word 2, word 3, word 4, word 5, word 6, word 7⟩

def toList (o : Octet α) : List α := [o.a, o.b, o.c, o.d, o.e, o.f, o.g, o.h]

end Octet

structure Family (α : Type) where
  /-- Bytes of a word. -/
  size : Nat
  add : α → α → α
  bits : (UInt64 → UInt64 → UInt64) → α → α → α
  complement : α → α
  ofNat : Nat → α
  toNat : α → Nat
  /-- Mixtures of a word with itself. -/
  big0 : α → α
  big1 : α → α
  small0 : α → α
  small1 : α → α
  constants : List Nat

def cubeRoots64 : List Nat := [
  0x428a2f98d728ae22, 0x7137449123ef65cd, 0xb5c0fbcfec4d3b2f, 0xe9b5dba58189dbbc,
  0x3956c25bf348b538, 0x59f111f1b605d019, 0x923f82a4af194f9b, 0xab1c5ed5da6d8118,
  0xd807aa98a3030242, 0x12835b0145706fbe, 0x243185be4ee4b28c, 0x550c7dc3d5ffb4e2,
  0x72be5d74f27b896f, 0x80deb1fe3b1696b1, 0x9bdc06a725c71235, 0xc19bf174cf692694,
  0xe49b69c19ef14ad2, 0xefbe4786384f25e3, 0x0fc19dc68b8cd5b5, 0x240ca1cc77ac9c65,
  0x2de92c6f592b0275, 0x4a7484aa6ea6e483, 0x5cb0a9dcbd41fbd4, 0x76f988da831153b5,
  0x983e5152ee66dfab, 0xa831c66d2db43210, 0xb00327c898fb213f, 0xbf597fc7beef0ee4,
  0xc6e00bf33da88fc2, 0xd5a79147930aa725, 0x06ca6351e003826f, 0x142929670a0e6e70,
  0x27b70a8546d22ffc, 0x2e1b21385c26c926, 0x4d2c6dfc5ac42aed, 0x53380d139d95b3df,
  0x650a73548baf63de, 0x766a0abb3c77b2a8, 0x81c2c92e47edaee6, 0x92722c851482353b,
  0xa2bfe8a14cf10364, 0xa81a664bbc423001, 0xc24b8b70d0f89791, 0xc76c51a30654be30,
  0xd192e819d6ef5218, 0xd69906245565a910, 0xf40e35855771202a, 0x106aa07032bbd1b8,
  0x19a4c116b8d2d0c8, 0x1e376c085141ab53, 0x2748774cdf8eeb99, 0x34b0bcb5e19b48a8,
  0x391c0cb3c5c95a63, 0x4ed8aa4ae3418acb, 0x5b9cca4f7763e373, 0x682e6ff3d6b2b8a3,
  0x748f82ee5defb2fc, 0x78a5636f43172f60, 0x84c87814a1f0ab72, 0x8cc702081a6439ec,
  0x90befffa23631e28, 0xa4506cebde82bde9, 0xbef9a3f7b2c67915, 0xc67178f2e372532b,
  0xca273eceea26619c, 0xd186b8c721c0c207, 0xeada7dd6cde0eb1e, 0xf57d4f7fee6ed178,
  0x06f067aa72176fba, 0x0a637dc5a2c898a6, 0x113f9804bef90dae, 0x1b710b35131c471b,
  0x28db77f523047d84, 0x32caab7b40c72493, 0x3c9ebe0a15c9bebc, 0x431d67c49c100d4c,
  0x4cc5d4becb3e42b6, 0x597f299cfc657e2a, 0x5fcb6fab3ad6faec, 0x6c44198c4a475817]

def family32 : Family UInt32 where
  size := 4
  add := (· + ·)
  bits f a b := (f a.toUInt64 b.toUInt64).toUInt32
  complement x := ~~~x
  ofNat := UInt32.ofNat
  toNat := UInt32.toNat
  big0 x := rotateRight x 2 ^^^ rotateRight x 13 ^^^ rotateRight x 22
  big1 x := rotateRight x 6 ^^^ rotateRight x 11 ^^^ rotateRight x 25
  small0 x := rotateRight x 7 ^^^ rotateRight x 18 ^^^ (x >>> 3)
  small1 x := rotateRight x 17 ^^^ rotateRight x 19 ^^^ (x >>> 10)
  constants := (cubeRoots64.take 64).map (· / Nat.pow 2 32)

def family64 : Family UInt64 where
  size := 8
  add := (· + ·)
  bits f a b := f a b
  complement x := ~~~x
  ofNat := UInt64.ofNat
  toNat := UInt64.toNat
  big0 x := rotateRight64 x 28 ^^^ rotateRight64 x 34 ^^^ rotateRight64 x 39
  big1 x := rotateRight64 x 14 ^^^ rotateRight64 x 18 ^^^ rotateRight64 x 41
  small0 x := rotateRight64 x 1 ^^^ rotateRight64 x 8 ^^^ (x >>> 7)
  small1 x := rotateRight64 x 19 ^^^ rotateRight64 x 61 ^^^ (x >>> 6)
  constants := cubeRoots64

section

variable {α : Type} [Inhabited α] (k : Family α)

def octetStep (o : Octet α) (w : α × α) : Octet α :=
  let (word, constant) := w
  let both := k.bits (· &&& ·)
  let differ := k.bits (· ^^^ ·)
  let choice := differ (both o.e o.f) (both (k.complement o.e) o.g)
  let majority := differ (differ (both o.a o.b) (both o.a o.c)) (both o.b o.c)
  let t := k.add (k.add (k.add o.h (k.big1 o.e)) (k.add choice constant)) word
  ⟨k.add t (k.add (k.big0 o.a) majority), o.a, o.b, o.c, k.add o.d t, o.e, o.f, o.g⟩

def sha2 (start : List Nat) (length : Nat) (message : List Nat) : List Nat :=
  let block := 16 * k.size
  let filled := padded block (2 * k.size) false message
  let last := (blocks block filled.length filled).foldl (fun o bytes =>
    let words := extended (fun ws => k.add (k.add (k.small1 (back ws 2)) (back ws 7))
        (k.add (k.small0 (back ws 15)) (back ws 16))) (k.constants.length - 16)
      ((wordsOf k.size false bytes).map k.ofNat).toArray
    let r := (words.toList.zip (k.constants.map k.ofNat)).foldl (octetStep k) o
    Octet.ofList (List.zipWith k.add o.toList r.toList)) (Octet.ofList (start.map k.ofNat))
  (last.toList.flatMap fun w => (bytesOfNumber k.size (k.toNat w)).reverse).take length

end

def sha256 : List Nat → List Nat :=
  sha2 family32 [0x6a09e667, 0xbb67ae85, 0x3c6ef372, 0xa54ff53a, 0x510e527f, 0x9b05688c,
    0x1f83d9ab, 0x5be0cd19] 32

def sha224 : List Nat → List Nat :=
  sha2 family32 [0xc1059ed8, 0x367cd507, 0x3070dd17, 0xf70e5939, 0xffc00b31, 0x68581511,
    0x64f98fa7, 0xbefa4fa4] 28

def sha512 : List Nat → List Nat :=
  sha2 family64 [0x6a09e667f3bcc908, 0xbb67ae8584caa73b, 0x3c6ef372fe94f82b,
    0xa54ff53a5f1d36f1, 0x510e527fade682d1, 0x9b05688c2b3e6c1f, 0x1f83d9abfb41bd6b,
    0x5be0cd19137e2179] 64

def sha384 : List Nat → List Nat :=
  sha2 family64 [0xcbbb9d5dc1059ed8, 0x629a292a367cd507, 0x9159015a3070dd17,
    0x152fecd8f70e5939, 0x67332667ffc00b31, 0x8eb44a8768581511, 0xdb0c2e0d64f98fa7,
    0x47b5481dbefa4fa4] 48

def remainderBit (r : UInt32) : UInt32 :=
  if r &&& 0x80000000 != 0 then (r <<< 1) ^^^ 0x04c11db7 else r <<< 1

def remainderByte (r : UInt32) (b : Nat) : UInt32 :=
  (List.range 8).foldl (fun r _ => remainderBit r) (r ^^^ (UInt32.ofNat b <<< 24))

def cyclic (message : List Nat) : Nat :=
  let length := ((bytesOfNumber 8 message.length).reverse.dropWhile (· == 0)).reverse
  (~~~((message ++ length).foldl remainderByte 0)).toNat

def turned (message : List Nat) : Nat :=
  message.foldl (fun s b => (s / 2 + s % 2 * 32768 + b) % 65536) 0

def folded (message : List Nat) : Nat :=
  let s := message.foldl (· + ·) 0 % 4294967296
  let r := s % 65536 + s / 65536
  r % 65536 + r / 65536

structure Algorithm where
  tag : String
  digest : List Nat → List Nat

def md5Algorithm : Algorithm := ⟨"MD5", md5⟩
def sha1Algorithm : Algorithm := ⟨"SHA1", sha1⟩
def sha224Algorithm : Algorithm := ⟨"SHA224", sha224⟩
def sha256Algorithm : Algorithm := ⟨"SHA256", sha256⟩
def sha384Algorithm : Algorithm := ⟨"SHA384", sha384⟩
def sha512Algorithm : Algorithm := ⟨"SHA512", sha512⟩

/-- A file name on a line; one with a line feed or backslash is marked. -/
def escapedName (path : String) : String × String :=
  let escape : Char → List Char
    | '\n' => ['\\', 'n']
    | '\r' => ['\\', 'r']
    | '\\' => ['\\', '\\']
    | c => [c]
  let text := String.ofList (path.toList.flatMap escape)
  (if text == path then "" else "\\", text)

def Algorithm.line (a : Algorithm) (tagged binary : Bool) (path : String) (cs : List Char) : String :=
  let digest := hex (a.digest (cs.map Char.toNat))
  let (mark, text) := escapedName path
  if tagged then mark ++ a.tag ++ " (" ++ text ++ ") = " ++ digest ++ "\n"
  else mark ++ digest ++ (if binary then " *" else "  ") ++ text ++ "\n"

def claimOf? (a : Algorithm) (line : String) : Option (String × String) :=
  let cs := line.toList
  let lead := (a.tag ++ " (").toList
  if lead.isPrefixOf cs then
    let digest := (cs.reverse.takeWhile (· != ' ')).reverse
    let path := (cs.drop lead.length).take (cs.length - lead.length - digest.length - 4)
    some (String.ofList digest, String.ofList path)
  else
    let digest := cs.takeWhile Arithmetic.isHexDigit
    match cs.drop digest.length with
    | ' ' :: c :: path =>
      if (c = ' ' || c = '*') && digest.length = (a.digest []).length * 2 then
        some (String.ofList digest, String.ofList path)
      else none
    | _ => none

def check (a : Algorithm) (name : String) (o : Options) (path : String) (cs : List Char) : Run Bool := do
  let lines := (linesOf cs).1.map String.ofList
  let quiet := o.has 'q' || o.has 's'
  let claims := lines.filterMap (claimOf? a)
  if claims.isEmpty then
    say name ((if path == "-" then "'standard input'" else path) ++
      ": no properly formatted checksum lines found")
    return false
  else
    let (wrong, unread) ← claims.foldlM (fun (counts : Nat × Nat) (digest, file) => do
      match ← contents file with
      | .error e =>
        say name (plainComplaint file e)
        if !o.has 's' then put name (file ++ ": FAILED open or read\n")
        return (counts.1, counts.2 + 1)
      | .ok text =>
        if hex (a.digest (text.map Char.toNat)) == digest.map Char.toLower then
          if !quiet then put name (file ++ ": OK\n")
          return counts
        else
          if !o.has 's' then put name (file ++ ": FAILED\n")
          return (counts.1 + 1, counts.2)) (0, 0)
    let told (n : Nat) (one many : String) : Run Unit := do
      if 0 < n && !o.has 's' then
        say name ("WARNING: " ++ toString n ++ (if n = 1 then one else many))
    let odd := (lines.filter fun l => !l.isEmpty).length - claims.length
    told odd " line is improperly formatted" " lines are improperly formatted"
    told unread " listed file could not be read" " listed files could not be read"
    told wrong " computed checksum did NOT match" " computed checksums did NOT match"
    return wrong = 0 && unread = 0

def usage : Usage :=
  { flags := "bctTqsw", valued := "", long := [("binary", 'b'), ("check", 'c'), ("text", 't'),
    ("tag", 'T'), ("quiet", 'q'), ("status", 's'), ("warn", 'w')] }

def summer (a : Algorithm) : Program :=
  withOptions usage 1 fun name o => do
    if o.has 'c' then
      let paths := if o.operands.isEmpty then ["-"] else o.operands
      paths.foldlM (fun status path => do
        match ← contents path with
        | .error e => fail name (plainComplaint path e) 1
        | .ok cs => return if ← check a name o path cs then status else 1) 0
    else
      let binary := o.last? ['b', 't'] == some 'b'
      eachInput name plainComplaint 1 o.operands fun path cs =>
        put name (a.line (o.has 'T') binary path cs)

def cksum : Program :=
  withOptions { flags := "u", valued := "a", long := [("algorithm", 'a'), ("untagged", 'u')] } 1
    fun name o => do
      let shown (path : String) := if o.operands.isEmpty then "" else " " ++ path
      let algorithm? := [("md5", md5Algorithm), ("sha1", sha1Algorithm), ("sha224", sha224Algorithm),
        ("sha256", sha256Algorithm), ("sha384", sha384Algorithm), ("sha512", sha512Algorithm)].lookup
          ((o.value? 'a').getD "crc")
      eachInput name plainComplaint 1 o.operands fun path cs =>
        match algorithm? with
        | some a => put name (a.line (!o.has 'u') false path cs)
        | none => put name (toString (cyclic (cs.map Char.toNat)) ++ " " ++ toString cs.length ++
            shown path ++ "\n")

def sum : Program :=
  withOptions { flags := "rs", long := [("sysv", 's')] } 1 fun name o => do
    let shown (path : String) := if o.operands.isEmpty then "" else " " ++ path
    eachInput name plainComplaint 1 o.operands fun path cs =>
      let bytes := cs.map Char.toNat
      if o.last? ['r', 's'] == some 's' then
        put name (toString (folded bytes) ++ " " ++ toString ((bytes.length + 511) / 512) ++ shown path ++ "\n")
      else
        let digits := toString (turned bytes)
        put name (String.ofList (List.replicate (5 - digits.length) '0') ++ digits ++ " " ++
          padLeft 5 (toString ((bytes.length + 1023) / 1024)) ++ shown path ++ "\n")

end PartitionTest.Shell.Utility.Digest
