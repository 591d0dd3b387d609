/-! A reproducible source of random words: the ChaCha stream cipher with eight
rounds, keyed by a seed that a congruential generator spreads over the key. -/
namespace PartitionTest.ChaCha

def rotateLeft (x : UInt32) (n : UInt32) : UInt32 :=
  (x <<< n) ||| (x >>> (32 - n))

def quarterRound (s : Array UInt32) (a b c d : Nat) : Array UInt32 :=
  let wa := s.getD a 0
  let wb := s.getD b 0
  let wc := s.getD c 0
  let wd := s.getD d 0
  let wa := wa + wb
  let wd := rotateLeft (wd ^^^ wa) 16
  let wc := wc + wd
  let wb := rotateLeft (wb ^^^ wc) 12
  let wa := wa + wb
  let wd := rotateLeft (wd ^^^ wa) 8
  let wc := wc + wd
  let wb := rotateLeft (wb ^^^ wc) 7
  (((s.setIfInBounds a wa).setIfInBounds b wb).setIfInBounds c wc).setIfInBounds d wd

def doubleRound (s : Array UInt32) : Array UInt32 :=
  let s := quarterRound s 0 4 8 12
  let s := quarterRound s 1 5 9 13
  let s := quarterRound s 2 6 10 14
  let s := quarterRound s 3 7 11 15
  let s := quarterRound s 0 5 10 15
  let s := quarterRound s 1 6 11 12
  let s := quarterRound s 2 7 8 13
  quarterRound s 3 4 9 14

def constants : Array UInt32 := #[0x61707865, 0x3320646e, 0x79622d32, 0x6b206574]

def block (key : Array UInt32) (counter : UInt64) : List UInt32 :=
  let start := constants ++ key ++ #[counter.toUInt32, (counter >>> 32).toUInt32, 0, 0]
  let mixed := doubleRound (doubleRound (doubleRound (doubleRound start)))
  (Array.zipWith (· + ·) mixed start).toList

/-- One step of the key generator, and the word it gives. -/
def keyStep (state : UInt64) : UInt64 × UInt32 :=
  let state := state * 6364136223846793005 + 11634580027462260723
  let x := (((state >>> 18) ^^^ state) >>> 27).toUInt32
  let r := (state >>> 59).toUInt32
  (state, if r == 0 then x else (x >>> r) ||| (x <<< (32 - r)))

def keyWords : Nat → UInt64 → List UInt32
  | 0, _ => []
  | n + 1, state =>
    let (state, w) := keyStep state
    w :: keyWords n state

def pairs : List UInt32 → List UInt64
  | low :: high :: ws => (low.toUInt64 ||| (high.toUInt64 <<< 32)) :: pairs ws
  | _ => []

structure Stream where
  key : Array UInt32
  counter : UInt64
  pending : List UInt64
deriving Inhabited

def Stream.ofSeed (seed : Nat) : Stream :=
  { key := (keyWords 8 (UInt64.ofNat seed)).toArray, counter := 0, pending := [] }

def Stream.next (s : Stream) : UInt64 × Stream :=
  match s.pending with
  | w :: ws => (w, { s with pending := ws })
  | [] =>
    let ws := pairs (block s.key s.counter)
    (ws.headD 0, { s with counter := s.counter + 1, pending := ws.drop 1 })

end PartitionTest.ChaCha
