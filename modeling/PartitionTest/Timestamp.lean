/-! Moments in time, counted in milliseconds from the start of 1970, and their
written form in universal time. -/
namespace PartitionTest.Timestamp

structure Date where
  year : Nat
  month : Nat
  day : Nat
deriving DecidableEq, Repr, Inhabited

def isLeap (year : Nat) : Bool := year % 4 == 0 && (year % 100 != 0 || year % 400 == 0)

def yearLength (year : Nat) : Nat := if isLeap year then 366 else 365

def monthLengths (year : Nat) : List Nat :=
  [31, if isLeap year then 29 else 28, 31, 30, 31, 30, 31, 31, 30, 31, 30, 31]

/-- The day after so many further days of a year. A year takes 365 of them at
least, so that the days themselves bound how many years pass. -/
def dayOf (year days : Nat) : Date :=
  if yearLength year ≤ days then dayOf (year + 1) (days - yearLength year)
  else
    let (month, day) := inMonth 1 days (monthLengths year)
    ⟨year, month, day + 1⟩
termination_by days
decreasing_by
  have : 0 < yearLength year := by unfold yearLength; split <;> decide
  omega
where
  inMonth (month days : Nat) : List Nat → Nat × Nat
    | [] => (month, days)
    | length :: rest =>
      if length ≤ days then inMonth (month + 1) (days - length) rest else (month, days)

def padded (width n : Nat) : String :=
  let digits := Nat.toDigits 10 n
  String.ofList (List.replicate (width - digits.length) '0' ++ digits)

def render (millis : Nat) : String :=
  let seconds := millis / 1000
  let date := dayOf 1970 (seconds / 86400)
  let day := String.intercalate "-" [padded 4 date.year, padded 2 date.month, padded 2 date.day]
  let time := String.intercalate ":"
    [padded 2 (seconds / 3600 % 24), padded 2 (seconds / 60 % 60), padded 2 (seconds % 60)]
  day ++ "T" ++ time ++ "." ++ padded 3 (millis % 1000) ++ "Z"

end PartitionTest.Timestamp
