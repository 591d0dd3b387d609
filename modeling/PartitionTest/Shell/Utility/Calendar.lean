import PartitionTest.Shell.Utility.Lines

/-! Dates and times of day. Days are counted from the first of January 1970. -/
namespace PartitionTest.Shell.Utility.Calendar

open Machine Quotation

/-- The number of a day; months and days may lie outside of their year and month. -/
def dayNumber (year month day : Int) : Int :=
  let months := year * 12 + (month - 1)
  /- Years that begin in March end with the day that not all of them have. -/
  let shifted := months - 2
  let y := shifted.fdiv 12
  let m := shifted.fmod 12
  365 * y + y.fdiv 4 - y.fdiv 100 + y.fdiv 400 + (153 * m + 2).fdiv 5 + day - 1 - 719468

def dateOf (number : Int) : Int × Int × Int :=
  let z := number + 719468
  let era := z.fdiv 146097
  let dayOfEra := z - era * 146097
  let yearOfEra := (dayOfEra - dayOfEra / 1460 + dayOfEra / 36524 - dayOfEra / 146096) / 365
  let dayOfYear := dayOfEra - (365 * yearOfEra + yearOfEra / 4 - yearOfEra / 100)
  let m := (5 * dayOfYear + 2) / 153
  let day := dayOfYear - (153 * m + 2) / 5 + 1
  let month := if m < 10 then m + 3 else m - 9
  (yearOfEra + era * 400 + (if month ≤ 2 then 1 else 0), month, day)

def weekday (number : Int) : Int := (number + 4).fmod 7

def isDate (year month day : Int) : Bool :=
  1 ≤ month && month ≤ 12 && 1 ≤ day &&
    dateOf (dayNumber year month day) == (year, month, day)

structure Moment where
  seconds : Int
  nanoseconds : Nat := 0

namespace Moment

def day (m : Moment) : Int := m.seconds.fdiv 86400

def inDay (m : Moment) : Int := m.seconds.fmod 86400

def date (m : Moment) : Int × Int × Int := dateOf m.day

def dayOfYear (m : Moment) : Int :=
  let (year, _, _) := m.date
  m.day - dayNumber year 1 1

def isoWeek (m : Moment) : Int × Int :=
  let fromMonday := (weekday m.day + 6).fmod 7
  let thursday := m.day - fromMonday + 3
  let (year, _, _) := dateOf thursday
  (year, (thursday - dayNumber year 1 1) / 7 + 1)

end Moment

def weekdays : List String :=
  ["Sunday", "Monday", "Tuesday", "Wednesday", "Thursday", "Friday", "Saturday"]

def months : List String :=
  ["January", "February", "March", "April", "May", "June", "July", "August", "September",
    "October", "November", "December"]

def nameOf (names : List String) (i : Int) : String := names[i.toNat]?.getD ""

def short (s : String) : String := String.ofList (s.toList.take 3)

structure Shape where
  /-- What fills the width: a zero, a blank or nothing. -/
  fill : Option Char := none
  upper : Bool := false
  swapped : Bool := false
  /-- Whether a year of more than four digits has a sign. -/
  plus : Bool := false
  width : Nat := 0

def Shape.number (s : Shape) (width : Nat) (fill : Char) (n : Int) : String :=
  let digits := toString n.natAbs
  let sign := if n < 0 then "-" else if s.plus && 4 ≤ width && 4 < digits.length then "+" else ""
  match s.fill with
  | some '-' => sign ++ digits
  | other =>
    let fill := other.getD fill
    let missing := Nat.max width s.width - digits.length - sign.length
    let filling := String.ofList (List.replicate missing fill)
    if fill = ' ' then filling ++ sign ++ digits else sign ++ filling ++ digits

def Shape.text (s : Shape) (text : String) : String :=
  let text := if s.upper then text.toUpper else text
  String.ofList (List.replicate (s.width - text.length)
    (if s.fill == some '0' then '0' else ' ')) ++ text

def part (m : Moment) (s : Shape) (plain : List Char → String) (c : Char) : Option String :=
  let (year, month, day) := m.date
  let hour := m.inDay / 3600
  let minute := m.inDay / 60 % 60
  let second := m.inDay % 60
  let half := if hour % 12 = 0 then 12 else hour % 12
  let name (names : List String) (i : Int) := nameOf names i
  let swap (text : String) := if s.swapped then text.toUpper else text
  match c with
  | '%' => some "%"
  | 'n' => some "\n"
  | 't' => some "\t"
  | 'a' => some (s.text (swap (short (name weekdays (weekday m.day)))))
  | 'A' => some (s.text (swap (name weekdays (weekday m.day))))
  | 'b' | 'h' => some (s.text (swap (short (name months (month - 1)))))
  | 'B' => some (s.text (swap (name months (month - 1))))
  | 'c' => some (s.text (plain "%a %b %e %H:%M:%S %Y".toList))
  | 'C' => some (s.number 2 '0' (year.fdiv 100))
  | 'd' => some (s.number 2 '0' day)
  | 'D' | 'x' => some (s.text (plain "%m/%d/%y".toList))
  | 'e' => some (s.number 2 ' ' day)
  | 'F' => some (s.text (plain "%+4Y-%m-%d".toList))
  | 'g' => some (s.number 2 '0' (m.isoWeek.1.fmod 100))
  | 'G' => some (s.number 4 '0' m.isoWeek.1)
  | 'H' => some (s.number 2 '0' hour)
  | 'I' => some (s.number 2 '0' half)
  | 'j' => some (s.number 3 '0' (m.dayOfYear + 1))
  | 'k' => some (s.number 2 ' ' hour)
  | 'l' => some (s.number 2 ' ' half)
  | 'm' => some (s.number 2 '0' month)
  | 'M' => some (s.number 2 '0' minute)
  | 'N' =>
    let digits := (toString m.nanoseconds).toList
    let digits := List.replicate (9 - digits.length) '0' ++ digits
    some (String.ofList (if s.width = 0 then digits
      else digits.take s.width ++ List.replicate (s.width - 9) '0'))
  | 'p' => some (s.text (if s.swapped then (if hour < 12 then "am" else "pm")
      else if hour < 12 then "AM" else "PM"))
  | 'P' => some (s.text (if hour < 12 then "am" else "pm"))
  | 'q' => some (s.number 1 '0' ((month - 1) / 3 + 1))
  | 'r' => some (s.text (plain "%I:%M:%S %p".toList))
  | 'R' => some (s.text (plain "%H:%M".toList))
  | 's' => some (s.number 1 '0' m.seconds)
  | 'S' => some (s.number 2 '0' second)
  | 'T' | 'X' => some (s.text (plain "%H:%M:%S".toList))
  | 'u' => some (s.number 1 '0' (if weekday m.day = 0 then 7 else weekday m.day))
  | 'U' => some (s.number 2 '0' ((m.dayOfYear + 7 - weekday m.day) / 7))
  | 'V' => some (s.number 2 '0' m.isoWeek.2)
  | 'w' => some (s.number 1 '0' (weekday m.day))
  | 'W' => some (s.number 2 '0' ((m.dayOfYear + 7 - (weekday m.day + 6) % 7) / 7))
  | 'y' => some (s.number 2 '0' (year.fmod 100))
  | 'Y' => some (s.number (if year < 0 then 5 else 4) '0' year)
  | 'z' => some "+0000"
  | 'Z' => some (s.text (if s.swapped then "utc" else "UTC"))
  | _ => none

def format (m : Moment) : Nat → List Char → String
  | 0, _ | _, [] => ""
  | n + 1, '%' :: cs =>
    let flags := cs.takeWhile "_-0^#+".toList.contains
    let rest := cs.drop flags.length
    let digits := rest.takeWhile Char.isDigit
    let rest := rest.drop digits.length
    let rest := match rest with
      | 'E' :: c :: more | 'O' :: c :: more => c :: more
      | rest => rest
    let s : Shape := {
      fill := ((flags.filter "_-0".toList.contains).getLast?).map fun c => if c = '_' then ' ' else c
      plus := flags.contains '+'
      upper := flags.contains '^', swapped := flags.contains '#', width := Format.naturalOf digits }
    match rest with
    | ':' :: 'z' :: more => "+00:00" ++ format m n more
    | ':' :: ':' :: 'z' :: more => "+00:00:00" ++ format m n more
    | c :: more =>
      match part m s (format m n) c with
      | some text => text ++ format m n more
      | none => String.ofList ('%' :: cs.take (cs.length - more.length)) ++ format m n more
    | [] => String.ofList ('%' :: cs)
  | n + 1, c :: cs => String.singleton c ++ format m n cs

structure Reading where
  /-- Seconds counted from the first of January 1970. -/
  exact : Option Moment := none
  date : Option (Int × Int × Int) := none
  /-- Seconds in the day. -/
  time : Option (Int × Nat) := none
  /-- How far the clock of the zone is ahead, in seconds. -/
  zone : Option Int := none
  /-- A day of the week, and how many weeks on. -/
  dayOfWeek : Option (Int × Int) := none
  months : Int := 0
  days : Int := 0
  seconds : Int := 0

/-- A word, a number with its sign and digits, or another character. -/
inductive Symbol where
  | word (s : String)
  | number (sign : Option Char) (digits : List Char)
  | sign (c : Char)
deriving DecidableEq, Repr

def symbols : Nat → List Char → List Symbol
  | 0, _ | _, [] => []
  | n + 1, c :: cs =>
    if isBlank c then symbols n cs
    else if c.isAlpha then
      let word := (c :: cs).takeWhile fun d => d.isAlpha || d = '.'
      .word (String.ofList (word.map Char.toLower)) :: symbols n ((c :: cs).drop word.length)
    else if c.isDigit then
      let digits := (c :: cs).takeWhile Char.isDigit
      .number none digits :: symbols n ((c :: cs).drop digits.length)
    else if (c = '+' || c = '-') && (cs.head?.map Char.isDigit).getD false then
      let digits := cs.takeWhile Char.isDigit
      .number (some c) digits :: symbols n (cs.drop digits.length)
    else .sign c :: symbols n cs

def value (digits : List Char) : Int := Format.naturalOf digits

/-- A month or day of the week by its name or the beginning of it. -/
def named? (names : List String) (word : String) : Option Int :=
  let word := if word.endsWith "." then String.ofList word.toList.dropLast else word
  (names.findIdx? fun name =>
    name.toLower == word || (short name).toLower == word || (word == "sept" && name == "September")
      || (word == "tues" && name == "Tuesday") || (word == "wednes" && name == "Wednesday")
      || (word == "thur" && name == "Thursday") || (word == "thurs" && name == "Thursday")).map
    fun (i : Nat) => (i : Int)

def unit? (word : String) : Option (Int × Int × Int) :=
  let word := if word.endsWith "s" && word != "s" then String.ofList word.toList.dropLast else word
  match word with
  | "year" => some (12, 0, 0)
  | "month" => some (1, 0, 0)
  | "fortnight" => some (0, 14, 0)
  | "week" => some (0, 7, 0)
  | "day" => some (0, 1, 0)
  | "hour" => some (0, 0, 3600)
  | "minute" | "min" => some (0, 0, 60)
  | "second" | "sec" => some (0, 0, 1)
  | _ => none

def Reading.move (r : Reading) (count : Int) (span : Int × Int × Int) : Reading :=
  { r with months := r.months + count * span.1, days := r.days + count * span.2.1
           seconds := r.seconds + count * span.2.2 }

def ordinal? : String → Option Int
  | "last" => some (-1)
  | "this" => some 0
  | "next" | "first" => some 1
  | "third" => some 3
  | "fourth" => some 4
  | "fifth" => some 5
  | "sixth" => some 6
  | "seventh" => some 7
  | "eighth" => some 8
  | "ninth" => some 9
  | "tenth" => some 10
  | "eleventh" => some 11
  | "twelfth" => some 12
  | _ => none

def signed (sign : Option Char) (n : Int) : Int := if sign == some '-' then -n else n

def fullYear (digits : List Char) : Int :=
  let n := value digits
  if digits.length ≤ 2 then (if n < 69 then n + 2000 else n + 1900) else n

def offsetOf (sign : Char) (hours minutes : Int) : Int :=
  signed (some sign) (hours * 3600 + minutes * 60)

/-- Seconds in a day from what a clock shows; some clocks count to twelve. -/
def clock? (hour minute second : Int) (half : Option Bool) : Option Int :=
  let hour? := match half with
    | none => if 0 ≤ hour && hour ≤ 23 then some hour else none
    | some afternoon => if 1 ≤ hour && hour ≤ 12 then
        some (hour % 12 + (if afternoon then 12 else 0)) else none
  hour?.bind fun hour =>
    if minute ≤ 59 && second ≤ 60 then some (hour * 3600 + minute * 60 + second) else none

def half? : List Symbol → Option (Bool × List Symbol)
  | .word w :: rest =>
    if w == "am" || w == "a.m." then some (false, rest)
    else if w == "pm" || w == "p.m." then some (true, rest) else none
  | _ => none

def zoneAfter (r : Reading) : List Symbol → Reading × List Symbol
  | .number (some sign) digits :: .sign ':' :: .number none minutes :: rest =>
    ({ r with zone := some (offsetOf sign (value digits) (value minutes)) }, rest)
  | .number (some sign) digits :: rest =>
    if digits.length ≤ 2 then ({ r with zone := some (offsetOf sign (value digits) 0) }, rest)
    else if digits.length ≤ 4 then
      ({ r with zone := some (offsetOf sign (value digits / 100) (value digits % 100)) }, rest)
    else (r, .number (some sign) digits :: rest)
  | rest => (r, rest)

def timeAfter (r : Reading) (hour : List Char) : List Symbol → Option (Reading × List Symbol)
  | .sign ':' :: .number none minute :: rest =>
    let (second, nanos, rest) : Int × Nat × List Symbol := match rest with
      | .sign ':' :: .number none second :: .sign '.' :: .number none fraction :: rest =>
        (value second, Format.naturalOf ((fraction ++ List.replicate 9 '0').take 9), rest)
      | .sign ':' :: .number none second :: rest => (value second, 0, rest)
      | rest => (0, 0, rest)
    let (half, rest) := match half? rest with
      | some (afternoon, rest) => (some afternoon, rest)
      | none => (none, rest)
    (clock? (value hour) (value minute) second half).bind fun t =>
      if r.time.isSome then none
      else some (if half.isSome then ({ r with time := some (t, nanos) }, rest)
        else zoneAfter { r with time := some (t, nanos) } rest)
  | rest =>
    (half? rest).bind fun (afternoon, rest) =>
      (clock? (value hour) 0 0 (some afternoon)).bind fun t =>
        if r.time.isSome then none else some ({ r with time := some (t, 0) }, rest)

def Reading.dated (r : Reading) (year month day : Int) : Option Reading :=
  if r.date.isSome || !isDate year month day then none
  else some { r with date := some (year, month, day) }

def spanAfter (r : Reading) (count : Int) (span : Int × Int × Int) :
    List Symbol → Reading × List Symbol
  | .word "ago" :: rest => (r.move (-count) span, rest)
  | rest => (r.move count span, rest)

def item (year : Int) (r : Reading) : List Symbol → Option (Reading × List Symbol)
  | .sign '@' :: .number sign digits :: .sign '.' :: .number none fraction :: [] =>
    let nanos := Format.naturalOf ((fraction ++ List.replicate 9 '0').take 9)
    some ({ r with exact := some (if sign == some '-' && nanos != 0 then
      ⟨-(value digits) - 1, 1000000000 - nanos⟩ else ⟨signed sign (value digits), nanos⟩) }, [])
  | .sign '@' :: .number sign digits :: rest =>
    some ({ r with exact := some ⟨signed sign (value digits), 0⟩ }, rest)
  | .number none y :: .number (some '-') m :: .number (some '-') d :: rest => do
    let r ← if y.length ≤ 2 && 4 ≤ d.length then r.dated (value d) (value m) (value y)
      else r.dated (fullYear y) (value m) (value d)
    match rest with
    | .word "t" :: rest => some (r, rest)
    | rest => some (r, rest)
  | .number none d :: .sign '-' :: .word m :: .number (some '-') y :: rest
  | .number none d :: .word m :: .number none y :: rest
  | .number none d :: .word m :: .sign ',' :: .number none y :: rest =>
    match named? months m with
    | some month =>
      match rest with
      | .sign ':' :: _ => (r.dated year (month + 1) (value d)).map fun r => (r, .number none y :: rest)
      | _ => (r.dated (fullYear y) (month + 1) (value d)).map fun r => (r, rest)
    | none =>
      match unit? m with
      | some span => some (spanAfter r (value d) span (.number none y :: rest))
      | none => none
  | .word m :: .number none d :: .sign ',' :: .number none y :: rest =>
    (named? months m).bind fun month =>
      (r.dated (fullYear y) (month + 1) (value d)).map fun r => (r, rest)
  | .word m :: .number none d :: .number none y :: rest =>
    match named? months m, rest with
    | some month, .sign ':' :: _ =>
      (r.dated year (month + 1) (value d)).map fun r => (r, .number none y :: rest)
    | some month, _ => (r.dated (fullYear y) (month + 1) (value d)).map fun r => (r, rest)
    | none, _ => word r m (.number none d :: .number none y :: rest)
  | .word m :: .number none d :: rest =>
    match named? months m with
    | some month => (r.dated year (month + 1) (value d)).map fun r => (r, rest)
    | none => word r m (.number none d :: rest)
  | .number none m :: .sign '/' :: .number none d :: .sign '/' :: .number none y :: rest =>
    if 4 ≤ m.length then (r.dated (value m) (value d) (value y)).map fun r => (r, rest)
    else (r.dated (fullYear y) (value m) (value d)).map fun r => (r, rest)
  | .number none m :: .sign '/' :: .number none d :: rest =>
    (r.dated year (value m) (value d)).map fun r => (r, rest)
  | .number sign digits :: .word w :: rest =>
    match unit? w, half? (.word w :: rest), named? months w with
    | some span, _, _ => some (spanAfter r (signed sign (value digits)) span rest)
    | none, some _, _ => timeAfter r digits (.word w :: rest)
    | none, none, some month => (r.dated year (month + 1) (value digits)).map fun r => (r, rest)
    | none, none, none => bare r digits (.word w :: rest)
  | .number none digits :: rest =>
    match timeAfter r digits rest with
    | some found => some found
    | none => bare r digits rest
  | .word w :: rest => word r w rest
  | .sign ',' :: rest => some (r, rest)
  | _ => none
where
  /-- A number alone: a date, or a time of day. -/
  bare (r : Reading) (digits : List Char) (rest : List Symbol) : Option (Reading × List Symbol) :=
    if 8 ≤ digits.length && r.date.isNone then
      let n := value digits
      (r.dated (n / 10000) (n / 100 % 100) (n % 100)).map fun r => (r, rest)
    else if digits.length ≤ 4 && r.time.isNone then
      let n := value digits
      let (hour, minute) := if digits.length ≤ 2 then (n, 0) else (n / 100, n % 100)
      (clock? hour minute 0 none).map fun t => ({ r with time := some (t, 0) }, rest)
    else none
  word (r : Reading) (w : String) (rest : List Symbol) : Option (Reading × List Symbol) :=
    match w with
    | "now" | "today" => some (r, rest)
    | "tomorrow" => some (r.move 1 (0, 1, 0), rest)
    | "yesterday" => some (r.move (-1) (0, 1, 0), rest)
    | "utc" | "gmt" | "z" => some ({ r with zone := some 0 }, rest)
    | "noon" => some ({ r with time := some (43200, 0) }, rest)
    | "midnight" => some ({ r with time := some (0, 0) }, rest)
    | _ =>
      match ordinal? w, rest with
      | some n, .word u :: rest =>
        match unit? u, named? weekdays u with
        | some span, _ => some (spanAfter r n span rest)
        | none, some d => some ({ r with dayOfWeek := some (d, n) }, rest)
        | none, none => none
      | _, _ =>
        match named? weekdays w, unit? w with
        | some d, _ => some ({ r with dayOfWeek := some (d, 0) }, rest)
        | none, some span => some (spanAfter r 1 span rest)
        | none, none => none

def items (year : Int) : Nat → List Symbol → Reading → Option Reading
  | _, [], r => some r
  | 0, _, _ => none
  | n + 1, ss, r => (item year r ss).bind fun (r, rest) => items year n rest r

def moment? (now : Moment) (text : String) : Option Moment := do
  let (year, month, day) := now.date
  let ss := symbols (text.length + 1) text.toList
  let r ← items year (ss.length + 1) ss {}
  match r.exact with
  | some m =>
    let seconds := m.seconds + r.days * 86400 + r.seconds
    if seconds < Int64.minValue.toInt || Int64.maxValue.toInt < seconds then none
    else return { m with seconds := seconds }
  | none =>
    let (year', month', day') := r.date.getD (year, month, day)
    let isDay := r.date.isSome || r.dayOfWeek.isSome || ss.isEmpty || r.time.isSome
    let (time, nanos) := r.time.getD (if isDay then (0, 0) else (now.inDay, now.nanoseconds))
    let number := dayNumber year' (month' + r.months) (day' + r.days)
    let number := match r.dayOfWeek with
      | some (d, weeks) =>
        let ahead := (d - weekday number).fmod 7
        number + ahead + 7 * (if 0 < weeks && ahead != 0 then weeks - 1 else weeks)
      | none => number
    return ⟨number * 86400 + time + r.seconds - r.zone.getD 0, nanos⟩

def start : Moment := ⟨1735689600, 0⟩

/-- How exactly a date is written: the name of its last part, which may be cut short. -/
def precision? (given : String) : Option String :=
  match ["date", "hours", "minutes", "seconds", "ns"].filter fun p => p.startsWith given with
  | [p] => some p
  | _ => none

def isoFormat (precision : String) : String :=
  match precision with
  | "hours" => "%Y-%m-%dT%H%:z"
  | "minutes" => "%Y-%m-%dT%H:%M%:z"
  | "seconds" => "%Y-%m-%dT%H:%M:%S%:z"
  | "ns" => "%Y-%m-%dT%H:%M:%S,%N%:z"
  | _ => "%Y-%m-%d"

def plainFormat (precision : String) : String :=
  match precision with
  | "seconds" => "%Y-%m-%d %H:%M:%S%:z"
  | "ns" => "%Y-%m-%d %H:%M:%S.%N%:z"
  | _ => "%Y-%m-%d"

def date : Program := fun name args =>
  withOptions { flags := "uR", valued := "dfIrsξ", long := [("utc", 'u'), ("universal", 'u'),
    ("date", 'd'), ("file", 'f'), ("iso-8601", 'I'), ("reference", 'r'), ("rfc-email", 'R'),
    ("rfc-2822", 'R'), ("rfc-3339", 'ξ'), ("set", 's')] } 1 (fun name o => do
    let now : Moment := ⟨start.seconds + (← get).clock / 1000000, (← get).clock % 1000000 * 1000⟩
    let standard := match (o.value? 'I').bind precision?, (o.value? 'ξ').bind precision? with
      | some p, _ => isoFormat p
      | none, some p => plainFormat p
      | none, none =>
        if o.has 'R' then "%a, %d %b %Y %H:%M:%S %z" else "%a %b %e %H:%M:%S %Z %Y"
    let written (f text : String) : Run Nat := do
      match moment? now text with
      | some m =>
        if m.date.1 < 1900 - 2147483648 || 1900 + 2147483647 < m.date.1 then
          fail name ("time " ++ quoted (toString m.seconds) ++ " is out of range") 1
        else
          put name (format m (f.length + 10) f.toList ++ "\n")
          return 0
      | none => fail name ("invalid date " ++ quoted text) 1
    let withFormat (f : String) : Run Nat := do
      match o.value? 'f', o.value? 'd' with
      | some path, _ =>
        match ← contents path with
        | .error e => fail name (plainComplaint path e) 1
        | .ok cs => (linesOf cs).1.foldlM (fun status line => do
            return Nat.max status (← written f (String.ofList line))) 0
      | none, some text => written f text
      | none, none => written f "now"
    match o.operands with
    | [] => withFormat standard
    | [f] =>
      if f.startsWith "+" then withFormat (String.ofList (f.toList.drop 1))
      else if o.has 'd' || o.has 'f' then
        misused name ("the argument " ++ quoted f ++ " lacks a leading '+';\n" ++
          "when using an option to specify date(s), any non-option\n" ++
          "argument must be a format string beginning with '+'") 1
      else fail name ("invalid date " ++ quoted f) 1
    | _ :: extra :: _ => misused name ("extra operand " ++ quoted extra) 1) name
    (args.map fun arg => if arg == "-I" then "-Idate" else if arg == "--iso-8601" then "-Idate" else arg)

end PartitionTest.Shell.Utility.Calendar
