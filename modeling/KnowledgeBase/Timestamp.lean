import KnowledgeBase.Number.Binary
import KnowledgeBase.Text.Blank

/-!
# Instants in UTC

An instant is a count of seconds from the start of 1970 and a count of nanoseconds within the
second.  In a leap second the nanoseconds go on past one thousand million.  Instants are written in
the format of RFC 3339 with the fewest fraction digits that are exact, in groups of three.

## Main definitions

* `Timestamp` — an instant.
* `Timestamp.dayNumber`, `Timestamp.civil` — calendar dates as day numbers, and back.
* `Timestamp.text` — the written form.
* `Timestamp.parse?` — reads a date, a time and an offset.
* `Timestamp.micros` — the instant to the microsecond, as a database column holds it.
-/

namespace KnowledgeBase

/-- An instant: seconds from the start of 1970, and nanoseconds within the second. -/
structure Timestamp where
  seconds : Int
  nanos : Nat
deriving DecidableEq

namespace Timestamp

/-! ### The calendar -/

/-- The days from the start of 1970 to a date.  Years are counted from March on, so that a leap day
ends its year. -/
def dayNumber (year : Int) (month day : Nat) : Int :=
  let y := if month ≤ 2 then year - 1 else year
  let era := y.fdiv 400
  let yearOfEra := y - era * 400
  let monthFromMarch := (month + 9) % 12
  let dayOfYear : Int := ((153 * monthFromMarch + 2) / 5 + day : Nat) - 1
  let dayOfEra := yearOfEra * 365 + yearOfEra / 4 - yearOfEra / 100 + dayOfYear
  era * 146097 + dayOfEra - 719468

/-- The year, month and day of a day number. -/
def civil (days : Int) : Int × Nat × Nat :=
  let z := days + 719468
  let era := z.fdiv 146097
  let dayOfEra := (z - era * 146097).toNat
  let yearOfEra := (dayOfEra - dayOfEra / 1460 + dayOfEra / 36524 - dayOfEra / 146096) / 365
  let dayOfYear := dayOfEra - (365 * yearOfEra + yearOfEra / 4 - yearOfEra / 100)
  let monthFromMarch := (5 * dayOfYear + 2) / 153
  let day := dayOfYear - (153 * monthFromMarch + 2) / 5 + 1
  let month := if monthFromMarch < 10 then monthFromMarch + 3 else monthFromMarch - 9
  let year := (yearOfEra : Int) + era * 400
  (if month ≤ 2 then year + 1 else year, month, day)

/-- Whether a year has a twenty-ninth of February. -/
def isLeap (year : Int) : Bool :=
  year % 4 == 0 && (year % 100 != 0 || year % 400 == 0)

/-- The number of days of a month, and zero outside January to December. -/
def daysIn (year : Int) (month : Nat) : Nat :=
  if month = 2 then (if isLeap year then 29 else 28)
  else if month = 4 || month = 6 || month = 9 || month = 11 then 30
  else if 1 ≤ month && month ≤ 12 then 31
  else 0

/-- The first year of the calendar. -/
def firstYear : Int := -262143

/-- The last year of the calendar. -/
def lastYear : Int := 262142

/-- Whether a second lies in a year of the calendar. -/
def inCalendar (seconds : Int) : Bool :=
  dayNumber firstYear 1 1 * 86400 ≤ seconds && seconds < dayNumber (lastYear + 1) 1 1 * 86400

/-! ### Writing -/

/-- A number in at least `width` decimal digits. -/
def padded (width n : Nat) : List Char :=
  let ds := Nat.toDigits 10 n
  List.replicate (width - ds.length) '0' ++ ds

/-- A year in at least four digits, with a sign outside the years zero to 9999. -/
def yearText (year : Int) : List Char :=
  if 0 ≤ year && year ≤ 9999 then padded 4 year.toNat
  else (if year < 0 then '-' else '+') :: padded 4 year.natAbs

/-- A date and a time of day to the second, `leap` telling the second that follows the last one of a
minute. -/
def clockText (seconds : Int) (leap : Bool) : List Char :=
  let (year, month, day) := civil (seconds.fdiv 86400)
  let s := (seconds.fmod 86400).toNat
  yearText year ++ '-' :: padded 2 month ++ '-' :: padded 2 day ++ 'T' :: padded 2 (s / 3600)
    ++ ':' :: padded 2 (s / 60 % 60) ++ ':' :: padded 2 (s % 60 + if leap then 1 else 0)

/-- The fraction of a second in the fewest of 0, 3, 6 or 9 digits that are exact. -/
def fractionText (nanos : Nat) : List Char :=
  if nanos = 0 then []
  else if nanos % 1000000 = 0 then '.' :: padded 3 (nanos / 1000000)
  else if nanos % 1000 = 0 then '.' :: padded 6 (nanos / 1000)
  else '.' :: padded 9 nanos

/-- The format of RFC 3339 in UTC. -/
def text (t : Timestamp) : String :=
  String.ofList (clockText t.seconds (1000000000 ≤ t.nanos) ++ fractionText (t.nanos % 1000000000)
    ++ ['Z'])

/-- The first second of the year 2000, from which databases count. -/
def epoch2000 : Int := 946684800

/-- Microseconds from the start of 2000, finer parts cut off towards it. -/
def micros (t : Timestamp) : Int :=
  ((t.seconds - epoch2000) * 1000000000 + t.nanos).tdiv 1000

/-- The instant a number of microseconds after the start of 2000. -/
def ofMicros (us : Int) : Timestamp :=
  ⟨epoch2000 + us.fdiv 1000000, (us.fmod 1000000).toNat * 1000⟩

/-- An instant to the microsecond, always with six fraction digits. -/
def microText (t : Timestamp) : String :=
  let t := ofMicros t.micros
  String.ofList (clockText t.seconds false ++ '.' :: padded 6 (t.nanos / 1000) ++ ['Z'])

/-! ### Reading -/

/-- What a reading step leaves: a value and the characters after it. -/
abbrev Step (α : Type) := List Char → Option (α × List Char)

/-- At least one and at most `limit` decimal digits. -/
def digits (limit : Nat) : Step Nat := fun cs =>
  let ds := (cs.take limit).takeWhile Char.isDigit
  if ds.isEmpty then none
  else some (ds.foldl (fun n c => 10 * n + (c.toNat - 0x30)) 0, cs.drop ds.length)

/-- White space, if any. -/
def blanks (cs : List Char) : List Char := cs.dropWhile Text.isSpace

/-- A given character. -/
def literal (c : Char) : Step Unit
  | d :: cs => if c = d then some ((), cs) else none
  | [] => none

/-- A year: up to four digits, or a sign and any number of digits. -/
def yearStep : Step Int
  | '-' :: cs => (digits cs.length cs).map fun (n, rest) => (-(n : Int), rest)
  | '+' :: cs => (digits cs.length cs).map fun (n, rest) => ((n : Int), rest)
  | cs => (digits 4 cs).map fun (n, rest) => ((n : Int), rest)

/-- The digits after the point as nanoseconds, those past the ninth being dropped. -/
def fractionStep : Step Nat
  | '.' :: cs =>
    let ds := cs.takeWhile Char.isDigit
    if ds.isEmpty then none
    else
      let kept := ds.take 9
      let n := kept.foldl (fun n c => 10 * n + (c.toNat - 0x30)) 0
      some (n * 10 ^ (9 - kept.length), cs.drop ds.length)
  | cs => some (0, cs)

/-- An offset from UTC in seconds: `Z`, `UTC`, or a sign, two digits of hours, two of minutes, with
a colon or white space between them or not. -/
def offsetStep (cs : List Char) : Option (Int × List Char) :=
  match cs with
  | 'Z' :: rest => some (0, rest)
  | 'z' :: rest => some (0, rest)
  | c :: rest =>
    if (cs.take 3).map Char.toLower = ['u', 't', 'c'] then some (0, cs.drop 3)
    else if c = '+' || c = '-' || c = '−' then
      match rest with
      | h1 :: h2 :: more =>
        if h1.isDigit && h2.isDigit then
          let more := more.dropWhile fun c => c == ':' || Text.isSpace c
          match more with
          | m1 :: m2 :: rest =>
            if m1.isDigit && m2.isDigit && m1 < '6' then
              let hours := (h1.toNat - 0x30) * 10 + (h2.toNat - 0x30)
              let minutes := (m1.toNat - 0x30) * 10 + (m2.toNat - 0x30)
              let size : Int := (hours * 3600 + minutes * 60 : Nat)
              some (if c = '+' then size else -size, rest)
            else none
          | _ => none
        else none
      | _ => none
    else none
  | [] => none

/-- The date and time of day as written, before the offset is taken off. -/
structure Reading where
  year : Int
  month : Nat
  day : Nat
  hour : Nat
  minute : Nat
  second : Nat
  nanos : Nat
  offset : Int

/-- A date, `T` or a blank, a time of day, and an offset. -/
def readingStep (cs : List Char) : Option (Reading × List Char) := do
  let (year, cs) ← yearStep (blanks cs)
  let ((), cs) ← literal '-' (blanks cs)
  let (month, cs) ← digits 2 (blanks cs)
  let ((), cs) ← literal '-' (blanks cs)
  let (day, cs) ← digits 2 (blanks cs)
  let cs ← match cs with
    | 'T' :: cs => some cs
    | 't' :: cs => some cs
    | ' ' :: cs => some cs
    | _ => none
  let (hour, cs) ← digits 2 (blanks cs)
  let ((), cs) ← literal ':' (blanks cs)
  let (minute, cs) ← digits 2 (blanks cs)
  let ((), cs) ← literal ':' (blanks cs)
  let (second, cs) ← digits 2 (blanks cs)
  let (nanos, cs) ← fractionStep cs
  let (offset, cs) ← offsetStep (blanks cs)
  some (⟨year, month, day, hour, minute, second, nanos, offset⟩, cs)

/-- The instant of a reading whose parts are in range.  The sixtieth second is a leap second,
offsets stay below a day, and the calendar holds the instant both as written and in UTC. -/
def ofReading? (r : Reading) : Option Timestamp :=
  let clock : Int := (r.hour * 3600 + r.minute * 60 + min r.second 59 : Nat)
  let seconds := dayNumber r.year r.month r.day * 86400 + clock
  if 1 ≤ r.day && r.day ≤ daysIn r.year r.month && r.hour < 24 && r.minute < 60 && r.second ≤ 60
      && r.offset.natAbs < 86400 && inCalendar seconds && inCalendar (seconds - r.offset) then
    some ⟨seconds - r.offset, r.nanos + if r.second = 60 then 1000000000 else 0⟩
  else none

/-- Reads an instant; nothing but white space may follow it. -/
def parse? (s : String) : Option Timestamp :=
  match readingStep s.toList with
  | some (r, rest) => if rest.all Text.isSpace then ofReading? r else none
  | none => none

end Timestamp

end KnowledgeBase
