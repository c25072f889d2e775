import KeyedPool.Text.Digits
import KeyedPool.Text.WhiteSpace

/-!
# Timestamps

Points in time as a calendar date and a time of day in UTC, with nanoseconds. They are written
in the form of RFC 3339 with as few decimals as are exact, in steps of three, and read from that
form with some freedom: numbers may be shorter, blanks may stand between the parts, and any
offset from UTC may be given.

* `KeyedPool.CivilDate`: a date of the calendar, extended to the past without change.
* `KeyedPool.Timestamp`: a point in time.
* `KeyedPool.Timestamp.written`: its text.
* `KeyedPool.Timestamp.read?`: the point in time that a text gives.
-/

namespace KeyedPool

/-! ### The calendar -/

/-- A date of the calendar. -/
structure CivilDate where
  /-- The year; the year before 1 is 0. -/
  year : Int
  /-- The month, from 1. -/
  month : Nat
  /-- The day of the month, from 1. -/
  day : Nat
deriving DecidableEq, Inhabited

namespace CivilDate

/-- Whether a year has 366 days. -/
def isLeapYear (year : Int) : Bool :=
  year % 4 == 0 && (year % 100 != 0 || year % 400 == 0)

/-- The number of days of a month. -/
def daysInMonth (year : Int) (month : Nat) : Nat :=
  if month = 2 then if isLeapYear year then 29 else 28
  else if month = 4 ∨ month = 6 ∨ month = 9 ∨ month = 11 then 30
  else 31

/-- The first year that can be represented. -/
def minYear : Int := -262143

/-- The last year that can be represented. -/
def maxYear : Int := 262142

/-- Whether the calendar has a date, within the years that can be represented. -/
def isValid (d : CivilDate) : Bool :=
  minYear ≤ d.year && d.year ≤ maxYear && 1 ≤ d.month && d.month ≤ 12 && 1 ≤ d.day &&
    d.day ≤ daysInMonth d.year d.month

/-- The day after. -/
def next (d : CivilDate) : CivilDate :=
  if d.day < daysInMonth d.year d.month then { d with day := d.day + 1 }
  else if d.month < 12 then ⟨d.year, d.month + 1, 1⟩
  else ⟨d.year + 1, 1, 1⟩

/-- The day before. -/
def previous (d : CivilDate) : CivilDate :=
  if 1 < d.day then { d with day := d.day - 1 }
  else if 1 < d.month then ⟨d.year, d.month - 1, daysInMonth d.year (d.month - 1)⟩
  else ⟨d.year - 1, 12, 31⟩

end CivilDate

/-- A point in time. -/
structure Timestamp where
  /-- The date in UTC. -/
  date : CivilDate
  /-- The hour of the day in UTC. -/
  hour : Nat
  /-- The minute of the hour. -/
  minute : Nat
  /-- The second of the minute; 60 in a second that was put in. -/
  second : Nat
  /-- The nanosecond of the second. -/
  nanos : Nat
deriving DecidableEq, Inhabited

namespace Timestamp

/-! ### Writing -/

/-- The year with four digits; one with more, or before the year 0, has a sign. -/
def writtenYear (year : Int) : String :=
  if 0 ≤ year ∧ year ≤ 9999 then Text.padded 4 year.toNat
  else (if year < 0 then "-" else "+") ++ Text.padded 4 year.natAbs

/-- The fraction of a second with 0, 3, 6 or 9 decimals, the fewest that are exact. -/
def writtenFraction (nanos : Nat) : String :=
  if nanos = 0 then ""
  else if nanos % 1000000 = 0 then "." ++ Text.padded 3 (nanos / 1000000)
  else if nanos % 1000 = 0 then "." ++ Text.padded 6 (nanos / 1000)
  else "." ++ Text.padded 9 nanos

/-- **The text of a point in time.** -/
def written (t : Timestamp) : String :=
  writtenYear t.date.year ++ "-" ++ Text.padded 2 t.date.month ++ "-" ++
    Text.padded 2 t.date.day ++ "T" ++ Text.padded 2 t.hour ++ ":" ++ Text.padded 2 t.minute ++
    ":" ++ Text.padded 2 t.second ++ writtenFraction t.nanos ++ "Z"

/-! ### Reading -/

/-- A text without white space in front. -/
def skipSpace (cs : List Char) : List Char := cs.dropWhile Text.isWhiteSpace

/-- A number with at least one digit and at most `width`, if a width is given. -/
def number (width : Option Nat) (cs : List Char) : Option (Nat × List Char) :=
  let run := cs.takeWhile Text.isDigit
  let run := (width.map run.take).getD run
  if run.isEmpty then none else some (Text.ofDigits 10 run, cs.drop run.length)

/-- The year: four digits at most, or any number of them after a sign. -/
def year : List Char → Option (Int × List Char)
  | '-' :: r => (number none r).map fun n => (-(n.1 : Int), n.2)
  | '+' :: r => (number none r).map fun n => ((n.1 : Int), n.2)
  | cs => (number (some 4) cs).map fun n => ((n.1 : Int), n.2)

/-- A number of one or two digits in some range, with white space around it. -/
def field (low high : Nat) (cs : List Char) : Option (Nat × List Char) := do
  let (n, cs) ← number (some 2) (skipSpace cs)
  if low ≤ n ∧ n ≤ high then some (n, cs) else none

/-- A character that must stand at the front, after white space. -/
def mark (c : Char) (cs : List Char) : Option (List Char) :=
  match skipSpace cs with
  | [] => none
  | d :: r => if d = c then some r else none

/-- The fraction of a second in nanoseconds: nine digits count, more are passed over. -/
def fraction : List Char → Option (Nat × List Char)
  | '.' :: r =>
    (number (some 9) r).map fun n =>
      (n.1 * Nat.pow 10 (9 - (r.length - n.2.length)), n.2.dropWhile Text.isDigit)
  | cs => some (0, cs)

/-- The minutes of an offset after its sign: two digits of hours, then two digits of minutes, with
colons and white space in between. -/
def offsetMinutes : List Char → Option (Nat × List Char)
  | h :: h' :: cs =>
    match cs.dropWhile fun c => c == ':' || Text.isWhiteSpace c with
    | m :: m' :: r =>
      if Text.isDigit h && Text.isDigit h' && Text.isDigit m && Text.isDigit m' && m ≤ '5' then
        some (Text.ofDigits 10 [h, h'] * 60 + Text.ofDigits 10 [m, m'], r)
      else none
    | _ => none
  | _ => none

/-- The offset from UTC in minutes: a sign with hours and minutes, or a name of UTC itself. -/
def offset : List Char → Option (Int × List Char)
  | '+' :: r => (offsetMinutes r).map fun n => ((n.1 : Int), n.2)
  | '-' :: r => (offsetMinutes r).map fun n => (-(n.1 : Int), n.2)
  | '\u2212' :: r => (offsetMinutes r).map fun n => (-(n.1 : Int), n.2)
  | c :: r =>
    if c = 'Z' ∨ c = 'z' then some (0, r)
    else
      match c.toLower, r with
      | 'u', t :: u :: r => if t.toLower = 't' ∧ u.toLower = 'c' then some (0, r) else none
      | _, _ => none
  | [] => none

/-- Minutes of a day that has 24 hours. -/
def minutesPerDay : Int := 1440

/-- The point in time that a local date and time of day with an offset from UTC stand for. -/
def ofLocal? (date : CivilDate) (hour minute second nanos : Nat) (offset : Int) :
    Option Timestamp :=
  let minutes := (hour * 60 + minute : Int) - offset
  let utcDate :=
    if minutes < 0 then date.previous else if minutesPerDay ≤ minutes then date.next else date
  let ofDay := (minutes % minutesPerDay).toNat
  if date.isValid ∧ utcDate.isValid ∧ offset.natAbs < minutesPerDay then
    some ⟨utcDate, ofDay / 60, ofDay % 60, second, nanos⟩
  else none

/-- **The point in time that a text gives.** -/
def read? (s : String) : Option Timestamp := do
  let (year, cs) ← year (skipSpace s.toList)
  let cs ← mark '-' cs
  let (month, cs) ← field 1 12 cs
  let cs ← mark '-' cs
  let (day, cs) ← field 1 31 cs
  match cs with
  | c :: cs =>
    if c = 't' ∨ c = 'T' ∨ c = ' ' then
      let (hour, cs) ← field 0 23 cs
      let cs ← mark ':' cs
      let (minute, cs) ← field 0 59 cs
      let cs ← mark ':' cs
      let (second, cs) ← field 0 60 cs
      let (nanos, cs) ← fraction cs
      let (offset, cs) ← offset (skipSpace cs)
      if (skipSpace cs).isEmpty then
        ofLocal? ⟨year, month, day⟩ hour minute second nanos offset
      else none
    else none
  | [] => none

end Timestamp

end KeyedPool
