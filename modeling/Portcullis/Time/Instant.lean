import Portcullis.Text.Blank
import Portcullis.Text.Digits
/-! Instants: a date and a time of day, in universal time.

The calendar is the Gregorian one, run on in both directions over the years the audit
trail can carry. A time of day may name the sixtieth second of any minute, for a leap
second. -/
namespace Portcullis

namespace Calendar

def isLeap (year : Int) : Bool := year % 4 = 0 && (year % 100 ≠ 0 || year % 400 = 0)

def daysIn (year : Int) (month : Nat) : Nat :=
  match month with
  | 2 => if isLeap year then 29 else 28
  | 4 | 6 | 9 | 11 => 30
  | _ => 31

/-- The first year there is. -/
def firstYear : Int := -262143

/-- The last year there is. -/
def lastYear : Int := 262142

end Calendar

open Calendar

/-- A day of the calendar. -/
structure Date where
  year : Int
  month : Nat
  day : Nat
  year_le : firstYear ≤ year ∧ year ≤ lastYear
  month_le : 1 ≤ month ∧ month ≤ 12
  day_le : 1 ≤ day ∧ day ≤ daysIn year month
  deriving DecidableEq, Repr

/-- The day with these numbers, if there is one. -/
def Date.ofNumbers? (year : Int) (month day : Nat) : Option Date :=
  if h : (firstYear ≤ year ∧ year ≤ lastYear) ∧ (1 ≤ month ∧ month ≤ 12) ∧
      1 ≤ day ∧ day ≤ daysIn year month then
    some ⟨year, month, day, h.1, h.2.1, h.2.2⟩
  else none

/-- The day after. -/
def Date.next? (d : Date) : Option Date :=
  if d.day < daysIn d.year d.month then ofNumbers? d.year d.month (d.day + 1)
  else if d.month < 12 then ofNumbers? d.year (d.month + 1) 1
  else ofNumbers? (d.year + 1) 1 1

/-- The day before. -/
def Date.previous? (d : Date) : Option Date :=
  if 1 < d.day then ofNumbers? d.year d.month (d.day - 1)
  else if 1 < d.month then ofNumbers? d.year (d.month - 1) (daysIn d.year (d.month - 1))
  else ofNumbers? (d.year - 1) 12 31

/-- The day that lies so many days after the first of March of the year zero. Years that
begin in March have their leap day at the end, and 400 years have 146097 days. -/
def Date.ofDays? (days : Nat) : Option Date :=
  let era := days / 146097
  let dayOfEra := days % 146097
  let yearOfEra := (dayOfEra - dayOfEra / 1460 + dayOfEra / 36524 - dayOfEra / 146096) / 365
  let dayOfYear := dayOfEra - (365 * yearOfEra + yearOfEra / 4 - yearOfEra / 100)
  let march := (5 * dayOfYear + 2) / 153
  let day := dayOfYear - (153 * march + 2) / 5 + 1
  let month := if march < 10 then march + 3 else march - 9
  let year := yearOfEra + 400 * era + if month ≤ 2 then 1 else 0
  ofNumbers? year month day

/-- A time of day. -/
structure TimeOfDay where
  hour : Nat
  minute : Nat
  second : Nat
  nano : Nat
  hour_lt : hour < 24
  minute_lt : minute < 60
  second_le : second ≤ 60
  nano_lt : nano < 1000000000
  deriving DecidableEq, Repr

def TimeOfDay.ofNumbers? (hour minute second nano : Nat) : Option TimeOfDay :=
  if h : hour < 24 ∧ minute < 60 ∧ second ≤ 60 ∧ nano < 1000000000 then
    some ⟨hour, minute, second, nano, h.1, h.2.1, h.2.2.1, h.2.2.2⟩
  else none

structure Instant where
  date : Date
  time : TimeOfDay
  deriving DecidableEq, Repr

namespace Instant
open Text

/-- The start of 1970. -/
def epoch : Instant where
  date := ⟨1970, 1, 1, by decide, by decide, by decide⟩
  time := ⟨0, 0, 0, 0, by decide, by decide, by decide, by decide⟩

instance : Inhabited Instant := ⟨epoch⟩

/-- The instant so many seconds and nanoseconds after the start of 1970. -/
def ofUnix? (seconds nano : Nat) : Option Instant :=
  (Date.ofDays? (seconds / 86400 + 719468)).bind fun date =>
    let rest := seconds % 86400
    (TimeOfDay.ofNumbers? (rest / 3600) (rest / 60 % 60) (rest % 60) nano).map (⟨date, ·⟩)

/-- The instant of a local date and time that is ahead of universal time by so many
minutes. -/
def ofLocal? (date : Date) (time : TimeOfDay) (ahead : Int) : Option Instant :=
  let minutes : Int := 60 * time.hour + time.minute - ahead
  let date? :=
    if minutes < 0 then date.previous? else if 1440 ≤ minutes then date.next? else some date
  let minuteOfDay := (minutes % 1440).toNat
  date?.bind fun date =>
    (TimeOfDay.ofNumbers? (minuteOfDay / 60) (minuteOfDay % 60) time.second time.nano).map
      (⟨date, ·⟩)

/-! ### Writing -/

/-- A year of four digits, with a sign when it needs more or lies before the year zero. -/
def renderYear (year : Int) : List Char :=
  if 0 ≤ year ∧ year ≤ 9999 then padded 4 year.toNat
  else (if year < 0 then '-' else '+') :: padded 4 year.natAbs

/-- The fraction of a second, in the fewest of three, six or nine digits. -/
def renderFraction (nano : Nat) : List Char :=
  if nano = 0 then []
  else if nano % 1000000 = 0 then '.' :: padded 3 (nano / 1000000)
  else if nano % 1000 = 0 then '.' :: padded 6 (nano / 1000)
  else '.' :: padded 9 nano

def render (t : Instant) : List Char :=
  renderYear t.date.year ++ '-' :: padded 2 t.date.month ++ '-' :: padded 2 t.date.day ++
    'T' :: padded 2 t.time.hour ++ ':' :: padded 2 t.time.minute ++ ':' :: padded 2 t.time.second ++
    renderFraction t.time.nano ++ ['Z']

def text (t : Instant) : String := String.ofList t.render

/-! ### Reading

Every number may have blanks before it and, but for a signed year, fewer digits than it
is written with. The date and the time are parted by a `T` or a blank; the time goes on
with `Z`, `UTC` or an offset of hours and minutes. -/

/-- A number of one digit up to so many, blanks before it allowed. -/
def number? (width : Nat) (text : List Char) : Option (Nat × List Char) :=
  let text := trimStart text
  match (text.take width).takeWhile Char.isDigit with
  | [] => none
  | digits => some (ofDecimal digits, text.drop digits.length)

/-- A year: four digits at most, or any number of digits behind a sign. -/
def year? (text : List Char) : Option (Int × List Char) :=
  match trimStart text with
  | '-' :: rest =>
    match spanDigits rest with
    | ([], _) => none
    | (digits, rest) => some (-(ofDecimal digits : Int), rest)
  | '+' :: rest =>
    match spanDigits rest with
    | ([], _) => none
    | (digits, rest) => some ((ofDecimal digits : Int), rest)
  | text => (number? 4 text).map fun (n, rest) => ((n : Int), rest)

/-- What follows a mark, blanks before it allowed. -/
def mark? (mark : Char) (text : List Char) : Option (List Char) :=
  match trimStart text with
  | c :: rest => if c = mark then some rest else none
  | [] => none

/-- The nanoseconds behind a point, if a point is next; digits after the ninth are
skipped. -/
def fraction? (text : List Char) : Option (Nat × List Char) :=
  match text with
  | '.' :: rest =>
    match spanDigits rest with
    | ([], _) => none
    | (digits, rest) =>
      let kept := digits.take 9
      some (ofDecimal kept * Nat.pow 10 (9 - kept.length), rest)
  | _ => some (0, text)

/-- Two digits. -/
def twoDigits? : List Char → Option (Nat × List Char)
  | a :: b :: rest => if a.isDigit && b.isDigit then some (ofDecimal [a, b], rest) else none
  | _ => none

/-- Hours and minutes of an offset, with colons or blanks between them, in minutes. -/
def offsetSize? (text : List Char) : Option (Nat × List Char) :=
  (twoDigits? text).bind fun (hours, rest) =>
    (twoDigits? (rest.dropWhile fun c => c = ':' || isBlank c)).bind fun (minutes, rest) =>
      if minutes < 60 ∧ hours < 24 then some (60 * hours + minutes, rest) else none

/-- How many minutes local time is ahead of universal time. -/
def offset? (text : List Char) : Option (Int × List Char) :=
  match text with
  | 'Z' :: rest | 'z' :: rest => some (0, rest)
  | '+' :: rest => (offsetSize? rest).map fun (n, rest) => ((n : Int), rest)
  | '-' :: rest | '\u2212' :: rest => (offsetSize? rest).map fun (n, rest) => (-(n : Int), rest)
  | a :: b :: c :: rest =>
    if [a, b, c].map Char.toUpper = ['U', 'T', 'C'] then some (0, rest) else none
  | _ => none

def date? (text : List Char) : Option (Date × List Char) := do
  let (year, text) ← year? text
  let text ← mark? '-' text
  let (month, text) ← number? 2 text
  let text ← mark? '-' text
  let (day, text) ← number? 2 text
  let date ← Date.ofNumbers? year month day
  return (date, text)

def time? (text : List Char) : Option (TimeOfDay × List Char) := do
  let (hour, text) ← number? 2 text
  let text ← mark? ':' text
  let (minute, text) ← number? 2 text
  let text ← mark? ':' text
  let (second, text) ← number? 2 text
  let (nano, text) ← fraction? text
  let time ← TimeOfDay.ofNumbers? hour minute second nano
  return (time, text)

/-- The instant a text gives, with nothing but blanks behind it. -/
def ofChars? (text : List Char) : Option Instant :=
  (date? text).bind fun (date, text) =>
    match text with
    | c :: text =>
      if c = 'T' ∨ c = 't' ∨ c = ' ' then
        (time? text).bind fun (time, text) =>
          (offset? (trimStart text)).bind fun (ahead, text) =>
            if allBlank text then ofLocal? date time ahead else none
      else none
    | [] => none

def parse? (text : String) : Option Instant := ofChars? text.toList

end Instant

end Portcullis
