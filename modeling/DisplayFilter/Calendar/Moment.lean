import DisplayFilter.Number.Layout

/-!
# Moments

A moment is a date of the proleptic Gregorian calendar with a time of day, without a time zone.

* `Date` — a valid day, `Date.ofParts?` — the day of three numbers, if there is one;
* `Clock` — a time of day in nanoseconds, `Clock.ofParts?` — the time of four numbers; a leap
  second, written as second 60, is kept as a second 59 of two seconds' length;
* `Moment` — both together, with `Moment.compare` in calendar order;
* `Moment.text` — the text of a moment as a value;
* `Moment.isoText` — the text with nine digits of fraction.
-/

namespace DisplayFilter

/-! ### Days -/

/-- Whether a year has a twenty-ninth of February. -/
def isLeapYear (year : Int) : Bool :=
  year % 4 == 0 && (year % 100 != 0 || year % 400 == 0)

/-- The number of days of a month; months outside of one to twelve have none. -/
def daysInMonth (year : Int) (month : Nat) : Nat :=
  match month with
  | 1 | 3 | 5 | 7 | 8 | 10 | 12 => 31
  | 4 | 6 | 9 | 11 => 30
  | 2 => if isLeapYear year then 29 else 28
  | _ => 0

/-- The years that dates are kept for. -/
def isCalendarYear (year : Int) : Bool :=
  -262143 ≤ year && year ≤ 262142

/-- **A day** of the calendar. -/
structure Date where
  year : Int
  month : Nat
  day : Nat
  valid : isCalendarYear year ∧ 1 ≤ day ∧ day ≤ daysInMonth year month
  deriving DecidableEq, Repr

namespace Date

/-- The day of a year, a month and a number in the month, if there is one. -/
def ofParts? (year : Int) (month day : Nat) : Option Date :=
  if h : isCalendarYear year ∧ 1 ≤ day ∧ day ≤ daysInMonth year month then
    some ⟨year, month, day, h⟩
  else none

/-- The number of days since the first of March of year zero. -/
def dayNumber (x : Date) : Int :=
  let year := if x.month ≤ 2 then x.year - 1 else x.year
  let month : Int := if x.month ≤ 2 then x.month + 9 else x.month - 3
  365 * year + year / 4 - year / 100 + year / 400 + (153 * month + 2) / 5 + x.day - 1

/-- The day of the week, from Monday as zero to Sunday as six. -/
def weekday (x : Date) : Nat :=
  ((x.dayNumber + 2) % 7).toNat

end Date

/-! ### Times of day -/

/-- **A time of day.** A leap second is second 59 with a billion nanoseconds or more. -/
structure Clock where
  hour : Nat
  minute : Nat
  second : Nat
  nano : Nat
  valid : hour < 24 ∧ minute < 60 ∧ second < 60 ∧ nano < 2000000000
  deriving DecidableEq, Repr

namespace Clock

/-- Midnight. -/
def midnight : Clock :=
  ⟨0, 0, 0, 0, by decide⟩

/-- The time of day of an hour, a minute, a second up to 60 and a fraction. -/
def ofParts? (hour minute second nano : Nat) : Option Clock :=
  let (second, nano) := if second = 60 then (59, nano + 1000000000) else (second, nano)
  if h : hour < 24 ∧ minute < 60 ∧ second < 60 ∧ nano < 2000000000 then
    some ⟨hour, minute, second, nano, h⟩
  else none

/-- The second and its fraction as they are written: a leap second is second 60. -/
def writtenSecond (x : Clock) : Nat × Nat :=
  if x.nano < 1000000000 then (x.second, x.nano) else (x.second + 1, x.nano - 1000000000)

end Clock

/-! ### Moments -/

/-- **A moment:** a day and a time of day. -/
structure Moment where
  date : Date
  clock : Clock
  deriving DecidableEq, Repr

namespace Moment

/-- The parts of a moment from the coarsest to the finest. -/
def parts (x : Moment) : List Int :=
  [x.date.year, x.date.month, x.date.day, x.clock.hour, x.clock.minute, x.clock.second,
    x.clock.nano]

/-- The order of two lists of numbers, the first difference deciding. -/
def compareParts : List Int → List Int → Ordering
  | [], [] => .eq
  | [], _ :: _ => .lt
  | _ :: _, [] => .gt
  | a :: s, b :: t => (Ord.compare a b).then (compareParts s t)

/-- Calendar order. -/
protected def compare (x y : Moment) : Ordering :=
  compareParts x.parts y.parts

/-- A number with zeros in front up to a width. -/
def padded (width n : Nat) : List Char :=
  let digits := decimalDigits n
  List.replicate (width - digits.length) '0' ++ digits

/-- A year: four digits, with a sign outside of 0 … 9999. -/
def yearText (year : Int) : List Char :=
  if 0 ≤ year ∧ year < 10000 then padded 4 year.toNat
  else (if year < 0 then '-' else '+') :: padded 4 year.natAbs

/-- The date and the time of day with a character between them. -/
def write (between : Char) (x : Moment) : List Char :=
  yearText x.date.year ++ '-' :: padded 2 x.date.month ++ '-' :: padded 2 x.date.day
    ++ between :: padded 2 x.clock.hour ++ ':' :: padded 2 x.clock.minute
    ++ ':' :: padded 2 x.clock.writtenSecond.1

/-- **The text of a moment** as a value: date and time with a blank between, no fraction. -/
def text (x : Moment) : String :=
  String.ofList (x.write ' ')

/-- The text of a moment with `T` between date and time and nine digits of fraction. -/
def isoText (x : Moment) : String :=
  String.ofList (x.write 'T' ++ '.' :: padded 9 x.clock.writtenSecond.2)

end Moment

end DisplayFilter
