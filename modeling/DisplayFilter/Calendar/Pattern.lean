import DisplayFilter.Calendar.Moment
import DisplayFilter.Number.Reading
import DisplayFilter.Text.Blank
import DisplayFilter.Text.Pieces

/-!
# Date patterns

A pattern lists the parts of a written date in order. Reading is lenient where people are: blanks
in front of a number do not count, a number may be shorter than its place, a blank of the pattern
stands for any number of blanks, and month names are read in any case, in full or with three
letters.

* `DatePart`, `DatePattern` — what a date consists of;
* `DateFields` — the numbers read so far;
* `DatePattern.read?` — the fields of a text that follows a pattern to its end;
* `readNumber?`, `readFraction?`, `readMonth?` — the parts by themselves.
-/

namespace DisplayFilter

/-- **One part of a written date.** -/
inductive DatePart where
  /-- A year: up to four digits, or a sign and any number of digits. -/
  | year
  /-- A month as a number of up to two digits. -/
  | month
  /-- A month as its English name or the three letters it starts with. -/
  | monthName
  /-- A month as the three letters its English name starts with. -/
  | monthLetters
  | day
  | hour
  | minute
  | second
  /-- A point and digits, or nothing. -/
  | fraction
  /-- Any number of blanks, none included. -/
  | blank
  /-- This very character. -/
  | char (c : Char)
  deriving DecidableEq, Repr

/-- The parts of a written date in order. -/
abbrev DatePattern := List DatePart

/-- **The numbers of a date** as they are read, each of them possibly missing. -/
structure DateFields where
  year : Option Int := none
  month : Option Nat := none
  day : Option Nat := none
  hour : Option Nat := none
  minute : Option Nat := none
  second : Option Nat := none
  nano : Option Nat := none
  deriving DecidableEq, Repr

namespace DateFields

/-- The day that the fields name. -/
def date? (f : DateFields) : Option Date := do
  Date.ofParts? (← f.year) (← f.month) (← f.day)

/-- The time of day that the fields name; a missing second is the first one. -/
def clock? (f : DateFields) : Option Clock := do
  Clock.ofParts? (← f.hour) (← f.minute) (f.second.getD 0) (f.nano.getD 0)

/-- The moment that the fields name. -/
def moment? (f : DateFields) : Option Moment := do
  pure ⟨← f.date?, ← f.clock?⟩

end DateFields

/-! ### Parts -/

/-- A number of at least `least` and at most `most` digits. -/
def readNumber? (least most : Nat) (s : List Char) : Option (Nat × List Char) :=
  let digits := (s.take most).takeWhile Char.isDigit
  if digits.length < least || digits.isEmpty then none
  else some (decimalValue digits, s.drop digits.length)

/-- A number of any number of digits, at least `least` of them and within sixty-four bits. -/
def readLongNumber? (least : Nat) (s : List Char) : Option (Nat × List Char) := do
  let (n, rest) ← readNumber? least s.length s
  if fitsInt64 n then some (n, rest) else none

/-- A year with or without a sign. -/
def readYear? : List Char → Option (Int × List Char)
  | '-' :: s => (readLongNumber? 1 s).map fun (n, rest) => (-(n : Int), rest)
  | '+' :: s => (readLongNumber? 1 s).map fun (n, rest) => ((n : Int), rest)
  | s => (readNumber? 1 4 s).map fun (n, rest) => ((n : Int), rest)

/-- The digits of a fraction in nanoseconds; digits behind the ninth are dropped. -/
def readNanos? (s : List Char) : Option (Nat × List Char) := do
  let (n, rest) ← readNumber? 1 9 s
  let used := s.length - rest.length
  pure (n * Nat.pow 10 (9 - used), rest.dropWhile Char.isDigit)

/-- The English names of the months in lower case. -/
def monthNames : List String :=
  ["january", "february", "march", "april", "may", "june", "july", "august", "september",
    "october", "november", "december"]

/-- A month by its first three letters, with the rest of its name still to read. -/
def readMonthLetters? (s : List Char) : Option (Nat × List Char × List Char) :=
  (monthNames.zipIdx 1).findSome? fun (name, number) =>
    (Text.dropCaseless? (name.toList.take 3) s).map fun rest => (number, name.toList.drop 3, rest)

/-- A month by its first three letters. -/
def readMonth? (s : List Char) : Option (Nat × List Char) :=
  (readMonthLetters? s).map fun (number, _, rest) => (number, rest)

/-- A month by its name, or by its first three letters where the name does not go on. -/
def readMonthName? (s : List Char) : Option (Nat × List Char) :=
  (readMonthLetters? s).map fun (number, ending, rest) =>
    (number, (Text.dropCaseless? ending rest).getD rest)

/-- A number of up to two digits behind blanks, at most `greatest`. -/
def readPlace? (least greatest : Nat) (s : List Char) : Option (Nat × List Char) := do
  let (n, rest) ← readNumber? 1 2 (Text.trimStart s)
  if least ≤ n ∧ n ≤ greatest then some (n, rest) else none

/-! ### Patterns -/

/-- Read one part into the fields. -/
def DatePart.read? (part : DatePart) (f : DateFields) (s : List Char) :
    Option (DateFields × List Char) :=
  match part with
  | .year => (readYear? (Text.trimStart s)).map fun (n, rest) => ({ f with year := some n }, rest)
  | .month => (readPlace? 1 12 s).map fun (n, rest) => ({ f with month := some n }, rest)
  | .monthName => (readMonthName? s).map fun (n, rest) => ({ f with month := some n }, rest)
  | .monthLetters => (readMonth? s).map fun (n, rest) => ({ f with month := some n }, rest)
  | .day => (readPlace? 1 31 s).map fun (n, rest) => ({ f with day := some n }, rest)
  | .hour => (readPlace? 0 23 s).map fun (n, rest) => ({ f with hour := some n }, rest)
  | .minute => (readPlace? 0 59 s).map fun (n, rest) => ({ f with minute := some n }, rest)
  | .second => (readPlace? 0 60 s).map fun (n, rest) => ({ f with second := some n }, rest)
  | .fraction =>
    match s with
    | '.' :: t => (readNanos? t).map fun (n, rest) => ({ f with nano := some n }, rest)
    | _ => some (f, s)
  | .blank => some (f, Text.trimStart s)
  | .char c =>
    match s with
    | d :: t => if c = d then some (f, t) else none
    | [] => none

/-- Read the parts of a pattern one after the other. -/
def DatePattern.readFrom? : DatePattern → DateFields → List Char → Option (DateFields × List Char)
  | [], f, s => some (f, s)
  | part :: pattern, f, s => do
    let (f, s) ← part.read? f s
    readFrom? pattern f s

/-- **Reading by a pattern.** The fields of a text that the pattern covers to its end. -/
def DatePattern.read? (pattern : DatePattern) (s : List Char) : Option DateFields :=
  match pattern.readFrom? {} s with
  | some (f, []) => some f
  | _ => none

end DisplayFilter
