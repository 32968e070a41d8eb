import DisplayFilter.Calendar.Pattern

/-!
# Reading moments

A date may be written in many ways; the first notation that covers the whole text decides.

* `readInternet?` — the notation of internet timestamps, `2003-05-11T10:20:30.5+02:00`;
* `readMail?` — the notation of mail headers, `Tue, 1 Jul 2003 10:52:37 +0200`;
* `momentPatterns`, `datePatterns` — notations with and without a time of day;
* `Moment.ofText?` — all of them, a bare year and a run of eight digits.

An offset from universal time is read and dropped: the moment is the local wall clock time.
-/

namespace DisplayFilter

/-! ### Offsets -/

/-- Two digits. -/
def readTwoDigits? : List Char → Option (Nat × List Char) :=
  readNumber? 2 2

/-- This very character. -/
def readChar? (c : Char) : List Char → Option (List Char)
  | d :: s => if c = d then some s else none
  | [] => none

/-- At least one blank. -/
def readBlanks? (s : List Char) : Option (List Char) :=
  let rest := Text.trimStart s
  if rest.length < s.length then some rest else none

/-- The size of an offset in minutes: hours, a colon if `colon`, minutes below sixty. The sum has
to stay below a day. -/
def readOffsetSize? (colon : Bool) (s : List Char) : Option (List Char) := do
  let (hours, s) ← readTwoDigits? s
  let s ← if colon then readChar? ':' s else some s
  let (minutes, s) ← readTwoDigits? s
  if minutes < 60 ∧ hours < 24 then some s else none

/-- A signed offset; the typographic minus sign is admitted where `minusSign` says so. -/
def readOffset? (colon minusSign : Bool) : List Char → Option (List Char)
  | '+' :: s => readOffsetSize? colon s
  | '-' :: s => readOffsetSize? colon s
  | '−' :: s => if minusSign then readOffsetSize? colon s else none
  | _ => none

/-! ### Internet timestamps -/

/-- **Internet timestamps:** every number with its full width, an optional fraction, and an offset
or `Z`. -/
def readInternet? (s : List Char) : Option Moment := do
  let (year, s) ← readNumber? 4 4 s
  let (month, s) ← readTwoDigits? (← readChar? '-' s)
  let (day, s) ← readTwoDigits? (← readChar? '-' s)
  let s ←
    match s with
    | c :: s => if c = 'T' ∨ c = 't' ∨ c = ' ' then some s else none
    | [] => none
  let (hour, s) ← readTwoDigits? s
  let (minute, s) ← readTwoDigits? (← readChar? ':' s)
  let (second, s) ← readTwoDigits? (← readChar? ':' s)
  let (nano, s) ←
    match s with
    | '.' :: s => readNanos? s
    | s => some (0, s)
  let s ←
    match s with
    | 'Z' :: s => some s
    | 'z' :: s => some s
    | s => readOffset? true true s
  if s.isEmpty then
    let date ← Date.ofParts? year month day
    let clock ← Clock.ofParts? hour minute second nano
    some ⟨date, clock⟩
  else none

/-! ### Mail dates -/

/-- The first three letters of the days of the week, from Monday on. -/
def weekdayLetters : List String :=
  ["mon", "tue", "wed", "thu", "fri", "sat", "sun"]

/-- The day of the week at the start of a text. -/
def readWeekday? (s : List Char) : Option (Nat × List Char) :=
  weekdayLetters.zipIdx.findSome? fun (letters, number) =>
    (Text.dropCaseless? letters.toList s).map fun rest => (number, rest)

/-- The zone names of mail dates besides single letters. -/
def zoneNames : List String :=
  ["gmt", "ut", "edt", "est", "cdt", "cst", "mdt", "mst", "pdt", "pst"]

/-- Whether a text names a zone: a known name or one letter other than `j`. -/
def isZoneName (name : List Char) : Bool :=
  zoneNames.any (fun zone => Text.equalCaseless zone.toList name)
    || (name.length == 1 && !Text.equalCaseless name ['j'])

/-- The zone of a mail date: a name or an offset without a colon. -/
def readZone? (s : List Char) : Option (List Char) :=
  let name := s.takeWhile Char.isAlpha
  if name.isEmpty then readOffset? false false s
  else if isZoneName name then some (s.dropWhile Char.isAlpha)
  else none

/-- The text behind a parenthesised comment of which `depth` parentheses are open. A backslash
hides the character behind it. -/
def skipComment? : Nat → List Char → Option (List Char)
  | _, [] => none
  | depth, '\\' :: s =>
    match s with
    | [] => none
    | _ :: t => skipComment? depth t
  | depth, '(' :: s => skipComment? (depth + 1) s
  | depth, ')' :: s => if depth ≤ 1 then some s else skipComment? (depth - 1) s
  | depth, _ :: s => skipComment? depth s

/-- Whether a text consists of parenthesised comments with blanks in front of them; a text of
`fuel` characters has at most as many. -/
def isComments : Nat → List Char → Bool
  | _, [] => true
  | 0, _ => false
  | fuel + 1, s =>
    match Text.trimStart s with
    | '(' :: t =>
      match skipComment? 1 t with
      | some rest => isComments fuel rest
      | none => false
    | _ => false

/-- The full year of a mail date: years of two and three digits belong to the last centuries. -/
def fullYear (digits year : Nat) : Nat :=
  if digits = 2 then (if year < 50 then year + 2000 else year + 1900)
  else if digits = 3 then year + 1900
  else year

/-- **Mail dates:** an optional day of the week, which has to be the right one, a day, a month in
letters, a year, a time and a zone, and comments. -/
def readMail? (s : List Char) : Option Moment := do
  let s := Text.trimStart s
  let (weekday?, s) ←
    match readWeekday? s with
    | some (n, ',' :: s) => some (some n, s)
    | some _ => none
    | none => some (none, s)
  let (day, s) ← readNumber? 1 2 (Text.trimStart s)
  let (month, s) ← readMonth? (← readBlanks? s)
  let start ← readBlanks? s
  let (year, s) ← readLongNumber? 2 start
  let year := fullYear (start.length - s.length) year
  let (hour, s) ← readTwoDigits? (← readBlanks? s)
  let s ← readChar? ':' (Text.trimStart s)
  let (minute, s) ← readTwoDigits? (Text.trimStart s)
  let (second, s) ←
    match Text.trimStart s with
    | ':' :: t => readTwoDigits? t
    | _ => some (0, s)
  let s ← readZone? (← readBlanks? s)
  let date ← Date.ofParts? year month day
  let clock ← Clock.ofParts? hour minute second 0
  if isComments s.length s && weekday?.all (· == date.weekday) then some ⟨date, clock⟩ else none

/-! ### Patterns -/

/-- Year, month and day with a character between them. -/
def yearFirst (c : Char) : DatePattern :=
  [.year, .char c, .month, .char c, .day]

/-- Day, month and year with points between them. -/
def dayFirst : DatePattern :=
  [.day, .char '.', .month, .char '.', .year]

/-- Month, day and year with slashes between them. -/
def monthFirst : DatePattern :=
  [.month, .char '/', .day, .char '/', .year]

/-- Hour and minute. -/
def hourMinute : DatePattern :=
  [.hour, .char ':', .minute]

/-- Hour, minute and second. -/
def hourMinuteSecond : DatePattern :=
  hourMinute ++ [.char ':', .second]

/-- Notations with a time of day. -/
def momentPatterns : List DatePattern :=
  [yearFirst '-' ++ .char 'T' :: hourMinuteSecond ++ [.fraction],
    yearFirst '-' ++ .blank :: hourMinuteSecond ++ [.fraction],
    yearFirst '-' ++ .char 'T' :: hourMinute,
    yearFirst '-' ++ .blank :: hourMinute,
    yearFirst '/' ++ .blank :: hourMinuteSecond,
    yearFirst '/' ++ .blank :: hourMinute,
    dayFirst ++ .blank :: hourMinuteSecond,
    monthFirst ++ .blank :: hourMinuteSecond]

/-- Notations without a time of day. -/
def datePatterns : List DatePattern :=
  [yearFirst '-', yearFirst '/', yearFirst '.', dayFirst, monthFirst,
    [.day, .blank, .monthName, .blank, .year],
    [.monthName, .blank, .day, .blank, .year],
    [.monthName, .blank, .day, .char ',', .blank, .year],
    [.day, .blank, .monthLetters, .blank, .year],
    [.monthLetters, .blank, .day, .blank, .year],
    [.monthLetters, .blank, .day, .char ',', .blank, .year]]

/-- The start of the day that some fields name. -/
def DateFields.startOfDay? (f : DateFields) : Option Moment :=
  f.date?.map (⟨·, .midnight⟩)

/-- A text of digits alone: four are a year, eight are a year, a month and a day. -/
def readDigits? (s : List Char) : Option Moment :=
  if !s.all Char.isDigit then none
  else if s.length = 4 then
    (Date.ofParts? (decimalValue s) 1 1).map (⟨·, .midnight⟩)
  else if s.length = 8 then
    (DatePattern.read? [.year, .month, .day] s).bind DateFields.startOfDay?
  else none

/-- **Reading a moment.** The first notation that covers the text without the blanks at its ends. -/
def Moment.ofText? (text : List Char) : Option Moment :=
  let s := Text.trim text
  if s.isEmpty then none
  else
    (readInternet? s).orElse fun _ => (readMail? s).orElse fun _ =>
      (momentPatterns.findSome? fun p => (p.read? s).bind DateFields.moment?).orElse fun _ =>
        (datePatterns.findSome? fun p => (p.read? s).bind DateFields.startOfDay?).orElse fun _ =>
          readDigits? s

end DisplayFilter
