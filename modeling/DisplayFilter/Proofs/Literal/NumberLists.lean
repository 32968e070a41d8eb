import DisplayFilter.Proofs.Number.WrittenForm

/-!
# Lists of numbers

A list of numbers is written between braces, with signs, fractions and intervals as one likes and
with any blanks at its commas.  The reader of numbers takes it entry by entry.

* `Digits`, `WrittenNumber`, `WrittenEntry` — what stands between commas, `numberList` — the list;
* **`number?_written`** — a number is read as it was written, **`numberItem?_written`** — so is an
  entry;
* **`readEntries_numberList`** — the entries read as numbers.
-/

namespace DisplayFilter

open Text

/-! ### Written numbers -/

/-- Blanks. -/
structure Blanks where
  chars : List Char
  all_blank : ∀ c ∈ chars, isBlank c = true

/-- Digits, one at least. -/
structure Digits where
  chars : List Char
  ne_nil : chars ≠ []
  all_digits : ∀ c ∈ chars, c.isDigit = true

inductive Sign where
  | plus
  | minus
  deriving DecidableEq

def Sign.char : Sign → Char
  | plus => '+'
  | minus => '-'

/-- **A written number:** digits with or without a sign, a point and digits behind it. -/
structure WrittenNumber where
  sign : Option Sign
  digits : Digits
  places : Option Digits

namespace WrittenNumber

/-- The digits behind the point. -/
def placesChars (x : WrittenNumber) : List Char :=
  x.places.elim [] Digits.chars

/-- The digits, with the point between them. -/
def unsigned (x : WrittenNumber) : List Char :=
  x.digits.chars ++ x.places.elim [] fun places => '.' :: places.chars

def chars (x : WrittenNumber) : List Char :=
  x.sign.elim x.unsigned fun sign => sign.char :: x.unsigned

/-- The number closest to what is written. -/
def value (x : WrittenNumber) : Binary64 :=
  Binary64.ofDecimal (x.sign == some .minus) (decimalValue (x.digits.chars ++ x.placesChars))
    (-(x.placesChars.length : Int))

end WrittenNumber

/-- The upper end of an interval behind two points or a dash, with blanks around these. -/
structure WrittenEnd where
  before : Blanks
  points : Bool
  after : Blanks
  number : WrittenNumber

/-- The sign of an interval and the upper end. -/
def WrittenEnd.chars (x : WrittenEnd) : List Char :=
  x.before.chars ++ ((if x.points then ['.', '.'] else ['-']) ++ (x.after.chars ++ x.number.chars))

/-- **A written entry:** a number or an interval of numbers, with blanks around it. -/
structure WrittenEntry where
  before : Blanks
  low : WrittenNumber
  high : Option WrittenEnd
  after : Blanks

namespace WrittenEntry

/-- The entry without the blanks around it. -/
def body (x : WrittenEntry) : List Char :=
  x.low.chars ++ x.high.elim [] WrittenEnd.chars

def chars (x : WrittenEntry) : List Char :=
  x.before.chars ++ (x.body ++ x.after.chars)

/-- The entry of a list of numbers that is written. -/
def value (x : WrittenEntry) : NumberEntry :=
  x.high.elim (.single x.low.value) fun high => .range x.low.value high.number.value

end WrittenEntry

/-- **A written list of numbers.** -/
def numberList (entries : List WrittenEntry) : List Char :=
  '\x7b' :: (join [','] (entries.map WrittenEntry.chars) ++ ['\x7d'])

/-! ### Reading numbers -/

/-- What follows the entries from the second on, up to the closing brace. -/
def listEnd (more : List WrittenEntry) (tail : List Char) : List Char :=
  match more with
  | [] => '\x7d' :: tail
  | more => ',' :: (join [','] (more.map WrittenEntry.chars) ++ '\x7d' :: tail)

theorem join_cons_listEnd (x : WrittenEntry) (more : List WrittenEntry) (tail : List Char) :
    join [','] ((x :: more).map WrittenEntry.chars) ++ '\x7d' :: tail =
      x.before.chars ++ (x.body ++ (x.after.chars ++ listEnd more tail)) := by
  cases more with
  | nil => simp [join, WrittenEntry.chars, listEnd]
  | cons y more => simp [join, WrittenEntry.chars, listEnd]

theorem Digits.stops_blank (x : Digits) (rest : List Char) : Stops isBlank (x.chars ++ rest) := by
  obtain ⟨c, more, hc⟩ := List.exists_cons_of_ne_nil x.ne_nil
  rw [hc, List.cons_append, stops_cons]
  exact not_blank_of_isDigit (x.all_digits c (hc ▸ List.mem_cons_self))

theorem WrittenNumber.chars_append (x : WrittenNumber) (rest : List Char) :
    x.chars ++ rest = x.sign.elim (x.unsigned ++ rest) fun sign =>
      sign.char :: (x.unsigned ++ rest) := by
  unfold WrittenNumber.chars
  cases x.sign with
  | none => rfl
  | some sign => rfl

/-- A number starts with its sign or a digit. -/
theorem WrittenNumber.chars_cons (x : WrittenNumber) (rest : List Char) :
    ∃ c t, x.chars ++ rest = c :: t ∧ (c = '+' ∨ c = '-' ∨ c.isDigit = true) := by
  rw [x.chars_append]
  cases x.sign with
  | some sign =>
    cases sign with
    | plus => exact ⟨'+', _, rfl, Or.inl rfl⟩
    | minus => exact ⟨'-', _, rfl, Or.inr (Or.inl rfl)⟩
  | none =>
    obtain ⟨c, more, hc⟩ := List.exists_cons_of_ne_nil x.digits.ne_nil
    refine ⟨c, _, by simp [WrittenNumber.unsigned, hc]; rfl, Or.inr (Or.inr ?_)⟩
    exact x.digits.all_digits c (hc ▸ List.mem_cons_self)

theorem WrittenNumber.stops_blank (x : WrittenNumber) (rest : List Char) :
    Stops isBlank (x.chars ++ rest) := by
  obtain ⟨c, t, ht, hc⟩ := x.chars_cons rest
  rw [ht, stops_cons]
  rcases hc with rfl | rfl | hc
  · decide
  · decide
  · exact not_blank_of_isDigit hc

theorem EndsNumber.of_stops {rest : List Char} (hdigit : Stops Char.isDigit rest)
    (hpoint : ∀ t, rest ≠ '.' :: t) : EndsNumber rest := by
  refine ⟨hdigit, ?_⟩
  unfold Lexeme.fraction
  split
  · next t => exact absurd rfl (hpoint t)
  · rfl

/-- **A number is read as it was written.** -/
theorem number?_written (x : WrittenNumber) {rest : List Char} (hrest : EndsNumber rest) :
    Lexeme.number? (x.chars ++ rest) = some (x.value, rest) := by
  have hunsigned : ∀ negative, Lexeme.number? (signed negative (x.unsigned ++ rest)) =
      some (Binary64.ofDecimal negative (decimalValue (x.digits.chars ++ x.placesChars))
        (-(x.placesChars.length : Int)), rest) := by
    intro negative
    unfold WrittenNumber.unsigned WrittenNumber.placesChars
    cases hplaces : x.places with
    | none =>
      simpa using number?_digits negative x.digits.ne_nil x.digits.all_digits hrest
    | some places =>
      simpa using number?_point negative x.digits.ne_nil x.digits.all_digits places.ne_nil
        places.all_digits hrest.1
  have hplus : Lexeme.number? ('+' :: (x.unsigned ++ rest)) =
      Lexeme.number? (x.unsigned ++ rest) := by
    have hsign : splitSign (x.unsigned ++ rest) = (false, x.unsigned ++ rest) := by
      rw [WrittenNumber.unsigned, List.append_assoc]
      exact splitSign_digits x.digits.ne_nil x.digits.all_digits _
    rw [Lexeme.number?, Lexeme.number?, hsign]
    rfl
  rw [x.chars_append, WrittenNumber.value]
  cases hsign : x.sign with
  | none => exact hunsigned false
  | some sign =>
    cases sign with
    | plus => exact hplus.trans (hunsigned false)
    | minus => exact hunsigned true

/-- What may follow an entry: blanks in front of a comma or the closing brace. -/
theorem listEnd_cases (more : List WrittenEntry) (tail : List Char) :
    ∃ c t, listEnd more tail = c :: t ∧ (c = ',' ∨ c = '\x7d') := by
  cases more with
  | nil => exact ⟨_, _, rfl, Or.inr rfl⟩
  | cons y more => exact ⟨_, _, rfl, Or.inl rfl⟩

/-- Blanks, and then a character of other kinds. -/
theorem blanks_append_cases (w : Blanks) (c : Char) (t : List Char) :
    ∃ d u, w.chars ++ c :: t = d :: u ∧ (isBlank d = true ∨ (w.chars = [] ∧ d = c ∧ u = t)) := by
  cases hw : w.chars with
  | nil => exact ⟨c, t, rfl, Or.inr ⟨rfl, rfl, rfl⟩⟩
  | cons d more =>
    exact ⟨d, more ++ c :: t, rfl, Or.inl (w.all_blank d (hw ▸ List.mem_cons_self))⟩

theorem trimStart_blanks (w : Blanks) (s : List Char) : trimStart (w.chars ++ s) = trimStart s :=
  trimStart_append_blanks w.all_blank s

theorem trimStart_listEnd (w : Blanks) (more : List WrittenEntry) (tail : List Char) :
    trimStart (w.chars ++ listEnd more tail) = listEnd more tail := by
  obtain ⟨c, t, ht, hc⟩ := listEnd_cases more tail
  rw [trimStart_blanks, ht]
  rcases hc with rfl | rfl
  · exact trimStart_cons_of_not_blank (by decide) t
  · exact trimStart_cons_of_not_blank (by decide) t

theorem endsNumber_of_isBlank {d : Char} (h : isBlank d = true) (u : List Char) :
    EndsNumber (d :: u) := by
  refine .of_stops (stops_cons.2 (isDigit_of_isBlank h)) fun v hv => ?_
  obtain rfl : d = '.' := (List.cons.inj hv).1
  simp [isBlank] at h

/-- Neither blanks nor another character than a point go on with a number. -/
theorem endsNumber_blanks (w : Blanks) {c : Char} (hdigit : c.isDigit = false) (hpoint : c ≠ '.')
    (t : List Char) : EndsNumber (w.chars ++ c :: t) := by
  obtain ⟨d, u, hu, hd⟩ := blanks_append_cases w c t
  rw [hu]
  rcases hd with hblank | ⟨-, rfl, rfl⟩
  · exact endsNumber_of_isBlank hblank u
  · exact .of_stops (stops_cons.2 hdigit) fun v hv => hpoint (List.cons.inj hv).1

theorem endsNumber_listEnd (w : Blanks) (more : List WrittenEntry) (tail : List Char) :
    EndsNumber (w.chars ++ listEnd more tail) := by
  obtain ⟨c, t, ht, hc⟩ := listEnd_cases more tail
  rw [ht]
  rcases hc with rfl | rfl
  · exact endsNumber_blanks w (by decide) (by decide) t
  · exact endsNumber_blanks w (by decide) (by decide) t

theorem WrittenEnd.chars_append (x : WrittenEnd) (rest : List Char) :
    x.chars ++ rest = x.before.chars ++ ((if x.points then ['.', '.'] else ['-']) ++
      (x.after.chars ++ (x.number.chars ++ rest))) := by
  simp [WrittenEnd.chars]

theorem endsNumber_end (x : WrittenEnd) (rest : List Char) : EndsNumber (x.chars ++ rest) := by
  rw [x.chars_append]
  cases x.points with
  | false => exact endsNumber_blanks x.before (by decide) (by decide) _
  | true =>
    obtain ⟨d, u, hu, hd⟩ := blanks_append_cases x.before '.'
      ('.' :: (x.after.chars ++ (x.number.chars ++ rest)))
    rcases hd with hblank | ⟨hnil, -, -⟩
    · exact hu ▸ endsNumber_of_isBlank hblank u
    · rw [hnil]
      exact endsNumber_points _

/-- The upper end of an interval is read as it was written. -/
theorem upperEnd?_written (x : WrittenEnd) {rest : List Char} (hrest : EndsNumber rest) :
    upperEnd? (x.chars ++ rest) = some (x.number.value, rest) := by
  have hnumber : Lexeme.number? (trimStart (x.after.chars ++ (x.number.chars ++ rest))) =
      some (x.number.value, rest) := by
    rw [trimStart_blanks, trimStart_of_stops (x.number.stops_blank rest)]
    exact number?_written x.number hrest
  rw [upperEnd?, x.chars_append, trimStart_blanks]
  cases x.points with
  | false => exact hnumber
  | true => exact hnumber

/-- **An entry is read as it was written.** -/
theorem numberItem?_written (x : WrittenEntry) (more : List WrittenEntry) (tail : List Char) :
    numberItem? (x.body ++ (x.after.chars ++ listEnd more tail)) =
      some (x.value, x.after.chars ++ listEnd more tail) := by
  have hend := endsNumber_listEnd x.after more tail
  unfold WrittenEntry.body WrittenEntry.value
  rw [List.append_assoc]
  cases x.high with
  | none =>
    have hupper : upperEnd? (x.after.chars ++ listEnd more tail) = none := by
      obtain ⟨c, t, ht, hc⟩ := listEnd_cases more tail
      rw [upperEnd?, trimStart_listEnd, ht]
      rcases hc with rfl | rfl
      · rfl
      · rfl
    simp only [numberItem?, Option.elim, List.nil_append, number?_written x.low hend, hupper, bind,
      Option.bind, pure]
  | some high =>
    simp only [numberItem?, Option.elim, number?_written x.low (endsNumber_end high _),
      upperEnd?_written high hend, bind, Option.bind, pure]

theorem WrittenEntry.body_append (x : WrittenEntry) (rest : List Char) :
    x.body ++ rest = x.low.chars ++ (x.high.elim [] WrittenEnd.chars ++ rest) := by
  rw [WrittenEntry.body, List.append_assoc]

theorem trimStart_body (x : WrittenEntry) (rest : List Char) :
    trimStart (x.before.chars ++ (x.body ++ rest)) = x.body ++ rest := by
  rw [trimStart_blanks, x.body_append]
  exact trimStart_of_stops (x.low.stops_blank _)

/-- **The entries of a list read as numbers.** -/
theorem readEntries_numberList (x : WrittenEntry) (more : List WrittenEntry) (tail : List Char)
    {fuel : Nat} (hfuel : more.length < fuel) :
    readEntries numberItem? fuel
        (x.before.chars ++ (x.body ++ (x.after.chars ++ listEnd more tail))) =
      some ((x :: more).map WrittenEntry.value, tail) := by
  induction more generalizing x fuel with
  | nil =>
    obtain ⟨fuel, rfl⟩ := Nat.exists_eq_add_of_le' (show 1 ≤ fuel by omega)
    rw [readEntries, trimStart_body, numberItem?_written]
    simp only [bind, Option.bind, trimStart_listEnd]
    rfl
  | cons y more ih =>
    obtain ⟨fuel, rfl⟩ := Nat.exists_eq_add_of_le' (show 1 ≤ fuel by omega)
    have hmore := ih y (show more.length < fuel by simpa using hfuel)
    rw [← join_cons_listEnd] at hmore
    rw [readEntries, trimStart_body, numberItem?_written]
    simp only [bind, Option.bind, trimStart_listEnd]
    simp only [listEnd, hmore]
    rfl

end DisplayFilter
