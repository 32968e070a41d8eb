import DisplayFilter.Proofs.EndPieces
import DisplayFilter.Proofs.Number.Bases
import DisplayFilter.Value.Reading

/-!
# Texts that are numbers

A literal is tried as a number before it is taken for anything else.  What it may be made of then is
little: blanks at its ends, letters and digits, a sign and a point.

* **`number?_point`**, **`number?_whole`** — digits with a point or without one are read as a decimal;
* **`number?_points`** — with a second point behind them they are no number;
* `isDecimalChar`, **`isDecimalChar_of_decimal?`** — the characters of decimals, with their shape in
  **`ofText?_cases`** and **`readDecimal?_shape`**;
* **`number?_cases`** — how a text is read as a number;
* `isNumberChar`, **`isNumberChar_of_number?`** — a text with any other character is no number.
-/

namespace DisplayFilter.NumberText

open Text

/-! ### Digits with a point and without one -/

theorem trim_of_not_blank {s : List Char} (h : ∀ c ∈ s, isBlank c = false) : trim s = s := by
  have hstops : ∀ t : List Char, (∀ c ∈ t, isBlank c = false) → Stops isBlank t := fun t ht c hc =>
    ht c (List.mem_of_mem_head? hc)
  exact trim_of_ends (hstops s h) (hstops _ fun c hc => h c (List.mem_reverse.1 hc))

theorem not_blank_of_mem_signed {negative : Bool} {s : List Char}
    (h : ∀ c ∈ s, isBlank c = false) : ∀ c ∈ signed negative s, isBlank c = false := by
  cases negative with
  | false => exact h
  | true =>
    intro c hc
    rcases List.mem_cons.1 hc with rfl | hc
    · decide
    · exact h c hc

/-- Digits are not one of the words for numbers that are not finite. -/
theorem equalCaseless_digit {d : Char} (hd : d.isDigit = true) (s : List Char) {c : Char}
    (hc : c.toLower.isDigit = false) (word : List Char) :
    equalCaseless (d :: s) (c :: word) = false := by
  have hrange : 48 ≤ d.toNat ∧ d.toNat ≤ 57 := Char.isDigit_iff_toNat.1 hd
  have hlower : d.toLower = d := by
    refine toLower_of_not_isUpper fun hupper => ?_
    have hletter := toNat_of_isUpper hupper
    omega
  simp only [equalCaseless, hlower, Bool.and_eq_false_imp, beq_iff_eq]
  rintro rfl
  rw [hd] at hc
  simp at hc

theorem ofText?_of_splitSign {s digits rest : List Char} {negative : Bool}
    (hs : splitSign s = (negative, digits ++ rest)) (hne : digits ≠ [])
    (hall : ∀ c ∈ digits, c.isDigit = true) :
    Binary64.ofText? s = readDecimal? negative (digits ++ rest) := by
  rw [Binary64.ofText?, hs]
  obtain ⟨d, more, rfl⟩ := List.exists_cons_of_ne_nil hne
  have hd : d.isDigit = true := hall d List.mem_cons_self
  have hword : ∀ c word, c.toLower.isDigit = false →
      equalCaseless (d :: more ++ rest) (c :: word) = false := fun c word hc =>
    equalCaseless_digit hd _ hc word
  simp only [show "inf".toList = ['i', 'n', 'f'] from rfl, show "nan".toList = ['n', 'a', 'n'] from rfl,
    show "infinity".toList = 'i' :: "nfinity".toList from rfl, hword 'i' _ (by decide),
    hword 'n' _ (by decide), Bool.or_self, Bool.false_eq_true, if_false]

theorem ofText?_digits (negative : Bool) {digits : List Char} (hne : digits ≠ [])
    (hall : ∀ c ∈ digits, c.isDigit = true) (rest : List Char) :
    Binary64.ofText? (signed negative (digits ++ rest)) = readDecimal? negative (digits ++ rest) :=
  ofText?_of_splitSign (splitSign_signed negative hne hall rest) hne hall

theorem readDecimal?_point (negative : Bool) {digits places : List Char} (hne : digits ≠ [])
    (hall : ∀ c ∈ digits, c.isDigit = true) (hplaces : ∀ c ∈ places, c.isDigit = true) :
    readDecimal? negative (digits ++ '.' :: places) =
      some (Binary64.ofDecimal negative (decimalValue (digits ++ places))
        (-(places.length : Int))) := by
  have hdot : Stops isDecimalDigit ('.' :: places) := stops_cons.2 (by decide)
  have htake : places.takeWhile isDecimalDigit = places := by
    simpa using takeWhile_append_of_stops (p := isDecimalDigit) hplaces (stops_nil _)
  have hdrop : places.dropWhile isDecimalDigit = [] := by
    simpa using dropWhile_append_of_stops (p := isDecimalDigit) hplaces (stops_nil _)
  simp only [readDecimal?, takeWhile_append_of_stops (p := isDecimalDigit) hall hdot,
    dropWhile_append_of_stops (p := isDecimalDigit) hall hdot, htake, hdrop]
  simp [hne, readExponent?]

theorem readDecimal?_whole (negative : Bool) {digits : List Char} (hne : digits ≠ [])
    (hall : ∀ c ∈ digits, c.isDigit = true) :
    readDecimal? negative digits = some (Binary64.ofDecimal negative (decimalValue digits) 0) := by
  have htake : digits.takeWhile isDecimalDigit = digits := by
    simpa using takeWhile_append_of_stops (p := isDecimalDigit) hall (stops_nil _)
  have hdrop : digits.dropWhile isDecimalDigit = [] := by
    simpa using dropWhile_append_of_stops (p := isDecimalDigit) hall (stops_nil _)
  simp [readDecimal?, htake, hdrop, hne, readExponent?]

theorem not_blank_of_digits {digits places : List Char} (hall : ∀ c ∈ digits, c.isDigit = true)
    (hplaces : ∀ c ∈ places, isBlank c = false) :
    ∀ c ∈ digits ++ '.' :: places, isBlank c = false := by
  intro c hc
  rcases List.mem_append.1 hc with hc | hc
  · exact not_blank_of_isDigit (hall c hc)
  · rcases List.mem_cons.1 hc with rfl | hc
    · decide
    · exact hplaces c hc

theorem contains_signed {negative : Bool} {s : List Char} :
    (signed negative s).contains '.' = s.contains '.' := by
  cases negative with
  | false => rfl
  | true => simp [signed]

/-- What the decimal reader makes of digits with a point behind them. -/
theorem number?_behind (negative : Bool) {digits rest : List Char} (hne : digits ≠ [])
    (hall : ∀ c ∈ digits, c.isDigit = true) (hrest : ∀ c ∈ rest, isBlank c = false) :
    number? (String.ofList (signed negative (digits ++ '.' :: rest))) =
      readDecimal? negative (digits ++ '.' :: rest) := by
  have hpoint : (signed negative (digits ++ '.' :: rest)).contains '.' = true := by
    rw [contains_signed]
    simp
  rw [number?, String.toList_ofList, if_pos hpoint, decimal?, String.toList_ofList,
    trim_of_not_blank (not_blank_of_mem_signed (not_blank_of_digits hall hrest)),
    ofText?_digits negative hne hall]

/-- **Digits on both sides of a point** are a decimal. -/
theorem number?_point (negative : Bool) {digits places : List Char} (hne : digits ≠ [])
    (hall : ∀ c ∈ digits, c.isDigit = true) (hplaces : ∀ c ∈ places, c.isDigit = true) :
    number? (String.ofList (signed negative (digits ++ '.' :: places))) =
      some (Binary64.ofDecimal negative (decimalValue (digits ++ places))
        (-(places.length : Int))) := by
  rw [number?_behind negative hne hall fun c hc => not_blank_of_isDigit (hplaces c hc),
    readDecimal?_point negative hne hall hplaces]

/-- **Digits with two points** are no number. -/
theorem number?_points (negative : Bool) {digits places rest : List Char} (hne : digits ≠ [])
    (hall : ∀ c ∈ digits, c.isDigit = true) (hplaces : ∀ c ∈ places, c.isDigit = true)
    (hrest : ∀ c ∈ rest, isBlank c = false) :
    number? (String.ofList (signed negative (digits ++ '.' :: (places ++ '.' :: rest)))) = none := by
  have hdot : ∀ s, Stops isDecimalDigit ('.' :: s) := fun s => stops_cons.2 (by decide)
  rw [number?_behind negative hne hall (not_blank_of_digits hplaces hrest)]
  simp only [readDecimal?, takeWhile_append_of_stops (p := isDecimalDigit) hall (hdot _),
    dropWhile_append_of_stops (p := isDecimalDigit) hall (hdot _),
    takeWhile_append_of_stops (p := isDecimalDigit) hplaces (hdot _),
    dropWhile_append_of_stops (p := isDecimalDigit) hplaces (hdot _)]
  simp [readExponent?]

/-- **Digits alone** are a decimal, if they do not look like an octal number. -/
theorem number?_whole (negative : Bool) {digits : List Char} (hne : digits ≠ [])
    (hall : ∀ c ∈ digits, c.isDigit = true)
    (hzero : negative = false → digits.head? ≠ some '0') :
    number? (String.ofList (signed negative digits)) =
      some (Binary64.ofDecimal negative (decimalValue digits) 0) := by
  have hpoint : (signed negative digits).contains '.' = false := by
    rw [contains_signed, Bool.eq_false_iff]
    intro hmem
    exact absurd (hall '.' (by simpa using hmem)) (by decide)
  have hdecimal : number? (String.ofList (signed negative digits)) =
      decimal? (String.ofList (signed negative digits)) := by
    have hhead : ∀ s, signed negative digits ≠ '0' :: s := by
      intro s hs
      cases negative with
      | false => exact hzero rfl (by rw [show digits = '0' :: s from hs]; rfl)
      | true => simp [signed] at hs
    rw [number?, String.toList_ofList, hpoint, if_neg (by simp)]
    split
    · next hs => exact absurd hs (hhead _)
    · next hs => exact absurd hs (hhead _)
    · next hs => exact absurd hs (hhead _)
    · next hs => exact absurd hs (hhead _)
    · rfl
  have htext := ofText?_digits negative hne hall []
  rw [List.append_nil] at htext
  rw [hdecimal, decimal?, String.toList_ofList, trim_of_not_blank
    (not_blank_of_mem_signed fun c hc => not_blank_of_isDigit (hall c hc)), htext,
    readDecimal?_whole negative hne hall]

/-! ### The characters of decimals -/

/-- The characters of decimals besides blanks and digits: signs, points, and the letters of exponents,
infinities and `NaN`. -/
def decimalMarks : List Char :=
  ['+', '-', '.', 'e', 'i', 'n', 'f', 't', 'y', 'a']

/-- **The characters of decimals.** -/
def isDecimalChar (c : Char) : Bool :=
  isBlank c || c.isDigit || decimalMarks.contains c.toLower

theorem isDecimalChar_of_isDigit {c : Char} (h : c.isDigit = true) : isDecimalChar c = true := by
  simp [isDecimalChar, h]

theorem isDecimalChar_of_isBlank {c : Char} (h : isBlank c = true) : isDecimalChar c = true := by
  simp [isDecimalChar, h]

theorem isDecimalChar_of_readExponent? {s : List Char} {n : Int} (h : readExponent? s = some n) :
    ∀ c ∈ s, isDecimalChar c = true := by
  cases s with
  | nil => simp
  | cons c s =>
    simp only [readExponent?, Option.ite_none_right_eq_some] at h
    obtain ⟨hc, h⟩ := h
    simp only [Option.ite_none_left_eq_some, Bool.or_eq_true, Bool.not_eq_true', not_or,
      Bool.not_eq_false, List.all_eq_true] at h
    have hdigits : ∀ d ∈ (splitSign s).2, isDecimalChar d = true := fun d hd =>
      isDecimalChar_of_isDigit (h.1.2 d hd)
    refine List.forall_mem_cons.2 ⟨?_, forall_of_splitSign (by decide) (by decide) hdigits⟩
    rcases hc with rfl | rfl
    · decide
    · decide

/-- **The shape of a decimal:** digits, perhaps a point and digits, and what is read as an exponent. -/
theorem readDecimal?_shape {negative : Bool} {s : List Char} {x : Binary64}
    (h : readDecimal? negative s = some x) : ∃ whole fraction rest exponent,
      (∀ c ∈ whole, c.isDigit = true) ∧ (∀ c ∈ fraction, c.isDigit = true) ∧
        readExponent? rest = some exponent ∧
          (s = whole ++ rest ∨ s = whole ++ '.' :: (fraction ++ rest)) := by
  have hwhole := List.takeWhile_append_dropWhile (p := isDecimalDigit) (l := s)
  simp only [readDecimal?, Option.ite_none_left_eq_some] at h
  split at h
  · next t ht =>
    obtain ⟨exponent, hexponent, -⟩ := Option.bind_eq_some_iff.1 h.2
    refine ⟨s.takeWhile isDecimalDigit, t.takeWhile isDecimalDigit, t.dropWhile isDecimalDigit,
      exponent, takeWhile_all, takeWhile_all, hexponent, Or.inr ?_⟩
    rw [List.takeWhile_append_dropWhile, ← ht, hwhole]
  · obtain ⟨exponent, hexponent, -⟩ := Option.bind_eq_some_iff.1 h.2
    exact ⟨s.takeWhile isDecimalDigit, [], s.dropWhile isDecimalDigit, exponent, takeWhile_all,
      by simp, hexponent, Or.inl hwhole.symm⟩

theorem isDecimalChar_of_readDecimal? {negative : Bool} {s : List Char} {x : Binary64}
    (h : readDecimal? negative s = some x) : ∀ c ∈ s, isDecimalChar c = true := by
  obtain ⟨whole, fraction, rest, exponent, hwhole, hfraction, hexponent, hs⟩ := readDecimal?_shape h
  have hrest := isDecimalChar_of_readExponent? hexponent
  intro c hc
  rcases hs with rfl | rfl
  · exact (List.mem_append.1 hc).elim (fun hc => isDecimalChar_of_isDigit (hwhole c hc)) (hrest c)
  · simp only [List.mem_append, List.mem_cons] at hc
    rcases hc with hc | rfl | hc | hc
    · exact isDecimalChar_of_isDigit (hwhole c hc)
    · decide
    · exact isDecimalChar_of_isDigit (hfraction c hc)
    · exact hrest c hc

/-- **A decimal** is one of three words or digits, behind a sign. -/
theorem ofText?_cases {s : List Char} {x : Binary64} (h : Binary64.ofText? s = some x) :
    (∃ word ∈ ["inf", "infinity", "nan"], equalCaseless (splitSign s).2 word.toList = true) ∨
      ∃ negative, readDecimal? negative (splitSign s).2 = some x := by
  simp only [Binary64.ofText?] at h
  split at h
  · next hinfinite =>
    rcases Bool.or_eq_true_iff.1 hinfinite with hinf | hinf
    · exact Or.inl ⟨_, by simp, hinf⟩
    · exact Or.inl ⟨_, by simp, hinf⟩
  · split at h
    · next hnan => exact Or.inl ⟨_, by simp, hnan⟩
    · exact Or.inr ⟨_, h⟩

theorem isDecimalChar_of_ofText? {s : List Char} {x : Binary64} (h : Binary64.ofText? s = some x) :
    ∀ c ∈ s, isDecimalChar c = true := by
  have hmarks : ∀ word ∈ ["inf", "infinity", "nan"],
      (word.toList.all fun d => decimalMarks.contains d.toLower) = true := by
    decide
  refine forall_of_splitSign (by decide) (by decide) ?_
  rcases ofText?_cases h with ⟨word, hword, hequal⟩ | ⟨negative, hread⟩
  · intro c hc
    obtain ⟨d, hd, hlower⟩ := (mem_of_equalCaseless hequal).2 c hc
    have hmark := List.all_eq_true.1 (hmarks word hword) d hd
    rw [hlower] at hmark
    rw [isDecimalChar, hmark, Bool.or_true]
  · exact isDecimalChar_of_readDecimal? hread

theorem isDecimalChar_of_decimal? {s : String} {x : Binary64} (h : decimal? s = some x) :
    ∀ c ∈ s.toList, isDecimalChar c = true := by
  obtain ⟨u, v, hs, hu, hv⟩ := trim_append s.toList
  intro c hc
  rw [hs] at hc
  simp only [List.mem_append] at hc
  rcases hc with (hc | hc) | hc
  · exact isDecimalChar_of_isBlank (hu c hc)
  · exact isDecimalChar_of_ofText? h c hc
  · exact isDecimalChar_of_isBlank (hv c hc)

/-! ### The characters of numbers -/

/-- **The characters of numbers:** blanks, signs, points, digits and letters. -/
def isNumberChar (c : Char) : Bool :=
  let n := c.toNat
  isBlank c || n == 43 || n == 45 || n == 46 || (48 ≤ n && n ≤ 57) || (65 ≤ n && n ≤ 90)
    || (97 ≤ n && n ≤ 122)

theorem isNumberChar_of_isDecimalChar {c : Char} (h : isDecimalChar c = true) :
    isNumberChar c = true := by
  simp only [isDecimalChar, Bool.or_eq_true] at h
  rcases h with (hblank | hdigit) | hmark
  · simp [isNumberChar, hblank]
  · have hrange : 48 ≤ c.toNat ∧ c.toNat ≤ 57 := Char.isDigit_iff_toNat.1 hdigit
    simp [isNumberChar, hrange]
  · by_cases hupper : c.isUpper = true
    · simp [isNumberChar, toNat_of_isUpper hupper]
    · rw [toLower_of_not_isUpper hupper] at hmark
      have hmarks : decimalMarks.all isNumberChar = true := by decide
      exact List.all_eq_true.1 hmarks c (List.contains_iff_mem.1 hmark)

theorem isNumberChar_of_digitValue? {base d : Nat} {c : Char} (h : digitValue? base c = some d) :
    isNumberChar c = true := by
  obtain ⟨-, hrange⟩ := digitValue?_eq_some h
  simp only [isNumberChar, Bool.or_eq_true, Bool.and_eq_true, beq_iff_eq, decide_eq_true_eq]
  omega

/-- **A number of a base** consists of digits behind a sign. -/
theorem digits_of_basedNumber? {base : Nat} {s : List Char} {x : Binary64}
    (h : basedNumber? base s = some x) :
    ∀ c ∈ (splitSign s).2, ∃ d, digitValue? base c = some d := by
  obtain ⟨value, hvalue, -⟩ := Option.map_eq_some_iff.1 h
  obtain ⟨n, hn, -⟩ := Option.bind_eq_some_iff.1 hvalue
  simp only [digitsValue?, Option.ite_none_left_eq_some] at hn
  exact digits_of_digitsValueFrom? hn.2

theorem isNumberChar_of_basedNumber? {base : Nat} {s : List Char} {x : Binary64}
    (h : basedNumber? base s = some x) : ∀ c ∈ s, isNumberChar c = true := by
  refine forall_of_splitSign (by decide) (by decide) fun c hc => ?_
  obtain ⟨d, hd⟩ := digits_of_basedNumber? h c hc
  exact isNumberChar_of_digitValue? hd

/-- **How a text is read as a number:** as a decimal, or behind a zero as a number of a base. -/
theorem number?_cases {s : String} {x : Binary64} (h : number? s = some x) :
    decimal? s = some x ∨ s.toList = ['0'] ∨
      (∃ digits, s.toList = '0' :: 'x' :: digits ∧ basedNumber? 16 digits = some x) ∨
        (∃ digits, s.toList = '0' :: 'o' :: digits ∧ basedNumber? 8 digits = some x) ∨
          ∃ digits, s.toList = '0' :: digits ∧ basedNumber? 8 digits = some x := by
  unfold number? at h
  split at h
  · exact Or.inl h
  · split at h
    · next heq => exact Or.inr (Or.inl heq)
    · next digits heq => exact Or.inr (Or.inr (Or.inl ⟨digits, heq, h⟩))
    · next digits heq => exact Or.inr (Or.inr (Or.inr (Or.inl ⟨digits, heq, h⟩)))
    · next digits _ _ _ heq => exact Or.inr (Or.inr (Or.inr (Or.inr ⟨digits, heq, h⟩)))
    · exact Or.inl h

/-- **A text with any other character is no number.** -/
theorem isNumberChar_of_number? {s : String} {x : Binary64} (h : number? s = some x) :
    ∀ c ∈ s.toList, isNumberChar c = true := by
  have hzero : ∀ t : List Char, (∀ c ∈ t, isNumberChar c = true) →
      ∀ c ∈ '0' :: t, isNumberChar c = true := fun t ht =>
    List.forall_mem_cons.2 ⟨by decide, ht⟩
  rcases number?_cases h with hdecimal | heq | ⟨digits, heq, hbased⟩ | ⟨digits, heq, hbased⟩ |
    ⟨digits, heq, hbased⟩
  · exact fun c hc => isNumberChar_of_isDecimalChar (isDecimalChar_of_decimal? hdecimal c hc)
  · rw [heq]
    exact hzero [] (by simp)
  · rw [heq]
    exact hzero _ (List.forall_mem_cons.2 ⟨by decide, isNumberChar_of_basedNumber? hbased⟩)
  · rw [heq]
    exact hzero _ (List.forall_mem_cons.2 ⟨by decide, isNumberChar_of_basedNumber? hbased⟩)
  · rw [heq]
    exact hzero _ (isNumberChar_of_basedNumber? hbased)

end DisplayFilter.NumberText
