import DisplayFilter.Proofs.Cursor.Scan
import DisplayFilter.Proofs.Value.NumberText

/-!
# Lexemes with a cursor

A lexeme is read with a cursor and cut out of the text afterwards.  Where it turns out to be none, the
cursor goes back to where it started.

* `Scan.integer`, `Scan.number` — numbers, as the value of the text that the cursor has passed;
* `Quoted`, `Scan.quoted` — a text in quotes: the quotes are one byte each;
* `Scan.word` — an unquoted value;
* **`tracks_integer`**, **`tracks_number`**, **`tracks_quoted`**, **`tracks_word`** — they do what the
  readers of lexemes do.
-/

namespace DisplayFilter

open Text

/-! ### Numbers -/

namespace Scan

variable {ε α : Type}

/-- A sign, if there is one. -/
def sign : Scan ε Unit := do
  if (← eat ['-']) then pure ()
  else
    let _ ← eat ['+']
    pure ()

/-- The value of the text from `start` to the cursor, which goes back if there is none. -/
def valueSince (start : Nat) (value? : List Char → Option α) : Scan ε (Option α) := do
  match value? (← between start (← position)) with
  | some a => pure (some a)
  | none => do
    reset start
    pure none

/-- **Integers.** -/
def integer : Scan ε (Option Int64) := do
  let start ← position
  sign
  let digits ← takeWhile Char.isDigit
  if digits.isEmpty then do
    reset start
    pure none
  else valueSince start fun text => (int64? 10 text).map Int64.ofInt

/-- A point with a digit behind it, and the digits. -/
def fraction : Scan ε Unit := do
  let point ← position
  if (← eat ['.']) then do
    let places ← takeWhile Char.isDigit
    if places.isEmpty then reset point else pure ()
  else pure ()

/-- **Numbers.** -/
def number : Scan ε (Option Binary64) := do
  let start ← position
  sign
  let digits ← takeWhile Char.isDigit
  if digits.isEmpty then do
    reset start
    pure none
  else do
    fraction
    valueSince start Binary64.ofText?

end Scan

section Numbers

variable {ε ε' α : Type} {reported : ε' → ε → Prop} {src s t : List Char} {place : Nat}

theorem tracks_sign (hs : s <:+ src) :
    Tracks reported src (Scan.sign : Scan ε Unit) (bytePosition src s)
      (.ok ((), (splitSign s).2)) := by
  unfold splitSign
  split
  · next t =>
    have ht : t <:+ src := (List.suffix_cons '-' t).trans hs
    exact (tracks_eat_cons hs).step (tracks_pure ht ())
  · next t =>
    have ht : t <:+ src := (List.suffix_cons '+' t).trans hs
    refine (tracks_eat_of_ne hs (by simp)).step ?_
    exact (tracks_eat_cons hs).step (tracks_pure ht ())
  · next hminus hplus =>
    refine (tracks_eat_of_ne hs hminus).step ?_
    exact (tracks_eat_of_ne hs hplus).step (tracks_pure hs ())

theorem tracks_valueSince {front : List Char} (h : front ++ t <:+ src)
    (value? : List Char → Option α) :
    Tracks reported src (Scan.valueSince (bytePosition src (front ++ t)) value? : Scan ε (Option α))
      (bytePosition src t) (.ok (tried ((value? front).map (·, t)) (front ++ t))) := by
  have ht : t <:+ src := (List.suffix_append front t).trans h
  refine (tracks_position ht).step ?_
  refine (tracks_between ht h).step ?_
  cases value? front with
  | some a => exact tracks_pure ht (some a)
  | none => exact (tracks_reset h).step (tracks_pure h none)

/-- What a cursor has passed has the sign of the whole text. -/
theorem exists_front {negative : Bool} {body : List Char}
    (h : splitSign s = (negative, body ++ t)) (hne : body ≠ []) :
    ∃ front, s = front ++ t ∧ splitSign front = (negative, body) := by
  have hend := splitSign_suffix s
  rw [h] at hend
  obtain ⟨front, hs⟩ := (List.suffix_append body t).trans hend
  subst hs
  refine ⟨front, rfl, ?_⟩
  have hfront : front ≠ [] := by
    rintro rfl
    have hlength := hend.length_le
    have hpos := List.length_pos_iff.2 hne
    rw [List.nil_append, List.length_append] at hlength
    omega
  rw [splitSign_append hfront, Prod.mk.injEq] at h
  exact Prod.ext h.1 (List.append_cancel_right h.2)

theorem int64?_of_splitSign {negative : Bool} {digits : List Char}
    (hs : splitSign s = (negative, digits)) (hne : digits ≠ [])
    (hall : ∀ c ∈ digits, c.isDigit = true) :
    (int64? 10 s).map Int64.ofInt = Lexeme.signedValue? negative digits := by
  simp only [int64?, hs, digitsValue?_ten hne hall, Lexeme.signedValue?, bind, Option.bind_some]
  generalize (if negative = true then -(decimalValue digits : Int) else decimalValue digits) = n
  split
  · rfl
  · rfl

/-- **Integers.** -/
theorem tracks_integer (hs : s <:+ src) :
    Tracks reported src (Scan.integer : Scan ε (Option Int64)) (bytePosition src s)
      (.ok (tried (Lexeme.integer? s) s)) := by
  have hsign := @tracks_sign ε ε' reported src s hs
  have hbody := (splitSign_suffix s).trans hs
  cases hsplit : splitSign s with
  | mk negative body =>
    rw [hsplit] at hsign hbody
    refine (tracks_position hs).step (hsign.step ?_)
    refine (tracks_takeWhile hbody Char.isDigit).step ?_
    simp only [Lexeme.integer?, hsplit]
    by_cases hempty : (body.takeWhile Char.isDigit).isEmpty = true
    · rw [if_pos hempty, if_pos hempty]
      exact (tracks_reset hs).step (tracks_pure hs none)
    · rw [if_neg hempty, if_neg hempty]
      have hne : body.takeWhile Char.isDigit ≠ [] := by simpa using hempty
      have hdigits : splitSign s = (negative, body.takeWhile Char.isDigit ++ body.dropWhile Char.isDigit) := by
        rw [hsplit, List.takeWhile_append_dropWhile]
      obtain ⟨front, hfront, hpassed⟩ := exists_front hdigits hne
      have hvalue := @tracks_valueSince ε ε' Int64 reported src (body.dropWhile Char.isDigit) front
        (hfront ▸ hs) fun text => (int64? 10 text).map Int64.ofInt
      rw [← hfront, int64?_of_splitSign hpassed hne takeWhile_all] at hvalue
      exact hvalue

/-- What a fraction reads, as it stands in the text. -/
theorem fraction_cases (s : List Char) :
    Lexeme.fraction s = ([], s) ∨ ∃ places rest, s = '.' :: (places ++ rest) ∧
      (∀ c ∈ places, c.isDigit = true) ∧ Lexeme.fraction s = (places, rest) := by
  unfold Lexeme.fraction
  split
  · next t =>
    split
    · exact Or.inl rfl
    · exact Or.inr ⟨_, _, by rw [List.takeWhile_append_dropWhile], takeWhile_all, rfl⟩
  · exact Or.inl rfl

theorem tracks_fraction (hs : s <:+ src) :
    Tracks reported src (Scan.fraction : Scan ε Unit) (bytePosition src s)
      (.ok ((), (Lexeme.fraction s).2)) := by
  refine (tracks_position hs).step ?_
  unfold Lexeme.fraction
  split
  · next t =>
    have ht : t <:+ src := (List.suffix_cons '.' t).trans hs
    refine (tracks_eat_cons hs).step ?_
    refine (tracks_takeWhile ht Char.isDigit).step ?_
    by_cases hempty : (t.takeWhile Char.isDigit).isEmpty = true
    · rw [if_pos hempty, if_pos hempty]
      exact tracks_reset hs
    · rw [if_neg hempty, if_neg hempty]
      exact tracks_pure ((List.dropWhile_suffix _).trans ht) ()
  · next hpoint => exact (tracks_eat_of_ne hs hpoint).step (tracks_pure hs ())

/-- The decimal reader answers the number that digits and a fraction stand for. -/
theorem ofText?_fraction {negative : Bool} {front digits places : List Char} (hne : digits ≠ [])
    (hall : ∀ c ∈ digits, c.isDigit = true) (hs : s = places ++ (Lexeme.fraction s).2)
    (hfront : splitSign front = (negative, digits ++ places)) :
    Binary64.ofText? front = some (Binary64.ofDecimal negative
      (decimalValue (digits ++ (Lexeme.fraction s).1)) (-((Lexeme.fraction s).1.length : Int))) := by
  rw [NumberText.ofText?_of_splitSign hfront hne hall]
  rcases fraction_cases s with hnone | ⟨more, rest, rfl, hmore, hsome⟩
  · rw [hnone] at hs ⊢
    obtain rfl := List.self_eq_append_left.1 hs
    rw [List.append_nil, NumberText.readDecimal?_whole negative hne hall]
    rfl
  · rw [hsome] at hs ⊢
    obtain rfl : '.' :: more = places := List.append_cancel_right hs
    exact NumberText.readDecimal?_point negative hne hall hmore

/-- **Numbers.** -/
theorem tracks_number (hs : s <:+ src) :
    Tracks reported src (Scan.number : Scan ε (Option Binary64)) (bytePosition src s)
      (.ok (tried (Lexeme.number? s) s)) := by
  have hsign := @tracks_sign ε ε' reported src s hs
  have hbody := (splitSign_suffix s).trans hs
  cases hsplit : splitSign s with
  | mk negative body =>
    rw [hsplit] at hsign hbody
    refine (tracks_position hs).step (hsign.step ?_)
    refine (tracks_takeWhile hbody Char.isDigit).step ?_
    simp only [Lexeme.number?, hsplit]
    by_cases hempty : (body.takeWhile Char.isDigit).isEmpty = true
    · rw [if_pos hempty, if_pos hempty]
      exact (tracks_reset hs).step (tracks_pure hs none)
    · rw [if_neg hempty, if_neg hempty]
      have hbehind := (List.dropWhile_suffix Char.isDigit).trans hbody
      refine (tracks_fraction hbehind).step ?_
      have hne : body.takeWhile Char.isDigit ≠ [] := by simpa using hempty
      obtain ⟨places, hplaces⟩ := fraction_suffix (body.dropWhile Char.isDigit)
      have hdigits : splitSign s = (negative, (body.takeWhile Char.isDigit ++ places) ++
          (Lexeme.fraction (body.dropWhile Char.isDigit)).2) := by
        rw [hsplit, List.append_assoc, hplaces, List.takeWhile_append_dropWhile]
      obtain ⟨front, hfront, hpassed⟩ := exists_front hdigits (by simp [hne])
      have hvalue := @tracks_valueSince ε ε' Binary64 reported src
        (Lexeme.fraction (body.dropWhile Char.isDigit)).2 front (hfront ▸ hs) Binary64.ofText?
      rw [← hfront, ofText?_fraction hne takeWhile_all hplaces.symm hpassed] at hvalue
      exact hvalue

end Numbers

/-! ### Quoted texts and words -/

/-- **What a cursor finds** where a quote may open. -/
inductive Quoted where
  | absent
  | unclosed
  | text (body : List Char)
  deriving DecidableEq

namespace Scan

variable {ε : Type}

/-- **Quoted texts.**  The quotes are one byte each, and the second one is looked for in the bytes behind
the first one. -/
def quoted : Scan ε Quoted := do
  match ← peek with
  | none => pure .absent
  | some q =>
    if isQuote q then do
      let start := (← position) + 1
      match splitOnce (· == q) (← textFrom (← source) start) with
      | none => pure .unclosed
      | some (body, _) => do
        let size := utf8Size body
        reset (start + size + 1)
        return .text (← between start (start + size))
    else pure .absent

/-- **Unquoted values.** -/
def word : Scan ε (Option (List Char)) := do
  if (← peek).any isQuote then pure none
  else do
    let word ← takeWhile isWordChar
    pure (if word.isEmpty then none else some word)

end Scan

/-- What a cursor finds where a quote may open, and the text behind it. -/
def quotedAt (s : List Char) : Quoted × List Char :=
  match quotation s with
  | .absent => (.absent, s)
  | .unclosed => (.unclosed, s)
  | .closed body rest => (.text body, rest)

section Words

variable {ε ε' : Type} {reported : ε' → ε → Prop} {src s t : List Char}

/-- Behind an empty run stands the whole text. -/
theorem dropWhile_of_isEmpty {p : Char → Bool} (h : (s.takeWhile p).isEmpty = true) :
    s.dropWhile p = s := by
  have hsplit := @List.takeWhile_append_dropWhile _ p s
  rw [List.isEmpty_iff.1 h, List.nil_append] at hsplit
  exact hsplit

theorem utf8Size_of_isQuote {q : Char} (h : isQuote q = true) : q.utf8Size = 1 := by
  simp only [isQuote, Bool.or_eq_true, beq_iff_eq] at h
  rcases h with rfl | rfl
  · rfl
  · rfl

theorem bytePosition_quote {q : Char} (hq : isQuote q = true) (h : q :: t <:+ src) :
    bytePosition src t = bytePosition src (q :: t) + 1 := by
  have hmove : bytePosition src t = bytePosition src (q :: t) + utf8Size [q] :=
    @bytePosition_append src [q] t h
  rw [hmove, utf8Size_cons, utf8Size_nil, utf8Size_of_isQuote hq]

/-- **Quoted texts.** -/
theorem tracks_quoted (hs : s <:+ src) :
    Tracks reported src (Scan.quoted : Scan ε Quoted) (bytePosition src s)
      (.ok (quotedAt s)) := by
  refine (tracks_peek hs).step ?_
  cases s with
  | nil => exact tracks_pure hs Quoted.absent
  | cons q s =>
    have hopen : s <:+ src := (List.suffix_cons q s).trans hs
    show Tracks reported src (if isQuote q = true then _ else _) _ _
    by_cases hq : isQuote q = true
    · rw [if_pos hq]
      refine (tracks_position hs).step ?_
      refine (tracks_source hs).step ?_
      show Tracks reported src (Scan.textFrom src (bytePosition src (q :: s) + 1) >>= fun _ => _) _ _
      rw [← bytePosition_quote hq hs]
      refine (tracks_textFrom hs (dropBytes?_bytePosition hopen)).step ?_
      cases hsplit : splitOnce (· == q) s with
      | none =>
        have hquoted : quotedAt (q :: s) = (.unclosed, q :: s) := by
          simp [quotedAt, quotation, hq, hsplit]
        rw [hquoted]
        exact tracks_pure hs Quoted.unclosed
      | some found =>
        obtain ⟨body, rest⟩ := found
        have hquoted : quotedAt (q :: s) = (.text body, rest) := by
          simp [quotedAt, quotation, hq, hsplit]
        obtain ⟨c, hc, -, rfl⟩ := splitOnce_eq_some_iff.1 hsplit
        obtain rfl : c = q := by simpa using hc
        have hclose : c :: rest <:+ src := (List.suffix_append body _).trans hopen
        have hrest : rest <:+ src := (List.suffix_cons c rest).trans hclose
        rw [hquoted]
        show Tracks reported src (Scan.reset (_ + utf8Size body + 1) >>= fun _ => _) _ _
        rw [← bytePosition_append hopen, ← bytePosition_quote hq hclose]
        refine (tracks_reset hrest).step ?_
        refine (tracks_between hrest hopen).step ?_
        exact tracks_pure hrest (Quoted.text body)
    · have hquoted : quotedAt (q :: s) = (.absent, q :: s) := by
        simp [quotedAt, quotation, hq]
      rw [if_neg hq, hquoted]
      exact tracks_pure hs Quoted.absent

/-- After a quoted text, if there is one. -/
theorem tracks_quoted_bind {α : Type} {f : Quoted → Scan ε α} {y : Except ε' (α × List Char)}
    (hs : s <:+ src)
    (habsent : quotation s = .absent →
      Tracks reported src (f .absent) (bytePosition src s) y)
    (hunclosed : quotation s = .unclosed →
      Tracks reported src (f .unclosed) (bytePosition src s) y)
    (hclosed : ∀ body rest, quotation s = .closed body rest → rest <:+ src →
      Tracks reported src (f (.text body)) (bytePosition src rest) y) :
    Tracks reported src (Scan.quoted >>= f) (bytePosition src s) y := by
  have hquoted := @tracks_quoted ε ε' reported src s hs
  unfold quotedAt at hquoted
  cases hq : quotation s with
  | absent =>
    rw [hq] at hquoted
    exact hquoted.step (habsent hq)
  | unclosed =>
    rw [hq] at hquoted
    exact hquoted.step (hunclosed hq)
  | closed body rest =>
    rw [hq] at hquoted
    exact hquoted.step (hclosed body rest hq hquoted.suffix)

/-- **Unquoted values.** -/
theorem tracks_word (hs : s <:+ src) :
    Tracks reported src (Scan.word : Scan ε (Option (List Char))) (bytePosition src s)
      (.ok (tried (Lexeme.word? s) s)) := by
  refine (tracks_peek hs).step ?_
  simp only [Lexeme.word?]
  by_cases hquote : s.head?.any isQuote = true
  · rw [if_pos hquote, hquote]
    exact tracks_pure hs none
  · rw [if_neg hquote, Bool.eq_false_iff.2 hquote, Bool.false_or]
    refine (tracks_takeWhile hs isWordChar).step ?_
    by_cases hempty : (s.takeWhile isWordChar).isEmpty = true
    · rw [if_pos hempty, if_pos hempty, dropWhile_of_isEmpty hempty]
      exact tracks_pure hs none
    · rw [if_neg hempty, if_neg hempty]
      exact tracks_pure ((List.dropWhile_suffix isWordChar).trans hs) (some _)

end Words

end DisplayFilter
