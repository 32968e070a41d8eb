import DisplayFilter.Lexeme
import DisplayFilter.Number.Layout
import DisplayFilter.Proofs.Text.Runs

/-!
# Decimal digits

Digits are written by one function and read by another.  A text of digits has the value that it was
written for, and a reader of numbers takes exactly the digits that stand before another character.

* **`decimalValue_decimalDigits`** — digits read as the number that they were written for;
* **`decimalDigits_decimalValue`** — digits are the only ones of their number without a zero in front;
* **`integer?_integerText`** — so do integers of sixty-four bits, with their sign.
-/

namespace DisplayFilter

open Text

/-! ### Values of digits -/

theorem decimalValue_eq_ofDigitChars (s : List Char) :
    decimalValue s = Nat.ofDigitChars 10 s 0 := by
  simp only [decimalValue, Nat.ofDigitChars_eq_foldl, Nat.mul_comm]
  rfl

/-- Digits behind digits move them up by one place each. -/
theorem decimalValue_append (s t : List Char) :
    decimalValue (s ++ t) = decimalValue s * Nat.pow 10 t.length + decimalValue t := by
  simp only [decimalValue_eq_ofDigitChars, Nat.ofDigitChars_append, Nat.pow_eq]
  rw [Nat.ofDigitChars_eq_ofDigitChars_zero, Nat.mul_comm]

theorem decimalValue_replicate_zero (n : Nat) : decimalValue (List.replicate n '0') = 0 := by
  rw [decimalValue_eq_ofDigitChars, Nat.ofDigitChars_replicate_zero, Nat.mul_zero]

/-- **Digits read as the number that they were written for.** -/
theorem decimalValue_decimalDigits (n : Nat) : decimalValue (decimalDigits n) = n := by
  rw [decimalValue_eq_ofDigitChars, decimalDigits, Nat.ofDigitChars_ten_toDigits]

theorem isDigit_of_mem_decimalDigits {n : Nat} {c : Char} (h : c ∈ decimalDigits n) :
    c.isDigit = true :=
  Nat.isDigit_of_mem_toDigits (by omega) (by omega) h

theorem decimalDigits_all (n : Nat) : ∀ c ∈ decimalDigits n, c.isDigit = true :=
  fun _ hc => isDigit_of_mem_decimalDigits hc

theorem not_blank_of_isDigit {c : Char} (h : c.isDigit = true) : isBlank c = false := by
  have hrange : 48 ≤ c.toNat ∧ c.toNat ≤ 57 := Char.isDigit_iff_toNat.1 h
  simp only [isBlank]
  grind

theorem isDigit_of_isBlank {c : Char} (h : isBlank c = true) : c.isDigit = false := by
  cases hc : c.isDigit with
  | false => rfl
  | true => simp [not_blank_of_isDigit hc] at h

theorem not_isQuote_of_isDigit {c : Char} (h : c.isDigit = true) : isQuote c = false := by
  cases hq : isQuote c with
  | false => rfl
  | true =>
    simp only [isQuote, Bool.or_eq_true, beq_iff_eq] at hq
    rcases hq with rfl | rfl
    · simp at h
    · simp at h

/-- **The digits of a base** are decimal digits and letters. -/
theorem digitValue?_eq_some {base d : Nat} {c : Char} (h : digitValue? base c = some d) :
    d < base ∧ (48 ≤ c.toNat ∧ c.toNat ≤ 57 ∧ d = c.toNat - 48 ∨
      97 ≤ c.toNat ∧ c.toNat ≤ 122 ∧ d = c.toNat - 87 ∨
        65 ≤ c.toNat ∧ c.toNat ≤ 90 ∧ d = c.toNat - 55) := by
  obtain ⟨h, hlt⟩ := Option.filter_eq_some_iff.1 h
  refine ⟨of_decide_eq_true hlt, ?_⟩
  split at h
  · next hdigit => exact Or.inl ⟨hdigit.1, hdigit.2, (Option.some.inj h).symm⟩
  · split at h
    · next hlower => exact Or.inr (Or.inl ⟨hlower.1, hlower.2, (Option.some.inj h).symm⟩)
    · split at h
      · next hupper => exact Or.inr (Or.inr ⟨hupper.1, hupper.2, (Option.some.inj h).symm⟩)
      · simp at h

theorem decimalDigits_ne_nil (n : Nat) : decimalDigits n ≠ [] :=
  Nat.toDigits_ne_nil

theorem digitChar_of_isDigit {c : Char} (h : c.isDigit = true) :
    c.toNat - 48 < 10 ∧ Nat.digitChar (c.toNat - 48) = c := by
  have hrange : 48 ≤ c.toNat ∧ c.toNat ≤ 57 := Char.isDigit_iff_toNat.1 h
  have hall : ∀ k < 10, Nat.digitChar k = Char.ofNat (48 + k) := by
    decide
  refine ⟨by omega, ?_⟩
  rw [hall _ (by omega), Nat.add_sub_cancel' hrange.1, Char.ofNat_toNat]

/-- **Digits without a zero in front** are the digits of their value. -/
theorem decimalDigits_decimalValue {digits : List Char} (hne : digits ≠ [])
    (hall : ∀ c ∈ digits, c.isDigit = true) (hzero : digits.head? = some '0' → digits = ['0']) :
    decimalDigits (decimalValue digits) = digits := by
  induction hlength : digits.length generalizing digits with
  | zero => exact absurd (List.eq_nil_of_length_eq_zero hlength) hne
  | succ n ih =>
    -- the last digit is the one that was written last
    obtain ⟨more, c, rfl⟩ := (List.eq_nil_or_concat digits).resolve_left hne
    rw [List.concat_eq_append] at *
    obtain ⟨hlt, hchar⟩ := digitChar_of_isDigit (hall c (by simp))
    have hlast : Nat.toDigits 10 (c.toNat - 48) = [c] := by
      rw [Nat.toDigits_of_lt_base hlt, hchar]
    cases more with
    | nil =>
      show Nat.toDigits 10 (0 * 10 + (c.toNat - 48)) = [c]
      rw [Nat.zero_mul, Nat.zero_add, hlast]
    | cons d more =>
      have hd : d ≠ '0' := by
        rintro rfl
        simp at hzero
      have hmore : decimalDigits (decimalValue (d :: more)) = d :: more :=
        ih (by simp) (fun x hx => hall x (List.mem_append_left _ hx))
          (fun h => absurd (by simpa using h) hd) (by simpa using hlength)
      have hpos : 0 < decimalValue (d :: more) := by
        rw [Nat.pos_iff_ne_zero]
        intro hvalue
        rw [hvalue] at hmore
        exact hd (List.cons.inj hmore).1.symm
      have hvalue : decimalValue (d :: more ++ [c]) =
          10 * decimalValue (d :: more) + (c.toNat - 48) := by
        rw [decimalValue_append, Nat.mul_comm]
        show _ + (0 * 10 + (c.toNat - 48)) = _
        rw [Nat.zero_mul, Nat.zero_add]
        rfl
      rw [decimalDigits, hvalue, ← Nat.toDigits_append_toDigits (by decide) hpos hlt, hlast]
      exact congrArg (· ++ [c]) hmore

/-- Only zero is written with a zero in front. -/
theorem decimalDigits_head {n : Nat} (h : n ≠ 0) : (decimalDigits n).head? ≠ some '0' := by
  induction n using Nat.strongRecOn with
  | ind n ih =>
    rw [decimalDigits]
    rcases Nat.lt_or_ge n 10 with hlt | hge
    · have hall : ∀ k < 10, k ≠ 0 → Nat.digitChar k ≠ '0' := by
        decide
      rw [Nat.toDigits_of_lt_base hlt]
      simpa using hall n hlt h
    · have hmore := ih (n / 10) (by omega) (by omega)
      obtain ⟨c, more, hdigits⟩ := List.exists_cons_of_ne_nil (decimalDigits_ne_nil (n / 10))
      rw [decimalDigits] at hmore hdigits
      rw [Nat.toDigits_of_base_le (by decide) hge, hdigits]
      rw [hdigits] at hmore
      simpa using hmore

/-! ### Signs -/

theorem splitSign_digit {d : Char} (hd : d.isDigit = true) (s : List Char) :
    splitSign (d :: s) = (false, d :: s) := by
  unfold splitSign
  split
  · next h =>
    obtain rfl := (List.cons.inj h).1
    simp at hd
  · next h =>
    obtain rfl := (List.cons.inj h).1
    simp at hd
  · rfl

/-- A run of digits has no sign in front. -/
theorem splitSign_digits {digits : List Char} (hne : digits ≠ []) (hall : ∀ c ∈ digits, c.isDigit = true)
    (s : List Char) : splitSign (digits ++ s) = (false, digits ++ s) := by
  cases digits with
  | nil => exact absurd rfl hne
  | cons d digits => exact splitSign_digit (hall d List.mem_cons_self) (digits ++ s)

/-- A class of characters with both signs holds of a text if it holds behind the sign. -/
theorem forall_of_splitSign {q : Char → Bool} (hminus : q '-' = true) (hplus : q '+' = true)
    {s : List Char} (h : ∀ c ∈ (splitSign s).2, q c = true) : ∀ c ∈ s, q c = true := by
  unfold splitSign at h
  split at h
  · exact List.forall_mem_cons.2 ⟨hminus, h⟩
  · exact List.forall_mem_cons.2 ⟨hplus, h⟩
  · exact h

/-- What stands behind a text has no influence on its sign. -/
theorem splitSign_append {s : List Char} (hne : s ≠ []) (t : List Char) :
    splitSign (s ++ t) = ((splitSign s).1, (splitSign s).2 ++ t) := by
  obtain ⟨c, s, rfl⟩ := List.exists_cons_of_ne_nil hne
  by_cases hminus : c = '-'
  · subst hminus
    rfl
  · by_cases hplus : c = '+'
    · subst hplus
      rfl
    · simp [splitSign, hminus, hplus]

/-- A text with a minus sign, or without one. -/
def signed (negative : Bool) (s : List Char) : List Char :=
  if negative then '-' :: s else s

theorem splitSign_signed (negative : Bool) {digits : List Char} (hne : digits ≠ [])
    (hall : ∀ c ∈ digits, c.isDigit = true) (s : List Char) :
    splitSign (signed negative (digits ++ s)) = (negative, digits ++ s) := by
  cases negative with
  | false => exact splitSign_digits hne hall s
  | true => rfl

/-! ### Integers -/

theorem fitsInt64_iff {n : Int} : fitsInt64 n = true ↔ int64Min ≤ n ∧ n ≤ int64Max := by
  rw [fitsInt64, Bool.and_eq_true, decide_eq_true_eq, decide_eq_true_eq]

/-- A number within sixty-four bits is kept. -/
theorem toInt_ofInt {n : Int} (h : fitsInt64 n = true) : (Int64.ofInt n).toInt = n := by
  obtain ⟨hlow, hhigh⟩ := fitsInt64_iff.1 h
  unfold int64Min at hlow
  unfold int64Max at hhigh
  exact Int64.toInt_ofInt_of_le (by omega) (by omega)

theorem fitsInt64_toInt (n : Int64) : fitsInt64 n.toInt = true := by
  have hmin := n.minValue_le_toInt
  have hmax := n.toInt_le
  rw [show Int64.minValue.toInt = int64Min from rfl] at hmin
  rw [show Int64.maxValue.toInt = int64Max from rfl] at hmax
  exact fitsInt64_iff.2 ⟨hmin, hmax⟩

/-- Every number but the least has a predecessor. -/
theorem toInt_sub_one {n : Int64} (h : n.toInt ≠ int64Min) : (n - 1).toInt = n.toInt - 1 := by
  have hmin := n.le_toInt
  have hmax := n.toInt_lt
  unfold int64Min at h
  rw [Int64.toInt_sub, Int64.toInt_one]
  exact Int.bmod_eq_of_le (by omega) (by omega)

theorem integerText_toList (n : Int) :
    (integerText n).toList = signed (n < 0) (decimalDigits n.natAbs) := by
  unfold integerText signed
  rw [String.toList_ofList]
  simp

/-- **Integers read as they were written.** -/
theorem integer?_integerText (n : Int64) {tail : List Char} (htail : Stops Char.isDigit tail) :
    Lexeme.integer? ((integerText n.toInt).toList ++ tail) = some (n, tail) := by
  have hall := decimalDigits_all n.toInt.natAbs
  have htext : (integerText n.toInt).toList ++ tail =
      signed (n.toInt < 0) (decimalDigits n.toInt.natAbs ++ tail) := by
    rw [integerText_toList]
    unfold signed
    split <;> rfl
  have hvalue : (if decide (n.toInt < 0) = true then -(n.toInt.natAbs : Int) else n.toInt.natAbs) =
      n.toInt := by
    by_cases hneg : n.toInt < 0
    · rw [if_pos (by simpa using hneg)]
      omega
    · rw [if_neg (by simpa using hneg)]
      omega
  rw [htext, Lexeme.integer?, splitSign_signed _ (decimalDigits_ne_nil _) hall]
  simp only [takeWhile_append_of_stops hall htail, dropWhile_append_of_stops hall htail,
    List.isEmpty_iff, decimalDigits_ne_nil, if_false, Lexeme.signedValue?,
    decimalValue_decimalDigits, hvalue, fitsInt64_toInt, if_true, Int64.ofInt_toInt,
    Option.map_some]

end DisplayFilter
