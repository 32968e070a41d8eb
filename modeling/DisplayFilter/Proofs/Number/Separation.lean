import DisplayFilter.Proofs.Number.Rounding

/-!
# Decimals as quotients

A decimal within reach is read as the value nearest to a quotient, and the quotient may be written
with any denominator.  The values nearest to two quotients of small numbers are different unless the
quotients are equal: rounding moves a quotient by half a spacing at most, which is little against a
thousandth.

* **`ofRatio_mul`** — the value nearest to a quotient does not depend on how it is reduced;
* **`ofDecimal_eq_ofRatio`** — a decimal as a quotient;
* **`roundUnits_near`** — how far rounding moves a quotient;
* **`thousandths_eq_iff`** — thousandths below 256 are told apart.
-/

namespace DisplayFilter.Binary64

/-! ### Quotients -/

theorem roundDiv_mul_right (n d : Nat) {c : Nat} (hc : 0 < c) :
    roundDiv (n * c) (d * c) = roundDiv n d := by
  have htwice : 2 * (n % d * c) = 2 * (n % d) * c := (Nat.mul_assoc 2 (n % d) c).symm
  simp only [roundDiv, Nat.mul_div_mul_right n d hc, Nat.mul_mod_mul_right, htwice,
    Nat.mul_lt_mul_right hc]

/-- Rounding a quotient does not depend on how it is reduced. -/
theorem roundUnits_mul_right (n d : Nat) {c : Nat} (hc : 0 < c) :
    roundUnits (n * c) (d * c) = roundUnits n d := by
  have hstep : d * c * spacing (n / d) = d * spacing (n / d) * c := Nat.mul_right_comm d c _
  simp only [roundUnits, Nat.mul_div_mul_right n d hc, hstep, roundDiv_mul_right n _ hc]

/-- **The value nearest to a quotient** does not depend on how it is reduced. -/
theorem ofRatio_mul (negative : Bool) (n d : Nat) {c : Nat} (hc : 0 < c) :
    ofRatio negative (n * c) (d * c) = ofRatio negative n d := by
  rw [ofRatio, Nat.mul_right_comm, roundUnits_mul_right _ _ hc]
  rfl

theorem ofRatio_zero (negative : Bool) {d : Nat} (hd : 0 < d) :
    ofRatio negative 0 d = .finite negative 0 := by
  have hround : roundUnits (0 * d) d = 0 := roundUnits_mul hd (Nat.dvd_zero _)
  rw [Nat.zero_mul] at hround
  rw [ofRatio, Nat.zero_mul, hround]
  exact if_pos overflow_pos

/-- **A decimal as a quotient** with any powers of ten that its exponent is made of. -/
theorem ofDecimal_eq_ofRatio (negative : Bool) {digits a b : Nat} {exponent : Int}
    (hexponent : exponent = a - b) (hlow : -400 ≤ exponent + decimalLength digits)
    (hhigh : exponent + decimalLength digits ≤ 400) :
    ofDecimal negative digits exponent =
      ofRatio negative (digits * Nat.pow 10 a) (Nat.pow 10 b) := by
  have hten : ∀ k, 0 < Nat.pow 10 k := fun k => Nat.pow_pos (by decide)
  by_cases hzero : digits = 0
  · rw [hzero, Nat.zero_mul, ofRatio_zero negative (hten b)]
    simp [ofDecimal]
  · simp only [ofDecimal, hzero, false_or]
    rw [if_neg (by omega), if_neg (by omega)]
    split
    · next hexp =>
      obtain ⟨k, rfl⟩ : ∃ k, a = k + b := ⟨a - b, by omega⟩
      have hk : exponent.toNat = k := by omega
      have hsplit : digits * Nat.pow 10 (k + b) = digits * Nat.pow 10 k * Nat.pow 10 b := by
        rw [Nat.pow_eq, Nat.pow_eq, Nat.pow_eq, Nat.pow_add, Nat.mul_assoc]
      rw [hk, hsplit, ← ofRatio_mul negative (digits * Nat.pow 10 k) 1 (hten b), Nat.one_mul]
    · next hexp =>
      obtain ⟨k, rfl⟩ : ∃ k, b = k + a := ⟨b - a, by omega⟩
      have hk : (-exponent).toNat = k := by omega
      have hsplit : Nat.pow 10 (k + a) = Nat.pow 10 k * Nat.pow 10 a := Nat.pow_add 10 k a
      rw [hk, hsplit, ofRatio_mul negative digits (Nat.pow 10 k) (hten a)]

/-! ### Thousandths -/

/-- **Rounding to a whole number** moves a quotient by one half at most. -/
theorem roundDiv_near (n : Nat) {d : Nat} (hd : 0 < d) :
    2 * (roundDiv n d * d) ≤ 2 * n + d ∧ 2 * n ≤ 2 * (roundDiv n d * d) + d := by
  have hsplit : n / d * d + n % d = n := Nat.div_add_mod' n d
  have hmod : n % d < d := Nat.mod_lt n hd
  have hnext : (n / d + 1) * d = n / d * d + d := Nat.succ_mul _ _
  simp only [roundDiv]
  split
  · omega
  · split
    · omega
    · rcases Nat.mod_two_eq_zero_or_one (n / d) with heven | hodd
      · rw [heven, Nat.add_zero]
        omega
      · rw [hodd]
        omega

/-- **Rounding** moves a quotient by half a spacing at most. -/
theorem roundUnits_near (n : Nat) {d : Nat} (hd : 0 < d) :
    2 * (roundUnits n d * d) ≤ 2 * n + d * spacing (n / d) ∧
      2 * n ≤ 2 * (roundUnits n d * d) + d * spacing (n / d) := by
  have hnear := roundDiv_near n (Nat.mul_pos hd (spacing_pos (n / d)))
  have hproduct : roundDiv n (d * spacing (n / d)) * (d * spacing (n / d)) = roundUnits n d * d := by
    rw [roundUnits, Nat.mul_assoc, Nat.mul_comm d]
  rwa [hproduct] at hnear

/-- The spacing at a magnitude of at most `k` bits more than 53. -/
theorem spacing_le {q k : Nat} (h : q < Nat.pow 2 (k + 53)) : spacing q ≤ Nat.pow 2 k := by
  by_cases hzero : q = 0
  · rw [hzero]
    exact Nat.pow_pos (by decide)
  · have hbits : q.log2 < k + 53 := (Nat.log2_lt hzero).2 h
    exact Nat.pow_le_pow_right (by decide) (by omega)

/-- The greatest spacing below 256. -/
def spacingBound : Nat := Nat.pow 2 1029

/-- One is a great many of the spacings below 256, and an overflow is many more. -/
theorem units_of_spacing : unitsPerOne = 35184372088832 * spacingBound ∧
    18014398509481984 * spacingBound ≤ overflow ∧ 0 < spacingBound := by
  have hlow : 35184372088832 = Nat.pow 2 45 := rfl
  have hhigh : 18014398509481984 = Nat.pow 2 54 := rfl
  have hunits := two_pow_eq_mul (show 45 + 1029 = 1074 by decide)
  have hproduct := two_pow_eq_mul (show 54 + 1029 = 1083 by decide)
  unfold unitsPerOne overflow spacingBound
  rw [hlow, hhigh, ← hunits, ← hproduct]
  exact ⟨Eq.refl _, Nat.pow_le_pow_right (by decide) (by decide), Nat.pow_pos (by decide)⟩

theorem spacing_thousandths {n : Nat} (h : n < 256000) :
    spacing (n * unitsPerOne / 1000) ≤ spacingBound := by
  have hunits : 256 * unitsPerOne = Nat.pow 2 (1029 + 53) := by
    have hlow : 256 = Nat.pow 2 8 := rfl
    have hproduct := two_pow_eq_mul (show 8 + 1074 = 1029 + 53 by decide)
    unfold unitsPerOne
    rw [hlow, ← hproduct]
  have hsmall : n * unitsPerOne / 1000 < 256 * unitsPerOne := by
    rw [Nat.div_lt_iff_lt_mul (by decide), Nat.mul_right_comm]
    exact Nat.mul_lt_mul_of_pos_right h unitsPerOne_pos
  exact spacing_le (k := 1029) (Nat.lt_of_lt_of_eq hsmall hunits)

/-- How far a number of thousandths below 256 is moved, in spacings. -/
theorem thousandths_near {n : Nat} (h : n < 256000) :
    2 * (roundUnits (n * unitsPerOne) 1000 * 1000) ≤ 2 * (n * unitsPerOne) + 1000 * spacingBound ∧
      2 * (n * unitsPerOne) ≤
        2 * (roundUnits (n * unitsPerOne) 1000 * 1000) + 1000 * spacingBound := by
  have hstep := Nat.mul_le_mul_left 1000 (spacing_thousandths h)
  have hnear := roundUnits_near (n * unitsPerOne) (d := 1000) (by decide)
  exact ⟨Nat.le_trans hnear.1 (Nat.add_le_add_left hstep _),
    Nat.le_trans hnear.2 (Nat.add_le_add_left hstep _)⟩

theorem thousandths_lt {m n : Nat} (hm : m < 256000) (hn : n < 256000) (h : m < n) :
    roundUnits (m * unitsPerOne) 1000 < roundUnits (n * unitsPerOne) 1000 := by
  obtain ⟨hone, -, hpos⟩ := units_of_spacing
  have hnext : (m + 1) * unitsPerOne ≤ n * unitsPerOne := Nat.mul_le_mul_right _ h
  rw [Nat.succ_mul] at hnext
  have hleft := thousandths_near hm
  have hright := thousandths_near hn
  omega

/-- **Thousandths below 256** are told apart. -/
theorem thousandths_eq_iff {m n : Nat} (hm : m < 256000) (hn : n < 256000) :
    (ofRatio false m 1000).compare? (ofRatio false n 1000) = some .eq ↔ m = n := by
  have hfinite : ∀ k < 256000,
      ofRatio false k 1000 = .finite false (roundUnits (k * unitsPerOne) 1000) := by
    intro k hk
    obtain ⟨hone, hoverflow, hpos⟩ := units_of_spacing
    have hle : k * unitsPerOne ≤ 256000 * unitsPerOne := Nat.mul_le_mul_right _ (Nat.le_of_lt hk)
    have hnear := thousandths_near hk
    rw [ofRatio, ofUnits, if_pos (by omega)]
  rw [hfinite m hm, hfinite n hn]
  simp only [compare?, signedUnits, Bool.false_eq_true, if_false, Option.some.injEq]
  constructor
  · intro h
    have heq : roundUnits (m * unitsPerOne) 1000 = roundUnits (n * unitsPerOne) 1000 :=
      Int.ofNat_inj.1 (by simpa using h)
    rcases Nat.lt_trichotomy m n with hlt | heq' | hlt
    · have hunits := thousandths_lt hm hn hlt
      omega
    · exact heq'
    · have hunits := thousandths_lt hn hm hlt
      omega
  · rintro rfl
    simp

end DisplayFilter.Binary64
