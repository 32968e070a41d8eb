import DisplayFilter.Number.Shortest
import DisplayFilter.Proofs.Number.Digits

/-!
# Rounding is stable

A magnitude is representable if it is a multiple of the spacing at its place.  Every rounded
magnitude is, and a representable magnitude is rounded to itself: rounding a second time changes
nothing.  This is why a number may be written as any decimal that reads back, and why its exact
decimal always does.

* `Binary64.Representable` — the magnitudes of finite values;
* **`spacing_dvd_roundUnits`**, **`roundUnits_mul`** — rounding gives representable magnitudes and
  keeps them;
* **`representable_of_ofDecimal`** — decimals are read as representable magnitudes;
* **`shortest_readsBack`** — the decimal that is written for a magnitude reads back.
-/

namespace DisplayFilter.Binary64

/-! ### Rounding -/

theorem roundDiv_le (n d : Nat) : roundDiv n d ≤ n / d + 1 := by
  simp only [roundDiv]
  split
  · omega
  · split <;> omega

/-- A quotient without remainder needs no rounding. -/
theorem roundDiv_mul (n : Nat) {d : Nat} (hd : 0 < d) : roundDiv (n * d) d = n := by
  simp only [roundDiv, Nat.mul_mod_left, Nat.mul_zero, hd, if_true, Nat.mul_div_cancel n hd]

theorem spacing_pos (q : Nat) : 0 < spacing q :=
  Nat.pow_pos (by decide)

/-- At most 53 bits stand above the spacing. -/
theorem div_spacing_lt (q : Nat) : q / spacing q < Nat.pow 2 53 := by
  rw [Nat.div_lt_iff_lt_mul (spacing_pos q)]
  have hpow : 2 ^ (q.log2 + 1) ≤ 2 ^ (53 + (q.log2 - 52)) :=
    Nat.pow_le_pow_right (by decide) (by omega)
  calc q < 2 ^ (q.log2 + 1) := Nat.lt_log2_self
    _ ≤ 2 ^ (53 + (q.log2 - 52)) := hpow
    _ = Nat.pow 2 53 * spacing q := Nat.pow_add 2 53 (q.log2 - 52)

/-- **A multiple of a power of two with 53 bits** is a multiple of the spacing at its place. -/
theorem spacing_dvd_mul {r : Nat} (hr : r ≤ Nat.pow 2 53) (k : Nat) :
    spacing (r * Nat.pow 2 k) ∣ r * Nat.pow 2 k := by
  simp only [Nat.pow_eq] at hr ⊢
  by_cases hzero : r = 0
  · simp [hzero]
  · rcases Nat.lt_or_eq_of_le hr with hlt | rfl
    · have hne : r * 2 ^ k ≠ 0 :=
        Nat.mul_ne_zero hzero (Nat.pos_iff_ne_zero.1 (Nat.pow_pos (by decide)))
      have hbits : (r * 2 ^ k).log2 < 53 + k := by
        rw [Nat.log2_lt hne, Nat.pow_add]
        exact Nat.mul_lt_mul_of_pos_right hlt (Nat.pow_pos (by decide))
      exact Nat.dvd_trans (Nat.pow_dvd_pow 2 (by omega)) (Nat.dvd_mul_left _ r)
    · -- the carry into the next power of two
      rw [← Nat.pow_add]
      unfold spacing
      rw [Nat.log2_two_pow]
      exact Nat.pow_dvd_pow 2 (by omega)

/-- **A rounded magnitude** is a multiple of the spacing at its place. -/
theorem spacing_dvd_roundUnits (n d : Nat) : spacing (roundUnits n d) ∣ roundUnits n d := by
  have hquotient : n / (d * spacing (n / d)) < 2 ^ 53 := by
    rw [← Nat.div_div_eq_div_mul]
    exact div_spacing_lt (n / d)
  have hround := roundDiv_le n (d * spacing (n / d))
  have hle : roundDiv n (d * spacing (n / d)) ≤ 2 ^ 53 := by omega
  exact spacing_dvd_mul hle ((n / d).log2 - 52)

/-- **A multiple of the spacing at its place** is rounded to itself. -/
theorem roundUnits_mul {units d : Nat} (hd : 0 < d) (h : spacing units ∣ units) :
    roundUnits (units * d) d = units := by
  obtain ⟨m, hm⟩ := h
  simp only [roundUnits, Nat.mul_div_cancel units hd]
  have hproduct : units * d = m * (d * spacing units) := by
    calc units * d = spacing units * m * d := by rw [← hm]
      _ = m * (d * spacing units) := by
        rw [Nat.mul_comm (spacing units) m, Nat.mul_assoc, Nat.mul_comm (spacing units) d]
  rw [hproduct, roundDiv_mul m (Nat.mul_pos hd (spacing_pos units)), Nat.mul_comm, ← hm]

/-! ### Representable magnitudes -/

/-- **The magnitudes of finite values.** -/
def Representable (units : Nat) : Prop :=
  spacing units ∣ units ∧ units < overflow

/-- Powers of two are multiplied by adding their exponents. Large ones are not to be evaluated. -/
theorem two_pow_eq_mul {a b c : Nat} (h : a + b = c) :
    Nat.pow 2 c = Nat.pow 2 a * Nat.pow 2 b := by
  subst h
  exact Nat.pow_add 2 a b

/-- One is a power of two of units, and an overflow is a power of two far above one. -/
theorem exists_exponents : ∃ k m, unitsPerOne = Nat.pow 2 k ∧ overflow = Nat.pow 2 m * unitsPerOne ∧
    63 < m := by
  unfold unitsPerOne overflow
  exact ⟨1074, 1024, Eq.refl _, two_pow_eq_mul (by decide), by decide⟩

theorem unitsPerOne_pos : 0 < unitsPerOne := by
  obtain ⟨k, -, hone, -⟩ := exists_exponents
  rw [hone]
  exact Nat.two_pow_pos k

theorem overflow_pos : 0 < overflow := by
  obtain ⟨-, m, -, hoverflow, -⟩ := exists_exponents
  rw [hoverflow]
  exact Nat.mul_pos (Nat.two_pow_pos m) unitsPerOne_pos

theorem representable_zero : Representable 0 :=
  ⟨Nat.dvd_zero _, overflow_pos⟩

theorem ofUnits_eq_finite_iff {negative s : Bool} {units u : Nat} :
    ofUnits negative units = .finite s u ↔ negative = s ∧ units = u ∧ units < overflow := by
  unfold ofUnits
  by_cases h : units < overflow
  · simp [h]
  · simp [h]

/-- **Decimals are read as representable magnitudes.** -/
theorem representable_of_ofDecimal {negative s : Bool} {digits units : Nat} {exponent : Int}
    (h : ofDecimal negative digits exponent = .finite s units) :
    negative = s ∧ Representable units := by
  have hratio : ∀ n d, ofRatio negative n d = .finite s units →
      negative = s ∧ Representable units := by
    intro n d hnd
    obtain ⟨hs, rfl, hlt⟩ := ofUnits_eq_finite_iff.1 hnd
    exact ⟨hs, spacing_dvd_roundUnits _ _, hlt⟩
  simp only [ofDecimal] at h
  split at h
  · obtain ⟨hs, rfl⟩ : negative = s ∧ 0 = units := by simpa using h
    exact ⟨hs, representable_zero⟩
  · split at h
    · simp at h
    · split at h
      · exact hratio _ _ h
      · exact hratio _ _ h

/-- The sign of a decimal does not bear on its magnitude. -/
theorem ofDecimal_sign {digits units : Nat} {exponent : Int}
    (h : ofDecimal false digits exponent = .finite false units) (negative : Bool) :
    ofDecimal negative digits exponent = .finite negative units := by
  have hratio : ∀ n d, ofRatio false n d = .finite false units →
      ofRatio negative n d = .finite negative units := by
    intro n d hnd
    obtain ⟨-, hunits, hlt⟩ := ofUnits_eq_finite_iff.1 hnd
    exact ofUnits_eq_finite_iff.2 ⟨rfl, hunits, hlt⟩
  simp only [ofDecimal] at h ⊢
  split at h
  · next hsmall =>
    obtain rfl : 0 = units := by simpa using h
    rw [if_pos hsmall]
  · next hsmall =>
    rw [if_neg hsmall]
    split at h
    · simp at h
    · next hlarge =>
      rw [if_neg hlarge]
      split at h
      · next hexp => rw [if_pos hexp, hratio _ _ h]
      · next hexp => rw [if_neg hexp, hratio _ _ h]

/-! ### Lengths of decimals -/

/-- A number has at most `k` digits if it is below the power of ten with `k` zeros. -/
theorem decimalLength_le_iff {n k : Nat} : decimalLength n ≤ k ↔ n < Nat.pow 10 k := by
  rw [Nat.pow_eq]
  unfold decimalLength
  by_cases hn : n = 0
  · have hpow : 0 < 10 ^ k := Nat.pow_pos (by decide)
    simp only [hn, if_true, Nat.zero_le, hpow]
  · rw [if_neg hn]
    cases k with
    | zero =>
      have hpos : 0 < (Nat.toDigits 10 n).length := Nat.length_toDigits_pos
      omega
    | succ k => exact Nat.length_toDigits_le_iff (by decide) (by omega)

theorem lt_decimalLength {n k : Nat} (h : Nat.pow 10 k ≤ n) : k < decimalLength n := by
  rw [← Nat.not_le, decimalLength_le_iff, Nat.not_lt]
  exact h

/-- A zero at the end makes a number longer by one digit. -/
theorem decimalLength_mul_pow {n : Nat} (hn : n ≠ 0) (k : Nat) :
    decimalLength (n * Nat.pow 10 k) = decimalLength n + k := by
  have hpow : 0 < 10 ^ k := Nat.pow_pos (by decide)
  rw [Nat.pow_eq]
  have hiff : ∀ j, decimalLength (n * 10 ^ k) ≤ j + k ↔ decimalLength n ≤ j := by
    intro j
    rw [decimalLength_le_iff, decimalLength_le_iff, Nat.pow_eq, Nat.pow_eq, Nat.pow_add,
      Nat.mul_lt_mul_right hpow]
  have hle : decimalLength (n * 10 ^ k) ≤ decimalLength n + k := (hiff _).2 (Nat.le_refl _)
  have hge : k ≤ decimalLength (n * 10 ^ k) := by
    rcases Nat.lt_or_ge (decimalLength (n * 10 ^ k)) k with hlt | hge
    · have hsmall : n * 10 ^ k < 10 ^ k := decimalLength_le_iff.1 (Nat.le_of_lt hlt)
      have hlarge : 10 ^ k ≤ n * 10 ^ k := Nat.le_mul_of_pos_left _ (Nat.pos_of_ne_zero hn)
      omega
    · exact hge
  have hback : decimalLength n ≤ decimalLength (n * 10 ^ k) - k :=
    (hiff _).1 (by omega)
  omega

/-- **Zeros at the end of a number** move its decimal point. -/
theorem ofDecimal_mul_pow (negative : Bool) (digits k : Nat) :
    ofDecimal negative (digits * Nat.pow 10 k) 0 = ofDecimal negative digits k := by
  by_cases hzero : digits = 0
  · simp [ofDecimal, hzero]
  · have hproduct : digits * Nat.pow 10 k ≠ 0 :=
      Nat.mul_ne_zero hzero (Nat.pos_iff_ne_zero.1 (Nat.pow_pos (by decide)))
    have hsize : (0 : Int) + decimalLength (digits * Nat.pow 10 k) = k + decimalLength digits := by
      rw [decimalLength_mul_pow hzero]
      omega
    have hone : Nat.pow 10 0 = 1 := rfl
    simp only [ofDecimal, hsize, hzero, hproduct, false_or, Int.natCast_nonneg, Int.le_refl,
      if_true, Int.toNat_natCast, Int.toNat_zero, hone, Nat.mul_one]

/-! ### What is written reads back -/

/-- The length of a product with a power, between the lengths of the power and of a bound. -/
theorem decimalLength_between {units power j m : Nat} (hpos : units ≠ 0) (hlt : units < overflow)
    (hlow : Nat.pow 10 j ≤ power) (hhigh : overflow * power ≤ Nat.pow 10 m) :
    j < decimalLength (units * power) ∧ decimalLength (units * power) ≤ m := by
  have hten : 0 < Nat.pow 10 j := Nat.pow_pos (by decide)
  have hpower : 0 < power := Nat.lt_of_lt_of_le hten hlow
  constructor
  · have habove : power ≤ units * power := Nat.le_mul_of_pos_left _ (Nat.pos_of_ne_zero hpos)
    exact lt_decimalLength (Nat.le_trans hlow habove)
  · rw [decimalLength_le_iff]
    exact Nat.lt_of_lt_of_le (Nat.mul_lt_mul_of_pos_right hlt hpower) hhigh

/-- Powers of five over powers of ten are whole units, which are rounded to themselves. -/
theorem roundUnits_five_pow {units k : Nat} (h : spacing units ∣ units)
    (hone : unitsPerOne = Nat.pow 2 k) :
    roundUnits (units * Nat.pow 5 k * unitsPerOne) (Nat.pow 10 k) = units := by
  have hten : units * Nat.pow 5 k * unitsPerOne = units * Nat.pow 10 k := by
    rw [hone, Nat.mul_assoc, Nat.pow_eq, Nat.pow_eq, Nat.pow_eq, ← Nat.mul_pow]
  rw [hten]
  exact roundUnits_mul (Nat.pow_pos (by decide)) h

/-- A decimal with places behind its point is a ratio, if the point is in reach. -/
theorem ofDecimal_neg (negative : Bool) {digits k : Nat} (hzero : digits ≠ 0) (hk : 0 < k)
    (hlow : k ≤ decimalLength digits + 400) (hhigh : decimalLength digits ≤ k + 400) :
    ofDecimal negative digits (-k) = ofRatio negative digits (Nat.pow 10 k) := by
  unfold ofDecimal
  rw [if_neg (by simp only [hzero, false_or]; omega), if_neg (by omega), if_neg (by omega),
    Int.neg_neg, Int.toNat_natCast]

/-- With as many places as a unit has factors of two, the decimal of a magnitude is exact. -/
theorem ofDecimal_exact {units k : Nat} (hpos : units ≠ 0) (h : Representable units)
    (hone : unitsPerOne = Nat.pow 2 k) (hk : 400 < k) (hlow : Nat.pow 10 (k - 400) ≤ Nat.pow 5 k)
    (hhigh : overflow * Nat.pow 5 k ≤ Nat.pow 10 (k + 400)) :
    ofDecimal false (units * Nat.pow 5 k) (-k) = .finite false units := by
  obtain ⟨hlonger, hshorter⟩ := decimalLength_between hpos h.2 hlow hhigh
  have hfive : 0 < Nat.pow 5 k := Nat.pow_pos (by decide)
  have hdigits : units * Nat.pow 5 k ≠ 0 := Nat.mul_ne_zero hpos (Nat.pos_iff_ne_zero.1 hfive)
  rw [ofDecimal_neg false hdigits (by omega) (by omega) hshorter, ofRatio,
    roundUnits_five_pow h.1 hone]
  exact ofUnits_eq_finite_iff.2 ⟨rfl, rfl, h.2⟩

/-- **The exact decimal of a representable magnitude reads back.** -/
theorem exactDecimal_readsBack {units : Nat} (hpos : units ≠ 0) (h : Representable units) :
    readsBack units (exactDecimal units) = true := by
  have hexact : ofDecimal false (units * Nat.pow 5 1074) (-1074) = .finite false units :=
    ofDecimal_exact (k := 1074) hpos h rfl (by decide) (by decide +kernel) (by decide +kernel)
  exact decide_eq_true hexact

theorem nearestOnGrid?_readsBack {tie : Tie} {units : Nat} {exponent : Int} {d : Decimal}
    (h : nearestOnGrid? tie units exponent = some d) : readsBack units d = true :=
  List.find?_some h

/-- **The decimal that is written for a magnitude reads back.** -/
theorem shortest_readsBack (tie : Tie) {units : Nat} (h : Representable units) :
    readsBack units (shortest tie units) = true := by
  by_cases hzero : units = 0
  · subst hzero
    rfl
  · simp only [shortest, if_neg hzero]
    cases hgrid : (List.range 18).findSome? fun k : Nat =>
        nearestOnGrid? tie units (exponentAbove units - k) with
    | none => exact exactDecimal_readsBack hzero h
    | some d =>
      obtain ⟨k, -, hk⟩ := List.exists_of_findSome?_eq_some hgrid
      exact nearestOnGrid?_readsBack hk

end DisplayFilter.Binary64
