import DisplayFilter.Proofs.Number.Separation

/-!
# Integers as binary64 values

An integer has a binary64 value nearest to it, which is an integer again: the integer itself up to
`2 ^ 53`, and a multiple of a power of two beyond.  Rounding keeps the order of integers but not their
difference, so that two of them are told apart by their values unless both are beyond that bound.

* **`roundUnits_mono`** — a larger magnitude is never rounded to a smaller one;
* **`roundUnits_mul_pow`** — rounding does not see how small the units are;
* `nearest` — the integer that an integer is rounded to, with **`nearest_mono`**, **`nearest_exact`**
  and **`nearest_collision`**;
* **`compare?_ofInt`**, **`whole?_ofInt`** — the values of integers compare as the nearest integers,
  and are turned back into them if they are below the bound of integers.
-/

namespace DisplayFilter.Binary64

/-! ### Rounding keeps the order -/

theorem le_roundDiv (n d : Nat) : n / d ≤ roundDiv n d := by
  simp only [roundDiv]
  split
  · omega
  · split <;> omega

theorem roundDiv_mono {m n : Nat} (h : m ≤ n) (d : Nat) : roundDiv m d ≤ roundDiv n d := by
  rcases Nat.lt_or_eq_of_le (Nat.div_le_div_right (c := d) h) with hlt | heq
  · have hleft := roundDiv_le m d
    have hright := le_roundDiv n d
    omega
  · -- with the same quotient the remainders decide
    have hm := Nat.div_add_mod' m d
    have hn := Nat.div_add_mod' n d
    rw [heq] at hm
    have hrest : m % d ≤ n % d := by omega
    simp only [roundDiv, heq]
    repeat' split
    all_goals omega

/-- A whole magnitude is rounded to a multiple of the spacing at its place. -/
theorem roundUnits_one (n : Nat) : roundUnits n 1 = roundDiv n (spacing n) * spacing n := by
  rw [roundUnits, Nat.div_one, Nat.one_mul]

/-- A multiple of the spacing is not passed by rounding, in either direction. -/
theorem roundUnits_bounds {n bound : Nat} (h : spacing n ∣ bound) :
    (n ≤ bound → roundUnits n 1 ≤ bound) ∧ (bound ≤ n → bound ≤ roundUnits n 1) := by
  obtain ⟨k, rfl⟩ := h
  have hbound : roundDiv (spacing n * k) (spacing n) * spacing n = spacing n * k := by
    rw [Nat.mul_comm (spacing n) k, roundDiv_mul k (spacing_pos n)]
  rw [roundUnits_one, ← hbound]
  exact ⟨fun hle => Nat.mul_le_mul_right _ (roundDiv_mono (hbound ▸ hle) _),
    fun hle => Nat.mul_le_mul_right _ (roundDiv_mono (hbound ▸ hle) _)⟩

/-- **A larger magnitude** is never rounded to a smaller one.  Where the spacing grows, the power of two
between the magnitudes separates what they are rounded to. -/
theorem roundUnits_mono {m n : Nat} (h : m ≤ n) : roundUnits m 1 ≤ roundUnits n 1 := by
  rcases Nat.lt_trichotomy m.log2 n.log2 with hlt | heq | hgt
  · have hbetween : m < 2 ^ n.log2 :=
      Nat.lt_of_lt_of_le Nat.lt_log2_self (Nat.pow_le_pow_right (by decide) hlt)
    have hne : n ≠ 0 := by
      rintro rfl
      simp at hlt
    have hleft : spacing m ∣ 2 ^ n.log2 := Nat.pow_dvd_pow 2 (by omega)
    have hright : spacing n ∣ 2 ^ n.log2 := Nat.pow_dvd_pow 2 (by omega)
    exact Nat.le_trans ((roundUnits_bounds hleft).1 (Nat.le_of_lt hbetween))
      ((roundUnits_bounds hright).2 (Nat.log2_self_le hne))
  · rw [roundUnits_one, roundUnits_one, spacing, heq]
    exact Nat.mul_le_mul_right _ (roundDiv_mono h _)
  · have hne : m ≠ 0 := by
      rintro rfl
      simp at hgt
    have hlow := Nat.log2_self_le hne
    have hhigh : n < 2 ^ m.log2 :=
      Nat.lt_of_lt_of_le Nat.lt_log2_self (Nat.pow_le_pow_right (by decide) hgt)
    omega

/-! ### Whole magnitudes -/

/-- **Up to `2 ^ 53`** a whole magnitude is rounded to itself. -/
theorem roundUnits_exact {n : Nat} (h : n ≤ Nat.pow 2 53) : roundUnits n 1 = n := by
  have hspacing := spacing_dvd_mul h 0
  have hround := roundUnits_mul Nat.one_pos hspacing
  simpa using hround

/-- So is a power of two. -/
theorem roundUnits_pow (k : Nat) : roundUnits (Nat.pow 2 k) 1 = Nat.pow 2 k := by
  have hspacing := spacing_dvd_mul (r := 1) (by decide) k
  have hround := roundUnits_mul Nat.one_pos hspacing
  simpa using hround

theorem log2_mul_pow {n : Nat} (hn : n ≠ 0) (k : Nat) : (n * Nat.pow 2 k).log2 = n.log2 + k := by
  rw [Nat.pow_eq]
  have hpow : 0 < 2 ^ k := Nat.pow_pos (by decide)
  have hproduct : n * 2 ^ k ≠ 0 := Nat.mul_ne_zero hn (Nat.ne_of_gt hpow)
  rw [Nat.log2_eq_iff hproduct, Nat.add_right_comm, Nat.pow_add, Nat.pow_add]
  exact ⟨Nat.mul_le_mul_right _ (Nat.log2_self_le hn),
    Nat.mul_lt_mul_of_pos_right Nat.lt_log2_self hpow⟩

/-- **Rounding does not see how small the units are:** a magnitude in units is rounded as the whole
number is. -/
theorem roundUnits_mul_pow (n k : Nat) :
    roundUnits (n * Nat.pow 2 k) 1 = roundUnits n 1 * Nat.pow 2 k := by
  by_cases hsmall : n ≤ Nat.pow 2 53
  · have hround := roundUnits_mul Nat.one_pos (spacing_dvd_mul hsmall k)
    rw [Nat.mul_one] at hround
    rw [hround, roundUnits_exact hsmall]
  · rw [Nat.pow_eq] at hsmall
    have hne : n ≠ 0 := by omega
    have hlarge : 53 ≤ n.log2 := (Nat.le_log2 hne).2 (by omega)
    have hspacing : spacing (n * Nat.pow 2 k) = spacing n * Nat.pow 2 k := by
      rw [spacing, log2_mul_pow hne, spacing, Nat.pow_eq, Nat.pow_eq, Nat.pow_eq, ← Nat.pow_add]
      congr 1
      omega
    have hpow : 0 < Nat.pow 2 k := Nat.two_pow_pos k
    rw [roundUnits_one, roundUnits_one, hspacing, roundDiv_mul_right n (spacing n) hpow, Nat.mul_assoc]

/-! ### The nearest integer -/

/-- **The integer that an integer is rounded to.** -/
def nearest (n : Int) : Int :=
  signedUnits (n < 0) (roundUnits n.natAbs 1)

theorem natAbs_nearest (n : Int) : (nearest n).natAbs = roundUnits n.natAbs 1 := by
  unfold nearest signedUnits
  split <;> omega

/-- **Rounding keeps the order of integers.** -/
theorem nearest_mono {m n : Int} (h : m ≤ n) : nearest m ≤ nearest n := by
  simp only [nearest, signedUnits, decide_eq_true_eq]
  by_cases hm : m < 0
  · by_cases hn : n < 0
    · have hround := roundUnits_mono (m := n.natAbs) (n := m.natAbs) (by omega)
      rw [if_pos hm, if_pos hn]
      omega
    · rw [if_pos hm, if_neg hn]
      omega
  · have hround := roundUnits_mono (m := m.natAbs) (n := n.natAbs) (by omega)
    rw [if_neg hm, if_neg (by omega)]
    omega

/-- **Up to `2 ^ 53`** an integer is a binary64 value. -/
theorem nearest_exact {n : Int} (h : n.natAbs ≤ Nat.pow 2 53) : nearest n = n := by
  simp only [nearest, signedUnits, decide_eq_true_eq, roundUnits_exact h]
  split <;> omega

/-- Below `2 ^ 53` no other integer is rounded to an integer. -/
theorem eq_of_nearest_eq {m n : Int} (h : nearest m = nearest n) (hm : m.natAbs < Nat.pow 2 53) :
    m = n := by
  have hexact : nearest m = m := nearest_exact (Nat.le_of_lt hm)
  have hn : n.natAbs < Nat.pow 2 53 := by
    rcases Nat.lt_or_ge n.natAbs (Nat.pow 2 53) with hlt | hge
    · exact hlt
    · have hround := roundUnits_mono hge
      rw [roundUnits_pow, ← natAbs_nearest, ← h, hexact] at hround
      omega
  rw [← hexact, h, nearest_exact (Nat.le_of_lt hn)]

/-- **Different integers are rounded to the same** only beyond `2 ^ 53`. -/
theorem nearest_collision {m n : Int} (h : nearest m = nearest n) (hne : m ≠ n) :
    Nat.pow 2 53 ≤ m.natAbs ∧ Nat.pow 2 53 ≤ n.natAbs := by
  constructor
  · exact Nat.not_lt.1 fun hlt => hne (eq_of_nearest_eq h hlt)
  · exact Nat.not_lt.1 fun hlt => hne (eq_of_nearest_eq h.symm hlt).symm

/-- Integers that are rounded to different ones have the order of those. -/
theorem compare_nearest {m n : Int} (h : nearest m ≠ nearest n) :
    compare (nearest m) (nearest n) = compare m n := by
  rcases Int.lt_trichotomy m n with hlt | rfl | hgt
  · have hmono := nearest_mono (Int.le_of_lt hlt)
    rw [Int.compare_eq_lt.2 hlt, Int.compare_eq_lt.2 (by omega)]
  · exact absurd rfl h
  · have hmono := nearest_mono (Int.le_of_lt hgt)
    rw [Int.compare_eq_gt.2 hgt, Int.compare_eq_gt.2 (by omega)]

/-! ### The values of integers -/

theorem signedUnits_mul (negative : Bool) (m n : Nat) :
    signedUnits negative (m * n) = signedUnits negative m * n := by
  cases negative with
  | false => exact Int.natCast_mul m n
  | true => exact (congrArg Neg.neg (Int.natCast_mul m n)).trans (Int.neg_mul _ _).symm

/-- Integers of sixty-four bits are far from an overflow. -/
theorem integers_lt_overflow : Nat.pow 2 63 * unitsPerOne < overflow := by
  obtain ⟨-, m, -, hoverflow, hm⟩ := exists_exponents
  rw [hoverflow]
  exact Nat.mul_lt_mul_of_pos_right (Nat.pow_lt_pow_right (by decide) hm) unitsPerOne_pos

/-- The integers of sixty-four bits have finite values. -/
theorem ofInt_eq {n : Int} (h : n.natAbs ≤ Nat.pow 2 63) :
    ofInt n = .finite (n < 0) (roundUnits n.natAbs 1 * unitsPerOne) := by
  have hbound : roundUnits n.natAbs 1 ≤ Nat.pow 2 63 := by
    rw [← roundUnits_pow 63]
    exact roundUnits_mono h
  have hfinite : roundUnits n.natAbs 1 * unitsPerOne < overflow :=
    Nat.lt_of_le_of_lt (Nat.mul_le_mul_right _ hbound) integers_lt_overflow
  have hunits : roundUnits (n.natAbs * unitsPerOne) 1 = roundUnits n.natAbs 1 * unitsPerOne := by
    obtain ⟨k, -, hone, -⟩ := exists_exponents
    rw [hone]
    exact roundUnits_mul_pow n.natAbs k
  rw [ofInt, ofRatio, hunits]
  exact if_pos hfinite

/-- **The values of integers compare** as the nearest integers. -/
theorem compare?_ofInt {m n : Int} (hm : m.natAbs ≤ Nat.pow 2 63) (hn : n.natAbs ≤ Nat.pow 2 63) :
    (ofInt m).compare? (ofInt n) = some (compare (nearest m) (nearest n)) := by
  have hunit : (0 : Int) < (unitsPerOne : Nat) := Int.natCast_pos.2 unitsPerOne_pos
  have hscale : ∀ x y : Int,
      compare (x * (unitsPerOne : Nat)) (y * (unitsPerOne : Nat)) = compare x y := by
    intro x y
    rcases Int.lt_trichotomy x y with hlt | rfl | hgt
    · rw [Int.compare_eq_lt.2 hlt, Int.compare_eq_lt.2 (Int.mul_lt_mul_of_pos_right hlt hunit)]
    · rw [Int.compare_eq_eq.2 rfl, Int.compare_eq_eq.2 rfl]
    · rw [Int.compare_eq_gt.2 hgt, Int.compare_eq_gt.2 (Int.mul_lt_mul_of_pos_right hgt hunit)]
  rw [ofInt_eq hm, ofInt_eq hn, compare?, signedUnits_mul, signedUnits_mul, hscale]
  rfl

/-- **The value of an integer** is turned back into the nearest integer, if that is in reach. -/
theorem whole?_ofInt {n : Int} (h : n.natAbs ≤ Nat.pow 2 63) :
    (ofInt n).whole? = if (nearest n).natAbs < wholeBound then some (nearest n) else none := by
  rw [ofInt_eq h, whole?, Nat.mul_mod_left, Nat.mul_div_cancel _ unitsPerOne_pos,
    natAbs_nearest]
  simp only [true_and, nearest]

end DisplayFilter.Binary64
