import DisplayFilter.Address.Ipv4Range

/-!
# Masks, octet by octet

The mask of a block covers all thirty-two bits, the range of the block has an interval for each octet.
A mask falls apart into octets: those in front of its end keep all bits, those behind it keep none, and
the one that it ends in keeps its first bits.

* `OctetInterval.sharing` — the octets that share their first bits with a given one,
  **`OctetInterval.sharing_contains`** — they do;
* **`testBit_mask`** — the ones of a mask;
* **`octets_masked`** — an octet of a masked word, and of the word filled up with ones;
* **`Ipv4Range.ofPrefixLength?_eq`** — a block as four intervals.
-/

namespace DisplayFilter

/-! ### Octets that share their first bits -/

namespace OctetInterval

/-- **The octets that agree with a given one** on their first `bits` bits, at most eight. -/
def sharing (bits : Nat) (octet : UInt8) : OctetInterval :=
  let size := Nat.pow 2 (8 - bits)
  let low := octet.toNat / size * size
  ⟨low.toUInt8, (low + (size - 1)).toUInt8⟩

/-- The multiples of a power of two go on behind the octet. -/
theorem next_multiple_le (bits : Nat) (octet : UInt8) :
    octet.toNat / Nat.pow 2 (8 - bits) * Nat.pow 2 (8 - bits) + Nat.pow 2 (8 - bits) ≤ 256 := by
  simp only [Nat.pow_eq]
  have hpow : 256 = 2 ^ (8 - (8 - bits)) * 2 ^ (8 - bits) := by
    rw [← Nat.pow_add, show 8 - (8 - bits) + (8 - bits) = 8 by omega]
  have hquotient : octet.toNat / 2 ^ (8 - bits) < 2 ^ (8 - (8 - bits)) := by
    rw [Nat.div_lt_iff_lt_mul (Nat.two_pow_pos _), ← hpow]
    exact octet.toNat_lt
  have hnext : (octet.toNat / 2 ^ (8 - bits) + 1) * 2 ^ (8 - bits) ≤ 256 := by
    rw [hpow]
    exact Nat.mul_le_mul_right _ hquotient
  rwa [Nat.succ_mul] at hnext

theorem toNat_sharing_low (bits : Nat) (octet : UInt8) : (sharing bits octet).low.toNat =
    octet.toNat / Nat.pow 2 (8 - bits) * Nat.pow 2 (8 - bits) := by
  have hnext := next_multiple_le bits octet
  have hpos : 0 < Nat.pow 2 (8 - bits) := Nat.two_pow_pos _
  exact Nat.mod_eq_of_lt (by omega)

theorem toNat_sharing_high (bits : Nat) (octet : UInt8) : (sharing bits octet).high.toNat =
    octet.toNat / Nat.pow 2 (8 - bits) * Nat.pow 2 (8 - bits) + (Nat.pow 2 (8 - bits) - 1) := by
  have hnext := next_multiple_le bits octet
  have hpos : 0 < Nat.pow 2 (8 - bits) := Nat.two_pow_pos _
  exact Nat.mod_eq_of_lt (by omega)

/-- The octets that share their first bits with an octet are an interval. -/
theorem sharing_le (bits : Nat) (octet : UInt8) :
    (sharing bits octet).low ≤ (sharing bits octet).high := by
  rw [UInt8.le_iff_toNat_le, toNat_sharing_low, toNat_sharing_high]
  exact Nat.le_add_right _ _

end OctetInterval

/-! ### Bits of octets -/

/-- Behind its eight bits an octet has none. -/
theorem testBit_of_le (octet : UInt8) {i : Nat} (hi : 8 ≤ i) : octet.toNat.testBit i = false := by
  have hpow : 2 ^ 8 ≤ 2 ^ i := Nat.pow_le_pow_right (by decide) hi
  exact Nat.testBit_lt_two_pow (Nat.lt_of_lt_of_le octet.toNat_lt hpow)

/-- Octets with the same bits are the same. -/
theorem octet_ext {x y : UInt8} (h : ∀ i < 8, x.toNat.testBit i = y.toNat.testBit i) : x = y := by
  apply UInt8.toNat_inj.1
  apply Nat.eq_of_testBit_eq
  intro i
  by_cases hi : i < 8
  · exact h i hi
  · rw [testBit_of_le x (by omega), testBit_of_le y (by omega)]

/-- **An octet is in the interval** exactly if its first bits are those of the given one. -/
theorem OctetInterval.sharing_contains {bits : Nat} {octet other : UInt8} :
    (sharing bits octet).contains other = true ↔
      ∀ i < 8, 8 - bits ≤ i → octet.toNat.testBit i = other.toNat.testBit i := by
  have hpos : 0 < 2 ^ (8 - bits) := Nat.two_pow_pos _
  have hquotient : (sharing bits octet).contains other = true ↔
      octet.toNat / 2 ^ (8 - bits) = other.toNat / 2 ^ (8 - bits) := by
    rw [contains, Bool.and_eq_true, decide_eq_true_eq, decide_eq_true_eq, UInt8.le_iff_toNat_le,
      UInt8.le_iff_toNat_le, toNat_sharing_low, toNat_sharing_high, Nat.pow_eq,
      ← Nat.add_sub_assoc hpos, ← Nat.div_eq_iff hpos, eq_comm]
  rw [hquotient]
  constructor
  · intro h i _ hi
    have hbit := congrArg (Nat.testBit · (i - (8 - bits))) h
    simp only [Nat.testBit_div_two_pow, Nat.sub_add_cancel hi] at hbit
    exact hbit
  · intro h
    apply Nat.eq_of_testBit_eq
    intro i
    rw [Nat.testBit_div_two_pow, Nat.testBit_div_two_pow]
    by_cases hi : i + (8 - bits) < 8
    · exact h _ hi (Nat.le_add_left _ _)
    · rw [testBit_of_le octet (by omega), testBit_of_le other (by omega)]

/-- The octet that stands in front of the last `behind` bits of a number. -/
def octetAt (behind n : Nat) : UInt8 :=
  (n / Nat.pow 2 behind).toUInt8

theorem testBit_octetAt (behind n : Nat) {i : Nat} (hi : i < 8) :
    (octetAt behind n).toNat.testBit i = n.testBit (i + behind) := by
  show (n / 2 ^ behind % 2 ^ 8).testBit i = _
  rw [Nat.testBit_mod_two_pow, Nat.testBit_div_two_pow, decide_eq_true hi, Bool.true_and]

/-! ### Masks -/

/-- **The ones of a mask** are its first bits. -/
theorem testBit_mask {length i : Nat} (hlength : length ≤ 32) (hi : i < 32) :
    (Ipv4Range.mask length).toNat.testBit i = decide (32 - length ≤ i) := by
  unfold Ipv4Range.mask
  by_cases hzero : length = 0
  · rw [if_pos hzero, hzero, decide_eq_false (by omega)]
    exact Nat.zero_testBit i
  · have hshift : (32 - length).toUInt32.toNat % 32 = 32 - length := by
      show (32 - length) % 2 ^ 32 % 32 = 32 - length
      omega
    have hones : (0xFFFFFFFF : UInt32).toNat = 2 ^ 32 - 1 := rfl
    have hin : i - (32 - length) < 32 := by omega
    rw [if_neg hzero, UInt32.toNat_shiftLeft, hshift, hones, Nat.testBit_mod_two_pow,
      Nat.testBit_shiftLeft, Nat.testBit_two_pow_sub_one, decide_eq_true hi, decide_eq_true hin,
      Bool.true_and, Bool.and_true]

/-- The zeros of a mask are the bits behind. -/
theorem testBit_not_mask {length i : Nat} (hlength : length ≤ 32) (hi : i < 32) :
    (~~~Ipv4Range.mask length).toNat.testBit i = decide (i < 32 - length) := by
  have hnot : (~~~Ipv4Range.mask length).toNat.testBit i =
      (decide (i < 32) && !(Ipv4Range.mask length).toNat.testBit i) :=
    BitVec.getLsbD_not (x := (Ipv4Range.mask length).toBitVec)
  rw [hnot, testBit_mask hlength hi, decide_eq_true hi, Bool.true_and, ← decide_not]
  exact decide_eq_decide.2 Nat.not_le

/-- **An octet of a masked word,** and of the word filled up with ones.  Behind the first `skipped` bits
the mask has `length - skipped` ones, and an octet takes eight of them at most. -/
theorem octets_masked {length skipped : Nat} (hlength : length ≤ 32) (hskipped : skipped ≤ 24)
    (word : UInt32) :
    octetAt (24 - skipped) (word &&& Ipv4Range.mask length).toNat =
        (OctetInterval.sharing (min 8 (length - skipped)) (octetAt (24 - skipped) word.toNat)).low ∧
      octetAt (24 - skipped) (word ||| ~~~Ipv4Range.mask length).toNat =
        (OctetInterval.sharing (min 8 (length - skipped))
          (octetAt (24 - skipped) word.toNat)).high := by
  have hbits : ∀ i < 8, (8 - min 8 (length - skipped) ≤ i ↔ 32 - length ≤ i + (24 - skipped)) := by
    intro i hi
    omega
  constructor
  · apply octet_ext
    intro i hi
    rw [testBit_octetAt _ _ hi, UInt32.toNat_and, Nat.testBit_and, testBit_mask hlength (by omega),
      OctetInterval.toNat_sharing_low, Nat.pow_eq, Nat.testBit_mul_two_pow, Nat.testBit_div_two_pow,
      ← decide_eq_decide.2 (hbits i hi)]
    by_cases hkept : 8 - min 8 (length - skipped) ≤ i
    · rw [decide_eq_true hkept, Bool.and_true, Bool.true_and, Nat.sub_add_cancel hkept,
        testBit_octetAt _ _ hi]
    · rw [decide_eq_false hkept, Bool.and_false, Bool.false_and]
  · apply octet_ext
    intro i hi
    have hones : 2 ^ (8 - min 8 (length - skipped)) - 1 < 2 ^ (8 - min 8 (length - skipped)) :=
      Nat.sub_lt (Nat.two_pow_pos _) (by decide)
    rw [testBit_octetAt _ _ hi, UInt32.toNat_or, Nat.testBit_or, testBit_not_mask hlength (by omega),
      OctetInterval.toNat_sharing_high, Nat.pow_eq, Nat.mul_comm, Nat.testBit_two_pow_mul_add _ hones]
    by_cases hkept : 8 - min 8 (length - skipped) ≤ i
    · have hmasked := (hbits i hi).1 hkept
      rw [if_neg (by omega), decide_eq_false (by omega), Bool.or_false, Nat.testBit_div_two_pow,
        Nat.sub_add_cancel hkept, testBit_octetAt _ _ hi]
    · have hfree := mt (hbits i hi).2 hkept
      rw [if_pos (by omega), decide_eq_true (by omega), Bool.or_true, Nat.testBit_two_pow_sub_one,
        decide_eq_true (by omega)]

/-! ### Blocks -/

namespace Ipv4

theorem toNat_lt (x : Ipv4) : x.toNat < 4294967296 := by
  have ha := x.a.toNat_lt
  have hb := x.b.toNat_lt
  have hc := x.c.toNat_lt
  have hd := x.d.toNat_lt
  simp only [toNat]
  omega

/-- The address of a number has its four octets. -/
theorem ofNat_eq (n : Nat) : ofNat n = ⟨octetAt 24 n, octetAt 16 n, octetAt 8 n, octetAt 0 n⟩ := by
  simp [ofNat, octetAt]

/-- **An address is the four octets of its number.** -/
theorem octetAt_toNat (x : Ipv4) : octetAt 24 x.toNat = x.a ∧ octetAt 16 x.toNat = x.b ∧
    octetAt 8 x.toNat = x.c ∧ octetAt 0 x.toNat = x.d := by
  have ha := x.a.toNat_lt
  have hb := x.b.toNat_lt
  have hc := x.c.toNat_lt
  have hd := x.d.toNat_lt
  have hoctet : ∀ (n : Nat) (octet : UInt8), n % 256 = octet.toNat → n.toUInt8 = octet :=
    fun n octet h => UInt8.toNat_inj.1 h
  simp only [toNat, octetAt, Nat.pow_eq, Nat.reducePow]
  exact ⟨hoctet _ x.a (by omega), hoctet _ x.b (by omega), hoctet _ x.c (by omega),
    hoctet _ x.d (by omega)⟩

end Ipv4

/-- **A block as four intervals:** the octets that share with those of the address what the prefix
covers of them. -/
theorem Ipv4Range.ofPrefixLength?_eq (x : Ipv4) (length : Nat) :
    Ipv4Range.ofPrefixLength? x length =
      if 32 < length then none
      else some ⟨[.sharing (min 8 (length - 0)) x.a], [.sharing (min 8 (length - 8)) x.b],
        [.sharing (min 8 (length - 16)) x.c], [.sharing (min 8 (length - 24)) x.d]⟩ := by
  unfold Ipv4Range.ofPrefixLength?
  by_cases hlength : 32 < length
  · rw [if_pos hlength, if_pos hlength]
  · have hle : length ≤ 32 := by omega
    have hword : x.toNat.toUInt32.toNat = x.toNat := UInt32.toNat_ofNat_of_lt' x.toNat_lt
    have hmasked := fun (skipped : Nat) (h : skipped ≤ 24) =>
      octets_masked hle h x.toNat.toUInt32
    simp only [hword] at hmasked
    obtain ⟨ha, hb, hc, hd⟩ := x.octetAt_toNat
    rw [if_neg hlength, if_neg hlength]
    simp only [between, Ipv4.ofNat_eq, hmasked 0 (by decide), hmasked 8 (by decide),
      hmasked 16 (by decide), hmasked 24 (by decide), ha, hb, hc, hd]

end DisplayFilter
