import DisplayFilter.Proofs.Address.Ipv4Text
import DisplayFilter.Proofs.Address.WrittenForm

/-!
# Blocks of addresses

A block is given by an address and a number of bits.  Its range has one interval for each octet, and the
addresses that are in all four intervals are those that agree with the given one on its first bits.

* `Ipv4.bit`, `Ipv4.AgreeOn` — the bits of an address, and when two addresses agree on the first of them;
* **`Ipv4.agreeOn_iff`** — agreement octet by octet;
* **`Ipv4Range.readOctets_text`** — a written address is read as a range of its own;
* **`Ipv4Range.read_block`** — what is made of an address with a length behind it;
* **`contains_block`** — a block contains the addresses that agree with its own, and more than
  thirty-two bits are refused.
-/

namespace DisplayFilter

open Text

/-! ### First bits -/

namespace Ipv4

/-- **The bits of an address,** from the most significant one of its number on. -/
def bit (x : Ipv4) (i : Nat) : Bool :=
  x.toNat.testBit (31 - i)

/-- **Addresses that agree on their first bits.** -/
def AgreeOn (length : Nat) (x y : Ipv4) : Prop :=
  ∀ i < length, x.bit i = y.bit i

instance (length : Nat) (x y : Ipv4) : Decidable (AgreeOn length x y) :=
  inferInstanceAs (Decidable (∀ i < length, x.bit i = y.bit i))

/-- **Agreement octet by octet:** of the octet behind the first `skipped` bits, the upper bits that the
length covers have to be the same. -/
theorem agreeOn_iff {length : Nat} (hlength : length ≤ 32) {x y : Ipv4} :
    AgreeOn length x y ↔ ∀ skipped ∈ [0, 8, 16, 24], ∀ i < 8, 8 - min 8 (length - skipped) ≤ i →
      (octetAt (24 - skipped) x.toNat).toNat.testBit i =
        (octetAt (24 - skipped) y.toNat).toNat.testBit i := by
  constructor
  · intro h skipped hskipped i hi hcovered
    have hle : skipped ≤ 24 := by
      simp only [List.mem_cons, List.not_mem_nil, or_false] at hskipped
      omega
    have hbit := h (31 - (i + (24 - skipped))) (by omega)
    rw [bit, bit, show 31 - (31 - (i + (24 - skipped))) = i + (24 - skipped) by omega] at hbit
    rwa [testBit_octetAt _ _ hi, testBit_octetAt _ _ hi]
  · intro h i hi
    -- the bit stands in the octet behind the first `i / 8 * 8` bits
    have hskipped : i / 8 * 8 ∈ [0, 8, 16, 24] := by
      simp only [List.mem_cons, List.not_mem_nil, or_false]
      omega
    have hoctet := h (i / 8 * 8) hskipped (7 - i % 8) (by omega) (by omega)
    rw [testBit_octetAt _ _ (by omega), testBit_octetAt _ _ (by omega),
      show 7 - i % 8 + (24 - i / 8 * 8) = 31 - i by omega] at hoctet
    exact hoctet

end Ipv4

/-- **A block contains** the addresses that agree with its own on the first bits. -/
theorem Ipv4Range.contains_ofPrefixLength? {x : Ipv4} {length : Nat} (hlength : length ≤ 32) :
    ∃ block, Ipv4Range.ofPrefixLength? x length = some block ∧
      ∀ y, block.contains y = true ↔ Ipv4.AgreeOn length x y := by
  have hblock := Ipv4Range.ofPrefixLength?_eq x length
  rw [if_neg (by omega)] at hblock
  refine ⟨_, hblock, fun y => ?_⟩
  obtain ⟨ha, hb, hc, hd⟩ := x.octetAt_toNat
  obtain ⟨ha', hb', hc', hd'⟩ := y.octetAt_toNat
  rw [Ipv4.agreeOn_iff hlength]
  simp only [Ipv4Range.contains, OctetSet.contains, List.any_cons, List.any_nil, Bool.or_false,
    Bool.and_eq_true, OctetInterval.sharing_contains, List.forall_mem_cons, List.not_mem_nil,
    false_implies, implies_true, and_true, Nat.sub_zero, Nat.reduceSub, ha, hb, hc, hd, ha', hb', hc',
    hd', and_assoc]

/-! ### Written blocks -/

/-- An octet in front of anything but a digit, a dash or a comma is a set of its own. -/
theorem OctetSet.read_octet (last : Bool) (octet : UInt8) {tail : List Char}
    (htail : EndsInterval tail) (hcomma : ∀ t, tail ≠ ',' :: t) :
    OctetSet.read last (decimalDigits octet.toNat ++ tail) = .ok ([.single octet], tail) := by
  have hread := OctetInterval.read_single (decimalDigits_ne_nil _) (decimalDigits_all _)
    (readOctet_decimalDigits octet htail.1) htail
  exact OctetSet.readUpTo_end hread fun t ht => absurd ht (hcomma t)

/-- **A written address** is read as the range from it to itself. -/
theorem Ipv4Range.readOctets_text (x : Ipv4) {tail : List Char} (htail : EndsInterval tail)
    (hcomma : ∀ t, tail ≠ ',' :: t) :
    Ipv4Range.readOctets (x.text.toList ++ tail) = .ok (.between x x, tail) := by
  have hpoint : ∀ t, EndsInterval ('.' :: t) := fun t => ⟨stops_cons.2 (by decide), by simp⟩
  have hinner : ∀ octet t, OctetSet.read false (decimalDigits octet.toNat ++ '.' :: t) =
      .ok ([.single octet], '.' :: t) := fun octet t =>
    OctetSet.read_octet false octet (hpoint t) (by simp)
  have htext : x.text.toList ++ tail = decimalDigits x.a.toNat ++ '.' :: (decimalDigits x.b.toNat ++
      '.' :: (decimalDigits x.c.toNat ++ '.' :: (decimalDigits x.d.toNat ++ tail))) := by
    simp [Ipv4.text_toList, Ipv4.octets, dotted, join]
  rw [htext]
  simp only [Ipv4Range.readOctets, OctetSet.readNext, hinner,
    OctetSet.read_octet true x.d htail hcomma, bind, Except.bind, pure, Except.pure]
  rfl

/-- The range from an address to itself has this address. -/
theorem Ipv4Range.address?_between (x : Ipv4) : (Ipv4Range.between x x).address? = some x := by
  simp [Ipv4Range.between, Ipv4Range.address?, OctetSet.single?]

/-- Digits are read as an integer if they fit into sixty-four bits. -/
theorem integer?_decimalDigits (n : Nat) {tail : List Char} (htail : Stops Char.isDigit tail) :
    Lexeme.integer? (decimalDigits n ++ tail) =
      if fitsInt64 n then some (Int64.ofInt n, tail) else none := by
  have hall := decimalDigits_all n
  rw [Lexeme.integer?, splitSign_digits (decimalDigits_ne_nil n) hall]
  simp only [takeWhile_append_of_stops hall htail, dropWhile_append_of_stops hall htail,
    List.isEmpty_iff, decimalDigits_ne_nil, if_false, Lexeme.signedValue?, Bool.false_eq_true,
    decimalValue_decimalDigits]
  cases fitsInt64 n with
  | true => rfl
  | false => rfl

/-- **A length behind an address.** -/
def blockText (x : Ipv4) (length : Nat) : List Char :=
  x.text.toList ++ '/' :: decimalDigits length

/-- **What is made of an address with a length behind it:** its block, or a fault. -/
theorem Ipv4Range.read_block (x : Ipv4) (length : Nat) {rest : List Char}
    (hrest : Stops Char.isDigit rest) :
    (Ipv4Range.read (blockText x length ++ rest)).toOption =
      (Ipv4Range.ofPrefixLength? x length).map (·, rest) := by
  have hslash : EndsInterval ('/' :: (decimalDigits length ++ rest)) :=
    ⟨stops_cons.2 (by decide), by simp⟩
  have hoctets := Ipv4Range.readOctets_text x hslash (by simp)
  rw [blockText, List.append_assoc, List.cons_append]
  simp only [Ipv4Range.read, hoctets, bind, Except.bind, integer?_decimalDigits length hrest,
    Ipv4Range.address?_between]
  by_cases hfits : fitsInt64 length = true
  · have hvalue : (Int64.ofInt length).toInt = length := toInt_ofInt hfits
    have hnonneg : ¬ Int64.ofInt length < 0 := by
      rw [Int64.lt_iff_toInt_lt, hvalue, Int64.toInt_zero]
      omega
    have hblock : Ipv4Range.ofLength? x (Int64.ofInt length) =
        Ipv4Range.ofPrefixLength? x length := by
      rw [Ipv4Range.ofLength?, if_neg hnonneg, hvalue, Int.toNat_natCast]
    simp only [hfits, if_true, hblock]
    cases Ipv4Range.ofPrefixLength? x length with
    | none => rfl
    | some block => rfl
  · have hlarge : 32 < length := by
      have hbounds := mt fitsInt64_iff.2 hfits
      unfold int64Min int64Max at hbounds
      omega
    have hnone : Ipv4Range.ofPrefixLength? x length = none := if_pos hlarge
    simp only [hfits, Bool.false_eq_true, if_false, hnone]
    rfl

/-- **A block contains the addresses that agree with its own on the first bits,** whether it is made of
an address and a length or read from a text; a length of more than thirty-two bits is refused. -/
theorem contains_block (x : Ipv4) (length : Nat) {rest : List Char}
    (hrest : Stops Char.isDigit rest) :
    (length ≤ 32 → ∃ block, Ipv4Range.ofPrefixLength? x length = some block ∧
      Ipv4Range.read (blockText x length ++ rest) = .ok (block, rest) ∧
      ∀ y, block.contains y = true ↔ Ipv4.AgreeOn length x y) ∧
    (32 < length → Ipv4Range.ofPrefixLength? x length = none ∧
      ∃ fault, Ipv4Range.read (blockText x length ++ rest) = .error fault) := by
  have hread := Ipv4Range.read_block x length hrest
  constructor
  · intro hlength
    obtain ⟨block, hblock, hcontains⟩ := Ipv4Range.contains_ofPrefixLength? (x := x) hlength
    rw [hblock] at hread
    exact ⟨block, hblock, toOption_eq_some.1 hread, hcontains⟩
  · intro hlength
    have hnone : Ipv4Range.ofPrefixLength? x length = none := if_pos hlength
    refine ⟨hnone, ?_⟩
    rw [hnone] at hread
    cases hanswer : Ipv4Range.read (blockText x length ++ rest) with
    | error fault => exact ⟨fault, rfl⟩
    | ok answer =>
      rw [hanswer] at hread
      simp [Except.toOption] at hread

/-- Twelve bits end within the second octet, and thirty-three are too many. -/
theorem contains_block_twelve :
    let x : Ipv4 := ⟨172, 20, 30, 40⟩
    Stops Char.isDigit ['\x7d'] ∧ 12 ≤ 32 ∧ 32 < 33 ∧
      (∃ block, Ipv4Range.read (blockText x 12 ++ ['\x7d']) = .ok (block, ['\x7d']) ∧
        block.contains ⟨172, 31, 255, 255⟩ = true ∧ ¬ block.contains ⟨172, 32, 0, 0⟩ = true) ∧
      ∃ fault, Ipv4Range.read (blockText x 33 ++ ['\x7d']) = .error fault := by
  intro x
  have hrest : Stops Char.isDigit ['\x7d'] := stops_cons.2 (by decide)
  obtain ⟨block, -, hread, hcontains⟩ := (contains_block x 12 hrest).1 (by decide)
  obtain ⟨-, hrefused⟩ := (contains_block x 33 hrest).2 (by decide)
  refine ⟨hrest, by decide, by decide, ⟨block, hread, ?_, ?_⟩, hrefused⟩
  · exact (hcontains _).2 (by decide)
  · exact mt (hcontains _).1 (by decide)

end DisplayFilter
