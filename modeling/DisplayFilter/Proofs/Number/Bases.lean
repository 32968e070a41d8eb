import DisplayFilter.Proofs.Number.Digits

/-!
# Digits of a base

Numbers behind `0x` and the groups of addresses are written with digits of a base, letters standing
for the digits from ten on in either case.  The reader takes digit by digit; here is the grammar that it
reads, which says nothing about readers.

* `IsDigitOf`, `Spells` — the digits of a base, and the number that some of them spell;
* **`digitsValue?_eq_some_iff`** — the reader answers the number that a text spells, and nothing else;
* **`spells_toDigits`** — the digits of a number spell it;
* `SpellsInteger`, **`int64?_eq_some_iff`** — the reader of integers also takes a sign.
-/

namespace DisplayFilter

/-- **The digits of a base:** a letter may be written in either case. -/
def IsDigitOf (base d : Nat) (c : Char) : Prop :=
  d < base ∧ (c = Nat.digitChar d ∨ c = (Nat.digitChar d).toUpper)

/-- **What digits spell.**  One digit spells its value; a digit behind others moves them up by one
place. -/
inductive Spells (base : Nat) : List Char → Nat → Prop
  | digit {d : Nat} {c : Char} (hc : IsDigitOf base d c) : Spells base [c] d
  | behind {s : List Char} {n d : Nat} {c : Char} (hs : Spells base s n) (hc : IsDigitOf base d c) :
      Spells base (s ++ [c]) (n * base + d)

theorem Spells.ne_nil {base n : Nat} {s : List Char} (h : Spells base s n) : s ≠ [] := by
  cases h with
  | digit _ => simp
  | behind _ _ => simp

/-! ### Single digits -/

/-- The digits up to sixteen have their values in either case. -/
theorem digitValue?_digitChar {base d : Nat} (hbase : base ≤ 16) (h : d < base) :
    digitValue? base (Nat.digitChar d) = some d ∧
      digitValue? base (Nat.digitChar d).toUpper = some d := by
  have hall : ∀ d < 16, digitValue? 16 (Nat.digitChar d) = some d ∧
      digitValue? 16 (Nat.digitChar d).toUpper = some d := by
    decide
  have hsmaller : ∀ {c : Char}, digitValue? 16 c = some d → digitValue? base c = some d := by
    intro c hc
    obtain ⟨hvalue, -⟩ := Option.filter_eq_some_iff.1 hc
    exact Option.filter_eq_some_iff.2 ⟨hvalue, decide_eq_true h⟩
  exact ⟨hsmaller (hall d (by omega)).1, hsmaller (hall d (by omega)).2⟩

/-- **A digit has a value** if and only if it is a digit of the base. -/
theorem digitValue?_eq_some_iff {base d : Nat} (hbase : base ≤ 16) {c : Char} :
    digitValue? base c = some d ↔ IsDigitOf base d c := by
  constructor
  · intro h
    obtain ⟨hlt, hrange⟩ := digitValue?_eq_some h
    have hdecimal : ∀ d < 10, Nat.digitChar d = Char.ofNat (d + 48) := by
      decide
    have hletter : ∀ d < 16, 10 ≤ d → Nat.digitChar d = Char.ofNat (d + 87) ∧
        (Nat.digitChar d).toUpper = Char.ofNat (d + 55) := by
      decide
    have hchar : ∀ {k : Nat}, c.toNat = k → c = Char.ofNat k := by
      rintro k rfl
      exact (Char.ofNat_toNat c).symm
    refine ⟨hlt, ?_⟩
    rcases hrange with ⟨hlow, hhigh, hd⟩ | ⟨hlow, hhigh, hd⟩ | ⟨hlow, hhigh, hd⟩
    · rw [hdecimal d (by omega)]
      exact Or.inl (hchar (by omega))
    · rw [(hletter d (by omega) (by omega)).1]
      exact Or.inl (hchar (by omega))
    · rw [(hletter d (by omega) (by omega)).2]
      exact Or.inr (hchar (by omega))
  · rintro ⟨hlt, rfl | rfl⟩
    · exact (digitValue?_digitChar hbase hlt).1
    · exact (digitValue?_digitChar hbase hlt).2

/-! ### Runs of digits -/

theorem digitsValueFrom?_append (base start : Nat) (s t : List Char) :
    digitsValueFrom? base start (s ++ t) =
      (digitsValueFrom? base start s).bind fun n => digitsValueFrom? base n t := by
  induction s generalizing start with
  | nil => rfl
  | cons c s ih =>
    simp only [List.cons_append, digitsValueFrom?, bind]
    cases digitValue? base c with
    | none => rfl
    | some d => exact ih _

theorem digitsValueFrom?_concat (base start : Nat) (s : List Char) (c : Char) :
    digitsValueFrom? base start (s ++ [c]) =
      (digitsValueFrom? base start s).bind fun n => (digitValue? base c).map (n * base + ·) := by
  rw [digitsValueFrom?_append]
  congr 1
  funext n
  simp only [digitsValueFrom?, bind]
  cases digitValue? base c <;> rfl

/-- With the base ten the reader of digits reads decimal digits. -/
theorem digitsValueFrom?_ten (start : Nat) {s : List Char} (hall : ∀ c ∈ s, c.isDigit = true) :
    digitsValueFrom? 10 start s = some (s.foldl (fun n c => n * 10 + (c.toNat - 48)) start) := by
  induction s generalizing start with
  | nil => rfl
  | cons c s ih =>
    have hrange : 48 ≤ c.toNat ∧ c.toNat ≤ 57 :=
      Char.isDigit_iff_toNat.1 (hall c List.mem_cons_self)
    have hdigit : digitValue? 10 c = some (c.toNat - 48) := by
      rw [digitValue?]
      simp [hrange]
      omega
    rw [digitsValueFrom?, hdigit]
    exact ih _ fun d hd => hall d (List.mem_cons_of_mem c hd)

theorem digitsValue?_ten {s : List Char} (hne : s ≠ []) (hall : ∀ c ∈ s, c.isDigit = true) :
    digitsValue? 10 s = some (decimalValue s) := by
  rw [digitsValue?, if_neg (by simpa using hne), digitsValueFrom?_ten 0 hall, decimalValue]

theorem digits_of_digitsValueFrom? {base start n : Nat} {s : List Char}
    (h : digitsValueFrom? base start s = some n) : ∀ c ∈ s, ∃ d, digitValue? base c = some d := by
  induction s generalizing start with
  | nil => simp
  | cons c s ih =>
    obtain ⟨d, hd, h⟩ := Option.bind_eq_some_iff.1 h
    exact List.forall_mem_cons.2 ⟨⟨d, hd⟩, ih h⟩

variable {base n : Nat} {s : List Char}

theorem digitsValueFrom?_of_spells (hbase : base ≤ 16) (h : Spells base s n) :
    digitsValueFrom? base 0 s = some n := by
  induction h with
  | digit hc =>
    have hvalue := (digitValue?_eq_some_iff hbase).2 hc
    rw [← List.nil_append [_], digitsValueFrom?_concat, hvalue]
    simp [digitsValueFrom?]
  | behind _ hc ih =>
    have hvalue := (digitValue?_eq_some_iff hbase).2 hc
    rw [digitsValueFrom?_concat, ih, hvalue]
    rfl

theorem spells_of_digitsValueFrom? (hbase : base ≤ 16) (hne : s ≠ [])
    (h : digitsValueFrom? base 0 s = some n) : Spells base s n := by
  induction hlength : s.length generalizing s n with
  | zero => exact absurd (List.eq_nil_of_length_eq_zero hlength) hne
  | succ k ih =>
    -- the last digit is the one that is read last
    obtain ⟨t, c, rfl⟩ := (List.eq_nil_or_concat s).resolve_left hne
    rw [List.concat_eq_append] at h hlength ⊢
    rw [digitsValueFrom?_concat] at h
    obtain ⟨m, hm, h⟩ := Option.bind_eq_some_iff.1 h
    obtain ⟨d, hd, rfl⟩ := Option.map_eq_some_iff.1 h
    have hdigit := (digitValue?_eq_some_iff hbase).1 hd
    cases t with
    | nil =>
      obtain rfl : 0 = m := Option.some.inj hm
      simpa using Spells.digit hdigit
    | cons b t => exact Spells.behind (ih (by simp) hm (by simpa using hlength)) hdigit

/-- **The reader of digits** answers the number that they spell, and nothing else. -/
theorem digitsValue?_eq_some_iff (hbase : base ≤ 16) :
    digitsValue? base s = some n ↔ Spells base s n := by
  simp only [digitsValue?, List.isEmpty_iff, Option.ite_none_left_eq_some]
  exact ⟨fun h => spells_of_digitsValueFrom? hbase h.1 h.2,
    fun h => ⟨h.ne_nil, digitsValueFrom?_of_spells hbase h⟩⟩

/-- **The digits of a number** spell it. -/
theorem spells_toDigits (hlow : 1 < base) (n : Nat) : Spells base (Nat.toDigits base n) n := by
  induction n using Nat.strongRecOn with
  | ind n ih =>
    rcases Nat.lt_or_ge n base with hlt | hge
    · rw [Nat.toDigits_of_lt_base hlt]
      exact Spells.digit ⟨hlt, Or.inl rfl⟩
    · have hdigit : n % base < base := Nat.mod_lt n (by omega)
      have hmore := ih (n / base) (Nat.div_lt_self (by omega) hlow)
      have hspells := Spells.behind hmore ⟨hdigit, Or.inl rfl⟩
      rw [Nat.div_add_mod' n base] at hspells
      rwa [Nat.toDigits_of_base_le hlow hge]

/-! ### Integers -/

/-- **What digits spell behind a sign** or without one. -/
inductive SpellsInteger (base : Nat) : List Char → Int → Prop
  | unsigned {s : List Char} {n : Nat} (hs : Spells base s n) : SpellsInteger base s n
  | plus {s : List Char} {n : Nat} (hs : Spells base s n) : SpellsInteger base ('+' :: s) n
  | minus {s : List Char} {n : Nat} (hs : Spells base s n) : SpellsInteger base ('-' :: s) (-n)

/-- The first of some digits is a digit. -/
theorem Spells.head (h : Spells base s n) : ∃ d c t, s = c :: t ∧ IsDigitOf base d c := by
  induction h with
  | digit hc => exact ⟨_, _, [], rfl, hc⟩
  | behind _ _ ih =>
    obtain ⟨d, c, t, rfl, hc⟩ := ih
    exact ⟨d, c, _, rfl, hc⟩

/-- A character that is no digit of the base, in either case. -/
theorem not_isDigitOf {c : Char} (h : digitValue? 16 c = none) (hbase : base ≤ 16) {d : Nat} :
    ¬ IsDigitOf base d c := by
  rintro ⟨hlt, hchar⟩
  have hvalue := (digitValue?_eq_some_iff (Nat.le_refl 16)).2 ⟨Nat.lt_of_lt_of_le hlt hbase, hchar⟩
  rw [h] at hvalue
  simp at hvalue

/-- Digits have no sign in front. -/
theorem splitSign_spells (hbase : base ≤ 16) (h : Spells base s n) : splitSign s = (false, s) := by
  obtain ⟨d, c, t, rfl, hc⟩ := h.head
  unfold splitSign
  split
  · next heq =>
    obtain rfl := (List.cons.inj heq).1
    exact absurd hc (not_isDigitOf (by decide) hbase)
  · next heq =>
    obtain rfl := (List.cons.inj heq).1
    exact absurd hc (not_isDigitOf (by decide) hbase)
  · rfl

/-- **The reader of integers** answers what digits spell behind a sign or without one, within sixty-four
bits. -/
theorem int64?_eq_some_iff (hbase : base ≤ 16) {k : Int} :
    int64? base s = some k ↔ SpellsInteger base s k ∧ fitsInt64 k = true := by
  simp only [int64?, bind, Option.bind_eq_some_iff, Option.ite_none_right_eq_some,
    digitsValue?_eq_some_iff hbase]
  constructor
  · rintro ⟨m, hm, hfits, hk⟩
    obtain rfl := Option.some.inj hk
    refine ⟨?_, hfits⟩
    unfold splitSign at hm ⊢
    split at hm
    · exact SpellsInteger.minus hm
    · exact SpellsInteger.plus hm
    · exact SpellsInteger.unsigned hm
  · rintro ⟨hspells, hfits⟩
    cases hspells with
    | unsigned hs =>
      rw [splitSign_spells hbase hs]
      exact ⟨_, hs, hfits, rfl⟩
    | plus hs => exact ⟨_, hs, hfits, rfl⟩
    | minus hs => exact ⟨_, hs, hfits, rfl⟩

end DisplayFilter
