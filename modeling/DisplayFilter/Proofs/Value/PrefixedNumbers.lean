import DisplayFilter.Proofs.Number.Bases
import DisplayFilter.Proofs.Number.Integers
import DisplayFilter.Value.Reading

/-!
# Numbers behind a zero

A text without a point that starts with a zero is a number of base sixteen or eight: behind `0x`
hexadecimal digits, behind `0o` or the zero alone octal ones.  The digits are left to the reader of
integers, which takes a sign as well, and so the texts that are read are the ones of the grammar and
those with a sign between the mark and the digits.

* `Prefixed`, `SignedPrefixed` — the grammar, and the texts with a sign behind the mark;
* `FollowsGrammar` — a text is read exactly as the grammar says;
* **`number?_behind_zero`** — what is read, and that the grammar is followed by the texts without a sign.
-/

namespace DisplayFilter.NumberText

open Binary64

/-! ### The grammar -/

/-- What stands in front of digits of a base that is not ten. -/
def baseMarks : List (List Char × Nat) :=
  [(['0', 'x'], 16), (['0', 'o'], 8), (['0'], 8)]

/-- **Numbers behind a zero:** zero itself, or digits behind the mark of their base. -/
inductive Prefixed : List Char → Nat → Prop
  | zero : Prefixed ['0'] 0
  | behind {mark digits : List Char} {base n : Nat} (hmark : (mark, base) ∈ baseMarks)
      (hdigits : Spells base digits n) : Prefixed (mark ++ digits) n

/-- Digits behind a mark and a sign. -/
inductive SignedPrefixed : List Char → Int → Prop
  | plus {mark digits : List Char} {base n : Nat} (hmark : (mark, base) ∈ baseMarks)
      (hdigits : Spells base digits n) : SignedPrefixed (mark ++ '+' :: digits) n
  | minus {mark digits : List Char} {base n : Nat} (hmark : (mark, base) ∈ baseMarks)
      (hdigits : Spells base digits n) : SignedPrefixed (mark ++ '-' :: digits) (-n)

/-- **A text is read as the grammar says:** as a number if and only if it is one behind a zero that fits
into sixty-four bits, and then as the number that its digits spell. -/
def FollowsGrammar (s : String) : Prop :=
  ∀ x : Binary64, number? s = some x ↔
    ∃ n : Nat, Prefixed s.toList n ∧ fitsInt64 n = true ∧ x = ofInt n

theorem baseMarks_le {mark : List Char} {base : Nat} (h : (mark, base) ∈ baseMarks) : base ≤ 16 := by
  have hall : ∀ entry ∈ baseMarks, entry.2 ≤ 16 := by
    decide
  exact hall _ h

/-! ### The two kinds of texts -/

theorem no_sign_of_spells {base n : Nat} {s : List Char} (hbase : base ≤ 16) (h : Spells base s n) :
    '+' ∉ s ∧ '-' ∉ s := by
  have hsign : ∀ c, digitValue? 16 c = none → c ∉ s := by
    intro c hc hmem
    induction h with
    | digit hdigit =>
      obtain rfl := List.mem_singleton.1 hmem
      exact not_isDigitOf hc hbase hdigit
    | behind _ hdigit ih =>
      rcases List.mem_append.1 hmem with hmem | hmem
      · exact ih hmem
      · obtain rfl := List.mem_singleton.1 hmem
        exact not_isDigitOf hc hbase hdigit
  exact ⟨hsign '+' (by decide), hsign '-' (by decide)⟩

/-- The grammar has no signs. -/
theorem Prefixed.no_sign {s : List Char} {n : Nat} (h : Prefixed s n) : '+' ∉ s ∧ '-' ∉ s := by
  cases h with
  | zero => decide
  | behind hmark hdigits =>
    have hall : ∀ entry ∈ baseMarks, '+' ∉ entry.1 ∧ '-' ∉ entry.1 := by
      decide
    have hnone := no_sign_of_spells (baseMarks_le hmark) hdigits
    simp only [List.mem_append, not_or]
    exact ⟨⟨(hall _ hmark).1, hnone.1⟩, (hall _ hmark).2, hnone.2⟩

theorem SignedPrefixed.sign_mem {s : List Char} {n : Int} (h : SignedPrefixed s n) :
    '+' ∈ s ∨ '-' ∈ s := by
  cases h with
  | plus hmark hdigits => exact Or.inl (by simp)
  | minus hmark hdigits => exact Or.inr (by simp)

/-- Behind a mark, the reader of integers takes the texts of both kinds. -/
theorem spellsInteger_behind {mark t : List Char} {base : Nat} (hmark : (mark, base) ∈ baseMarks)
    {n : Int} (h : SpellsInteger base t n) :
    (∃ m : Nat, n = m ∧ Prefixed (mark ++ t) m) ∨ SignedPrefixed (mark ++ t) n := by
  cases h with
  | unsigned hs => exact Or.inl ⟨_, rfl, Prefixed.behind hmark hs⟩
  | plus hs => exact Or.inr (SignedPrefixed.plus hmark hs)
  | minus hs => exact Or.inr (SignedPrefixed.minus hmark hs)

/-! ### What is read -/

theorem basedNumber?_eq_some_iff {base : Nat} (hbase : base ≤ 16) {t : List Char} {x : Binary64} :
    basedNumber? base t = some x ↔
      ∃ n : Int, SpellsInteger base t n ∧ fitsInt64 n = true ∧ x = ofInt n := by
  simp only [basedNumber?, Option.map_eq_some_iff, int64?_eq_some_iff hbase, and_assoc,
    eq_comm (b := x)]

theorem ofInt_zero : ofInt 0 = Binary64.zero := by
  have hround : roundUnits 0 1 = 0 := roundUnits_exact (Nat.zero_le _)
  rw [ofInt_eq (Nat.zero_le _)]
  simp [hround, Binary64.zero]

/-- What the reader of integers takes is not mistaken for one of the letters of a mark. -/
theorem spellsInteger_head {t : List Char} {n : Int} (h : SpellsInteger 8 t n) :
    t ≠ [] ∧ ∀ u, t ≠ 'x' :: u ∧ t ≠ 'o' :: u := by
  cases h with
  | unsigned hs =>
    obtain ⟨d, c, v, rfl, hc⟩ := hs.head
    have hletter : ∀ b u, digitValue? 16 b = none → c :: v ≠ b :: u := by
      rintro b u hb heq
      obtain rfl := (List.cons.inj heq).1
      exact not_isDigitOf hb (by decide) hc
    exact ⟨by simp, fun u => ⟨hletter 'x' u (by decide), hletter 'o' u (by decide)⟩⟩
  | plus hs => simp
  | minus hs => simp

variable {s : String}

/-- **Behind a mark** the text is left to the reader of its base. -/
theorem number?_behind_mark (hpoint : '.' ∉ s.toList) {mark t : List Char} {base : Nat}
    (hmark : (mark, base) ∈ baseMarks) (hs : s.toList = mark ++ t)
    (ht : mark = ['0'] → t ≠ [] ∧ ∀ u, t ≠ 'x' :: u ∧ t ≠ 'o' :: u) :
    number? s = basedNumber? base t := by
  have hcontains : ¬ s.toList.contains '.' = true := fun h => hpoint (List.contains_iff_mem.1 h)
  simp only [baseMarks, List.mem_cons, List.not_mem_nil, or_false, Prod.mk.injEq] at hmark
  rw [number?, if_neg hcontains, hs]
  rcases hmark with ⟨rfl, rfl⟩ | ⟨rfl, rfl⟩ | ⟨rfl, rfl⟩
  · rfl
  · rfl
  · obtain ⟨hne, hletter⟩ := ht rfl
    rw [List.singleton_append]
    split
    · next heq => exact absurd (List.cons.inj heq).2 hne
    · next u heq => exact absurd (List.cons.inj heq).2 (hletter u).1
    · next u heq => exact absurd (List.cons.inj heq).2 (hletter u).2
    · next u _ _ _ heq => rw [(List.cons.inj heq).2]
    · next hnone => exact absurd rfl (hnone t)

/-- Every text that starts with a zero is the zero or stands behind a mark. -/
theorem exists_mark (hzero : s.toList.head? = some '0') : s.toList = ['0'] ∨
    ∃ mark base t, (mark, base) ∈ baseMarks ∧ s.toList = mark ++ t ∧
      (mark = ['0'] → t ≠ [] ∧ ∀ u, t ≠ 'x' :: u ∧ t ≠ 'o' :: u) := by
  obtain ⟨t, ht⟩ := List.head?_eq_some_iff.1 hzero
  by_cases hnil : t = []
  · exact Or.inl (by rw [ht, hnil])
  · refine Or.inr ?_
    by_cases hx : ∃ u, t = 'x' :: u
    · obtain ⟨u, rfl⟩ := hx
      exact ⟨['0', 'x'], 16, u, by simp [baseMarks], ht, by simp⟩
    · by_cases ho : ∃ u, t = 'o' :: u
      · obtain ⟨u, rfl⟩ := ho
        exact ⟨['0', 'o'], 8, u, by simp [baseMarks], ht, by simp⟩
      · exact ⟨['0'], 8, t, by simp [baseMarks], ht,
          fun _ => ⟨hnil, fun u => ⟨fun h => hx ⟨u, h⟩, fun h => ho ⟨u, h⟩⟩⟩⟩

theorem number?_zero (hs : s.toList = ['0']) : number? s = some (ofInt 0) := by
  rw [number?, hs, ofInt_zero]
  rfl

/-- What a text behind a zero is read as. -/
theorem number?_of_spells (hpoint : '.' ∉ s.toList) {mark t : List Char} {base : Nat}
    (hmark : (mark, base) ∈ baseMarks) (hs : s.toList = mark ++ t) {n : Int}
    (hn : SpellsInteger base t n) (hfits : fitsInt64 n = true) : number? s = some (ofInt n) := by
  have hread : number? s = basedNumber? base t := by
    refine number?_behind_mark hpoint hmark hs ?_
    rintro rfl
    obtain rfl : base = 8 := by simpa [baseMarks] using hmark
    exact spellsInteger_head hn
  rw [hread]
  exact (basedNumber?_eq_some_iff (baseMarks_le hmark)).2 ⟨n, hn, hfits, rfl⟩

theorem number?_of_prefixed (hpoint : '.' ∉ s.toList) {n : Nat} (h : Prefixed s.toList n)
    (hfits : fitsInt64 n = true) : number? s = some (ofInt n) := by
  generalize hs : s.toList = t at h
  cases h with
  | zero => exact number?_zero hs
  | behind hmark hdigits =>
    exact number?_of_spells hpoint hmark hs (SpellsInteger.unsigned hdigits) hfits

theorem number?_of_signedPrefixed (hpoint : '.' ∉ s.toList) {n : Int}
    (h : SignedPrefixed s.toList n) (hfits : fitsInt64 n = true) : number? s = some (ofInt n) := by
  generalize hs : s.toList = t at h
  cases h with
  | plus hmark hdigits => exact number?_of_spells hpoint hmark hs (SpellsInteger.plus hdigits) hfits
  | minus hmark hdigits => exact number?_of_spells hpoint hmark hs (SpellsInteger.minus hdigits) hfits

/-- A number behind a zero has a text of one of the two kinds. -/
theorem kinds_of_number? (hzero : s.toList.head? = some '0') (hpoint : '.' ∉ s.toList) {x : Binary64}
    (h : number? s = some x) : ∃ n : Int,
      ((∃ m : Nat, n = m ∧ Prefixed s.toList m) ∨ SignedPrefixed s.toList n) ∧
        fitsInt64 n = true ∧ x = ofInt n := by
  rcases exists_mark hzero with hs | ⟨mark, base, t, hmark, hs, ht⟩
  · rw [number?_zero hs] at h
    rw [hs]
    exact ⟨0, Or.inl ⟨0, rfl, Prefixed.zero⟩, by decide, (Option.some.inj h).symm⟩
  · rw [number?_behind_mark hpoint hmark hs ht] at h
    obtain ⟨n, hn, hfits, hx⟩ := (basedNumber?_eq_some_iff (baseMarks_le hmark)).1 h
    rw [hs]
    exact ⟨n, spellsInteger_behind hmark hn, hfits, hx⟩

/-- **The grammar is followed** by the texts that have no sign behind the mark. -/
theorem followsGrammar_iff (hzero : s.toList.head? = some '0') (hpoint : '.' ∉ s.toList) :
    FollowsGrammar s ↔ ¬ ∃ n, SignedPrefixed s.toList n ∧ fitsInt64 n = true := by
  constructor
  · rintro hgrammar ⟨n, hn, hfits⟩
    obtain ⟨m, hm, -⟩ := (hgrammar _).1 (number?_of_signedPrefixed hpoint hn hfits)
    exact hn.sign_mem.elim hm.no_sign.1 hm.no_sign.2
  · intro hnone x
    constructor
    · intro hx
      obtain ⟨n, ⟨m, rfl, hm⟩ | hn, hfits, hvalue⟩ := kinds_of_number? hzero hpoint hx
      · exact ⟨m, hm, hfits, hvalue⟩
      · exact absurd ⟨n, hn, hfits⟩ hnone
    · rintro ⟨n, hn, hfits, hvalue⟩
      rw [hvalue]
      exact number?_of_prefixed hpoint hn hfits

/-- Up to `2 ^ 53` the value of an integer is the integer. -/
theorem whole?_ofInt_exact {n : Int} (h : n.natAbs ≤ Nat.pow 2 53) : (ofInt n).whole? = some n := by
  have hsize : n.natAbs < wholeBound := by
    have hpow : Nat.pow 2 53 = 9007199254740992 := by decide
    unfold wholeBound
    omega
  have hbound : n.natAbs ≤ Nat.pow 2 63 :=
    Nat.le_trans h (Nat.pow_le_pow_right (by decide) (by decide))
  rw [whole?_ofInt hbound, nearest_exact h, if_pos hsize]

/-- **A text that starts with a zero and has no point** is read as the number that its digits spell
behind the mark, or behind a sign that follows the mark, if that fits into sixty-four bits; every other
one is no number.  So the grammar is followed exactly if there is no such sign.  The number is the
nearest value, which is the spelled number itself up to `2 ^ 53`. -/
theorem number?_behind_zero (s : String) (hzero : s.toList.head? = some '0')
    (hpoint : '.' ∉ s.toList) :
    (∀ x : Binary64, number? s = some x ↔ ∃ n : Int,
      ((∃ m : Nat, n = m ∧ Prefixed s.toList m) ∨ SignedPrefixed s.toList n) ∧
        fitsInt64 n = true ∧ x = ofInt n) ∧
      (FollowsGrammar s ↔ ¬ ∃ n, SignedPrefixed s.toList n ∧ fitsInt64 n = true) ∧
        ∀ n : Nat, Prefixed s.toList n → n ≤ Nat.pow 2 53 →
          ∃ x, number? s = some x ∧ x.whole? = some (n : Int) := by
  refine ⟨fun x => ⟨kinds_of_number? hzero hpoint, ?_⟩, followsGrammar_iff hzero hpoint, ?_⟩
  · rintro ⟨n, ⟨m, rfl, hm⟩ | hn, hfits, hvalue⟩
    · rw [hvalue]
      exact number?_of_prefixed hpoint hm hfits
    · rw [hvalue]
      exact number?_of_signedPrefixed hpoint hn hfits
  · intro n hn hsize
    have hfits : fitsInt64 n = true := by
      have hpow : Nat.pow 2 53 = 9007199254740992 := by decide
      rw [fitsInt64_iff, int64Min, int64Max]
      omega
    exact ⟨_, number?_of_prefixed hpoint hn hfits, whole?_ofInt_exact (by simpa using hsize)⟩

theorem number?_octal : "0o17".toList.head? = some '0' ∧ '.' ∉ "0o17".toList ∧
    FollowsGrammar "0o17" ∧ ∃ x, number? "0o17" = some x ∧ x.whole? = some 15 := by
  have htext : "0o17".toList = ['0', 'o', '1', '7'] := rfl
  have hzero : "0o17".toList.head? = some '0' := rfl
  have hpoint : '.' ∉ "0o17".toList := by decide
  have hdigits : Spells 8 ['1', '7'] 15 :=
    (digitsValue?_eq_some_iff (by decide)).1 (by decide)
  have hprefixed : Prefixed "0o17".toList 15 :=
    Prefixed.behind (List.mem_cons_of_mem _ List.mem_cons_self) hdigits
  obtain ⟨-, hgrammar, hvalue⟩ := number?_behind_zero "0o17" hzero hpoint
  refine ⟨hzero, hpoint, hgrammar.2 ?_, hvalue 15 hprefixed (by decide)⟩
  rintro ⟨n, hn, -⟩
  rw [htext] at hn
  exact absurd hn.sign_mem (by decide)

/-- A sign behind the zero of an octal number. -/
theorem number?_sign_behind_zero : "0-7".toList.head? = some '0' ∧ '.' ∉ "0-7".toList ∧
    number? "0-7" = some (ofInt (-7)) ∧ ¬ FollowsGrammar "0-7" := by
  have hzero : "0-7".toList.head? = some '0' := rfl
  have hpoint : '.' ∉ "0-7".toList := by decide
  have hdigits : Spells 8 ['7'] 7 := Spells.digit ⟨by decide, Or.inl rfl⟩
  have hsigned : SignedPrefixed "0-7".toList (-7) :=
    SignedPrefixed.minus (List.mem_cons_of_mem _ (List.mem_cons_of_mem _ List.mem_cons_self)) hdigits
  have hfits : fitsInt64 (-7) = true := by decide
  exact ⟨hzero, hpoint, number?_of_signedPrefixed hpoint hsigned hfits,
    fun h => (followsGrammar_iff hzero hpoint).1 h ⟨-7, hsigned, hfits⟩⟩

end DisplayFilter.NumberText
