import DisplayFilter.Address.Ipv4
import DisplayFilter.Proofs.EndPieces
import DisplayFilter.Proofs.Number.Digits
import DisplayFilter.Proofs.Text.Pieces

/-!
# Written addresses of four octets

An IPv4 address has one text only.  An octet with a zero in front, or with more than three digits, is
none, so that what is read as an address is the text that the address is written as.

* `dotted` — the digits of some octets with points between them, **`mem_dotted`** and
  **`count_dotted`** — what they are made of, **`pieces_dotted`** — what stands between the points,
  **`dotted_inj`** — they tell octets apart;
* **`readOctet?_eq_some_iff`** — the one text of an octet;
* **`Ipv4.read?_eq_some_iff`** — the one text of an address, in front of something else;
* **`Ipv4.ofText?_eq_some_iff`** — the one text of an address.
-/

namespace DisplayFilter

open Text

/-- **The digits of some octets** with points between them. -/
def dotted (octets : List UInt8) : List Char :=
  join ['.'] (octets.map fun octet => decimalDigits octet.toNat)

theorem dotted_cons (octet next : UInt8) (more : List UInt8) :
    dotted (octet :: next :: more) = decimalDigits octet.toNat ++ '.' :: dotted (next :: more) := by
  simp [dotted, join]

theorem toList_intercalate_octets (octets : List UInt8) :
    (".".intercalate (octets.map (toString ·.toNat))).toList = dotted octets := by
  rw [Text.toList_intercalate, List.map_map, dotted]
  congr 1
  apply List.map_congr_left
  intro octet _
  exact String.toList_ofList

theorem mem_dotted {octets : List UInt8} {c : Char} (h : c ∈ dotted octets) :
    c.isDigit = true ∨ c = '.' := by
  induction octets with
  | nil => simp [dotted, join] at h
  | cons octet octets ih =>
    cases octets with
    | nil => exact Or.inl (isDigit_of_mem_decimalDigits h)
    | cons next octets =>
      rw [dotted_cons, List.mem_append, List.mem_cons] at h
      rcases h with h | rfl | h
      · exact Or.inl (isDigit_of_mem_decimalDigits h)
      · exact Or.inr rfl
      · exact ih h

theorem count_decimalDigits (n : Nat) {c : Char} (hc : c.isDigit = false) :
    (decimalDigits n).count c = 0 :=
  count_of_class (decimalDigits_all n) hc

/-- Between some octets stand as many points, and no other separator. -/
theorem count_dotted (octet : UInt8) (octets : List UInt8) {c : Char} (hc : c.isDigit = false) :
    (dotted (octet :: octets)).count c = if c = '.' then octets.length else 0 := by
  induction octets generalizing octet with
  | nil =>
    show (decimalDigits octet.toNat).count c = _
    rw [count_decimalDigits _ hc, List.length_nil, ite_self]
  | cons next octets ih =>
    rw [dotted_cons, List.count_append, count_decimalDigits _ hc, List.count_cons, ih]
    by_cases hpoint : c = '.'
    · simp [hpoint]
    · simp [hpoint, Ne.symm hpoint]

theorem decimalDigits_inj {octet other : UInt8}
    (h : decimalDigits octet.toNat = decimalDigits other.toNat) : octet = other := by
  have hvalue := congrArg decimalValue h
  rw [decimalValue_decimalDigits, decimalValue_decimalDigits] at hvalue
  exact UInt8.toNat_inj.1 hvalue

/-- The pieces between the points are the digits of the octets. -/
theorem pieces_dotted {octets : List UInt8} (hne : octets ≠ []) :
    pieces '.' (dotted octets) = octets.map fun octet => decimalDigits octet.toNat := by
  refine pieces_join (by simpa using hne) fun text htext hpoint => ?_
  obtain ⟨octet, -, rfl⟩ := List.mem_map.1 htext
  exact absurd (isDigit_of_mem_decimalDigits hpoint) (by decide)

/-- As many octets are told apart by their digits. -/
theorem dotted_inj {octets others : List UInt8} (h : dotted octets = dotted others)
    (hlength : octets.length = others.length) : octets = others := by
  cases octets with
  | nil => exact (List.eq_nil_of_length_eq_zero hlength.symm).symm
  | cons octet octets =>
    obtain ⟨other, others, rfl⟩ := List.exists_cons_of_length_eq_add_one hlength.symm
    have hpieces := congrArg (pieces '.') h
    rw [pieces_dotted (List.cons_ne_nil _ _), pieces_dotted (List.cons_ne_nil _ _)] at hpieces
    exact (List.map_inj_right fun _ _ => decimalDigits_inj).1 hpieces

namespace Ipv4

/-- The text of an address has its four octets. -/
theorem text_toList (x : Ipv4) : x.text.toList = dotted x.octets :=
  toList_intercalate_octets x.octets

/-! ### Octets -/

/-- The digits of an octet are three at most, and only zero starts with a zero. -/
theorem octet_digits (octet : UInt8) : (decimalDigits octet.toNat).length ≤ 3 ∧
    ((decimalDigits octet.toNat).head? = some '0' → (decimalDigits octet.toNat).length = 1) := by
  have hbound : octet.toNat < 10 ^ 3 := Nat.lt_of_lt_of_le octet.toNat_lt (by decide)
  refine ⟨(Nat.length_toDigits_le_iff (by decide) (by decide)).2 hbound, fun hhead => ?_⟩
  by_cases hzero : octet.toNat = 0
  · rw [hzero]
    rfl
  · exact absurd hhead (decimalDigits_head hzero)

/-- **The one text of an octet.** -/
theorem readOctet?_eq_some_iff {s rest : List Char} {octet : UInt8} :
    readOctet? s = some (octet, rest) ↔
      s = decimalDigits octet.toNat ++ rest ∧ Stops Char.isDigit rest := by
  constructor
  · intro h
    have hall : ∀ c ∈ s.takeWhile Char.isDigit, c.isDigit = true := takeWhile_all
    have hsplit : s = s.takeWhile Char.isDigit ++ s.dropWhile Char.isDigit :=
      List.takeWhile_append_dropWhile.symm
    simp only [readOctet?, Option.ite_none_left_eq_some, Option.some.injEq, Prod.mk.injEq,
      Bool.or_eq_true, List.isEmpty_iff, decide_eq_true_eq, not_or, Bool.and_eq_true] at h
    obtain ⟨⟨⟨hne, -⟩, hvalue⟩, hzero, rfl, rfl⟩ := h
    refine ⟨?_, stops_dropWhile _ _⟩
    have hdigits : decimalDigits (decimalValue (s.takeWhile Char.isDigit)) =
        s.takeWhile Char.isDigit := by
      refine decimalDigits_decimalValue hne hall fun hhead => ?_
      obtain ⟨more, hmore⟩ := List.head?_eq_some_iff.1 hhead
      rw [hmore] at hzero ⊢
      have hnil : more = [] := by
        cases more with
        | nil => rfl
        | cons c more => simp at hzero
      rw [hnil]
    rw [show (decimalValue (s.takeWhile Char.isDigit)).toUInt8.toNat =
      decimalValue (s.takeWhile Char.isDigit) from Nat.mod_eq_of_lt (by omega), hdigits]
    exact hsplit
  · rintro ⟨rfl, hrest⟩
    have hall := decimalDigits_all octet.toNat
    obtain ⟨hlength, hzero⟩ := octet_digits octet
    have hlt : octet.toNat < 256 := octet.toNat_lt
    simp only [readOctet?, takeWhile_append_of_stops hall hrest,
      dropWhile_append_of_stops hall hrest, decimalValue_decimalDigits]
    rw [if_neg, if_neg]
    · simp
    · simp only [Bool.and_eq_true, decide_eq_true_eq, not_and]
      intro hhead
      have hone := hzero hhead
      omega
    · simp only [Bool.or_eq_true, List.isEmpty_iff, decide_eq_true_eq, not_or, decimalDigits_ne_nil,
        not_false_eq_true, true_and]
      omega

theorem readNextOctet?_eq_some_iff {s rest : List Char} {octet : UInt8} :
    readNextOctet? s = some (octet, rest) ↔
      s = '.' :: (decimalDigits octet.toNat ++ rest) ∧ Stops Char.isDigit rest := by
  unfold readNextOctet?
  split
  · next t =>
    rw [readOctet?_eq_some_iff]
    simp
  · next hpoint =>
    refine ⟨by simp, ?_⟩
    rintro ⟨rfl, -⟩
    exact absurd rfl (hpoint _)

/-! ### Addresses -/

/-- **The one text of an address,** in front of something that does not go on with digits. -/
theorem read?_eq_some_iff {s rest : List Char} {x : Ipv4} :
    read? s = some (x, rest) ↔ s = x.text.toList ++ rest ∧ Stops Char.isDigit rest := by
  have htext : x.text.toList ++ rest = decimalDigits x.a.toNat ++ '.' :: (decimalDigits x.b.toNat ++
      '.' :: (decimalDigits x.c.toNat ++ '.' :: (decimalDigits x.d.toNat ++ rest))) := by
    simp [text_toList, octets, dotted, join]
  have hpoint : ∀ t, Stops Char.isDigit ('.' :: t) := fun t => stops_cons.2 (by decide)
  rw [htext]
  constructor
  · intro h
    obtain ⟨⟨a, s₁⟩, ha, h⟩ := Option.bind_eq_some_iff.1 h
    obtain ⟨⟨b, s₂⟩, hb, h⟩ := Option.bind_eq_some_iff.1 h
    obtain ⟨⟨c, s₃⟩, hc, h⟩ := Option.bind_eq_some_iff.1 h
    obtain ⟨⟨d, s₄⟩, hd, h⟩ := Option.bind_eq_some_iff.1 h
    obtain ⟨rfl, rfl⟩ : ⟨a, b, c, d⟩ = x ∧ s₄ = rest := by simpa using h
    obtain ⟨rfl, -⟩ := readOctet?_eq_some_iff.1 ha
    obtain ⟨rfl, -⟩ := readNextOctet?_eq_some_iff.1 hb
    obtain ⟨rfl, -⟩ := readNextOctet?_eq_some_iff.1 hc
    obtain ⟨rfl, hrest⟩ := readNextOctet?_eq_some_iff.1 hd
    exact ⟨rfl, hrest⟩
  · rintro ⟨rfl, hrest⟩
    simp only [read?, readOctet?_eq_some_iff.2 ⟨rfl, hpoint _⟩,
      readNextOctet?_eq_some_iff.2 ⟨rfl, hpoint _⟩, readNextOctet?_eq_some_iff.2 ⟨rfl, hrest⟩, bind,
      Option.bind, pure]

/-- **The one text of an address.** -/
theorem ofText?_eq_some_iff {s : List Char} {x : Ipv4} :
    ofText? s = some x ↔ s = x.text.toList := by
  have hread : ofText? s = some x ↔ read? s = some (x, []) := by
    unfold ofText?
    split
    · next y hy => simp [hy]
    · next hno => exact iff_of_false (by simp) (hno x)
  rw [hread, read?_eq_some_iff, List.append_nil]
  simp [stops_nil]

end Ipv4

end DisplayFilter
