import DisplayFilter.Proofs.Address.Ipv6Text
import DisplayFilter.Slice.Slicer

/-!
# Slicers do not compete

A value is sliced by the first slicer that recognises it.  Hardware addresses, IPv4 addresses and IPv6
addresses have no text in common: an IPv4 address has three points between its octets, a hardware address
five separators of one kind that never stand next to each other, and an IPv6 address six colons or two next
to each other.  So the order of the slicers does not matter, and what is sliced is the address, however
it is written.

* `Slicer.Recognises`, `SameAddress` — a slicer takes a value, and two values are one address;
* **`not_spelling_of_macSeparator?`** — no IPv6 address is a hardware address;
* **`recognises_exclusive`** — a value is recognised by one of the slicers at most;
* **`prepare_of_recognises`**, **`prepare_congr`** — what prepares a value, in any order of slicers;
* **`slice_exclusive`** — slices do not depend on the order of slicers, or on how an address is written.
-/

namespace DisplayFilter

open Text

/-! ### Hardware addresses -/

theorem not_isHexDigit_of_separator {c : Char} (h : c = ':' ∨ c = '-' ∨ c = '.') :
    isHexDigit c = false := by
  rcases h with rfl | rfl | rfl
  · decide
  · decide
  · decide

/-- The groups of a hardware address have as many separators as there are groups, and digits behind
each. -/
theorem isMacTail_separators {separator : Char} (hseparator : isHexDigit separator = false) {count : Nat}
    {s : List Char} (h : isMacTail separator count s = true) :
    s.count separator = count ∧ (∀ c ∈ s, c = separator ∨ isHexDigit c = true) ∧
      ¬ [separator, separator] <:+: s := by
  induction count generalizing s with
  | zero =>
    cases s with
    | nil => simp
    | cons c s => simp [isMacTail] at h
  | succ count ih =>
    rcases s with _ | ⟨c, _ | ⟨a, _ | ⟨b, t⟩⟩⟩
    · simp [isMacTail] at h
    · simp [isMacTail] at h
    · simp [isMacTail] at h
    · simp only [isMacTail, Bool.and_eq_true, beq_iff_eq] at h
      obtain ⟨⟨⟨rfl, ha⟩, hb⟩, htail⟩ := h
      obtain ⟨hcount, hall, hinfix⟩ := ih htail
      have hne : ∀ {d : Char}, isHexDigit d = true → d ≠ c := by
        rintro d hd rfl
        rw [hseparator] at hd
        simp at hd
      refine ⟨?_, ?_, ?_⟩
      · rw [List.count_cons_self, List.count_cons_of_ne (hne ha), List.count_cons_of_ne (hne hb), hcount]
      · intro d hd
        simp only [List.mem_cons] at hd
        rcases hd with rfl | rfl | rfl | hd
        · exact Or.inl rfl
        · exact Or.inr ha
        · exact Or.inr hb
        · exact hall d hd
      · simp only [List.infix_cons_iff, List.cons_prefix_cons, true_and, not_or]
        exact ⟨fun h => hne ha h.1.symm, fun h => hne ha h.1.symm, fun h => hne hb h.1.symm, hinfix⟩

/-- What a hardware address is made of: five separators of one kind, none of them next to another. -/
theorem macSeparator?_separators {s : List Char} {c : Char} (h : macSeparator? s = some c) :
    isHexDigit c = false ∧ s.count c = 5 ∧ (∀ d ∈ s, d = c ∨ isHexDigit d = true) ∧
      ¬ [c, c] <:+: s := by
  unfold macSeparator? at h
  split at h
  · next a b d t =>
    obtain ⟨hmac, hc⟩ := Option.ite_none_right_eq_some.1 h
    obtain rfl : d = c := Option.some.inj hc
    simp only [Bool.and_eq_true, Bool.or_eq_true, beq_iff_eq, or_assoc] at hmac
    obtain ⟨⟨⟨ha, hb⟩, hseparator⟩, htail⟩ := hmac
    have hd := not_isHexDigit_of_separator hseparator
    -- the first group is one behind a separator that is not written
    have hwhole : isMacTail d 6 (d :: a :: b :: d :: t) = true := by
      rw [isMacTail, htail, ha, hb]
      simp
    obtain ⟨hcount, hall, hinfix⟩ := isMacTail_separators hd hwhole
    rw [List.count_cons_self] at hcount
    refine ⟨hd, by omega, fun e he => hall e (List.mem_cons_of_mem _ he), fun h => hinfix ?_⟩
    exact List.infix_cons h
  · simp at h

/-- **No IPv4 address is a hardware address:** it has three separators only. -/
theorem macSeparator?_text (x : Ipv4) : macSeparator? x.text.toList = none := by
  rw [Option.eq_none_iff_forall_ne_some]
  intro c h
  obtain ⟨hc, hcount, -, -⟩ := macSeparator?_separators h
  have hdigit : c.isDigit = false := by
    rw [Bool.eq_false_iff]
    intro hdigit
    obtain ⟨hlt, hchar⟩ := digitChar_of_isDigit hdigit
    have hall : ∀ d < 10, isHexDigit (Nat.digitChar d) = true := by
      decide
    rw [← hchar, hall _ hlt] at hc
    simp at hc
  rw [Ipv4.text_toList, Ipv4.octets, count_dotted _ _ hdigit] at hcount
  split at hcount
  · simp at hcount
  · simp at hcount

/-- **No IPv6 address is a hardware address.** -/
theorem not_spelling_of_macSeparator? {s : List Char} {c : Char} (h : macSeparator? s = some c)
    (x : Ipv6) : ¬ Ipv6.Spelling x s := by
  intro hspelling
  obtain ⟨hc, hcount, hall, hinfix⟩ := macSeparator?_separators h
  have hcolon : ':' ∈ s := Ipv6.colon_mem_of_ofText? (Ipv6.ofText?_eq_some_iff.2 hspelling)
  rcases hall ':' hcolon with rfl | hdigit
  · rcases hspelling.colons with htwo | hmany
    · exact hinfix htwo
    · omega
  · exact absurd hdigit (by decide)

/-! ### One slicer at most -/

/-- **Recognising a value:** a slicer has something to be sliced for it. -/
def Slicer.Recognises (slicer : Slicer) (v : Value) : Prop :=
  (slicer.prepare v).isSome = true

theorem Slicer.mac_recognises {v : Value} (h : Slicer.mac.Recognises v) :
    ∃ c, macSeparator? v.chars = some c := by
  rw [Recognises, mac, Option.isSome_map] at h
  exact Option.isSome_iff_exists.1 h

theorem Slicer.chars_of_ipv4Of? {v : Value} {x : Ipv4} (h : ipv4Of? v = some x) :
    v.chars = x.text.toList := by
  unfold ipv4Of? at h
  split at h
  · rw [Option.some.inj h]
    rfl
  · exact Ipv4.ofText?_eq_some_iff.1 h

theorem Slicer.ipv4_recognises {v : Value} (h : Slicer.ipv4.Recognises v) :
    ∃ x : Ipv4, v.chars = x.text.toList := by
  rw [Recognises, ipv4, Option.isSome_map] at h
  obtain ⟨x, hx⟩ := Option.isSome_iff_exists.1 h
  exact ⟨x, chars_of_ipv4Of? hx⟩

theorem Slicer.spelling_of_ipv6Of? {v : Value} {x : Ipv6} (h : ipv6Of? v = some x) :
    Ipv6.Spelling x v.chars := by
  unfold ipv6Of? at h
  split at h
  · rw [Option.some.inj h]
    exact Ipv6.spelling_text x
  · exact Ipv6.ofText?_eq_some_iff.1 h

theorem Slicer.ipv6_recognises {v : Value} (h : Slicer.ipv6.Recognises v) :
    ∃ x, Ipv6.Spelling x v.chars := by
  rw [Recognises, ipv6, Option.isSome_map] at h
  obtain ⟨x, hx⟩ := Option.isSome_iff_exists.1 h
  exact ⟨x, spelling_of_ipv6Of? hx⟩

theorem not_mac_of_ipv4 {v : Value} (h : Slicer.ipv4.Recognises v) : ¬ Slicer.mac.Recognises v := by
  intro hmac
  obtain ⟨x, hx⟩ := Slicer.ipv4_recognises h
  obtain ⟨c, hc⟩ := Slicer.mac_recognises hmac
  rw [hx, macSeparator?_text] at hc
  simp at hc

theorem not_mac_of_ipv6 {v : Value} (h : Slicer.ipv6.Recognises v) : ¬ Slicer.mac.Recognises v := by
  intro hmac
  obtain ⟨x, hx⟩ := Slicer.ipv6_recognises h
  obtain ⟨c, hc⟩ := Slicer.mac_recognises hmac
  exact not_spelling_of_macSeparator? hc x hx

theorem not_ipv4_of_ipv6 {v : Value} (h : Slicer.ipv6.Recognises v) : ¬ Slicer.ipv4.Recognises v := by
  intro hipv4
  obtain ⟨x, hx⟩ := Slicer.ipv6_recognises h
  obtain ⟨y, hy⟩ := Slicer.ipv4_recognises hipv4
  have hcolon := Ipv6.colon_mem_of_ofText? (Ipv6.ofText?_eq_some_iff.2 hx)
  rw [hy, Ipv4.text_toList] at hcolon
  rcases mem_dotted hcolon with hdigit | hpoint
  · exact absurd hdigit (by decide)
  · exact absurd hpoint (by decide)

/-- **A value is recognised by one of the slicers** at most. -/
theorem recognises_exclusive {a b : Slicer} (ha : a ∈ Slicer.all) (hb : b ∈ Slicer.all) {v : Value}
    (hav : a.Recognises v) (hbv : b.Recognises v) : a = b := by
  simp only [Slicer.all, List.mem_cons, List.not_mem_nil, or_false] at ha hb
  rcases ha with rfl | rfl | rfl
  · rcases hb with rfl | rfl | rfl
    · rfl
    · exact absurd hav (not_mac_of_ipv4 hbv)
    · exact absurd hav (not_mac_of_ipv6 hbv)
  · rcases hb with rfl | rfl | rfl
    · exact absurd hbv (not_mac_of_ipv4 hav)
    · rfl
    · exact absurd hav (not_ipv4_of_ipv6 hbv)
  · rcases hb with rfl | rfl | rfl
    · exact absurd hbv (not_mac_of_ipv6 hav)
    · exact absurd hbv (not_ipv4_of_ipv6 hav)
    · rfl

/-! ### Any order of slicers -/

variable {slicers others : SlicerSet}

/-- **The slicer that recognises a value** is the one that prepares it, wherever it stands. -/
theorem prepare_of_recognises (hknown : ∀ a ∈ slicers, a ∈ Slicer.all) {a : Slicer} (ha : a ∈ slicers)
    {v : Value} {prepared : Sliceable} (h : a.prepare v = some prepared) :
    slicers.prepare v = prepared := by
  have hsome : (slicers.findSome? (·.prepare v)).isSome = true :=
    List.findSome?_isSome_iff.2 ⟨a, ha, by rw [h]; rfl⟩
  obtain ⟨first, hfirst⟩ := Option.isSome_iff_exists.1 hsome
  obtain ⟨b, hb, hbv⟩ := List.exists_of_findSome?_eq_some hfirst
  have hsame : b = a :=
    recognises_exclusive (hknown b hb) (hknown a ha) (by rw [Slicer.Recognises, hbv]; rfl)
      (by rw [Slicer.Recognises, h]; rfl)
  rw [hsame, h] at hbv
  rw [SlicerSet.prepare, hfirst, ← Option.some.inj hbv]
  rfl

/-- A value that no slicer recognises is sliced by characters. -/
theorem prepare_of_unrecognised {v : Value} (h : ∀ a ∈ slicers, ¬ a.Recognises v) :
    slicers.prepare v = ⟨v.chars, none⟩ := by
  have hnone : slicers.findSome? (·.prepare v) = none := by
    rw [List.findSome?_eq_none_iff]
    intro a ha
    exact Option.not_isSome_iff_eq_none.1 (h a ha)
  rw [SlicerSet.prepare, hnone]
  rfl

/-- **The same slicers in any order** prepare a value in the same way. -/
theorem prepare_congr (hknown : ∀ a ∈ slicers, a ∈ Slicer.all) (hsame : ∀ a, a ∈ others ↔ a ∈ slicers)
    (v : Value) : others.prepare v = slicers.prepare v := by
  by_cases h : ∃ a ∈ slicers, a.Recognises v
  · obtain ⟨a, ha, hav⟩ := h
    obtain ⟨prepared, hprepared⟩ := Option.isSome_iff_exists.1 hav
    rw [prepare_of_recognises hknown ha hprepared,
      prepare_of_recognises (fun b hb => hknown b ((hsame b).1 hb)) ((hsame a).2 ha) hprepared]
  · have hnone : ∀ a ∈ slicers, ¬ a.Recognises v := fun a ha hav => h ⟨a, ha, hav⟩
    rw [prepare_of_unrecognised hnone, prepare_of_unrecognised fun a ha => hnone a ((hsame a).1 ha)]

theorem slice_congr (hprepare : ∀ v, others.prepare v = slicers.prepare v) (slice : Slice) (v : Value) :
    others.slice slice v = slicers.slice slice v := by
  cases v <;> simp only [SlicerSet.slice, hprepare]

/-! ### Values of one address -/

/-- The values that stand for an IPv4 address: the address itself and its text. -/
def IsAddress (x : Ipv4) (v : Value) : Prop :=
  v = .ipv4 x ∨ v = .string x.text

/-- The values that stand for an IPv6 address: the address itself and all of its spellings. -/
def IsIpv6Address (x : Ipv6) (v : Value) : Prop :=
  v = .ipv6 x ∨ ∃ s, v = .string s ∧ Ipv6.Spelling x s.toList

/-- **Two values of one address.** -/
def SameAddress (v w : Value) : Prop :=
  (∃ x, IsAddress x v ∧ IsAddress x w) ∨ ∃ x, IsIpv6Address x v ∧ IsIpv6Address x w

theorem prepare_ipv4 (hknown : ∀ a ∈ slicers, a ∈ Slicer.all) (hmem : Slicer.ipv4 ∈ slicers)
    {x : Ipv4} {v : Value} (h : IsAddress x v) : slicers.prepare v = ⟨x.text.toList, some '.'⟩ := by
  have hread : Slicer.ipv4Of? v = some x := by
    have htext : Ipv4.ofText? x.text.toList = some x := Ipv4.ofText?_eq_some_iff.2 rfl
    rcases h with rfl | rfl
    · rfl
    · exact htext
  refine prepare_of_recognises hknown hmem ?_
  simp only [Slicer.ipv4, hread, Option.map_some]

theorem prepare_ipv6 (hknown : ∀ a ∈ slicers, a ∈ Slicer.all) (hmem : Slicer.ipv6 ∈ slicers)
    {x : Ipv6} {v : Value} (h : IsIpv6Address x v) :
    slicers.prepare v = ⟨x.exploded.toList, some ':'⟩ := by
  have hread : Slicer.ipv6Of? v = some x := by
    rcases h with rfl | ⟨s, rfl, hs⟩
    · rfl
    · exact Ipv6.ofText?_eq_some_iff.2 hs
  refine prepare_of_recognises hknown hmem ?_
  simp only [Slicer.ipv6, hread, Option.map_some]

/-- Values of one address are prepared in the same way. -/
theorem prepare_sameAddress (hall : ∀ a, a ∈ slicers ↔ a ∈ Slicer.all) {v w : Value}
    (h : SameAddress v w) : slicers.prepare v = slicers.prepare w := by
  have hknown : ∀ a ∈ slicers, a ∈ Slicer.all := fun a ha => (hall a).1 ha
  rcases h with ⟨x, hv, hw⟩ | ⟨x, hv, hw⟩
  · have hipv4 : Slicer.ipv4 ∈ slicers := (hall _).2 (by simp [Slicer.all])
    rw [prepare_ipv4 hknown hipv4 hv, prepare_ipv4 hknown hipv4 hw]
  · have hipv6 : Slicer.ipv6 ∈ slicers := (hall _).2 (by simp [Slicer.all])
    rw [prepare_ipv6 hknown hipv6 hv, prepare_ipv6 hknown hipv6 hw]

/-- An address is sliced through what it is prepared to. -/
theorem slice_of_sameAddress {v w : Value} (h : SameAddress v w)
    (hprepare : slicers.prepare v = slicers.prepare w) (slice : Slice) :
    slicers.slice slice v = slicers.slice slice w := by
  have hslice : ∀ u, (∃ x, IsAddress x u) ∨ (∃ x, IsIpv6Address x u) → slicers.slice slice u = (do
      let picked ← slice.pick (slicers.prepare u).separator (slicers.prepare u).text
      pure (.string (String.ofList picked))) := by
    rintro u (⟨x, rfl | rfl⟩ | ⟨x, rfl | ⟨s, rfl, -⟩⟩) <;> rfl
  rcases h with ⟨x, hv, hw⟩ | ⟨x, hv, hw⟩
  · rw [hslice v (Or.inl ⟨x, hv⟩), hslice w (Or.inl ⟨x, hw⟩), hprepare]
  · rw [hslice v (Or.inr ⟨x, hv⟩), hslice w (Or.inr ⟨x, hw⟩), hprepare]

/-- **Slicers do not compete.** A value is recognised by one of the known slicers at most.  So slices
are the same for the same slicers in any order, and with all of them, values of one address have the same
slices, or are refused in the same way. -/
theorem slice_exclusive :
    (∀ a ∈ Slicer.all, ∀ b ∈ Slicer.all, ∀ v, a.Recognises v → b.Recognises v → a = b) ∧
      (∀ slicers others : SlicerSet, (∀ a ∈ slicers, a ∈ Slicer.all) →
        (∀ a, a ∈ others ↔ a ∈ slicers) →
          ∀ slice v, others.slice slice v = slicers.slice slice v) ∧
        ∀ slicers : SlicerSet, (∀ a, a ∈ slicers ↔ a ∈ Slicer.all) →
          ∀ v w, SameAddress v w → ∀ slice, slicers.slice slice v = slicers.slice slice w := by
  refine ⟨fun a ha b hb v => recognises_exclusive ha hb, ?_, ?_⟩
  · intro slicers others hknown hsame slice v
    exact slice_congr (prepare_congr hknown hsame) slice v
  · intro slicers hall v w h slice
    exact slice_of_sameAddress h (prepare_sameAddress hall h) slice

/-- The other order, and the loopback address with all of its groups. -/
theorem slice_exclusive_loopback :
    let x : Ipv6 := ⟨[0, 0, 0, 0, 0, 0, 0, 1], rfl⟩
    SameAddress (.ipv6 x) (.string "0:0:0:0:0:0:0:0001") ∧
      ∀ slice, SlicerSet.slice Slicer.all.reverse slice (.string "0:0:0:0:0:0:0:0001") =
        SlicerSet.slice Slicer.all slice (.ipv6 x) := by
  intro x
  have hspelling : Ipv6.Spelling x "0:0:0:0:0:0:0:0001".toList :=
    Ipv6.ofText?_eq_some_iff.1 (by decide)
  have hsame : SameAddress (.ipv6 x) (.string "0:0:0:0:0:0:0:0001") :=
    Or.inr ⟨x, Or.inl rfl, Or.inr ⟨_, rfl, hspelling⟩⟩
  obtain ⟨-, horder, haddress⟩ := slice_exclusive
  refine ⟨hsame, fun slice => ?_⟩
  rw [horder Slicer.all Slicer.all.reverse (fun a ha => ha) (fun a => List.mem_reverse),
    haddress Slicer.all (fun a => Iff.rfl) _ _ hsame]

end DisplayFilter
