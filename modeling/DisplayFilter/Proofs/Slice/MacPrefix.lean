import DisplayFilter.Proofs.Address.Ipv6Text
import DisplayFilter.Proofs.Comparison.Spelling
import DisplayFilter.Proofs.Number.Integers
import DisplayFilter.Proofs.Slice.Chunks
import DisplayFilter.Proofs.Slice.Equality
import DisplayFilter.Proofs.Slice.Slicers
import DisplayFilter.Proofs.Value.PrefixedNumbers

/-!
# The first octets of a hardware address

A slice of a hardware address keeps the separator that the address is written with.  The first octet has
none in it, but from two octets on a slice is equal to octets with colons between them only if there are
colons between its own.

* `HexPair` — an octet as it is written, `macChars` — a row of them;
* **`slice_mac`** — the slice of an address in front of its `k`-th separator;
* **`number?_pair`** — which pairs of digits are numbers, **`evaluate_pair`**, **`evaluate_pairs`** — and
  what equality says about one octet and about several;
* **`satisfies_macPrefix`** — which addresses a comparison of their first octets matches.
-/

namespace DisplayFilter

open Text

/-! ### Octets as they are written -/

/-- **An octet of a hardware address:** two hexadecimal digits of either case. -/
structure HexPair where
  high : Char
  low : Char
  high_digit : isHexDigit high = true
  low_digit : isHexDigit low = true

namespace HexPair

/-- The digits of an octet. -/
def chars (octet : HexPair) : List Char :=
  [octet.high, octet.low]

theorem isHexDigit_of_mem {octet : HexPair} {c : Char} (h : c ∈ octet.chars) : isHexDigit c = true := by
  rcases List.mem_cons.1 h with rfl | h
  · exact octet.high_digit
  · obtain rfl := List.mem_singleton.1 h
    exact octet.low_digit

theorem chars_inj {octet other : HexPair} (h : octet.chars = other.chars) : octet = other := by
  obtain ⟨a, b, ha, hb⟩ := octet
  obtain ⟨c, d, hc, hd⟩ := other
  obtain ⟨rfl, hrest⟩ : a = c ∧ [b] = [d] := List.cons.inj h
  obtain ⟨rfl, -⟩ : b = d ∧ [] = [] := List.cons.inj hrest
  rfl

end HexPair

/-- **Octets with a separator between them.** -/
def macChars (separator : Char) (octets : List HexPair) : List Char :=
  join [separator] (octets.map HexPair.chars)

/-- What a hardware address may have between its octets. -/
def macSeparators : List Char :=
  [':', '-', '.']

theorem not_isHexDigit_of_macSeparators {c : Char} (h : c ∈ macSeparators) : isHexDigit c = false := by
  refine not_isHexDigit_of_separator ?_
  simpa [macSeparators] using h

theorem not_mem_octets {separator : Char} (h : separator ∈ macSeparators) (octets : List HexPair) :
    ∀ text ∈ octets.map HexPair.chars, separator ∉ text := by
  intro text htext hmem
  obtain ⟨octet, -, rfl⟩ := List.mem_map.1 htext
  have hdigit := HexPair.isHexDigit_of_mem hmem
  rw [not_isHexDigit_of_macSeparators h] at hdigit
  nomatch hdigit

theorem macChars_cons (separator : Char) (octet : HexPair) (octets : List HexPair) :
    macChars separator (octet :: octets) =
      octet.chars ++ octets.flatMap fun other => separator :: other.chars := by
  induction octets generalizing octet with
  | nil => simp [macChars, join]
  | cons next octets ih =>
    have hnext := ih next
    rw [macChars, List.map_cons] at hnext
    show octet.chars ++ [separator] ++ join [separator] (next.chars :: octets.map HexPair.chars) = _
    rw [hnext]
    simp

theorem isMacTail_octets (separator : Char) (octets : List HexPair) :
    isMacTail separator octets.length (octets.flatMap fun octet => separator :: octet.chars) = true := by
  induction octets with
  | nil => rfl
  | cons octet octets ih =>
    show isMacTail separator (octets.length + 1) (separator :: octet.high :: octet.low ::
      octets.flatMap fun octet => separator :: octet.chars) = true
    rw [isMacTail, ih, octet.high_digit, octet.low_digit]
    simp

/-- **Six octets with a separator between them** are a hardware address. -/
theorem macSeparator?_macChars {separator : Char} (h : separator ∈ macSeparators)
    {octets : List HexPair} (hsix : octets.length = 6) :
    macSeparator? (macChars separator octets) = some separator := by
  obtain ⟨octet, octets, rfl⟩ := List.exists_cons_of_length_eq_add_one hsix
  have hfive : octets.length = 5 := Nat.succ.inj hsix
  have htail := isMacTail_octets separator octets
  obtain ⟨next, octets, rfl⟩ := List.exists_cons_of_length_eq_add_one hfive
  rw [hfive] at htail
  have hseparator : (separator == ':' || separator == '-' || separator == '.') = true := by
    simpa [macSeparators, or_assoc] using h
  rw [macChars_cons]
  show (if isHexDigit octet.high && isHexDigit octet.low && _ && isMacTail separator 5 _ then _ else _) = _
  rw [octet.high_digit, octet.low_digit, hseparator]
  exact if_pos htail

/-! ### Slices of hardware addresses -/

/-- **The slice of a hardware address** in front of its `k`-th separator has its first `k` octets and its
separator. -/
theorem slice_mac {separator : Char} (h : separator ∈ macSeparators) {octets : List HexPair}
    (hsix : octets.length = 6) {k : Nat} (hk : k ≤ 5) :
    SlicerSet.slice Slicer.all [.range (some 0) (some (Int64.ofNat k))]
        (.string (String.ofList (macChars separator octets))) =
      .ok (.string (String.ofList (macChars separator (octets.take k)))) := by
  have hnumber : ∀ k < 6, (Int64.ofNat k).toInt = k := by decide
  have hpick := pick_first (not_mem_octets h octets) (Or.inr rfl) (by simp [hsix]; omega)
    (hnumber k (by omega))
  rw [← List.map_take] at hpick
  have hprepare : Slicer.all.prepare (.string (String.ofList (macChars separator octets))) =
      ⟨macChars separator octets, some separator⟩ := by
    refine prepare_of_recognises (fun _ ha => ha) (a := Slicer.mac) (by simp [Slicer.all]) ?_
    show (macSeparator? (String.ofList _).toList).map (fun c => Sliceable.mk (String.ofList _).toList
      (some c)) = _
    rw [String.toList_ofList, macSeparator?_macChars h hsix]
    rfl
  simp only [SlicerSet.slice, hprepare]
  show (Slice.pick _ _ (join [separator] (octets.map HexPair.chars))).bind _ = _
  rw [hpick]
  rfl

/-! ### Octets as numbers -/

theorem isHexDigit_toNat {c : Char} (h : isHexDigit c = true) :
    (48 ≤ c.toNat ∧ c.toNat ≤ 57) ∨ (97 ≤ c.toNat ∧ c.toNat ≤ 102) ∨ (65 ≤ c.toNat ∧ c.toNat ≤ 70) := by
  unfold isHexDigit hexValue? at h
  simp only at h
  split at h
  · next hdigit => exact Or.inl hdigit
  · split at h
    · next hlower => exact Or.inr (Or.inl hlower)
    · split at h
      · next hupper => exact Or.inr (Or.inr hupper)
      · nomatch h

theorem ne_of_isHexDigit {c d : Char} (hc : isHexDigit c = true) (hd : isHexDigit d = false) : c ≠ d := by
  intro heq
  rw [heq, hd] at hc
  nomatch hc

theorem not_isBlank_of_isHexDigit {c : Char} (h : isHexDigit c = true) : isBlank c = false := by
  have hc := isHexDigit_toNat h
  simp only [isBlank, Bool.or_eq_false_iff, Bool.and_eq_false_iff, decide_eq_false_iff_not,
    beq_eq_false_iff_ne]
  omega

theorem toNat_of_isDigit {c : Char} (h : c.isDigit = true) : 48 ≤ c.toNat ∧ c.toNat ≤ 57 :=
  Char.isDigit_iff_toNat.1 h

theorem decimalValue_pair (a b : Char) :
    decimalValue [a, b] = (a.toNat - 48) * 10 + (b.toNat - 48) := by
  simp [decimalValue]

/-- **Two digits as a decimal** are both decimal digits. -/
theorem readDecimal?_pair {a b : Char} (ha : isHexDigit a = true) (hb : isHexDigit b = true)
    {x : Binary64} (h : readDecimal? false [a, b] = some x) :
    a.isDigit = true ∧ b.isDigit = true ∧ x = Binary64.ofInt (decimalValue [a, b]) := by
  have hapoint : a ≠ '.' := ne_of_isHexDigit ha rfl
  have hbpoint : b ≠ '.' := ne_of_isHexDigit hb rfl
  unfold readDecimal? at h
  cases hadigit : a.isDigit with
  | false =>
    simp [isDecimalDigit, hadigit, hapoint] at h
  | true =>
    cases hbdigit : b.isDigit with
    | false =>
      simp [isDecimalDigit, hadigit, hbdigit, hbpoint, readExponent?, splitSign] at h
    | true =>
      simp [isDecimalDigit, hadigit, hbdigit, readExponent?] at h
      refine ⟨rfl, rfl, ?_⟩
      have hlow := toNat_of_isDigit hadigit
      have hhigh := toNat_of_isDigit hbdigit
      have hvalue := decimalValue_pair a b
      have hwhole := Binary64.ofDecimal_whole false (n := decimalValue [a, b]) (by omega) 0 (Nat.zero_le 1)
      rw [show Nat.pow 10 0 = 1 from rfl, Nat.mul_one] at hwhole
      rw [← h, Binary64.ofInt, Int.natAbs_natCast, decide_eq_false (Int.not_lt.2 (Int.natCast_nonneg _)),
        ← hwhole]
      rfl

/-- **Two digits are a number** only if they are decimal digits, also behind a zero. -/
theorem number?_pair {octet : HexPair} {x : Binary64}
    (h : number? (String.ofList octet.chars) = some x) :
    octet.high.isDigit = true ∧ octet.low.isDigit = true ∧
      x = Binary64.ofInt (decimalValue octet.chars) := by
  obtain ⟨a, b, ha, hb⟩ := octet
  have hblank : ∀ c ∈ [a, b], isBlank c = false := by
    simp [not_isBlank_of_isHexDigit ha, not_isBlank_of_isHexDigit hb]
  have hbmark : b ≠ 'x' ∧ b ≠ 'o' ∧ b ≠ '+' ∧ b ≠ '-' :=
    ⟨ne_of_isHexDigit hb rfl, ne_of_isHexDigit hb rfl, ne_of_isHexDigit hb rfl, ne_of_isHexDigit hb rfl⟩
  have hamark : a ≠ '+' ∧ a ≠ '-' := ⟨ne_of_isHexDigit ha rfl, ne_of_isHexDigit ha rfl⟩
  rcases NumberText.number?_cases h with hdecimal | hzero | ⟨t, hx, -⟩ | ⟨t, ho, -⟩ | ⟨t, hoctal, hbased⟩
  · rw [decimal?, String.toList_ofList, HexPair.chars, NumberText.trim_of_not_blank hblank] at hdecimal
    have hsign : splitSign [a, b] = (false, [a, b]) := by
      simp [splitSign, hamark]
    have hread : readDecimal? false [a, b] = some x := by
      simpa [Binary64.ofText?, hsign, equalCaseless] using hdecimal
    exact readDecimal?_pair ha hb hread
  · simp [HexPair.chars] at hzero
  · simp [HexPair.chars, hbmark.1] at hx
  · simp [HexPair.chars, hbmark.2.1] at ho
  · rw [String.toList_ofList] at hoctal
    obtain ⟨rfl, rfl⟩ : a = '0' ∧ [b] = t := List.cons.inj hoctal
    obtain ⟨n, hn, -, hx⟩ := (NumberText.basedNumber?_eq_some_iff (by decide)).1 hbased
    obtain ⟨d, rfl, hd⟩ : ∃ d : Nat, n = d ∧ digitValue? 8 b = some d := by
      cases hn with
      | unsigned hs =>
        have hread := (digitsValue?_eq_some_iff (by decide)).2 hs
        exact ⟨_, rfl, by simpa [digitsValue?, digitsValueFrom?] using hread⟩
      | plus hs => exact absurd rfl hbmark.2.2.1
      | minus hs => exact absurd rfl hbmark.2.2.2
    obtain ⟨hlt, hrange⟩ := digitValue?_eq_some hd
    refine ⟨rfl, Char.isDigit_iff_toNat.2 (show 48 ≤ b.toNat ∧ b.toNat ≤ 57 from ?_), ?_⟩
    · omega
    · have hvalue : decimalValue ['0', b] = d := by
        have hzero : '0'.toNat = 48 := rfl
        rw [decimalValue_pair]
        omega
      rw [hx, HexPair.chars, hvalue]

/-- **Different pairs are different numbers,** if they are numbers. -/
theorem eq_of_compare_pair {octet other : HexPair} {x y : Binary64}
    (hx : number? (String.ofList other.chars) = some x)
    (hy : number? (String.ofList octet.chars) = some y) (h : y.compare? x = some .eq) :
    octet = other := by
  obtain ⟨hhigh, hlow, hyvalue⟩ := number?_pair hy
  obtain ⟨hhigher, hlower, hxvalue⟩ := number?_pair hx
  have ha := toNat_of_isDigit hhigh
  have hb := toNat_of_isDigit hlow
  have hc := toNat_of_isDigit hhigher
  have hd := toNat_of_isDigit hlower
  have hfirst : decimalValue octet.chars = (octet.high.toNat - 48) * 10 + (octet.low.toNat - 48) :=
    decimalValue_pair _ _
  have hsecond : decimalValue other.chars = (other.high.toNat - 48) * 10 + (other.low.toNat - 48) :=
    decimalValue_pair _ _
  have hfits : ∀ n : Nat, n < 100 → (n : Int).natAbs ≤ Nat.pow 2 53 := by
    intro n hn
    have hbound : Nat.pow 2 53 = 9007199254740992 := rfl
    omega
  have hlarge : Nat.pow 2 53 ≤ Nat.pow 2 63 := Nat.pow_le_pow_right (by decide) (by decide)
  have hoctet := hfits (decimalValue octet.chars) (by omega)
  have hother := hfits (decimalValue other.chars) (by omega)
  rw [hyvalue, hxvalue, Binary64.compare?_ofInt (Nat.le_trans hoctet hlarge) (Nat.le_trans hother hlarge),
    Binary64.nearest_exact hoctet, Binary64.nearest_exact hother] at h
  have hvalue : (decimalValue octet.chars : Int) = decimalValue other.chars :=
    Int.compare_eq_eq.1 (Option.some.inj h)
  have hsame : octet.high.toNat = other.high.toNat ∧ octet.low.toNat = other.low.toNat := by
    omega
  apply HexPair.chars_inj
  rw [HexPair.chars, HexPair.chars, Char.toNat_inj.1 hsame.1, Char.toNat_inj.1 hsame.2]

/-! ### Comparing first octets -/

/-- Between colons there are as many octets as there are colons and one more, and no two colons are next
to each other. -/
theorem colons_of_octets {octets : List HexPair} (hne : octets ≠ []) :
    (macChars ':' octets).count ':' + 1 = octets.length ∧
      (∀ c ∈ macChars ':' octets, c = ':' ∨ isHexDigit c = true) ∧
        ¬ [':', ':'] <:+: macChars ':' octets := by
  have htail := isMacTail_octets ':' octets
  obtain ⟨octet, more, rfl⟩ := List.exists_cons_of_ne_nil hne
  have hwhole : ((octet :: more).flatMap fun octet => ':' :: octet.chars) =
      ':' :: macChars ':' (octet :: more) := by
    rw [macChars_cons]
    rfl
  rw [hwhole] at htail
  obtain ⟨hcount, hall, hinfix⟩ := isMacTail_separators rfl htail
  rw [List.count_cons_self] at hcount
  exact ⟨hcount, fun c hc => hall c (List.mem_cons_of_mem _ hc), fun h => hinfix (List.infix_cons h)⟩

/-- **Up to five octets** are no address of either kind. -/
theorem no_address_octets {octets : List HexPair} (hne : octets ≠ []) (hle : octets.length ≤ 5) :
    ipv4? (String.ofList (macChars ':' octets)) = none ∧
      ipv6? (String.ofList (macChars ':' octets)) = none := by
  obtain ⟨hcount, hall, hinfix⟩ := colons_of_octets hne
  constructor
  · cases h : ipv4? (String.ofList (macChars ':' octets)) with
    | none => rfl
    | some x =>
      have hpoint : '.' ∈ macChars ':' octets := by
        have htext := eq_dotted_of_ipv4? h
        rw [← String.toList_inj, String.toList_ofList, String.toList_ofList, Ipv4.octets] at htext
        rw [htext, dotted_cons]
        simp
      rcases hall '.' hpoint with hcolon | hdigit
      · exact absurd hcolon (by decide)
      · exact absurd hdigit (by decide)
  · cases h : ipv6? (String.ofList (macChars ':' octets)) with
    | none => rfl
    | some x =>
      rw [ipv6?, String.toList_ofList, Ipv6.ofText?_eq_some_iff] at h
      rcases h.colons with htwo | hmany
      · exact absurd htwo hinfix
      · omega

/-- Octets stand for themselves in a filter. -/
theorem decodedText_octets {octets : List HexPair} (hne : octets ≠ []) :
    decodedText (String.ofList (macChars ':' octets)) = String.ofList (macChars ':' octets) := by
  apply decodedText_of_unescaped
  intro c hc
  rw [String.toList_ofList] at hc
  rcases (colons_of_octets hne).2.1 c hc with rfl | hdigit
  · rfl
  · have hbackslash : c ≠ '\\' := ne_of_isHexDigit hdigit rfl
    have hrange := isHexDigit_toNat hdigit
    simp only [isUnescaped, Bool.and_eq_true, bne_iff_ne, Bool.or_eq_true, decide_eq_true_eq]
    exact ⟨hbackslash, by omega⟩

/-- **Octets with a separator are told apart** by the separator too, if there is one. -/
theorem macChars_eq_iff {separator : Char} {octets others : List HexPair}
    (htwo : 2 ≤ octets.length) (hlength : octets.length = others.length) :
    macChars separator octets = macChars ':' others ↔ octets = others ∧ separator = ':' := by
  constructor
  · intro h
    obtain ⟨octet, next, octets, rfl⟩ : ∃ a b t, octets = a :: b :: t := by
      rcases octets with _ | ⟨a, _ | ⟨b, t⟩⟩
      · simp at htwo
      · simp at htwo
      · exact ⟨a, b, t, rfl⟩
    obtain ⟨other, more, others, rfl⟩ : ∃ a b t, others = a :: b :: t := by
      rcases others with _ | ⟨a, _ | ⟨b, t⟩⟩
      · simp at hlength
      · simp at hlength
      · exact ⟨a, b, t, rfl⟩
    have hseparator : separator = ':' := by
      rw [macChars_cons, macChars_cons] at h
      simp only [HexPair.chars, List.flatMap_cons, List.cons_append, List.nil_append, List.cons.injEq] at h
      exact h.2.2.1
    subst hseparator
    have hpieces := congrArg (pieces ':') h
    rw [macChars, macChars, pieces_join (by simp) (not_mem_octets (by decide) _),
      pieces_join (by simp) (not_mem_octets (by decide) _)] at hpieces
    exact ⟨(List.map_inj_right fun _ _ => HexPair.chars_inj).1 hpieces, rfl⟩
  · intro ⟨hoctets, hseparator⟩
    rw [hoctets, hseparator]

section Evaluation

variable {e : Expression}

/-- **Equality with one octet** is equality of octets, also where they are numbers. -/
theorem evaluate_pair {octet other : HexPair}
    (he : e.comparison = some ⟨.eq, .text (String.ofList (macChars ':' [other]))⟩) :
    ComparatorTable.standard.evaluate e (.string (String.ofList octet.chars)) = true ↔
      octet = other := by
  have hnone := no_address_octets (List.cons_ne_nil other []) (by simp)
  have hdecoded := decodedText_octets (List.cons_ne_nil other [])
  have hchars : macChars ':' [other] = other.chars := rfl
  rw [hchars] at he hnone hdecoded
  rw [evaluate_eq_iff he, agrees_number_iff, agrees_ipv4_iff, agrees_ipv6_iff, agrees_string_iff,
    hnone.1, hnone.2, hdecoded]
  constructor
  · intro h
    rcases h with ⟨x, hx, w, hw, y, hy, hcompare⟩ | ⟨x, hx, -⟩ | ⟨x, hx, -⟩ | ⟨w, hw, htext⟩
    · obtain rfl := List.mem_singleton.1 hw
      exact eq_of_compare_pair hx hy hcompare
    · nomatch hx
    · nomatch hx
    · obtain rfl := List.mem_singleton.1 hw
      have hsame : String.ofList octet.chars = String.ofList other.chars := Option.some.inj htext
      rw [← String.toList_inj, String.toList_ofList, String.toList_ofList] at hsame
      exact HexPair.chars_inj hsame
  · intro h
    rw [h]
    exact Or.inr (Or.inr (Or.inr ⟨_, List.mem_singleton_self _, rfl⟩))

/-- **Equality with several octets** is equality of texts. -/
theorem evaluate_pairs {others : List HexPair} {s : List Char}
    (he : e.comparison = some ⟨.eq, .text (String.ofList (macChars ':' others))⟩)
    (htwo : 2 ≤ others.length) (hle : others.length ≤ 5) :
    ComparatorTable.standard.evaluate e (.string (String.ofList s)) = true ↔
      s = macChars ':' others := by
  have hne : others ≠ [] := List.ne_nil_of_length_pos (by omega)
  have hcolon : ':' ∈ macChars ':' others := by
    have hcount := (colons_of_octets hne).1
    exact List.count_pos_iff.1 (by omega)
  have hnumber : number? (String.ofList (macChars ':' others)) = none :=
    number?_of_mem (by rwa [String.toList_ofList]) (by decide)
  obtain ⟨hipv4, hipv6⟩ := no_address_octets hne hle
  rw [evaluate_eq_unread_iff he hnumber hipv4 hipv6, decodedText_octets hne]
  constructor
  · intro ⟨w, hw, htext⟩
    obtain rfl := List.mem_singleton.1 hw
    have hsame : String.ofList s = String.ofList (macChars ':' others) := Option.some.inj htext
    rwa [← String.toList_inj, String.toList_ofList, String.toList_ofList] at hsame
  · intro h
    exact ⟨_, List.mem_singleton_self _, by rw [h]; rfl⟩

end Evaluation

/-! ### Filters -/

/-- **The filter for first octets:** a slice in front of a separator, compared with octets between which
there are colons. -/
def macFilter (name : String) (octets : List HexPair) : String :=
  name ++ "[0:" ++ toString octets.length ++ "] == " ++ String.ofList (macChars ':' octets)

/-- The expression of this filter. -/
def macExpression (name : String) (octets : List HexPair) : Expression :=
  slicedEquality name [.range (some 0) (some (Int64.ofNat octets.length))] (macChars ':' octets)

theorem isBareChar_of_isHexDigit {c : Char} (h : isHexDigit c = true) : isBareChar c = true := by
  have hall : ∀ n < 103, isHexDigit (Char.ofNat n) = true → isBareChar (Char.ofNat n) = true := by
    decide
  have hrange := isHexDigit_toNat h
  have hc := hall c.toNat (by omega)
  rw [Char.ofNat_toNat] at hc
  exact hc h

theorem isBare_octets {octets : List HexPair} (hne : octets ≠ []) :
    isBare (macChars ':' octets) = true := by
  apply isBare_of_all
  · obtain ⟨octet, more, rfl⟩ := List.exists_cons_of_ne_nil hne
    simp [macChars_cons, HexPair.chars]
  · intro c hc
    rcases (colons_of_octets hne).2.1 c hc with rfl | hdigit
    · decide
    · exact isBareChar_of_isHexDigit hdigit

/-- **The filter for first octets parses** to its expression. -/
theorem parse_macFilter {name : String} (hname : ({} : Parser).Names name) {octets : List HexPair}
    (hne : octets ≠ []) (hle : octets.length ≤ 5) :
    ({} : Filter).parse (macFilter name octets) = .ok [.leaf (macExpression name octets)] := by
  have hslice : ∀ k < 6, Slice.chars [.range (some 0) (some (Int64.ofNat k))] =
      '[' :: '0' :: ':' :: ((toString k).toList ++ [']']) := by
    decide
  have hwritable : Slice.Writable [.range (some 0) (some (Int64.ofNat octets.length))] :=
    ⟨by simp, by simp [SliceEntry.Bounded]⟩
  have htext : (macExpression name octets).text = macFilter name octets := by
    rw [← String.toList_inj, Expression.text, String.toList_ofList, macExpression,
      slicedEquality_chars name _ (isBare_octets hne), hslice octets.length (by omega)]
    simp [macFilter]
  show ({} : Parser).parse _ = _
  rw [← htext]
  exact parse_slicedEquality hname hwritable (isBare_octets hne)

/-- **An address compared with octets:** what equality says about its slice. -/
theorem satisfies_macExpression {separator : Char} (hseparator : separator ∈ macSeparators)
    {octets : List HexPair} (hsix : octets.length = 6) {others : List HexPair} (hne : others ≠ [])
    (hle : others.length ≤ 5) {name : String} {record : Record}
    (hrecord : record.resolve name = .string (String.ofList (macChars separator octets))) :
    ∃ answer, ({} : Filter).satisfies [.leaf (macExpression name others)] record = .ok answer ∧
      (answer = true ↔
        octets.take others.length = others ∧ (others.length = 1 ∨ separator = ':')) := by
  have hslice : SlicerSet.slice Slicer.all [.range (some 0) (some (Int64.ofNat others.length))]
      (record.resolve name) =
        .ok (.string (String.ofList (macChars separator (octets.take others.length)))) := by
    rw [hrecord]
    exact slice_mac hseparator hsix hle
  have hlength : (octets.take others.length).length = others.length := by
    rw [List.length_take, hsix]
    omega
  refine ⟨_, satisfies_sliced rfl rfl hslice, ?_⟩
  show ComparatorTable.standard.evaluate _ _ = true ↔ _
  by_cases htwo : 2 ≤ others.length
  · have hmany : others.length ≠ 1 := by omega
    rw [evaluate_pairs rfl htwo hle, macChars_eq_iff (by omega) hlength]
    simp [hmany]
  · have hone : others.length = 1 := by
      have hpos := List.length_pos_iff.2 hne
      omega
    obtain ⟨other, rfl⟩ := List.length_eq_one_iff.1 hone
    obtain ⟨octet, htake⟩ := List.length_eq_one_iff.1 hlength
    have hchars : macChars separator [octet] = octet.chars := rfl
    rw [htake, hchars, evaluate_pair rfl]
    simp

/-- **The filter for first octets** matches an address with colons exactly if its first octets are those
of the filter, letter by letter.  One octet has no separator in it, so that it may be any; from two octets
on, no address with dashes or points matches. -/
theorem satisfies_macPrefix {name : String} (hname : ({} : Parser).Names name) {octets : List HexPair}
    (hsix : octets.length = 6) {others : List HexPair} (hne : others ≠ []) (hle : others.length ≤ 5) :
    ∃ tree, ({} : Filter).parse (macFilter name others) = .ok tree ∧
      ∀ separator ∈ macSeparators, ∀ record : Record,
        record.resolve name = .string (String.ofList (macChars separator octets)) →
          ∃ answer, ({} : Filter).satisfies tree record = .ok answer ∧
            (answer = true ↔
              octets.take others.length = others ∧ (others.length = 1 ∨ separator = ':')) := by
  refine ⟨_, parse_macFilter hname hne hle, ?_⟩
  intro separator hseparator record hrecord
  exact satisfies_macExpression hseparator hsix hne hle hrecord

/-- One octet of an address with dashes. -/
theorem satisfies_macPrefix_one :
    let first : HexPair := ⟨'0', '0', rfl, rfl⟩
    let octets : List HexPair := first :: List.replicate 5 ⟨'8', '3', rfl, rfl⟩
    let record : Record := .entries [("f", .string "00-83-83-83-83-83")]
    ({} : Parser).Names "f" ∧ octets.length = 6 ∧ [first] ≠ [] ∧ [first].length ≤ 5 ∧
      record.resolve "f" = .string (String.ofList (macChars '-' octets)) ∧
      ∃ tree, ({} : Filter).parse (macFilter "f" [first]) = .ok tree ∧
        ({} : Filter).satisfies tree record = .ok true := by
  intro first octets record
  have hname : ({} : Parser).Names "f" :=
    ⟨by decide, List.all_eq_true.1 (by decide), fun hno => absurd rfl hno⟩
  have hone : [first].length ≤ 5 := by decide
  have hrecord : record.resolve "f" = .string (String.ofList (macChars '-' octets)) := rfl
  obtain ⟨tree, hparse, hanswers⟩ :=
    @satisfies_macPrefix "f" hname octets rfl [first] (List.cons_ne_nil _ _) hone
  obtain ⟨answer, hanswer, hiff⟩ := hanswers '-' (by decide) record hrecord
  have htrue : answer = true := hiff.2 ⟨rfl, Or.inl rfl⟩
  exact ⟨hname, rfl, List.cons_ne_nil _ _, hone, hrecord, tree, hparse, htrue ▸ hanswer⟩

/-- **The separator counts:** two octets with a colon between them do not match an address with dashes. -/
theorem macPrefix_separators_differ :
    let colons : Record := .entries [("f", .string "00:83:00:20:20:83")]
    let dashes : Record := .entries [("f", .string "00-83-00-20-20-83")]
    ∃ tree, ({} : Filter).parse "f[0:2] == 00:83" = .ok tree ∧
      ({} : Filter).satisfies tree colons = .ok true ∧
        ({} : Filter).satisfies tree dashes = .ok false := by
  intro colons dashes
  let others : List HexPair := [⟨'0', '0', rfl, rfl⟩, ⟨'8', '3', rfl, rfl⟩]
  let octets : List HexPair := others ++
    [⟨'0', '0', rfl, rfl⟩, ⟨'2', '0', rfl, rfl⟩, ⟨'2', '0', rfl, rfl⟩, ⟨'8', '3', rfl, rfl⟩]
  have hname : ({} : Parser).Names "f" :=
    ⟨by decide, List.all_eq_true.1 (by decide), fun hno => absurd rfl hno⟩
  have htext : macFilter "f" others = "f[0:2] == 00:83" := by decide
  have hparse := parse_macFilter hname (List.cons_ne_nil _ _ : others ≠ []) (by decide)
  rw [htext] at hparse
  obtain ⟨answer, hcolons, hiff⟩ := @satisfies_macExpression ':' (by decide) octets rfl others
    (List.cons_ne_nil _ _) (by decide) "f" colons rfl
  obtain ⟨other, hdashes, hiff'⟩ := @satisfies_macExpression '-' (by decide) octets rfl others
    (List.cons_ne_nil _ _) (by decide) "f" dashes rfl
  have htrue : answer = true := hiff.2 ⟨rfl, Or.inr rfl⟩
  have hfalse : other = false := by
    rw [Bool.eq_false_iff, ne_eq, hiff']
    intro ⟨_, hseparator⟩
    exact absurd hseparator (by decide)
  exact ⟨_, hparse, htrue ▸ hcolons, hfalse ▸ hdashes⟩

end DisplayFilter
