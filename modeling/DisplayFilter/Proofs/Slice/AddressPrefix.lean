import DisplayFilter.Proofs.Comparison.Consultation
import DisplayFilter.Proofs.Slice.Chunks
import DisplayFilter.Proofs.Slice.Equality
import DisplayFilter.Proofs.Slice.Slicers
import DisplayFilter.Proofs.Tree.WrittenForm
import DisplayFilter.Proofs.Value.ReadBack

/-!
# The first octets of an address

A slice of an address is a text again, and equality tries numbers before texts.  One octet is a whole
number and three octets are no number, but two octets with a point between them are a decimal, and
zeros at the end of its places do not count.

* **`slice_address`** — the slice of an address in front of its `k`-th point, as a range of chunks;
* `SamePrefix` — when the first octets of two addresses are taken for the same;
* **`satisfies_octets`** — which addresses a comparison of their first octets matches.
-/

namespace DisplayFilter

open Text

/-! ### Slices of addresses -/

/-- **The slice of an address** in front of its `k`-th point has its first `k` octets. -/
theorem slice_address {x : Ipv4} {v : Value} (h : IsAddress x v) {k : Nat} (hk : k ≤ 3) :
    SlicerSet.slice Slicer.all [.range none (some (Int64.ofNat k))] v =
      .ok (.string (String.ofList (dotted (x.octets.take k)))) := by
  have hnumber : ∀ k < 4, (Int64.ofNat k).toInt = k := by decide
  have hpieces : pieces '.' (dotted x.octets) = x.octets.map fun octet => decimalDigits octet.toNat :=
    pieces_dotted (List.cons_ne_nil _ _)
  have hplain : ∀ digits ∈ x.octets.map fun octet => decimalDigits octet.toNat, '.' ∉ digits :=
    (pieces_eq_iff.1 hpieces).2.1
  have hpick : Slice.pick [.range none (some (Int64.ofNat k))] (some '.') (dotted x.octets) =
      .ok (dotted (x.octets.take k)) := by
    rw [dotted, pick_first hplain (Or.inl rfl) (by simp [Ipv4.octets]; omega) (hnumber k (by omega)),
      ← List.map_take]
    rfl
  have hslice : SlicerSet.slice Slicer.all [.range none (some (Int64.ofNat k))] v = (do
      let picked ← Slice.pick [.range none (some (Int64.ofNat k))] (some '.') (dotted x.octets)
      pure (.string (String.ofList picked))) := by
    have hknown : ∀ a ∈ Slicer.all, a ∈ Slicer.all := fun _ ha => ha
    have hprepare := prepare_ipv4 hknown (by simp [Slicer.all]) h
    rw [Ipv4.text_toList] at hprepare
    rcases h with rfl | rfl
    · simp only [SlicerSet.slice, hprepare]
    · simp only [SlicerSet.slice, hprepare]
  rw [hslice, hpick]
  rfl

/-! ### First octets as numbers -/

/-- The digits of an octet behind a point, with zeros up to three places. -/
def thousandths (octet : UInt8) : Nat :=
  octet.toNat * Nat.pow 10 (3 - (decimalDigits octet.toNat).length)

/-- **When first octets are taken for the same.** Two octets with a point between them are a decimal,
and zeros at the end of its places do not count. -/
def SamePrefix : List UInt8 → List UInt8 → Prop
  | [a, b], [c, d] => a = c ∧ thousandths b = thousandths d
  | octets, others => octets = others

theorem octet_length (octet : UInt8) : 0 < (decimalDigits octet.toNat).length ∧
    (decimalDigits octet.toNat).length ≤ 3 :=
  ⟨List.length_pos_iff.2 (decimalDigits_ne_nil _), (Ipv4.octet_digits octet).1⟩

theorem thousandths_lt (octet : UInt8) : thousandths octet < 1000 := by
  obtain ⟨hpos, hlength⟩ := octet_length octet
  have hdigits : octet.toNat < 10 ^ (decimalDigits octet.toNat).length :=
    (Nat.length_toDigits_le_iff (by decide) hpos).1 (Nat.le_refl _)
  calc thousandths octet
      < 10 ^ (decimalDigits octet.toNat).length * 10 ^ (3 - (decimalDigits octet.toNat).length) :=
        Nat.mul_lt_mul_of_pos_right hdigits (Nat.pow_pos (by decide))
    _ = 10 ^ 3 := by rw [← Nat.pow_add, Nat.add_sub_cancel' hlength]

/-- One octet is a whole number. -/
theorem number?_octet (a : UInt8) :
    number? (String.ofList (dotted [a])) = some (Binary64.ofRatio false (a.toNat * 1000) 1000) := by
  have hlt := a.toNat_lt
  show number? (String.ofList (decimalDigits a.toNat)) = _
  by_cases hzero : a.toNat = 0
  · rw [hzero, Nat.zero_mul, Binary64.ofRatio_zero false (by decide)]
    rfl
  · have hlength : Binary64.decimalLength a.toNat ≤ 3 :=
      Binary64.decimalLength_le_iff.2 (Nat.lt_trans hlt (by decide))
    have hratio : Binary64.ofDecimal false a.toNat 0 =
        Binary64.ofRatio false (a.toNat * Nat.pow 10 3) (Nat.pow 10 3) :=
      Binary64.ofDecimal_eq_ofRatio false (by omega) (by omega) (by omega)
    have hread := NumberText.number?_whole false (decimalDigits_ne_nil a.toNat)
      (decimalDigits_all a.toNat) fun _ => decimalDigits_head hzero
    rw [decimalValue_decimalDigits, hratio] at hread
    exact hread

/-- Two octets with a point between them are a decimal. -/
theorem number?_octets (a b : UInt8) : number? (String.ofList (dotted [a, b])) =
    some (Binary64.ofRatio false (a.toNat * 1000 + thousandths b) 1000) := by
  have ha := a.toNat_lt
  have hb := thousandths_lt b
  obtain ⟨hpos, hplaces⟩ := octet_length b
  have hread := NumberText.number?_point false (decimalDigits_ne_nil a.toNat)
    (decimalDigits_all a.toNat) (decimalDigits_all b.toNat)
  have hvalue : decimalValue (decimalDigits a.toNat ++ decimalDigits b.toNat) *
      Nat.pow 10 (3 - (decimalDigits b.toNat).length) = a.toNat * 1000 + thousandths b := by
    have hpower : Nat.pow 10 (decimalDigits b.toNat).length *
        Nat.pow 10 (3 - (decimalDigits b.toNat).length) = 1000 := by
      rw [Nat.pow_eq, Nat.pow_eq, ← Nat.pow_add, Nat.add_sub_cancel' hplaces]
    rw [decimalValue_append, decimalValue_decimalDigits, decimalValue_decimalDigits, Nat.add_mul,
      Nat.mul_assoc, hpower, thousandths]
  have hlength : Binary64.decimalLength
      (decimalValue (decimalDigits a.toNat ++ decimalDigits b.toNat)) ≤ 6 := by
    have hpower : 0 < Nat.pow 10 (3 - (decimalDigits b.toNat).length) := Nat.pow_pos (by decide)
    have hle := Nat.le_mul_of_pos_right
      (decimalValue (decimalDigits a.toNat ++ decimalDigits b.toNat)) hpower
    have hbound : Nat.pow 10 6 = 1000000 := rfl
    rw [Binary64.decimalLength_le_iff, hbound]
    omega
  rw [Binary64.ofDecimal_eq_ofRatio false (a := 3 - (decimalDigits b.toNat).length) (b := 3)
    (by omega) (by omega) (by omega), hvalue] at hread
  rw [dotted_cons]
  exact hread

/-- Whole numbers of one octet are told apart. -/
theorem compare_octet (a c : UInt8) :
    (Binary64.ofRatio false (a.toNat * 1000) 1000).compare?
      (Binary64.ofRatio false (c.toNat * 1000) 1000) = some .eq ↔ a = c := by
  have ha := a.toNat_lt
  have hc := c.toNat_lt
  rw [Binary64.thousandths_eq_iff (by omega) (by omega), ← UInt8.toNat_inj]
  omega

/-- Decimals of two octets are told apart by the first octets and by the places. -/
theorem compare_octets (a b c d : UInt8) :
    (Binary64.ofRatio false (a.toNat * 1000 + thousandths b) 1000).compare?
      (Binary64.ofRatio false (c.toNat * 1000 + thousandths d) 1000) = some .eq ↔
        a = c ∧ thousandths b = thousandths d := by
  have ha := a.toNat_lt
  have hc := c.toNat_lt
  have hb := thousandths_lt b
  have hd := thousandths_lt d
  rw [Binary64.thousandths_eq_iff (by omega) (by omega), ← UInt8.toNat_inj]
  omega

/-! ### Comparing first octets -/

/-- Fewer than four octets are no address of either kind. -/
theorem no_address {octets : List UInt8} (hlength : octets.length ≤ 3) :
    ipv4? (String.ofList (dotted octets)) = none ∧ ipv6? (String.ofList (dotted octets)) = none := by
  constructor
  · cases h : ipv4? (String.ofList (dotted octets)) with
    | none => rfl
    | some x =>
      rw [ipv4?, String.toList_ofList, Ipv4.ofText?_eq_some_iff, Ipv4.text_toList] at h
      have hpoints := congrArg (List.count '.') h
      rw [Ipv4.octets, count_dotted _ _ (by decide), if_pos rfl] at hpoints
      cases octets with
      | nil => simp [dotted, join] at hpoints
      | cons octet octets =>
        rw [count_dotted _ _ (by decide), if_pos rfl] at hpoints
        simp at hpoints hlength
        omega
  · cases h : ipv6? (String.ofList (dotted octets)) with
    | none => rfl
    | some x =>
      rw [ipv6?, String.toList_ofList] at h
      rcases mem_dotted (Ipv6.colon_mem_of_ofText? h) with hdigit | hpoint
      · exact absurd hdigit (by decide)
      · exact absurd hpoint (by decide)

/-- **Comparing the texts of first octets** compares their numbers or their texts. -/
theorem evaluate_dotted {e : Expression} {octets others : List UInt8}
    (he : e.comparison = some ⟨.eq, .text (String.ofList (dotted others))⟩)
    (hlength : others.length ≤ 3) :
    ComparatorTable.standard.evaluate e (.string (String.ofList (dotted octets))) = true ↔
      (∃ x y, number? (String.ofList (dotted others)) = some x ∧
        number? (String.ofList (dotted octets)) = some y ∧ y.compare? x = some .eq) ∨
      dotted octets = dotted others := by
  obtain ⟨hipv4, hipv6⟩ := no_address hlength
  have htexts : String.ofList (dotted octets) = String.ofList (dotted others) ↔
      dotted octets = dotted others := by
    rw [← String.toList_inj, String.toList_ofList, String.toList_ofList]
  rw [evaluate_eq_iff he, agrees_number_iff, agrees_ipv4_iff, agrees_ipv6_iff, agrees_string_iff, hipv4,
    hipv6, decodedText_dotted]
  simp [Value.operands, Value.number?, Value.string?, htexts]

/-- **Octets that are equal as numbers or as texts** are taken for the same. -/
theorem samePrefix_iff {octets others : List UInt8} (hlength : octets.length = others.length)
    (hne : others ≠ []) (hle : others.length ≤ 3) :
    (∃ x y, number? (String.ofList (dotted others)) = some x ∧
        number? (String.ofList (dotted octets)) = some y ∧ y.compare? x = some .eq) ∨
      dotted octets = dotted others ↔ SamePrefix octets others := by
  have htexts : dotted octets = dotted others ↔ octets = others :=
    ⟨fun h => dotted_inj h hlength, fun h => congrArg dotted h⟩
  rw [htexts]
  rcases others with _ | ⟨c, _ | ⟨d, _ | ⟨k, _ | ⟨l, others⟩⟩⟩⟩
  · exact absurd rfl hne
  · obtain ⟨a, rfl⟩ := List.length_eq_one_iff.1 hlength
    simp [number?_octet, compare_octet, SamePrefix]
  · obtain ⟨a, octets, rfl⟩ := List.exists_cons_of_length_eq_add_one hlength
    obtain ⟨b, rfl⟩ := List.length_eq_one_iff.1 (Nat.succ.inj hlength)
    simp only [number?_octets, Option.some.injEq, exists_and_left, exists_eq_left', compare_octets,
      SamePrefix]
    constructor
    · rintro (hsame | hsame)
      · exact hsame
      · simp only [List.cons.injEq, and_true] at hsame
        exact ⟨hsame.1, by rw [hsame.2]⟩
    · exact Or.inl
  · obtain ⟨a, octets, rfl⟩ := List.exists_cons_of_length_eq_add_one hlength
    obtain ⟨b, octets, rfl⟩ := List.exists_cons_of_length_eq_add_one (Nat.succ.inj hlength)
    obtain ⟨x, rfl⟩ := List.length_eq_one_iff.1 (Nat.succ.inj (Nat.succ.inj hlength))
    simp [number?_dotted, SamePrefix]
  · simp only [List.length_cons] at hle
    omega

/-! ### Filters -/

/-- **The filter for first octets:** a slice in front of a point, compared with some octets. -/
def prefixFilter (name : String) (octets : List UInt8) : String :=
  name ++ "[:" ++ toString octets.length ++ "] == " ++ ".".intercalate (octets.map (toString ·.toNat))

/-- The expression of this filter. -/
def prefixExpression (name : String) (octets : List UInt8) : Expression where
  field := name
  slice := some [.range none (some (Int64.ofNat octets.length))]
  comparison := some ⟨.eq, .text (String.ofList (dotted octets))⟩

theorem isBare_dotted {octets : List UInt8} (hne : octets ≠ []) : isBare (dotted octets) = true := by
  have hdigits : ∀ k < 10, isBareChar (Nat.digitChar k) = true := by
    decide
  apply isBare_of_all
  · obtain ⟨octet, more, rfl⟩ := List.exists_cons_of_ne_nil hne
    cases more with
    | nil => exact decimalDigits_ne_nil octet.toNat
    | cons next more => simp [dotted_cons]
  · intro c hc
    rcases mem_dotted hc with hdigit | rfl
    · obtain ⟨hlt, hchar⟩ := digitChar_of_isDigit hdigit
      exact hchar ▸ hdigits _ hlt
    · decide

theorem prefixFilter_toList (name : String) {octets : List UInt8} (hne : octets ≠ [])
    (hle : octets.length ≤ 3) :
    (prefixFilter name octets).toList = (prefixExpression name octets).chars := by
  have hslice : ∀ k < 4, Slice.chars [.range none (some (Int64.ofNat k))] =
      '[' :: ':' :: ((toString k).toList ++ [']']) := by
    decide
  have hchars := slicedEquality_chars name [.range none (some (Int64.ofNat octets.length))]
    (isBare_dotted hne)
  rw [hslice octets.length (by omega)] at hchars
  refine Eq.trans ?_ hchars.symm
  simp only [prefixFilter, String.toList_append, toList_intercalate_octets]
  simp

/-- **The filter for first octets parses** to its expression. -/
theorem parse_prefixFilter {name : String} (hname : ({} : Parser).Names name) {octets : List UInt8}
    (hne : octets ≠ []) (hle : octets.length ≤ 3) :
    ({} : Filter).parse (prefixFilter name octets) = .ok [.leaf (prefixExpression name octets)] := by
  have hwritable : Slice.Writable [.range none (some (Int64.ofNat octets.length))] :=
    ⟨by simp, by simp [SliceEntry.Bounded]⟩
  have hparse := parse_slicedEquality hname hwritable (isBare_dotted hne)
  show ({} : Parser).parse _ = _
  rw [← String.ofList_toList (s := prefixFilter name octets), prefixFilter_toList name hne hle]
  exact hparse

/-- **The filter for first octets** matches an address exactly if its first octets are taken for the
same: three octets or one have to be equal, and of two octets the second one may be followed by zeros
on one side. -/
theorem satisfies_octets {name : String} (hname : ({} : Parser).Names name) {record : Record}
    {x : Ipv4} (hvalue : IsAddress x (record.resolve name)) {octets : List UInt8}
    (hne : octets ≠ []) (hle : octets.length ≤ 3) :
    ∃ tree answer, ({} : Filter).parse (prefixFilter name octets) = .ok tree ∧
      ({} : Filter).satisfies tree record = .ok answer ∧
      (answer = true ↔ SamePrefix (x.octets.take octets.length) octets) := by
  have hsliced : ({} : Filter).resolve (prefixExpression name octets) record =
      .ok (.string (String.ofList (dotted (x.octets.take octets.length)))) := by
    have hslice := slice_address hvalue hle
    simp only [Filter.resolve, Filter.sliced, prefixExpression, hslice, mapError_ok, bind,
      Except.bind, pure, Except.pure]
  have hleaf : ({} : Filter).leaf record (prefixExpression name octets) =
      .ok (ComparatorTable.standard.evaluate (prefixExpression name octets)
        (.string (String.ofList (dotted (x.octets.take octets.length))))) := by
    rw [Filter.leaf, hsliced]
    rfl
  refine ⟨_, _, parse_prefixFilter hname hne hle, satisfies_leaf hleaf, ?_⟩
  have hlength : (x.octets.take octets.length).length = octets.length := by
    rw [List.length_take, Ipv4.octets]
    simp
    omega
  rw [evaluate_dotted rfl hle, samePrefix_iff hlength hne hle]

/-- The text of an address, and three octets. -/
theorem satisfies_octets_three :
    let record : Record := .entries [("f", .string "192.168.10.1")]
    ({} : Parser).Names "f" ∧ IsAddress ⟨192, 168, 10, 1⟩ (record.resolve "f") ∧
      ∃ tree, ({} : Filter).parse "f[:3] == 192.168.10" = .ok tree ∧
        ({} : Filter).satisfies tree record = .ok true := by
  intro record
  have hname : ({} : Parser).Names "f" :=
    ⟨by decide, List.all_eq_true.1 (by decide), fun hno => absurd rfl hno⟩
  have hvalue : IsAddress ⟨192, 168, 10, 1⟩ (record.resolve "f") := Or.inr rfl
  obtain ⟨tree, answer, hparse, hanswer, hiff⟩ :=
    @satisfies_octets "f" hname record _ hvalue [192, 168, 10] (by decide) (by decide)
  have hsame : answer = true := hiff.2 rfl
  exact ⟨hname, hvalue, tree, hparse, hsame ▸ hanswer⟩

/-- **Two octets are compared as a number:** `10.10.0.1` matches the first octets `10.1`. -/
theorem satisfies_decimal_octets :
    let x : Ipv4 := ⟨10, 10, 0, 1⟩
    x.octets.take 2 ≠ [10, 1] ∧
      ∃ tree, ({} : Filter).parse (prefixFilter "f" [10, 1]) = .ok tree ∧
        ({} : Filter).satisfies tree (.entries [("f", .ipv4 x)]) = .ok true := by
  intro x
  refine ⟨by decide, ?_⟩
  have hrun : (({} : Filter).parse (prefixFilter "f" [10, 1])).toOption.bind (fun tree =>
      (({} : Filter).satisfies tree (.entries [("f", .ipv4 x)])).toOption) = some true := by
    decide +kernel
  obtain ⟨tree, htree, hmatch⟩ := Option.bind_eq_some_iff.1 hrun
  exact ⟨tree, toOption_eq_some.1 htree, toOption_eq_some.1 hmatch⟩

end DisplayFilter
