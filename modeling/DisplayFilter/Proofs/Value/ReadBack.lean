import DisplayFilter.Proofs.Address.Ipv6Text
import DisplayFilter.Proofs.Number.Separation
import DisplayFilter.Proofs.Number.WrittenForm
import DisplayFilter.Proofs.Text.Decoding
import DisplayFilter.Proofs.Value.NumberText

/-!
# Values and their texts

A text is read as a number, as an address of four octets or as an address of eight groups, but never
as two of them.  The text of a number or of an address is read as what it was written for, and the
texts of truth values, moments, lists and maps are read as none of the three.

* `Binary64.InFormat` — the values that the format has, **`number?_display`** — their texts;
* **`number?_integerText`** — the texts of integers;
* **`ipv4?_of_number?`**, **`ipv6?_of_number?`**, **`ipv6?_of_ipv4?`** — one reading at most;
* **`read_text`** — every value but null is read as its text is;
* **`decodedText_of_number?`**, **`decodedText_of_ipv4?`**, **`decodedText_of_ipv6?`** — texts that
  are read stand for themselves.
-/

namespace DisplayFilter

open Text NumberText

/-! ### Texts of numbers -/

/-- **The values that the format has:** a finite one has a representable magnitude. -/
def Binary64.InFormat : Binary64 → Prop
  | .finite _ units => Representable units
  | _ => True

theorem Binary64.ofRatio_units (negative : Bool) {units : Nat} (h : Representable units)
    (hwhole : units % unitsPerOne = 0) :
    ofRatio negative (units / unitsPerOne) 1 = .finite negative units := by
  have hround : roundUnits (units * 1) 1 = units := roundUnits_mul Nat.one_pos h.1
  rw [Nat.mul_one] at hround
  rw [ofRatio, Nat.div_mul_cancel (Nat.dvd_of_mod_eq_zero hwhole), hround, ofUnits, if_pos h.2]

theorem Decimal.point_mem_positional {d : Decimal} (h : ¬ 0 ≤ d.exponent) : '.' ∈ d.positional := by
  simp only [Decimal.positional, if_neg h]
  split
  · simp
  · simp

/-- **Positional notation** is a number, unless its digit is zero and looks like an octal one. -/
theorem number?_of_positional (d : Decimal) (negative : Bool) (hne : d.digits ≠ 0) :
    number? (String.ofList (signed negative d.positional)) =
      some (Binary64.ofDecimal negative d.digits d.exponent) := by
  by_cases hwhole : 0 ≤ d.exponent
  · have h := Decimal.laidOut_whole hwhole
    have hhead : (decimalDigits d.digits ++ List.replicate d.exponent.toNat '0').head? ≠ some '0' := by
      obtain ⟨c, more, hc⟩ := List.exists_cons_of_ne_nil (decimalDigits_ne_nil d.digits)
      have hfirst := decimalDigits_head hne
      rw [hc] at hfirst ⊢
      simpa using hfirst
    have hvalue := h.value negative
    rw [List.append_nil] at hvalue
    rw [h.text, if_pos rfl, number?_whole negative h.digits_ne h.digits_all fun _ => hhead]
    exact congrArg some hvalue
  · obtain ⟨digits, places, h⟩ := d.exists_laidOut
    have hplaces : places ≠ [] := by
      intro hnil
      have hpoint := Decimal.point_mem_positional hwhole
      rw [h.text, if_pos hnil] at hpoint
      exact absurd (h.digits_all _ hpoint) (by decide)
    rw [h.text, if_neg hplaces, NumberText.number?_point negative h.digits_ne h.digits_all
      h.places_all, h.value]

/-- How the texts of numbers that are not finite, of truth values and of zero are read. -/
theorem read_words :
    (∀ x ∈ [Binary64.nan, .infinite false, .infinite true],
      number? x.display = some x ∧ ipv4? x.display = none ∧ ipv6? x.display = none) ∧
    (∀ w ∈ [Value.bool false, .bool true],
      number? w.text = w.number? ∧ ipv4? w.text = w.ipv4? ∧ ipv6? w.text = w.ipv6?) ∧
    number? (integerText 0) = some (Binary64.ofInt 0) := by
  decide +kernel

/-- A whole number within reach, with any number of zeros behind a point. -/
theorem Binary64.ofDecimal_whole (negative : Bool) {n : Nat} (h : n < 10000000000000000000)
    (places : Nat) (hplaces : places ≤ 1) :
    ofDecimal negative (n * Nat.pow 10 places) (-(places : Int)) = ofRatio negative n 1 := by
  have hten : 0 < Nat.pow 10 places := Nat.pow_pos (by decide)
  have hlength : decimalLength (n * Nat.pow 10 places) ≤ 20 := by
    rw [decimalLength_le_iff]
    have hpower : Nat.pow 10 places ≤ 10 := Nat.pow_le_pow_right (n := 10) (by decide) hplaces
    have hbound : Nat.pow 10 20 = 10000000000000000000 * 10 := rfl
    rw [hbound]
    exact Nat.lt_of_le_of_lt (Nat.mul_le_mul_left n hpower) (Nat.mul_lt_mul_of_pos_right h (by decide))
  rw [ofDecimal_eq_ofRatio negative (a := 0) (b := places) (by omega) (by omega) (by omega)]
  have hratio := ofRatio_mul negative n 1 hten
  rw [Nat.one_mul] at hratio
  rw [show Nat.pow 10 0 = 1 from rfl, Nat.mul_one, hratio]

/-- **The text of a number** is read as the number. -/
theorem number?_display {x : Binary64} (h : x.InFormat) : number? x.display = some x := by
  cases x with
  | nan => exact (read_words.1 _ (by simp)).1
  | infinite negative =>
    cases negative with
    | false => exact (read_words.1 _ (by simp)).1
    | true => exact (read_words.1 _ (by simp)).1
  | finite negative units =>
    rw [Binary64.display]
    split
    · next hdisplay =>
      obtain ⟨hwhole, hlt⟩ := hdisplay
      have hvalue : decimalValue (decimalDigits (units / Binary64.unitsPerOne) ++ ['0']) =
          units / Binary64.unitsPerOne * Nat.pow 10 1 := by
        rw [decimalValue_append, decimalValue_decimalDigits]
        rfl
      have hread := NumberText.number?_point negative
        (decimalDigits_ne_nil (units / Binary64.unitsPerOne))
        (decimalDigits_all _) fun _ hc => isDigit_of_mem_replicate (n := 1) hc
      rw [Binary64.displayBound] at hlt
      rw [show List.replicate 1 '0' = ['0'] from rfl, hvalue, List.length_singleton,
        Binary64.ofDecimal_whole negative (by omega) 1 (by omega),
        Binary64.ofRatio_units negative h hwhole] at hread
      exact hread
    · next hdisplay =>
      have hback : Binary64.ofDecimal false (Binary64.shortest .up units).digits
          (Binary64.shortest .up units).exponent = .finite false units :=
        of_decide_eq_true (Binary64.shortest_readsBack .up h)
      have hdigits : (Binary64.shortest .up units).digits ≠ 0 := by
        intro hzero
        obtain rfl : 0 = units := by simpa [Binary64.ofDecimal, hzero] using hback
        exact hdisplay ⟨Nat.zero_mod _, by rw [Nat.zero_div]; decide⟩
      rw [← Binary64.ofDecimal_sign hback negative]
      exact number?_of_positional _ negative hdigits

/-- **The text of an integer** is read as the number nearest to it. -/
theorem number?_integerText (n : Int64) :
    number? (integerText n.toInt) = some (Binary64.ofInt n.toInt) := by
  have hlow := n.le_toInt
  have hhigh := n.toInt_lt
  have htext : integerText n.toInt =
      String.ofList (signed (n.toInt < 0) (decimalDigits n.toInt.natAbs)) := by
    rw [← integerText_toList, String.ofList_toList]
  by_cases hzero : n.toInt = 0
  · rw [hzero]
    exact read_words.2.2
  · have hratio : Binary64.ofDecimal (n.toInt < 0) n.toInt.natAbs 0 = Binary64.ofInt n.toInt := by
      have hwhole := Binary64.ofDecimal_whole (n.toInt < 0) (n := n.toInt.natAbs) (by omega) 0
        (Nat.zero_le 1)
      rwa [show Nat.pow 10 0 = 1 from rfl, Nat.mul_one] at hwhole
    rw [htext, number?_whole _ (decimalDigits_ne_nil _) (decimalDigits_all _) fun _ =>
      decimalDigits_head (by omega), decimalValue_decimalDigits, hratio]

/-! ### One reading at most -/

/-- Three octets or more with points between them are no number. -/
theorem number?_dotted (a b c : UInt8) (octets : List UInt8) :
    number? (String.ofList (dotted (a :: b :: c :: octets))) = none := by
  rw [dotted_cons, dotted_cons]
  refine number?_points false (decimalDigits_ne_nil a.toNat) (decimalDigits_all _)
    (decimalDigits_all _) fun d hd => ?_
  rcases mem_dotted hd with hdigit | rfl
  · exact not_blank_of_isDigit hdigit
  · decide

/-- The text of an address of four octets. -/
theorem eq_dotted_of_ipv4? {s : String} {x : Ipv4} (h : ipv4? s = some x) :
    s = String.ofList (dotted x.octets) := by
  rw [← Ipv4.text_toList, ← Ipv4.ofText?_eq_some_iff.1 h, String.ofList_toList]

theorem ipv4?_text (x : Ipv4) : ipv4? x.text = some x :=
  Ipv4.ofText?_eq_some_iff.2 rfl

/-- **A number is no address** of four octets: that has three points. -/
theorem ipv4?_of_number? {s : String} {x : Binary64} (h : number? s = some x) : ipv4? s = none := by
  cases haddress : ipv4? s with
  | none => rfl
  | some y =>
    rw [eq_dotted_of_ipv4? haddress, Ipv4.octets, number?_dotted] at h
    simp at h

/-- **A number is no address** of eight groups: that has a colon. -/
theorem ipv6?_of_number? {s : String} {x : Binary64} (h : number? s = some x) : ipv6? s = none := by
  cases haddress : ipv6? s with
  | none => rfl
  | some y =>
    have hcolon := isNumberChar_of_number? h ':' (Ipv6.colon_mem_of_ofText? haddress)
    exact absurd hcolon (by decide)

/-- **An address of four octets** is none of eight groups. -/
theorem ipv6?_of_ipv4? {s : String} {x : Ipv4} (h : ipv4? s = some x) : ipv6? s = none := by
  cases haddress : ipv6? s with
  | none => rfl
  | some y =>
    have hcolon := Ipv6.colon_mem_of_ofText? haddress
    rw [eq_dotted_of_ipv4? h, String.toList_ofList] at hcolon
    rcases mem_dotted hcolon with hdigit | hpoint
    · exact absurd hdigit (by decide)
    · exact absurd hpoint (by decide)

/-- What excludes another reading is excluded by it. -/
theorem none_of_excluded {α β : Type} {a : Option α} {b : Option β}
    (h : ∀ x, a = some x → b = none) {y : β} (hb : b = some y) : a = none := by
  cases a with
  | none => rfl
  | some x =>
    rw [h x rfl] at hb
    simp at hb

/-- Digits with a sign are no address: that has a point or a colon. -/
theorem no_address_digits (negative : Bool) {digits : List Char}
    (hall : ∀ c ∈ digits, c.isDigit = true) :
    ipv4? (String.ofList (signed negative digits)) = none ∧
      ipv6? (String.ofList (signed negative digits)) = none := by
  have hchars : ∀ c, c ∈ (String.ofList (signed negative digits)).toList →
      c = '-' ∨ c.isDigit = true := by
    intro c hc
    rw [String.toList_ofList] at hc
    cases negative with
    | false => exact Or.inr (hall c hc)
    | true => exact (List.mem_cons.1 hc).imp_right (hall c)
  constructor
  · cases h : ipv4? (String.ofList (signed negative digits)) with
    | none => rfl
    | some x =>
      have hpoint : '.' ∈ dotted x.octets := by simp [Ipv4.octets, dotted_cons]
      rw [eq_dotted_of_ipv4? h, String.toList_ofList] at hchars
      exact absurd (hchars '.' hpoint) (by decide)
  · cases h : ipv6? (String.ofList (signed negative digits)) with
    | none => rfl
    | some x => exact absurd (hchars ':' (Ipv6.colon_mem_of_ofText? h)) (by decide)

/-- **The text of a number is no address,** whatever magnitude it has. -/
theorem no_address_display (x : Binary64) : ipv4? x.display = none ∧ ipv6? x.display = none := by
  have hnumber : ∀ {s : String} {y : Binary64}, number? s = some y →
      ipv4? s = none ∧ ipv6? s = none := fun h => ⟨ipv4?_of_number? h, ipv6?_of_number? h⟩
  cases x with
  | nan => exact (read_words.1 _ (by simp)).2
  | infinite negative =>
    cases negative with
    | false => exact (read_words.1 _ (by simp)).2
    | true => exact (read_words.1 _ (by simp)).2
  | finite negative units =>
    rw [Binary64.display]
    split
    · exact hnumber (NumberText.number?_point negative (decimalDigits_ne_nil _)
        (decimalDigits_all _) fun _ hc => isDigit_of_mem_replicate (n := 1) hc)
    · obtain ⟨digits, places, h⟩ := (Binary64.shortest .up units).exists_laidOut
      show ipv4? (String.ofList (signed negative _)) = none ∧
        ipv6? (String.ofList (signed negative _)) = none
      rw [h.text]
      split
      · exact no_address_digits negative h.digits_all
      · exact hnumber (NumberText.number?_point negative h.digits_ne h.digits_all h.places_all)

/-! ### Texts of values -/

theorem number?_of_mem {s : String} {c : Char} (hmem : c ∈ s.toList) (hc : isNumberChar c = false) :
    number? s = none := by
  cases h : number? s with
  | none => rfl
  | some x =>
    rw [isNumberChar_of_number? h c hmem] at hc
    simp at hc

theorem no_address_of_mem {s : String} {c : Char} (hmem : c ∈ s.toList)
    (hc : Ipv6.isAddressChar c = false) : ipv4? s = none ∧ ipv6? s = none := by
  constructor
  · cases h : ipv4? s with
    | none => rfl
    | some x =>
      rw [eq_dotted_of_ipv4? h, String.toList_ofList] at hmem
      rw [Ipv6.isAddressChar_of_mem_dotted hmem] at hc
      simp at hc
  · cases h : ipv6? s with
    | none => rfl
    | some x =>
      rw [Ipv6.isAddressChar_of_ofText? h c hmem] at hc
      simp at hc

/-- **Every value but null is read as its text is.** -/
theorem read_text {w : Value} (hfloat : ∀ x, w = .float x → x.InFormat) {s : String}
    (h : w.string? = some s) :
    number? s = w.number? ∧ ipv4? s = w.ipv4? ∧ ipv6? s = w.ipv6? := by
  cases w with
  | null => simp [Value.string?] at h
  | string t =>
    obtain rfl : t = s := Option.some.inj h
    exact ⟨rfl, rfl, rfl⟩
  | bool b =>
    obtain rfl := Option.some.inj h
    cases b with
    | false => exact read_words.2.1 _ (by simp)
    | true => exact read_words.2.1 _ (by simp)
  | integer n =>
    obtain rfl : integerText n.toInt = s := by simpa [Value.string?, Value.text, Value.chars] using h
    have hread := number?_integerText n
    exact ⟨hread, ipv4?_of_number? hread, ipv6?_of_number? hread⟩
  | float x =>
    obtain rfl : x.display = s := by simpa [Value.string?, Value.text, Value.chars] using h
    have hread := number?_display (hfloat x rfl)
    exact ⟨hread, ipv4?_of_number? hread, ipv6?_of_number? hread⟩
  | ipv4 x =>
    obtain rfl : x.text = s := by simpa [Value.string?, Value.text, Value.chars] using h
    have hread := ipv4?_text x
    exact ⟨none_of_excluded (fun _ => ipv4?_of_number?) hread, hread, ipv6?_of_ipv4? hread⟩
  | ipv6 x =>
    obtain rfl : x.text = s := by simpa [Value.string?, Value.text, Value.chars] using h
    have hread : ipv6? x.text = some x := Ipv6.ofText?_text x
    exact ⟨none_of_excluded (fun _ => ipv6?_of_number?) hread,
      none_of_excluded (fun _ => ipv6?_of_ipv4?) hread, hread⟩
  | date x =>
    obtain rfl : x.text = s := by simpa [Value.string?, Value.text, Value.chars] using h
    have hcolon : ':' ∈ x.text.toList := by simp [Moment.text, Moment.write]
    have hblank : ' ' ∈ x.text.toList := by simp [Moment.text, Moment.write]
    exact ⟨number?_of_mem hcolon (by decide), no_address_of_mem hblank (by decide)⟩
  | list items =>
    obtain rfl := Option.some.inj h
    have hbracket : '[' ∈ (Value.text (.list items)).toList := by simp [Value.text, Value.chars]
    exact ⟨number?_of_mem hbracket (by decide), no_address_of_mem hbracket (by decide)⟩
  | map entries =>
    obtain rfl := Option.some.inj h
    have hbrace : '\x7b' ∈ (Value.text (.map entries)).toList := by simp [Value.text, Value.chars]
    exact ⟨number?_of_mem hbrace (by decide), no_address_of_mem hbrace (by decide)⟩

/-! ### Texts that stand for themselves -/

theorem isUnescaped_of_isNumberChar {c : Char} (h : isNumberChar c = true) :
    isUnescaped c = true := by
  have hbackslash : c ≠ '\\' := by
    rintro rfl
    exact absurd h (by decide)
  simp only [isNumberChar, isBlank, Bool.or_eq_true, Bool.and_eq_true, decide_eq_true_eq,
    beq_iff_eq] at h
  simp only [isUnescaped, bne_iff_ne, ne_eq, hbackslash, not_false_eq_true, Bool.and_eq_true,
    Bool.or_eq_true, decide_eq_true_eq, true_and]
  omega

theorem isUnescaped_of_isAddressChar {c : Char} (h : Ipv6.isAddressChar c = true) :
    isUnescaped c = true := by
  simp only [Ipv6.isAddressChar, Bool.or_eq_true, beq_iff_eq] at h
  rcases h with (hdigit | rfl) | rfl
  · obtain ⟨d, hd⟩ := Option.isSome_iff_exists.1 hdigit
    exact isUnescaped_of_isNumberChar (isNumberChar_of_digitValue? hd)
  · decide
  · decide

/-- **The text of a number** stands for itself in a filter. -/
theorem decodedText_of_number? {s : String} {x : Binary64} (h : number? s = some x) :
    decodedText s = s :=
  decodedText_of_unescaped fun c hc => isUnescaped_of_isNumberChar (isNumberChar_of_number? h c hc)

theorem decodedText_dotted (octets : List UInt8) :
    decodedText (String.ofList (dotted octets)) = String.ofList (dotted octets) := by
  refine decodedText_of_unescaped fun c hc => ?_
  rw [String.toList_ofList] at hc
  exact isUnescaped_of_isAddressChar (Ipv6.isAddressChar_of_mem_dotted hc)

/-- **So does the text of an address.** -/
theorem decodedText_of_ipv4? {s : String} {x : Ipv4} (h : ipv4? s = some x) :
    decodedText s = s := by
  rw [eq_dotted_of_ipv4? h]
  exact decodedText_dotted x.octets

theorem decodedText_of_ipv6? {s : String} {x : Ipv6} (h : ipv6? s = some x) :
    decodedText s = s :=
  decodedText_of_unescaped fun c hc =>
    isUnescaped_of_isAddressChar (Ipv6.isAddressChar_of_ofText? h c hc)

end DisplayFilter
