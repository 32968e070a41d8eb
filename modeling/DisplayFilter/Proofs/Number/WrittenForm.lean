import DisplayFilter.Proofs.Literal.Entries
import DisplayFilter.Proofs.Number.Rounding

/-!
# Written numbers

A finite number has a text without exponent.  The reader of numbers takes exactly this text, as long
as what follows does not go on with digits, and finds the number in it.

* `Binary64.Writable` — the finite values;
* `Decimal.LaidOut` — the digits in front of and behind the point of a decimal;
* **`number?_positional`** — positional notation reads as the decimal that it lays out;
* **`number?_plain`** — the text of a number reads as the number, **`writable_of_number?`** — what is
  read can be written again;
* **`numberItem?_chars`** — so do entries of a list of numbers.
-/

namespace DisplayFilter

open Text

/-- **A number that can be written:** a finite value with a representable magnitude. -/
def Binary64.Writable : Binary64 → Prop
  | .finite _ units => Representable units
  | _ => False

/-! ### Positional notation -/

/-- What may follow a number: neither a digit, nor a point with a digit behind it. -/
def EndsNumber (tail : List Char) : Prop :=
  Stops Char.isDigit tail ∧ Lexeme.fraction tail = ([], tail)

/-- **Digits in front of what ends a number** are all that is read. -/
theorem number?_digits (negative : Bool) {digits tail : List Char} (hne : digits ≠ [])
    (hall : ∀ c ∈ digits, c.isDigit = true) (htail : EndsNumber tail) :
    Lexeme.number? (signed negative (digits ++ tail)) =
      some (Binary64.ofDecimal negative (decimalValue digits) 0, tail) := by
  rw [Lexeme.number?, splitSign_signed negative hne hall]
  simp only [takeWhile_append_of_stops hall htail.1, dropWhile_append_of_stops hall htail.1,
    List.isEmpty_iff, hne, if_false, htail.2, List.append_nil]
  rfl

/-- **Digits on both sides of a point** are read as one decimal. -/
theorem number?_point (negative : Bool) {digits places tail : List Char} (hne : digits ≠ [])
    (hall : ∀ c ∈ digits, c.isDigit = true) (hplaces : places ≠ [])
    (hallplaces : ∀ c ∈ places, c.isDigit = true) (htail : Stops Char.isDigit tail) :
    Lexeme.number? (signed negative (digits ++ '.' :: (places ++ tail))) =
      some (Binary64.ofDecimal negative (decimalValue (digits ++ places)) (-(places.length : Int)),
        tail) := by
  have hpoint : Stops Char.isDigit ('.' :: (places ++ tail)) := stops_cons.2 (by decide)
  have hfraction : Lexeme.fraction ('.' :: (places ++ tail)) = (places, tail) := by
    simp only [Lexeme.fraction, takeWhile_append_of_stops hallplaces htail,
      dropWhile_append_of_stops hallplaces htail, List.isEmpty_iff, hplaces, if_false]
  rw [Lexeme.number?, splitSign_signed negative hne hall]
  simp only [takeWhile_append_of_stops hall hpoint, dropWhile_append_of_stops hall hpoint,
    List.isEmpty_iff, hne, if_false, hfraction]

theorem isDigit_of_mem_replicate {n : Nat} {c : Char} (h : c ∈ List.replicate n '0') :
    c.isDigit = true := by
  rw [(List.mem_replicate.1 h).2]
  decide

/-- **A layout of a decimal:** digits, a point and places behind it unless there are none. The digits
and places together spell the decimal. -/
structure Decimal.LaidOut (d : Decimal) (digits places : List Char) : Prop where
  digits_ne : digits ≠ []
  digits_all : ∀ c ∈ digits, c.isDigit = true
  places_all : ∀ c ∈ places, c.isDigit = true
  text : d.positional = if places = [] then digits else digits ++ '.' :: places
  value : ∀ negative, Binary64.ofDecimal negative (decimalValue (digits ++ places))
    (-(places.length : Int)) = Binary64.ofDecimal negative d.digits d.exponent

/-- A whole number: the digits that are missing are zeros. -/
theorem Decimal.laidOut_whole {d : Decimal} (h : 0 ≤ d.exponent) :
    d.LaidOut (decimalDigits d.digits ++ List.replicate d.exponent.toNat '0') [] where
  digits_ne := by simp [decimalDigits_ne_nil]
  digits_all := by
    intro c hc
    rcases List.mem_append.1 hc with hc | hc
    · exact isDigit_of_mem_decimalDigits hc
    · exact isDigit_of_mem_replicate hc
  places_all := by simp
  text := by simp only [Decimal.positional, if_pos h, if_true]
  value := by
    intro negative
    rw [List.append_nil, decimalValue_append, decimalValue_decimalDigits, List.length_replicate,
      decimalValue_replicate_zero, Nat.add_zero]
    exact (Binary64.ofDecimal_mul_pow negative d.digits d.exponent.toNat).trans
      (by rw [Int.toNat_of_nonneg h])

/-- The point falls between the digits. -/
theorem Decimal.laidOut_between {d : Decimal} (h : ¬ 0 ≤ d.exponent) (hpoint : 0 < d.pointPlace) :
    d.LaidOut ((decimalDigits d.digits).take d.pointPlace.toNat)
      ((decimalDigits d.digits).drop d.pointPlace.toNat) := by
  have hplace : d.pointPlace = (decimalDigits d.digits).length + d.exponent := rfl
  have htake : ((decimalDigits d.digits).take d.pointPlace.toNat).length =
      d.pointPlace.toNat := by
    rw [List.length_take]
    omega
  have hdrop : ((decimalDigits d.digits).drop d.pointPlace.toNat).length =
      (-d.exponent).toNat := by
    rw [List.length_drop]
    omega
  have hplaces : (decimalDigits d.digits).drop d.pointPlace.toNat ≠ [] :=
    List.ne_nil_of_length_pos (by omega)
  refine ⟨List.ne_nil_of_length_pos (by omega), fun c hc => ?_, fun c hc => ?_, ?_, fun negative => ?_⟩
  · exact isDigit_of_mem_decimalDigits (List.mem_of_mem_take hc)
  · exact isDigit_of_mem_decimalDigits (List.mem_of_mem_drop hc)
  · simp only [Decimal.positional, if_neg h, if_pos hpoint, if_neg hplaces]
  · rw [List.take_append_drop, decimalValue_decimalDigits, hdrop]
    congr
    omega

/-- The point stands in front of all digits, behind a zero. -/
theorem Decimal.laidOut_behind {d : Decimal} (h : ¬ 0 ≤ d.exponent) (hpoint : ¬ 0 < d.pointPlace) :
    d.LaidOut ['0'] (List.replicate (-d.pointPlace).toNat '0' ++ decimalDigits d.digits) := by
  have hplace : d.pointPlace = (decimalDigits d.digits).length + d.exponent := rfl
  have hlength : (List.replicate (-d.pointPlace).toNat '0' ++ decimalDigits d.digits).length =
      (-d.exponent).toNat := by
    rw [List.length_append, List.length_replicate]
    omega
  have hplaces : List.replicate (-d.pointPlace).toNat '0' ++ decimalDigits d.digits ≠ [] := by
    simp [decimalDigits_ne_nil]
  refine ⟨by simp, List.all_eq_true.1 (by decide), fun c hc => ?_, ?_, fun negative => ?_⟩
  · rcases List.mem_append.1 hc with hc | hc
    · exact isDigit_of_mem_replicate hc
    · exact isDigit_of_mem_decimalDigits hc
  · simp only [Decimal.positional, if_neg h, if_neg hpoint, if_neg hplaces, List.cons_append,
      List.nil_append]
  · have hzeros : ['0'] ++ List.replicate (-d.pointPlace).toNat '0' =
        List.replicate ((-d.pointPlace).toNat + 1) '0' := rfl
    rw [hlength, ← List.append_assoc, hzeros, decimalValue_append, decimalValue_decimalDigits,
      decimalValue_replicate_zero, Nat.zero_mul, Nat.zero_add]
    congr
    omega

theorem Decimal.exists_laidOut (d : Decimal) : ∃ digits places, d.LaidOut digits places := by
  by_cases h : 0 ≤ d.exponent
  · exact ⟨_, _, Decimal.laidOut_whole h⟩
  · by_cases hpoint : 0 < d.pointPlace
    · exact ⟨_, _, Decimal.laidOut_between h hpoint⟩
    · exact ⟨_, _, Decimal.laidOut_behind h hpoint⟩

/-- **Positional notation** is read as the decimal that it lays out. -/
theorem number?_positional (d : Decimal) (negative : Bool) {tail : List Char}
    (htail : EndsNumber tail) :
    Lexeme.number? (signed negative (d.positional ++ tail)) =
      some (Binary64.ofDecimal negative d.digits d.exponent, tail) := by
  obtain ⟨digits, places, h⟩ := d.exists_laidOut
  rw [h.text, ← h.value negative]
  by_cases hplaces : places = []
  · rw [if_pos hplaces, number?_digits negative h.digits_ne h.digits_all htail, hplaces]
    simp
  · rw [if_neg hplaces, List.append_assoc, List.cons_append,
      number?_point negative h.digits_ne h.digits_all hplaces h.places_all htail.1]

/-! ### Numbers -/

theorem plain_toList {negative : Bool} {units : Nat} :
    (Binary64.finite negative units).plain.toList =
      signed negative (Binary64.shortest .up units).positional := by
  simp only [Binary64.plain, Binary64.withSign, String.toList_ofList]
  rfl

/-- A number is written with a minus sign or a digit in front. -/
theorem plain_cons {x : Binary64} (h : x.Writable) :
    ∃ c s, x.plain.toList = c :: s ∧ (c = '-' ∨ c.isDigit = true) := by
  cases x with
  | nan => exact absurd h (by simp [Binary64.Writable])
  | infinite negative => exact absurd h (by simp [Binary64.Writable])
  | finite negative units =>
    rw [plain_toList]
    cases negative with
    | true => exact ⟨'-', _, rfl, Or.inl rfl⟩
    | false =>
      obtain ⟨digits, places, hd⟩ := (Binary64.shortest .up units).exists_laidOut
      obtain ⟨c, more, rfl⟩ := List.exists_cons_of_ne_nil hd.digits_ne
      have hc : c.isDigit = true := hd.digits_all c List.mem_cons_self
      rw [hd.text]
      by_cases hplaces : places = []
      · exact ⟨c, more, by simp [signed, hplaces], Or.inr hc⟩
      · exact ⟨c, more ++ '.' :: places, by simp [signed, hplaces], Or.inr hc⟩

theorem plain_stops_blank {x : Binary64} (h : x.Writable) (tail : List Char) :
    Stops isBlank (x.plain.toList ++ tail) := by
  obtain ⟨c, s, hs, hc⟩ := plain_cons h
  rw [hs, List.cons_append, stops_cons]
  rcases hc with rfl | hc
  · decide
  · exact not_blank_of_isDigit hc

theorem signed_append (negative : Bool) (s t : List Char) :
    signed negative s ++ t = signed negative (s ++ t) := by
  cases negative with
  | false => rfl
  | true => rfl

/-- **The text of a number reads as the number.** -/
theorem number?_plain {x : Binary64} (h : x.Writable) {tail : List Char} (htail : EndsNumber tail) :
    Lexeme.number? (x.plain.toList ++ tail) = some (x, tail) := by
  cases x with
  | nan => exact absurd h (by simp [Binary64.Writable])
  | infinite negative => exact absurd h (by simp [Binary64.Writable])
  | finite negative units =>
    have hback : Binary64.ofDecimal false (Binary64.shortest .up units).digits
        (Binary64.shortest .up units).exponent = .finite false units :=
      of_decide_eq_true (Binary64.shortest_readsBack .up h)
    rw [plain_toList, signed_append, number?_positional _ negative htail,
      Binary64.ofDecimal_sign hback negative]

/-- **What is read can be written again** unless it is too large to be finite. -/
theorem writable_of_number? {s rest : List Char} {x : Binary64}
    (h : Lexeme.number? s = some (x, rest)) (hfinite : x.isFinite = true) : x.Writable := by
  simp only [Lexeme.number?, Option.ite_none_left_eq_some, Option.some.injEq, Prod.mk.injEq] at h
  obtain ⟨-, hx, -⟩ := h
  cases x with
  | nan => simp [Binary64.isFinite] at hfinite
  | infinite negative => simp [Binary64.isFinite] at hfinite
  | finite negative units => exact (Binary64.representable_of_ofDecimal hx).2

/-! ### Entries of lists -/

/-- An entry of finite numbers. -/
def NumberEntry.Writable : NumberEntry → Prop
  | .single x => x.Writable
  | .range low high => low.Writable ∧ high.Writable

/-- An entry without an infinity or a value that is no number. -/
def NumberEntry.isFinite : NumberEntry → Bool
  | .single x => x.isFinite
  | .range low high => low.isFinite && high.isFinite

theorem writable_of_numberItem? {s rest : List Char} {entry : NumberEntry}
    (h : numberItem? s = some (entry, rest)) (hfinite : entry.isFinite = true) :
    entry.Writable := by
  obtain ⟨⟨low, u⟩, hu, h⟩ := Option.bind_eq_some_iff.1 h
  simp only at h
  split at h
  · next high v hv =>
    obtain ⟨rfl, -⟩ : .range low high = entry ∧ _ := by simpa using h
    obtain ⟨w, -, hhigh⟩ := Option.bind_eq_some_iff.1 hv
    simp only [NumberEntry.isFinite, Bool.and_eq_true] at hfinite
    exact ⟨writable_of_number? hu hfinite.1, writable_of_number? hhigh hfinite.2⟩
  · obtain ⟨rfl, -⟩ : .single low = entry ∧ _ := by simpa using h
    exact writable_of_number? hu hfinite

theorem EndsItem.endsNumber {tail : List Char} (h : EndsItem tail) : EndsNumber tail := by
  obtain ⟨t, rfl | rfl⟩ := h
  · exact ⟨stops_cons.2 (by decide), rfl⟩
  · exact ⟨stops_cons.2 (by decide), rfl⟩

theorem endsNumber_points (tail : List Char) : EndsNumber ('.' :: '.' :: tail) :=
  ⟨stops_cons.2 (by decide), rfl⟩

/-- **Entries read as they were written.** -/
theorem numberItem?_chars {entry : NumberEntry} (h : entry.Writable) {tail : List Char}
    (htail : EndsItem tail) : numberItem? (entry.chars ++ tail) = some (entry, tail) := by
  cases entry with
  | single x =>
    have hupper : upperEnd? tail = none := by
      obtain ⟨t, rfl | rfl⟩ := htail
      · rfl
      · rfl
    simp only [NumberEntry.chars, numberItem?, number?_plain h htail.endsNumber, hupper, bind,
      Option.bind, pure]
  | range low high =>
    have hupper : upperEnd? ('.' :: '.' :: (high.plain.toList ++ tail)) = some (high, tail) := by
      have hhead : trimStart (high.plain.toList ++ tail) = high.plain.toList ++ tail :=
        trimStart_of_stops (plain_stops_blank h.2 tail)
      simp only [upperEnd?]
      rw [trimStart_cons_of_not_blank (by decide)]
      simp only [dropRangeSign?, bind, Option.bind]
      rw [hhead, number?_plain h.2 htail.endsNumber]
    simp only [NumberEntry.chars, List.append_assoc, List.cons_append, numberItem?,
      number?_plain h.1 (endsNumber_points _), hupper, bind, Option.bind, pure]

/-- An entry is written as a number, with two points behind it in front of an upper end. -/
theorem NumberEntry.chars_eq {entry : NumberEntry} (h : entry.Writable) :
    ∃ (x : Binary64) (s : List Char), x.Writable ∧ entry.chars = x.plain.toList ++ s ∧
      (s = [] ∨ ∃ t, s = '.' :: '.' :: t) := by
  cases entry with
  | single x => exact ⟨x, [], h, by simp [NumberEntry.chars], Or.inl rfl⟩
  | range low high => exact ⟨low, _, h.1, rfl, Or.inr ⟨_, rfl⟩⟩

theorem numberItem?_readsAs {entry : NumberEntry} (h : entry.Writable) :
    ReadsAs numberItem? entry.chars entry := by
  obtain ⟨x, s, hx, hs, -⟩ := NumberEntry.chars_eq h
  refine ⟨?_, fun tail => ?_, fun tail htail => numberItem?_chars h htail⟩
  · obtain ⟨c, t, ht, -⟩ := plain_cons hx
    rw [hs, ht]
    simp
  · rw [hs, List.append_assoc]
    exact plain_stops_blank hx _

end DisplayFilter
