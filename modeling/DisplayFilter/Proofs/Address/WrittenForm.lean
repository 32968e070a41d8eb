import DisplayFilter.Proofs.Address.Mask
import DisplayFilter.Proofs.Literal.Entries
import DisplayFilter.Proofs.Locality
import DisplayFilter.Proofs.Number.Digits

/-!
# Written ranges of addresses

The text of a range uses commas inside of a set of octets and behind a range in a list.  A comma that
separates ranges is followed by a blank, which no interval starts with, so that the reader stops in
front of it.

* `Ipv4Range.Writable` — ranges that admit an octet at each place;
* `EndsSet`, `EndsWritten` — what may follow a set, and a range;
* **`OctetSet.read_chars`** — the text of a set reads as the set;
* **`Ipv4Range.read_text_followed`** — the text of a range reads as the range, up to what follows it;
* **`Ipv4Range.writable_of_read`** — what is read can be written.
-/

namespace DisplayFilter

open Text

/-- A set of octets that can be written: it has intervals, and none of them is empty. -/
def OctetSet.Writable (set : OctetSet) : Prop :=
  set ≠ [] ∧ ∀ x ∈ set, x.low ≤ x.high

/-- **A range that can be written** admits an octet at each place. -/
def Ipv4Range.Writable (r : Ipv4Range) : Prop :=
  ∀ set ∈ r.sets, set.Writable

/-! ### Octets -/

/-- Digits in front of another character are read as an octet if they are below 256. -/
theorem readOctet_digits {digits tail : List Char} (hne : digits ≠ [])
    (hall : ∀ c ∈ digits, c.isDigit = true) (htail : Stops Char.isDigit tail) :
    readOctet (digits ++ tail) =
      if 255 < decimalValue digits then
        .error ⟨.octetTooLarge (String.ofList digits), digits ++ tail⟩
      else .ok ((decimalValue digits).toUInt8, tail) := by
  simp only [readOctet, takeWhile_append_of_stops hall htail, dropWhile_append_of_stops hall htail,
    List.isEmpty_iff, hne, if_false]

/-- **An octet reads as it was written.** -/
theorem readOctet_decimalDigits (octet : UInt8) {tail : List Char}
    (htail : Stops Char.isDigit tail) :
    readOctet (decimalDigits octet.toNat ++ tail) = .ok (octet, tail) := by
  have hlt : octet.toNat < 256 := octet.toNat_lt
  rw [readOctet_digits (decimalDigits_ne_nil _) (decimalDigits_all _) htail,
    decimalValue_decimalDigits, if_neg (by omega)]
  simp

/-! ### Intervals -/

/-- What may follow an interval: neither a digit nor a dash. -/
def EndsInterval (tail : List Char) : Prop :=
  Stops Char.isDigit tail ∧ ∀ t, tail ≠ '-' :: t

/-- What starts with digits is read from an octet on. -/
theorem OctetInterval.read_of_digits {digits : List Char} (hne : digits ≠ [])
    (hall : ∀ c ∈ digits, c.isDigit = true) (rest : List Char) :
    OctetInterval.read (digits ++ rest) =
      (readOctet (digits ++ rest) >>= fun answer => OctetInterval.readFrom answer.1 answer.2) := by
  refine OctetInterval.read_of_ne fun t ht => ?_
  obtain ⟨c, more, rfl⟩ := List.exists_cons_of_ne_nil hne
  obtain rfl : c = '*' := (List.cons.inj ht).1
  exact absurd (hall '*' List.mem_cons_self) (by decide)

/-- An octet that no dash follows is an interval of its own. -/
theorem OctetInterval.read_single {digits tail : List Char} {octet : UInt8} (hne : digits ≠ [])
    (hall : ∀ c ∈ digits, c.isDigit = true)
    (hoctet : readOctet (digits ++ tail) = .ok (octet, tail)) (htail : EndsInterval tail) :
    OctetInterval.read (digits ++ tail) = .ok (.single octet, tail) := by
  rw [OctetInterval.read_of_digits hne hall, hoctet]
  simp only [bind, Except.bind, OctetInterval.readFrom]
  split
  · next t => exact absurd rfl (htail.2 t)
  · rfl

/-- **An interval reads as it was written.** -/
theorem OctetInterval.read_chars {x : OctetInterval} (h : x.low ≤ x.high) {tail : List Char}
    (htail : EndsInterval tail) : OctetInterval.read (x.chars ++ tail) = .ok (x, tail) := by
  have hall := decimalDigits_all x.low.toNat
  obtain ⟨low, high⟩ := x
  simp only at h hall
  by_cases heq : low = high
  · subst heq
    simp only [OctetInterval.chars, if_true]
    exact OctetInterval.read_single (decimalDigits_ne_nil _) hall
      (readOctet_decimalDigits low htail.1) htail
  · simp only [OctetInterval.chars, heq, if_false, List.append_assoc, List.cons_append]
    rw [OctetInterval.read_of_digits (decimalDigits_ne_nil _) hall,
      readOctet_decimalDigits low (stops_cons.2 (by decide))]
    simp only [bind, Except.bind, OctetInterval.readFrom, readOctet_decimalDigits high htail.1, if_pos h]

/-- The text of an interval starts with the digits of its lower end. -/
theorem OctetInterval.chars_eq (x : OctetInterval) :
    ∃ s, x.chars = decimalDigits x.low.toNat ++ s ∧ (s = [] ∨ ∃ t, s = '-' :: t) := by
  unfold OctetInterval.chars
  split
  · exact ⟨[], by simp, Or.inl rfl⟩
  · exact ⟨_, rfl, Or.inr ⟨_, rfl⟩⟩

/-! ### Sets -/

/-- **What may follow a set:** nothing that its last interval goes on with, no comma that the set goes on
behind, and at the last place no point, with which the last interval would be an address of its own. -/
structure EndsSet (last : Bool) (tail : List Char) : Prop where
  interval : EndsInterval tail
  comma : ∀ t, tail = ',' :: t → ((last && startsAddress t) || !startsInterval t) = true
  point : last = true → ∀ t, tail ≠ '.' :: t

/-- A point follows the sets in front of the last one. -/
theorem endsSet_point (t : List Char) : EndsSet false ('.' :: t) where
  interval := ⟨stops_cons.2 (by decide), by simp⟩
  comma := by simp
  point := by simp

/-- **What may follow a range** that was written: nothing, a closing brace, a blank, or a comma with a blank
behind it. -/
def EndsWritten (tail : List Char) : Prop :=
  tail = [] ∨ (∃ c t, tail = c :: t ∧ (c = '\x7d' ∨ isBlank c = true)) ∨
    ∃ c t, tail = ',' :: c :: t ∧ isBlank c = true

theorem EndsItem.endsWritten {tail : List Char} (h : EndsItem tail) : EndsWritten tail := by
  obtain ⟨t, rfl | rfl⟩ := h
  · exact Or.inr (Or.inr ⟨' ', t, rfl, by decide⟩)
  · exact Or.inr (Or.inl ⟨'\x7d', t, rfl, Or.inl rfl⟩)

section EndsWritten

variable {tail : List Char} (h : EndsWritten tail)
include h

theorem EndsWritten.stops {q : Char → Bool} (hblank : ∀ c, isBlank c = true → q c = false)
    (hbrace : q '\x7d' = false) (hcomma : q ',' = false) : Stops q tail := by
  rcases h with rfl | ⟨c, t, rfl, rfl | hc⟩ | ⟨c, t, rfl, -⟩
  · exact stops_nil q
  · exact stops_cons.2 hbrace
  · exact stops_cons.2 (hblank c hc)
  · exact stops_cons.2 hcomma

theorem EndsWritten.ne_cons {d : Char} (hblank : isBlank d = false) (hbrace : d ≠ '\x7d')
    (hcomma : d ≠ ',') (t : List Char) : tail ≠ d :: t := by
  rintro rfl
  have hstops : Stops (· == d) (d :: t) := by
    refine h.stops (fun c hc => ?_) (by simpa using hbrace.symm) (by simpa using hcomma.symm)
    rw [beq_eq_false_iff_ne]
    rintro rfl
    simp [hblank] at hc
  simpa using stops_cons.1 hstops

/-- A comma in front of a blank does not go on with a set, which has no blanks in it. -/
theorem EndsWritten.endsSet (last : Bool) : EndsSet last tail where
  interval := ⟨h.stops (fun _ => isDigit_of_isBlank) rfl rfl,
    h.ne_cons rfl (by decide) (by decide)⟩
  comma := by
    rintro t rfl
    rcases h with h | ⟨c, u, h, hc⟩ | ⟨c, u, h, hc⟩
    · simp at h
    · obtain rfl := (List.cons.inj h).1
      exact absurd hc (by decide)
    · obtain rfl := (List.cons.inj h).2
      have hstar : (c == '*') = false := by
        rw [beq_eq_false_iff_ne]
        rintro rfl
        exact absurd hc (by decide)
      simp [startsInterval, isDigit_of_isBlank hc, hstar]
  point := fun _ => h.ne_cons rfl (by decide) (by decide)

end EndsWritten

/-- An interval that no comma goes on with is the last one of its set. -/
theorem OctetSet.readUpTo_end {last : Bool} {fuel : Nat} {s tail : List Char} {x : OctetInterval}
    (hx : OctetInterval.read s = .ok (x, tail))
    (hcomma : ∀ t, tail = ',' :: t → ((last && startsAddress t) || !startsInterval t) = true) :
    OctetSet.readUpTo last (fuel + 1) s = .ok ([x], tail) := by
  simp only [OctetSet.readUpTo, hx, bind, Except.bind]
  split
  · next t => rw [if_pos (hcomma t rfl)]
  · rfl

/-- The intervals of a set with commas between them start with digits.  A point behind the digits
stands behind the whole set. -/
theorem join_chars_append (x : OctetInterval) (more : List OctetInterval) (tail : List Char) :
    ∃ u, join [','] ((x :: more).map OctetInterval.chars) ++ tail =
      decimalDigits x.low.toNat ++ u ∧
      (u = tail ∨ ∃ t, u = '-' :: t ∨ u = ',' :: t) := by
  obtain ⟨s, hs, hdash⟩ := x.chars_eq
  cases more with
  | nil =>
    refine ⟨s ++ tail, by simp [join, hs], ?_⟩
    rcases hdash with rfl | ⟨t, rfl⟩
    · exact Or.inl rfl
    · exact Or.inr ⟨t ++ tail, Or.inl rfl⟩
  | cons y more =>
    refine ⟨s ++ ',' :: (join [','] ((y :: more).map OctetInterval.chars) ++ tail),
      by simp [join, hs], ?_⟩
    rcases hdash with rfl | ⟨t, rfl⟩
    · exact Or.inr ⟨_, Or.inr rfl⟩
    · exact Or.inr ⟨_, Or.inl rfl⟩

/-- **A comma in front of written intervals** goes on with the set. -/
theorem goes_on (last : Bool) (x : OctetInterval) (more : List OctetInterval) {tail : List Char}
    (htail : EndsSet last tail) :
    ((last && startsAddress (join [','] ((x :: more).map OctetInterval.chars) ++ tail)) ||
      !startsInterval (join [','] ((x :: more).map OctetInterval.chars) ++ tail)) = false := by
  obtain ⟨u, hu, hrest⟩ := join_chars_append x more tail
  have hall := decimalDigits_all x.low.toNat
  obtain ⟨d, ds, hd⟩ := List.exists_cons_of_ne_nil (decimalDigits_ne_nil x.low.toNat)
  have hdigit : d.isDigit = true := hall d (hd ▸ List.mem_cons_self)
  have hstops : Stops Char.isDigit u := by
    rcases hrest with rfl | ⟨t, rfl | rfl⟩
    · exact htail.interval.1
    · exact stops_cons.2 (by decide)
    · exact stops_cons.2 (by decide)
  have hstart : startsInterval (decimalDigits x.low.toNat ++ u) = true := by
    simp [startsInterval, hd, hdigit]
  have haddress : last = true → startsAddress (decimalDigits x.low.toNat ++ u) = false := by
    intro hlast
    have hpoint : (u.head? == some '.') = false := by
      rcases hrest with rfl | ⟨t, rfl | rfl⟩
      · exact head?_beq_of_ne (htail.point hlast)
      · simp
      · simp
    have htrim : trimStart (decimalDigits x.low.toNat ++ u) = decimalDigits x.low.toNat ++ u := by
      rw [hd, List.cons_append]
      exact trimStart_cons_of_not_blank (not_blank_of_isDigit hdigit) _
    simp only [startsAddress, htrim, dropWhile_append_of_stops hall hstops, Bool.and_eq_false_iff]
    exact Or.inr hpoint
  rw [hu, hstart]
  cases last with
  | false => rfl
  | true => rw [haddress rfl]; rfl

theorem readUpTo_join (last : Bool) {set : OctetSet} (h : set.Writable) {tail : List Char}
    (htail : EndsSet last tail) {fuel : Nat} (hfuel : set.length ≤ fuel) :
    OctetSet.readUpTo last fuel (join [','] (set.map OctetInterval.chars) ++ tail) =
      .ok (set, tail) := by
  induction set generalizing fuel with
  | nil => exact absurd rfl h.1
  | cons x more ih =>
    obtain ⟨fuel, rfl⟩ : ∃ k, fuel = k + 1 := ⟨fuel - 1, by simp at hfuel; omega⟩
    have hx : x.low ≤ x.high := h.2 x List.mem_cons_self
    cases more with
    | nil =>
      have hread := OctetInterval.read_chars hx htail.interval
      exact OctetSet.readUpTo_end (by simpa [join] using hread) htail.comma
    | cons y more =>
      have hlength : (y :: more).length ≤ fuel := by
        simp at hfuel ⊢
        omega
      have hmore := ih ⟨by simp, fun z hz => h.2 z (List.mem_cons_of_mem _ hz)⟩ hlength
      have hjoin : join [','] ((x :: y :: more).map OctetInterval.chars) ++ tail =
          x.chars ++ ',' :: (join [','] ((y :: more).map OctetInterval.chars) ++ tail) := by
        simp [join]
      have hends : EndsInterval (',' :: (join [','] ((y :: more).map OctetInterval.chars) ++ tail)) :=
        ⟨stops_cons.2 (by decide), by simp⟩
      have hread := OctetInterval.read_chars hx hends
      rw [hjoin]
      simp only [OctetSet.readUpTo, hread, bind, Except.bind, goes_on last y more htail, hmore, pure,
        Except.pure, Bool.false_eq_true, if_false]

theorem length_le_joined (set : OctetSet) :
    set.length ≤ (join [','] (set.map OctetInterval.chars)).length + 1 := by
  induction set with
  | nil => simp
  | cons x more ih =>
    cases more with
    | nil => simp [join]
    | cons y more => simp [join] at ih ⊢; omega

/-- **A set reads as it was written.** -/
theorem OctetSet.read_chars (last : Bool) {set : OctetSet} (h : set.Writable) {tail : List Char}
    (htail : EndsSet last tail) : OctetSet.read last (set.chars ++ tail) = .ok (set, tail) := by
  unfold OctetSet.read OctetSet.chars
  split
  · next hfull =>
    subst hfull
    exact OctetSet.readUpTo_end rfl htail.comma
  · have hlength := length_le_joined set
    exact readUpTo_join last h htail (by rw [List.length_append]; omega)

/-! ### Ranges -/

/-- **The sets of a range read as they were written.** -/
theorem Ipv4Range.readOctets_written {r : Ipv4Range} (h : r.Writable) {tail : List Char}
    (htail : EndsSet true tail) : Ipv4Range.readOctets (r.text.toList ++ tail) = .ok (r, tail) := by
  obtain ⟨first, second, third, fourth⟩ := r
  simp only [Ipv4Range.Writable, Ipv4Range.sets, List.mem_cons, List.not_mem_nil, or_false,
    forall_eq_or_imp, forall_eq] at h
  obtain ⟨h₁, h₂, h₃, h₄⟩ := h
  have htext : (Ipv4Range.text ⟨first, second, third, fourth⟩).toList ++ tail =
      first.chars ++ '.' :: (second.chars ++ '.' :: (third.chars ++ '.' ::
        (fourth.chars ++ tail))) := by
    simp [Ipv4Range.text, Ipv4Range.sets, join]
  rw [htext]
  simp only [Ipv4Range.readOctets, OctetSet.readNext, bind, Except.bind, pure, Except.pure,
    OctetSet.read_chars false h₁ (endsSet_point _), OctetSet.read_chars false h₂ (endsSet_point _),
    OctetSet.read_chars false h₃ (endsSet_point _), OctetSet.read_chars true h₄ htail]

/-- A range reads as it was written in front of all that ends its last set, but for a slash. -/
theorem Ipv4Range.read_written {r : Ipv4Range} (h : r.Writable) {tail : List Char}
    (htail : EndsSet true tail) (hslash : ∀ t, tail ≠ '/' :: t) :
    Ipv4Range.read (r.text.toList ++ tail) = .ok (r, tail) := by
  rw [Ipv4Range.read, Ipv4Range.readOctets_written h htail]
  simp only [bind, Except.bind]

/-- **Reading what was written.**  A range reads as it was written, up to what follows it: its text need
not be the whole text. -/
theorem Ipv4Range.read_text_followed {r : Ipv4Range} (h : r.Writable) {tail : List Char}
    (htail : EndsWritten tail) : Ipv4Range.read (r.text.toList ++ tail) = .ok (r, tail) :=
  Ipv4Range.read_written h (htail.endsSet true) (htail.ne_cons rfl (by decide) (by decide))

/-- The range `10,20-30.*.0-254,7.1,2,3` in a list, in front of an address. -/
theorem Ipv4Range.read_text_inList :
    let r : Ipv4Range := ⟨[.single 10, ⟨20, 30⟩], [.full], [⟨0, 254⟩, .single 7],
      [.single 1, .single 2, .single 3]⟩
    r.Writable ∧ EndsWritten ", 10.0.0.1\x7d".toList ∧ r.text = "10,20-30.*.0-254,7.1,2,3" ∧
      Ipv4Range.read (r.text.toList ++ ", 10.0.0.1\x7d".toList) =
        .ok (r, ", 10.0.0.1\x7d".toList) := by
  intro r
  have hr : r.Writable := by
    simp [r, Ipv4Range.Writable, Ipv4Range.sets, OctetSet.Writable, OctetInterval.single,
      OctetInterval.full]
  have htail : EndsWritten ", 10.0.0.1\x7d".toList :=
    Or.inr (Or.inr ⟨' ', "10.0.0.1\x7d".toList, rfl, rfl⟩)
  exact ⟨hr, htail, rfl, Ipv4Range.read_text_followed hr htail⟩

/-- The text of a set starts with an asterisk or a digit. -/
theorem OctetSet.chars_cons {set : OctetSet} (h : set.Writable) :
    ∃ c s, set.chars = c :: s ∧ (c = '*' ∨ c.isDigit = true) := by
  unfold OctetSet.chars
  split
  · exact ⟨'*', [], rfl, Or.inl rfl⟩
  · obtain ⟨x, more, rfl⟩ := List.exists_cons_of_ne_nil h.1
    obtain ⟨u, hu, -⟩ := join_chars_append x more []
    obtain ⟨d, ds, hd⟩ := List.exists_cons_of_ne_nil (decimalDigits_ne_nil x.low.toNat)
    have hdigit : d.isDigit = true :=
      isDigit_of_mem_decimalDigits (n := x.low.toNat) (hd ▸ List.mem_cons_self)
    exact ⟨d, ds ++ u, by rw [← List.append_nil (join _ _), hu, hd, List.cons_append], Or.inr hdigit⟩

theorem addressItem?_readsAs {r : Ipv4Range} (h : r.Writable) :
    ReadsAs addressItem? r.text.toList r := by
  obtain ⟨c, s, hs, hc⟩ := OctetSet.chars_cons (h r.first List.mem_cons_self)
  have htext : ∃ u, r.text.toList = c :: u :=
    ⟨s ++ '.' :: (r.second.chars ++ '.' :: (r.third.chars ++ '.' :: r.fourth.chars)), by
      simp [Ipv4Range.text, Ipv4Range.sets, join, hs]⟩
  obtain ⟨u, hu⟩ := htext
  refine ⟨by simp [hu], fun tail => ?_, fun tail htail => ?_⟩
  · rw [hu, List.cons_append, stops_cons]
    rcases hc with rfl | hc
    · decide
    · exact not_blank_of_isDigit hc
  · exact toOption_eq_some.2 (Ipv4Range.read_written h (htail.endsWritten.endsSet true)
      (htail.endsWritten.ne_cons rfl (by decide) (by decide)))

/-! ### What is read can be written -/

theorem OctetInterval.le_of_read {s rest : List Char} {x : OctetInterval}
    (h : OctetInterval.read s = .ok (x, rest)) : x.low ≤ x.high := by
  unfold OctetInterval.read at h
  split at h
  · obtain ⟨rfl, -⟩ : OctetInterval.full = x ∧ _ := by simpa using h
    decide
  · obtain ⟨⟨low, u⟩, -, h⟩ := bind_eq_ok.1 h
    simp only at h
    split at h
    · split at h
      · next high v _ =>
        split at h
        · next hle =>
          obtain ⟨rfl, -⟩ : OctetInterval.mk low high = x ∧ _ := by simpa using h
          exact hle
        · simp at h
      · obtain ⟨rfl, -⟩ : OctetInterval.single low = x ∧ _ := by simpa using h
        exact UInt8.le_refl low
    · obtain ⟨rfl, -⟩ : OctetInterval.single low = x ∧ _ := by simpa using h
      exact UInt8.le_refl low

theorem OctetSet.writable_of_readUpTo {last : Bool} {fuel : Nat} {s rest : List Char}
    {set : OctetSet} (h : OctetSet.readUpTo last fuel s = .ok (set, rest)) : set.Writable := by
  induction fuel generalizing s set with
  | zero => simp [OctetSet.readUpTo] at h
  | succ fuel ih =>
    obtain ⟨⟨x, u⟩, hu, h⟩ := bind_eq_ok.1 h
    have hx := OctetInterval.le_of_read hu
    have hsingle : OctetSet.Writable [x] := ⟨by simp, by simpa using hx⟩
    simp only at h
    split at h
    · split at h
      · obtain ⟨rfl, -⟩ : [x] = set ∧ _ := by simpa using h
        exact hsingle
      · obtain ⟨⟨more, v⟩, hv, h⟩ := bind_eq_ok.1 h
        obtain ⟨rfl, rfl⟩ : x :: more = set ∧ v = rest := by
          simpa [pure, Except.pure] using h
        exact ⟨by simp, by simpa using ⟨hx, (ih hv).2⟩⟩
    · obtain ⟨rfl, -⟩ : [x] = set ∧ _ := by simpa using h
      exact hsingle

theorem OctetSet.writable_of_readNext {start s rest : List Char} {last : Bool} {set : OctetSet}
    (h : OctetSet.readNext start last s = .ok (set, rest)) : set.Writable := by
  unfold OctetSet.readNext at h
  split at h
  · exact OctetSet.writable_of_readUpTo h
  · simp at h

theorem Ipv4Range.writable_of_readOctets {s rest : List Char} {r : Ipv4Range}
    (h : Ipv4Range.readOctets s = .ok (r, rest)) : r.Writable := by
  obtain ⟨⟨first, s₁⟩, h₁, h⟩ := bind_eq_ok.1 h
  obtain ⟨⟨second, s₂⟩, h₂, h⟩ := bind_eq_ok.1 h
  obtain ⟨⟨third, s₃⟩, h₃, h⟩ := bind_eq_ok.1 h
  obtain ⟨⟨fourth, s₄⟩, h₄, h⟩ := bind_eq_ok.1 h
  obtain ⟨rfl, -⟩ : Ipv4Range.mk first second third fourth = r ∧ _ := by
    simpa [pure, Except.pure] using h
  simp only [Ipv4Range.Writable, Ipv4Range.sets, List.mem_cons, List.not_mem_nil, or_false,
    forall_eq_or_imp, forall_eq]
  exact ⟨OctetSet.writable_of_readUpTo h₁, OctetSet.writable_of_readNext h₂,
    OctetSet.writable_of_readNext h₃, OctetSet.writable_of_readNext h₄⟩

theorem Ipv4Range.writable_of_ofPrefixLength? {x : Ipv4} {length : Nat} {r : Ipv4Range}
    (h : Ipv4Range.ofPrefixLength? x length = some r) : r.Writable := by
  have hset : ∀ bits octet, OctetSet.Writable [OctetInterval.sharing bits octet] := fun bits octet =>
    ⟨by simp, by simpa using OctetInterval.sharing_le bits octet⟩
  rw [Ipv4Range.ofPrefixLength?_eq] at h
  split at h
  · simp at h
  · obtain rfl := Option.some.inj h
    simp only [Ipv4Range.Writable, Ipv4Range.sets, List.mem_cons, List.not_mem_nil, or_false,
      forall_eq_or_imp, forall_eq]
    exact ⟨hset _ _, hset _ _, hset _ _, hset _ _⟩

/-- **What is read can be written.** -/
theorem Ipv4Range.writable_of_read {s rest : List Char} {r : Ipv4Range}
    (h : Ipv4Range.read s = .ok (r, rest)) : r.Writable := by
  obtain ⟨⟨r', u⟩, hu, h⟩ := bind_eq_ok.1 h
  simp only at h
  split at h
  · split at h
    · simp at h
    · split at h
      · simp at h
      · split at h
        · simp at h
        · next block hblock =>
          obtain ⟨rfl, -⟩ : block = r ∧ _ := by simpa using h
          unfold Ipv4Range.ofLength? at hblock
          split at hblock
          · simp at hblock
          · exact Ipv4Range.writable_of_ofPrefixLength? hblock
  · obtain ⟨rfl, -⟩ : r' = r ∧ _ := by simpa using h
    exact Ipv4Range.writable_of_readOctets hu

end DisplayFilter
