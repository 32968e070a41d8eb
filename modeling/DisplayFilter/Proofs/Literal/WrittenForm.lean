import DisplayFilter.Proofs.Address.WrittenForm
import DisplayFilter.Proofs.Number.WrittenForm

/-!
# Written literals

A literal is written with the quotes that it needs, a list between braces.  A list is read in the
first of three ways that covers it, so that its text also has to be wrong in the ways that come
before its own: a list of texts starts with a quote and no address does, and the digits of a number
are not followed by enough points for an address.

* `Literal.Writable` — literals that have a text, `Literal.isFinite` — no infinity in a list;
* **`Literal.read_chars`** — the text of a literal reads as the literal;
* **`Literal.writable_of_read`** — what is read can be written.
-/

namespace DisplayFilter

open Text

/-- A text that fits between quotes of one kind. -/
def Quotable (s : List Char) : Prop :=
  '"' ∉ s ∨ '\'' ∉ s

/-- **A literal that can be written.** -/
def Literal.Writable : Literal → Prop
  | .text s => isBare s.toList = true ∨ Quotable s.toList
  | .strings items => items ≠ [] ∧ ∀ s ∈ items, Quotable s.toList
  | .numbers items => items ≠ [] ∧ ∀ x ∈ items, x.Writable
  | .addresses items => items ≠ [] ∧ ∀ r ∈ items, r.Writable

/-- Whether no number in a list is infinite. -/
def Literal.isFinite : Literal → Bool
  | .numbers items => items.all NumberEntry.isFinite
  | _ => true

/-! ### Quoted texts -/

/-- **A text between quotes** is read up to the quotes. -/
theorem quotation_enclosed {s : List Char} (h : Quotable s) (tail : List Char) :
    quotation (enclosed s ++ tail) = .closed s tail := by
  rw [quotation_eq_closed_iff]
  unfold enclosed
  by_cases hdouble : '"' ∈ s
  · refine ⟨'\'', rfl, h.resolve_left (fun hno => hno hdouble), ?_⟩
    simp [hdouble]
  · refine ⟨'"', rfl, hdouble, ?_⟩
    simp [hdouble]

theorem enclosed_cons (s : List Char) : ∃ q t, enclosed s = q :: t ∧ isQuote q = true := by
  unfold enclosed
  split
  · exact ⟨'\'', _, rfl, rfl⟩
  · exact ⟨'"', _, rfl, rfl⟩

theorem not_blank_of_isQuote {q : Char} (h : isQuote q = true) : isBlank q = false := by
  simp only [isQuote, Bool.or_eq_true, beq_iff_eq] at h
  rcases h with rfl | rfl
  · rfl
  · rfl

theorem quotedItem?_readsAs {s : String} (h : Quotable s.toList) :
    ReadsAs quotedItem? (enclosed s.toList) s := by
  obtain ⟨q, t, hq, hquote⟩ := enclosed_cons s.toList
  refine ⟨by simp [hq], fun tail => ?_, fun tail _ => ?_⟩
  · rw [hq, List.cons_append, stops_cons]
    exact not_blank_of_isQuote hquote
  · exact quotedItem?_eq_some_iff.2 (quotation_enclosed h tail)

/-- **A bare text** is read as a word. -/
theorem Literal.read_bare {s : List Char} (h : isBare s = true) {tail : List Char}
    (htail : Stops isWordChar tail) :
    Literal.read (s ++ tail) = .ok (.text (String.ofList s), tail) := by
  simp only [isBare, Bool.and_eq_true, Bool.not_eq_true', List.all_eq_true, List.isEmpty_eq_false_iff]
    at h
  obtain ⟨⟨hne, hquote⟩, hall⟩ := h
  obtain ⟨c, more, rfl⟩ := List.exists_cons_of_ne_nil hne
  have hc : isQuote c = false := by simpa using hquote
  have hword : isWordChar c = true := hall c List.mem_cons_self
  have habsent : quotation (c :: (more ++ tail)) = .absent := by
    simp only [quotation, hc, Bool.false_eq_true, if_false]
  have hread : Lexeme.word? (c :: (more ++ tail)) = some (c :: more, tail) := by
    rw [← List.cons_append]
    simp only [Lexeme.word?, takeWhile_append_of_stops hall htail,
      dropWhile_append_of_stops hall htail]
    simp [hc]
  rw [List.cons_append]
  unfold Literal.read
  rw [habsent]
  simp only
  split
  · next heq =>
    obtain rfl := (List.cons.inj heq).1
    simp [isWordChar, isBracket] at hword
  · rw [hread]

/-! ### Lists -/

/-- Digits with nothing behind them that goes on with an octet make up one octet at most. -/
theorem OctetSet.read_digits {digits tail : List Char} (hne : digits ≠ [])
    (hall : ∀ c ∈ digits, c.isDigit = true) (htail : EndsItem tail ∨ ∃ t, tail = '.' :: t) :
    (∃ fault, OctetSet.read false (digits ++ tail) = .error fault) ∨
      ∃ set, OctetSet.read false (digits ++ tail) = .ok (set, tail) := by
  have hends : EndsSet false tail := by
    rcases htail with htail | ⟨t, rfl⟩
    · exact htail.endsWritten.endsSet false
    · exact endsSet_point t
  by_cases hlarge : 255 < decimalValue digits
  · refine Or.inl ⟨⟨.octetTooLarge (String.ofList digits), digits ++ tail⟩, ?_⟩
    rw [OctetSet.read, OctetSet.readUpTo, OctetInterval.read_of_digits hne hall,
      readOctet_digits hne hall hends.interval.1, if_pos hlarge]
    rfl
  · have hoctet : readOctet (digits ++ tail) = .ok ((decimalValue digits).toUInt8, tail) := by
      rw [readOctet_digits hne hall hends.interval.1, if_neg hlarge]
    have hread := OctetInterval.read_single hne hall hoctet hends.interval
    exact Or.inr ⟨_, OctetSet.readUpTo_end hread hends.comma⟩

/-- Neither the end of an entry nor two points go on with an address. -/
theorem OctetSet.readNext_none (start : List Char) (last : Bool) {tail : List Char}
    (htail : EndsItem tail ∨ ∃ t, tail = '.' :: '.' :: t) :
    ∃ fault, OctetSet.readNext start last tail = .error fault := by
  rcases htail with ⟨t, rfl | rfl⟩ | ⟨t, rfl⟩
  · exact ⟨_, rfl⟩
  · exact ⟨_, rfl⟩
  · exact ⟨_, rfl⟩

/-- **A number is no address:** it has too few points. -/
theorem addressItem?_plain {x : Binary64} (h : x.Writable) {tail : List Char}
    (htail : EndsItem tail ∨ ∃ t, tail = '.' :: '.' :: t) :
    addressItem? (x.plain.toList ++ tail) = none := by
  have hnone : ∀ s, (∃ fault, Ipv4Range.readOctets s = .error fault) → addressItem? s = none := by
    rintro s ⟨fault, hfault⟩
    simp only [addressItem?, Ipv4Range.read, hfault, bind, Except.bind, Except.toOption]
  apply hnone
  cases x with
  | nan => exact absurd h (by simp [Binary64.Writable])
  | infinite negative => exact absurd h (by simp [Binary64.Writable])
  | finite negative units =>
    obtain ⟨digits, places, hd⟩ := (Binary64.shortest .up units).exists_laidOut
    rw [plain_toList, signed_append, hd.text]
    cases negative with
    | true => exact ⟨_, rfl⟩
    | false =>
      show ∃ fault, Ipv4Range.readOctets
        ((if places = [] then digits else digits ++ '.' :: places) ++ tail) = .error fault
      have hpoint : EndsItem tail ∨ ∃ t, tail = '.' :: t := by
        rcases htail with hitem | ⟨t, ht⟩
        · exact Or.inl hitem
        · exact Or.inr ⟨'.' :: t, ht⟩
      by_cases hplaces : places = []
      · rw [if_pos hplaces]
        rcases OctetSet.read_digits hd.digits_ne hd.digits_all hpoint with ⟨fault, hfault⟩ | ⟨set, hset⟩
        · exact ⟨fault, by simp only [Ipv4Range.readOctets, hfault, bind, Except.bind]⟩
        · obtain ⟨fault, hfault⟩ := OctetSet.readNext_none (digits ++ tail) false htail
          exact ⟨fault, by simp only [Ipv4Range.readOctets, hset, hfault, bind, Except.bind]⟩
      · rw [if_neg hplaces, List.append_assoc, List.cons_append]
        have hplace : EndsItem ('.' :: (places ++ tail)) ∨
            ∃ t, '.' :: (places ++ tail) = '.' :: t := Or.inr ⟨_, rfl⟩
        rcases OctetSet.read_digits hd.digits_ne hd.digits_all hplace with
          ⟨fault, hfault⟩ | ⟨set, hset⟩
        · exact ⟨fault, by simp only [Ipv4Range.readOctets, hfault, bind, Except.bind]⟩
        · rcases OctetSet.read_digits hplaces hd.places_all hpoint with ⟨fault, hfault⟩ | ⟨set', hset'⟩
          · exact ⟨fault, by
              simp only [Ipv4Range.readOctets, OctetSet.readNext, hset, hfault, bind, Except.bind]⟩
          · obtain ⟨fault, hfault⟩ :=
              OctetSet.readNext_none (digits ++ '.' :: (places ++ tail)) false htail
            refine ⟨fault, ?_⟩
            simp only [Ipv4Range.readOctets, hset, bind, Except.bind]
            rw [show OctetSet.readNext (digits ++ '.' :: (places ++ tail)) false
              ('.' :: (places ++ tail)) = _ from hset']
            simp only [hfault]

/-- A text that starts with a quote is no address. -/
theorem addressItem?_quote {q : Char} (h : isQuote q = true) (s : List Char) :
    addressItem? (q :: s) = none := by
  simp only [isQuote, Bool.or_eq_true, beq_iff_eq] at h
  rcases h with rfl | rfl
  · rfl
  · rfl

/-- A number is no text in quotes. -/
theorem quotedItem?_plain {x : Binary64} (h : x.Writable) (tail : List Char) :
    quotedItem? (x.plain.toList ++ tail) = none := by
  obtain ⟨c, s, hs, hc⟩ := plain_cons h
  have hquote : isQuote c = false := by
    rcases hc with rfl | hc
    · rfl
    · exact not_isQuote_of_isDigit hc
  rw [hs, List.cons_append]
  simp only [quotedItem?, quotation, hquote, Bool.false_eq_true, if_false]

/-- A list that reads between braces is a literal. -/
theorem Literal.read_braced {entries : List (List Char)} {literal : Literal} {tail : List Char}
    (h : Literal.readBody? (join [',', ' '] entries ++ '\x7d' :: tail) = some (literal, tail)) :
    Literal.read (braced entries ++ tail) = .ok (literal, tail) := by
  rw [braced_append]
  exact Literal.read_of_readBody? h

theorem readBody?_addresses {items : List Ipv4Range} (hne : items ≠ [])
    (h : ∀ r ∈ items, r.Writable) (tail : List Char) :
    Literal.readBody? (join [',', ' '] (items.map fun r => r.text.toList) ++ '\x7d' :: tail) =
      some (.addresses items, tail) := by
  rw [Literal.readBody?, readListOf?_braced .addresses hne (fun r hr => addressItem?_readsAs (h r hr))]
  rfl

theorem readBody?_strings {items : List String} (hne : items ≠ [])
    (h : ∀ s ∈ items, Quotable s.toList) (tail : List Char) :
    Literal.readBody? (join [',', ' '] (items.map fun s => enclosed s.toList) ++ '\x7d' :: tail) =
      some (.strings items, tail) := by
  obtain ⟨s, more, rfl⟩ := List.exists_cons_of_ne_nil hne
  obtain ⟨u, hu, -⟩ := join_cons_append (enclosed s.toList) (more.map fun s => enclosed s.toList) tail
  obtain ⟨q, t, hq, hquote⟩ := enclosed_cons s.toList
  have haddress : addressItem? (trimStart (join [',', ' ']
      ((s :: more).map fun s => enclosed s.toList) ++ '\x7d' :: tail)) = none := by
    rw [List.map_cons, hu, hq, List.cons_append,
      trimStart_cons_of_not_blank (not_blank_of_isQuote hquote)]
    exact addressItem?_quote hquote _
  rw [Literal.readBody?, readListOf?_none .addresses haddress,
    readListOf?_braced .strings hne (fun s hs => quotedItem?_readsAs (h s hs))]
  rfl

theorem readBody?_numbers {items : List NumberEntry} (hne : items ≠ [])
    (h : ∀ x ∈ items, x.Writable) (tail : List Char) :
    Literal.readBody? (join [',', ' '] (items.map NumberEntry.chars) ++ '\x7d' :: tail) =
      some (.numbers items, tail) := by
  obtain ⟨entry, more, rfl⟩ := List.exists_cons_of_ne_nil hne
  obtain ⟨x, s, hx, hs, hpoints⟩ := NumberEntry.chars_eq (h entry List.mem_cons_self)
  obtain ⟨u, hu, hends⟩ := join_cons_append entry.chars (more.map NumberEntry.chars) tail
  have hfollow : EndsItem (s ++ u) ∨ ∃ t, s ++ u = '.' :: '.' :: t := by
    rcases hpoints with rfl | ⟨t, rfl⟩
    · exact Or.inl hends
    · exact Or.inr ⟨t ++ u, rfl⟩
  have htrim : trimStart (join [',', ' '] ((entry :: more).map NumberEntry.chars) ++
      '\x7d' :: tail) = x.plain.toList ++ (s ++ u) := by
    rw [List.map_cons, hu, hs, List.append_assoc]
    exact trimStart_of_stops (plain_stops_blank hx _)
  rw [Literal.readBody?, readListOf?_none .addresses (htrim ▸ addressItem?_plain hx hfollow),
    readListOf?_none .strings (htrim ▸ quotedItem?_plain hx _),
    readListOf?_braced .numbers hne (fun x hx => numberItem?_readsAs (h x hx))]
  rfl

/-! ### Literals -/

/-- **A literal reads as it was written** in front of anything that does not go on with a word. -/
theorem Literal.read_chars {literal : Literal} (h : literal.Writable) {tail : List Char}
    (htail : Stops isWordChar tail) :
    Literal.read (literal.chars ++ tail) = .ok (literal, tail) := by
  cases literal with
  | text s =>
    simp only [Literal.chars, quoted]
    by_cases hbare : isBare s.toList = true
    · rw [if_pos hbare, Literal.read_bare hbare htail, String.ofList_toList]
    · rw [if_neg hbare]
      unfold Literal.read
      rw [quotation_enclosed (h.resolve_left hbare)]
      simp only [String.ofList_toList]
  | strings items => exact Literal.read_braced (readBody?_strings h.1 h.2 tail)
  | numbers items => exact Literal.read_braced (readBody?_numbers h.1 h.2 tail)
  | addresses items => exact Literal.read_braced (readBody?_addresses h.1 h.2 tail)

theorem quotable_of_quotation {s body rest : List Char} (h : quotation s = .closed body rest) :
    Quotable body := by
  obtain ⟨q, hq, hbody, -⟩ := quotation_eq_closed_iff.1 h
  simp only [isQuote, Bool.or_eq_true, beq_iff_eq] at hq
  rcases hq with rfl | rfl
  · exact Or.inl hbody
  · exact Or.inr hbody

/-- A word is a bare text. -/
theorem isBare_of_word? {s word rest : List Char} (h : Lexeme.word? s = some (word, rest)) :
    isBare word = true := by
  simp only [Lexeme.word?, Option.ite_none_left_eq_some, Option.some.injEq, Prod.mk.injEq,
    Bool.or_eq_true, not_or, Bool.not_eq_true] at h
  obtain ⟨⟨hquote, hne⟩, hword, -⟩ := h
  have hhead : word.head?.any isQuote = false := by
    cases s with
    | nil => simp [← hword]
    | cons c s =>
      rw [← hword, List.takeWhile_cons]
      split
      · simpa using hquote
      · rfl
  have hall : word.all isWordChar = true := by
    rw [← hword, List.all_eq_true]
    exact takeWhile_all
  have hempty : word.isEmpty = false := by
    rw [← hword]
    exact hne
  simp only [isBare, hhead, hempty, hall, Bool.not_false, Bool.and_self]

theorem Literal.writable_of_readBody? {s rest : List Char} {literal : Literal}
    (h : Literal.readBody? s = some (literal, rest)) (hfinite : literal.isFinite = true) :
    literal.Writable := by
  simp only [Literal.readBody?, Option.or_eq_some_iff, readListOf?, Option.map_eq_some_iff,
    Prod.exists, Prod.mk.injEq] at h
  rcases h with ⟨items, u, hu, rfl, -⟩ | ⟨-, ⟨items, u, hu, rfl, -⟩ | ⟨-, items, u, hu, rfl, -⟩⟩
  · exact forall_of_readEntries
      (fun _ _ _ hr => Ipv4Range.writable_of_read (toOption_eq_some.1 hr)) hu
  · exact forall_of_readEntries
      (fun _ _ _ hs => quotable_of_quotation (quotedItem?_eq_some_iff.1 hs)) hu
  · have hitems := forall_of_readEntries (P := fun x => x.isFinite = true → x.Writable)
      (fun _ _ _ hx hx' => writable_of_numberItem? hx hx') hu
    simp only [Literal.isFinite, List.all_eq_true] at hfinite
    exact ⟨hitems.1, fun x hx => hitems.2 x hx (hfinite x hx)⟩

/-- **What is read can be written** unless a number in it is too large to be finite. -/
theorem Literal.writable_of_read {s rest : List Char} {literal : Literal}
    (h : Literal.read s = .ok (literal, rest)) (hfinite : literal.isFinite = true) :
    literal.Writable := by
  rcases Literal.read_eq_ok h with ⟨body, hq, rfl⟩ | ⟨t, -, hbody⟩ | ⟨word, -, -, hw, rfl⟩
  · exact Or.inr (by simpa using quotable_of_quotation hq)
  · exact Literal.writable_of_readBody? hbody hfinite
  · exact Or.inl (by simpa using isBare_of_word? hw)

end DisplayFilter
