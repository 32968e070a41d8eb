import Mathlib.Data.List.Chain
import DisplayFilter.Proofs.Address.Specifiers
import DisplayFilter.Proofs.Literal.NumberAddresses

/-!
# Lists of ranges

A list of ranges is written between braces, each range without commas of its own and with any blanks
around it.  A comma without blanks behind octets goes on with them, unless a single octet and a point
follow it: the octets of the next range are then taken for ones of the last place, and no list can be
read any more.

* `RangeEntry` — what stands between commas, `rangeList` — the list;
* `RangeEntry.Separate` — whether the comma between two ranges separates them;
* **`readEntries_rangeList`** — how the reader of addresses fares;
* **`numberItem?_intervals`** — no range is read as a number;
* **`Literal.read_rangeList`** — a list reads as its ranges exactly if each comma separates.
-/

namespace DisplayFilter

open Text

/-! ### Written lists -/

/-- **A range as it is written:** a text without commas that is read to its end. -/
structure WrittenRange where
  chars : List Char
  range : Ipv4Range
  read : Ipv4Range.read chars = .ok (range, [])
  no_comma : ',' ∉ chars

/-- A written range with blanks around it. -/
structure RangeEntry where
  before : Blanks
  written : WrittenRange
  after : Blanks

namespace RangeEntry

def chars (x : RangeEntry) : List Char :=
  x.before.chars ++ (x.written.chars ++ x.after.chars)

def range (x : RangeEntry) : Ipv4Range :=
  x.written.range

/-- **Whether a comma between two ranges separates them:** there are blanks at it, the first range has
a prefix length, or the second one starts with a single octet. -/
def Separate (x y : RangeEntry) : Prop :=
  x.after.chars ≠ [] ∨ y.before.chars ≠ [] ∨ '/' ∈ x.written.chars ∨
    startsAddress y.written.chars = true

end RangeEntry

/-- The list behind its opening brace. -/
def rangeListBody (entries : List RangeEntry) (tail : List Char) : List Char :=
  join [','] (entries.map RangeEntry.chars) ++ '\x7d' :: tail

/-- **A written list of ranges.** -/
def rangeList (entries : List RangeEntry) : List Char :=
  '\x7b' :: rangeListBody entries []

theorem rangeList_append (entries : List RangeEntry) (tail : List Char) :
    rangeList entries ++ tail = '\x7b' :: rangeListBody entries tail := by
  simp [rangeList, rangeListBody]

theorem rangeListBody_single (x : RangeEntry) (tail : List Char) :
    rangeListBody [x] tail =
      x.before.chars ++ (x.written.chars ++ (x.after.chars ++ '\x7d' :: tail)) := by
  simp [rangeListBody, RangeEntry.chars, join]

theorem rangeListBody_cons (x y : RangeEntry) (more : List RangeEntry) (tail : List Char) :
    rangeListBody (x :: y :: more) tail =
      x.before.chars ++ (x.written.chars ++
        (x.after.chars ++ ',' :: rangeListBody (y :: more) tail)) := by
  simp [rangeListBody, RangeEntry.chars, join]

/-- A list starts with its first range, blanks, and a comma or the closing brace. -/
theorem rangeListBody_eq (x : RangeEntry) (more : List RangeEntry) (tail : List Char) :
    ∃ c t, rangeListBody (x :: more) tail =
      x.before.chars ++ (x.written.chars ++ (x.after.chars ++ c :: t)) ∧
        (c = ',' ∨ c = '\x7d') := by
  cases more with
  | nil => exact ⟨_, _, rangeListBody_single x tail, Or.inr rfl⟩
  | cons y more => exact ⟨_, _, rangeListBody_cons x y more tail, Or.inl rfl⟩

/-! ### Reading ranges -/

theorem WrittenRange.spells (x : WrittenRange) : SpellsRange x.chars x.range :=
  Ipv4Range.read_eq_ok_iff_spells.1 ⟨x.read, x.no_comma⟩

theorem WrittenRange.exists_cons (x : WrittenRange) :
    ∃ c t, x.chars = c :: t ∧ (c = '*' ∨ c.isDigit = true) := by
  obtain ⟨a, w, u, ha, htext⟩ := x.spells.start
  obtain ⟨c, t, rfl, hc⟩ := ha.exists_cons
  exact ⟨c, t ++ '.' :: u, htext, hc⟩

theorem trimStart_range (w : Blanks) (x : WrittenRange) (rest : List Char) :
    trimStart (w.chars ++ (x.chars ++ rest)) = x.chars ++ rest := by
  obtain ⟨c, t, ht, hc⟩ := x.exists_cons
  rw [trimStart_blanks, ht, List.cons_append]
  rcases hc with rfl | hc
  · exact trimStart_cons_of_not_blank rfl _
  · exact trimStart_cons_of_not_blank (not_blank_of_isDigit hc) _

/-- Blanks end a range, and what is behind them does not count. -/
theorem EndsRange.of_blanks {s t : List Char} {w : Blanks} {c : Char}
    (h : w.chars = [] → EndsRange s (c :: t)) : EndsRange s (w.chars ++ c :: t) := by
  intro d u hu
  obtain ⟨d', u', hu', hd | ⟨hnil, rfl, rfl⟩⟩ := blanks_append_cases w c t
  · obtain rfl : d' = d := (List.cons.inj (hu'.symm.trans hu)).1
    exact Or.inl hd
  · exact h hnil d u (hu'.symm.trans hu)

theorem endsRange_brace (s tail : List Char) : EndsRange s ('\x7d' :: tail) := by
  rintro c t h
  exact Or.inr (Or.inl (List.cons.inj h).1.symm)

/-- **A comma that separates** ends a range. -/
theorem RangeEntry.Separate.endsRange {x y : RangeEntry} (h : x.Separate y)
    (more : List RangeEntry) (tail : List Char) :
    EndsRange x.written.chars (x.after.chars ++ ',' :: rangeListBody (y :: more) tail) := by
  refine .of_blanks fun hafter c t ht => ?_
  obtain ⟨rfl, rfl⟩ := List.cons.inj ht
  refine Or.inr (Or.inr ⟨rfl, ?_⟩)
  obtain ⟨d, u, htext, -⟩ := rangeListBody_eq y more tail
  rw [htext]
  rcases h with h | h | h | h
  · exact absurd hafter h
  · obtain ⟨b, w, hw⟩ := List.exists_cons_of_ne_nil h
    rw [startsInterval_blanks hw]
    simp
  · exact Or.inl h
  · cases hbefore : y.before.chars with
    | cons b w =>
      rw [← hbefore, startsInterval_blanks hbefore]
      simp
    | nil =>
      rw [List.nil_append, y.written.spells.startsAddress_append, h]
      simp

theorem addressItem?_range {x : WrittenRange} {rest : List Char} (h : EndsRange x.chars rest) :
    addressItem? (x.chars ++ rest) = some (x.range, rest) :=
  toOption_eq_some.2 (x.spells.read h)

/-- **A comma that does not separate** ends every list of ranges. -/
theorem rangesRest?_of_not_separate {x y : RangeEntry} (h : ¬x.Separate y) (more : List RangeEntry)
    (tail : List Char) : rangesRest? (rangeListBody (x :: y :: more) tail) = none := by
  simp only [RangeEntry.Separate, not_or, not_not, Bool.not_eq_true] at h
  obtain ⟨hafter, hbefore, hslash, haddress⟩ := h
  obtain ⟨c, t, htext, -⟩ := rangeListBody_eq y more tail
  refine rangesRest?_of_leaves ?_
  rw [rangeListBody_cons, trimStart_range, hafter, htext, hbefore]
  exact (x.written.spells.octets_of_not_mem hslash).leaves_comma y.written.spells haddress _

/-- Whatever fuel suffices, a list that leaves nothing is not read. -/
theorem readEntries_of_rangesRest? {s : List Char} (h : rangesRest? s = none) {fuel : Nat}
    (hfuel : s.length < fuel) : readEntries addressItem? fuel s = none := by
  have hread : readEntries addressItem? (s.length + 1) s = none := Option.map_eq_none_iff.1 h
  rw [← hread]
  exact (alike_eq.readEntries addressItem?_takesSome (fun h => alike_eq.addressItem? h) hfuel
    (Nat.lt_succ_self _) rfl).eq

/-- **How the reader of addresses fares:** it reads the ranges in order if each comma separates two of
them, and no list if one does not. -/
theorem readEntries_rangeList (x : RangeEntry) (more : List RangeEntry) (tail : List Char)
    {fuel : Nat} (hfuel : (rangeListBody (x :: more) tail).length < fuel) :
    ((x :: more).IsChain RangeEntry.Separate →
      readEntries addressItem? fuel (rangeListBody (x :: more) tail) =
        some ((x :: more).map RangeEntry.range, tail)) ∧
    (¬(x :: more).IsChain RangeEntry.Separate →
      readEntries addressItem? fuel (rangeListBody (x :: more) tail) = none) := by
  induction more generalizing x fuel with
  | nil =>
    refine ⟨fun _ => ?_, fun h => absurd (.singleton x) h⟩
    obtain ⟨fuel, rfl⟩ := Nat.exists_eq_add_of_le' (show 1 ≤ fuel by omega)
    have hends : EndsRange x.written.chars (x.after.chars ++ '\x7d' :: tail) :=
      .of_blanks fun _ => endsRange_brace _ tail
    rw [rangeListBody_single, readEntries, trimStart_range, addressItem?_range hends]
    simp only [bind, Option.bind_some, trimStart_blanks, trimStart_cons_of_not_blank (c := '\x7d') rfl]
    rfl
  | cons y more ih =>
    by_cases hseparate : x.Separate y
    · obtain ⟨fuel, rfl⟩ := Nat.exists_eq_add_of_le' (show 1 ≤ fuel by omega)
      have hlength : (rangeListBody (y :: more) tail).length < fuel := by
        rw [rangeListBody_cons] at hfuel
        simp only [List.length_append, List.length_cons] at hfuel
        omega
      obtain ⟨hchain, hbroken⟩ := ih y hlength
      have hstep : readEntries addressItem? (fuel + 1) (rangeListBody (x :: y :: more) tail) =
          (readEntries addressItem? fuel (rangeListBody (y :: more) tail)).map fun answer =>
            (x.range :: answer.1, answer.2) := by
        rw [rangeListBody_cons, readEntries, trimStart_range,
          addressItem?_range (hseparate.endsRange more tail)]
        simp only [bind, Option.bind_some, trimStart_blanks, trimStart_cons_of_not_blank (c := ',') rfl]
        cases readEntries addressItem? fuel (rangeListBody (y :: more) tail) with
        | none => rfl
        | some answer => rfl
      rw [List.isChain_cons_cons, hstep]
      refine ⟨fun h => ?_, fun h => ?_⟩
      · rw [hchain h.2]
        rfl
      · rw [hbroken fun hmore => h ⟨hseparate, hmore⟩]
        rfl
    · refine ⟨fun h => absurd (List.isChain_cons_cons.1 h).1 hseparate, fun _ => ?_⟩
      exact readEntries_of_rangesRest? (rangesRest?_of_not_separate hseparate more tail) hfuel

/-! ### Ranges are neither texts nor numbers -/

theorem quotation_range (x : WrittenRange) (rest : List Char) :
    quotation (x.chars ++ rest) = .absent := by
  obtain ⟨c, t, ht, hc⟩ := x.exists_cons
  have hquote : isQuote c = false := by
    rcases hc with rfl | hc
    · rfl
    · exact not_isQuote_of_isDigit hc
  rw [ht, List.cons_append, quotation, hquote]
  rfl

theorem quotedItem?_range (x : WrittenRange) (rest : List Char) :
    quotedItem? (x.chars ++ rest) = none := by
  rw [quotedItem?, quotation_range]

/-- Whether a point or a dash comes next. -/
def AtSign (s : List Char) : Prop :=
  ∃ t, s = '.' :: t ∨ s = '-' :: t

theorem atSign_point (t : List Char) : AtSign ('.' :: t) :=
  ⟨t, Or.inl rfl⟩

theorem atSign_dash (t : List Char) : AtSign ('-' :: t) :=
  ⟨t, Or.inr rfl⟩

section Numbers

variable {a b v : List Char} {w x : OctetInterval}

/-- No interval starts with a point. -/
theorem SpellsInterval.ne_point (h : SpellsInterval a w) (rest t : List Char) :
    a ++ rest ≠ '.' :: t := by
  obtain ⟨c, u, rfl, hc⟩ := h.exists_cons
  intro heq
  obtain rfl : c = '.' := (List.cons.inj heq).1
  rcases hc with hc | hc
  · simp at hc
  · simp at hc

/-- **A number takes one octet or two with a point between them.**  Behind it stands a single point,
or a dash and an octet. -/
theorem number?_interval (digits : Digits) (ha : SpellsInterval a w) (hv : ∀ t, v ≠ '.' :: t) :
    ∃ n rest, Lexeme.number? (digits.chars ++ '.' :: (a ++ '.' :: v)) = some (n, rest) ∧
      ((∃ t, rest = '.' :: t ∧ ∀ u, t ≠ '.' :: u) ∨
        ∃ high : Digits, rest = '-' :: (high.chars ++ '.' :: v)) := by
  have hpoints : ∀ (octet : Digits) {rest}, Stops Char.isDigit rest →
      ∃ n, Lexeme.number? (digits.chars ++ '.' :: (octet.chars ++ rest)) = some (n, rest) :=
    fun octet _ hrest => ⟨_, number?_point false digits.ne_nil digits.all_digits octet.ne_nil
      octet.all_digits hrest⟩
  cases ha with
  | full =>
    have hends : EndsNumber ('.' :: '*' :: '.' :: v) := ⟨stops_cons.2 (by decide), rfl⟩
    exact ⟨_, _, number?_digits false digits.ne_nil digits.all_digits hends,
      Or.inl ⟨_, rfl, by simp⟩⟩
  | single octet h =>
    obtain ⟨n, hn⟩ := hpoints octet (stops_cons.2 (by decide) : Stops Char.isDigit ('.' :: v))
    exact ⟨n, _, hn, Or.inl ⟨v, rfl, hv⟩⟩
  | range low high hle h =>
    obtain ⟨n, hn⟩ := hpoints low
      (stops_cons.2 (by decide) : Stops Char.isDigit ('-' :: (high.chars ++ '.' :: v)))
    rw [List.append_assoc, List.cons_append]
    exact ⟨n, _, hn, Or.inr ⟨high, rfl⟩⟩

/-- A single point is no sign of an interval of numbers. -/
theorem upperEnd?_point {t : List Char} (h : ∀ u, t ≠ '.' :: u) : upperEnd? ('.' :: t) = none := by
  have hsign : dropRangeSign? ('.' :: t) = none := by
    unfold dropRangeSign?
    split
    · next u heq => exact absurd (List.cons.inj heq).2 (h u)
    · next u heq => exact absurd (List.cons.inj heq).1 (by decide)
    · rfl
  rw [upperEnd?, trimStart_cons_of_not_blank rfl, hsign]
  rfl

/-- The upper end of an interval of numbers behind a dash. -/
theorem upperEnd?_dash (high : Digits) (rest : List Char) :
    upperEnd? ('-' :: (high.chars ++ rest)) = Lexeme.number? (high.chars ++ rest) := by
  rw [upperEnd?, trimStart_cons_of_not_blank rfl]
  simp only [dropRangeSign?, bind, Option.bind_some, trimStart_of_stops (high.stops_blank rest)]

theorem number?_atSign (digits : Digits) (ha : SpellsInterval a w) (hv : ∀ t, v ≠ '.' :: t) :
    ∃ n rest, Lexeme.number? (digits.chars ++ '.' :: (a ++ '.' :: v)) = some (n, rest) ∧
      AtSign rest := by
  obtain ⟨n, rest, hn, ⟨t, rfl, -⟩ | ⟨high, rfl⟩⟩ := number?_interval digits ha hv
  · exact ⟨n, _, hn, atSign_point t⟩
  · exact ⟨n, _, hn, atSign_dash _⟩

/-- An upper end behind a dash, in front of two more intervals. -/
theorem numberItem?_dash {s : List Char} {n : Binary64} (high : Digits)
    (hn : Lexeme.number? s = some (n, '-' :: (high.chars ++ '.' :: (a ++ '.' :: v))))
    (ha : SpellsInterval a w) (hv : ∀ t, v ≠ '.' :: t) :
    ∃ entry rest, numberItem? s = some (entry, rest) ∧ AtSign rest := by
  obtain ⟨m, rest, hm, hrest⟩ := number?_atSign high ha hv
  refine ⟨.range n m, rest, ?_, hrest⟩
  simp only [numberItem?, hn, upperEnd?_dash, hm, bind, Option.bind_some, pure]

/-- **No range is read as a number:** a number and an upper end take three points at most, and leave
the last of them or a dash. -/
theorem numberItem?_intervals {c : List Char} {y : OctetInterval} (ha : SpellsInterval a w)
    (hb : SpellsInterval b x) (hc : SpellsInterval c y) (hv : ∀ t, v ≠ '.' :: t) :
    ∀ entry rest, numberItem? (a ++ '.' :: (b ++ '.' :: (c ++ '.' :: v))) = some (entry, rest) →
      AtSign rest := by
  intro entry rest h
  have hsome : ∀ {s}, (∃ entry rest, numberItem? s = some (entry, rest) ∧ AtSign rest) →
      numberItem? s = some (entry, rest) → AtSign rest := by
    rintro s ⟨entry', rest', hs, hrest⟩ h
    obtain ⟨rfl, rfl⟩ : entry' = entry ∧ rest' = rest := by simpa [hs] using h
    exact hrest
  cases ha with
  | full => simp [numberItem?, Lexeme.number?, splitSign] at h
  | single digits hle =>
    refine hsome ?_ h
    obtain ⟨n, u, hn, ⟨t, rfl, ht⟩ | ⟨high, rfl⟩⟩ :=
      number?_interval digits hb (hc.ne_point ('.' :: v))
    · refine ⟨.single n, _, ?_, atSign_point t⟩
      simp only [numberItem?, hn, upperEnd?_point ht, bind, Option.bind_some, pure]
    · exact numberItem?_dash high hn hc hv
  | range low high hle hlarge =>
    rw [List.append_assoc, List.cons_append] at h
    refine hsome ?_ h
    have hends : EndsNumber ('-' :: (high.chars ++ '.' :: (b ++ '.' :: (c ++ '.' :: v)))) :=
      .of_stops (stops_cons.2 (by decide)) (by simp)
    exact numberItem?_dash high (number?_digits false low.ne_nil low.all_digits hends) hb
      (hc.ne_point ('.' :: v))

end Numbers

/-- An entry in front of a point or a dash is no entry of a list. -/
theorem readEntries_atSign {α : Type} {item? : List Char → Option (α × List Char)} {s : List Char}
    (h : ∀ x rest, item? (trimStart s) = some (x, rest) → AtSign rest) (fuel : Nat) :
    readEntries item? fuel s = none := by
  cases fuel with
  | zero => rfl
  | succ fuel =>
    rw [readEntries]
    cases hitem : item? (trimStart s) with
    | none => rfl
    | some answer =>
      simp only [bind, Option.bind_some]
      obtain ⟨t, ht | ht⟩ := h answer.1 answer.2 hitem
      · rw [ht, trimStart_cons_of_not_blank rfl]
        rfl
      · rw [ht, trimStart_cons_of_not_blank rfl]
        rfl

/-- **A list that starts with a range** is no list of numbers. -/
theorem readEntries_numbers (x : RangeEntry) (more : List RangeEntry) (tail : List Char)
    (fuel : Nat) : readEntries numberItem? fuel (rangeListBody (x :: more) tail) = none := by
  obtain ⟨c, t, htext, -⟩ := rangeListBody_eq x more tail
  obtain ⟨s, r, v, hs, hchars⟩ := x.written.spells.exists_octets
  obtain ⟨a, b, d, e, _, _, _, _, ha, hb, hd, he, hoctets, -⟩ :=
    hs.append (v ++ (x.after.chars ++ c :: t))
  refine readEntries_atSign (fun entry rest h => ?_) fuel
  rw [htext, trimStart_range, hchars, List.append_assoc, hoctets] at h
  exact numberItem?_intervals ha hb hd (he.ne_point _) entry rest h

/-! ### Lists -/

theorem isPieceChar_of_isRangeChar {c : Char} (h : isRangeChar c = true) :
    isPieceChar c = true := by
  have hblank : isBlank c = false := by
    simp only [isRangeChar, isIntervalChar, Bool.or_eq_true, beq_iff_eq] at h
    rcases h with (((((h | rfl) | rfl) | rfl) | rfl) | rfl)
    · exact not_blank_of_isDigit h
    all_goals rfl
  have hcomma : c ≠ ',' := by
    rintro rfl
    exact absurd h (by decide)
  have hbrace : c ≠ '\x7d' := by
    rintro rfl
    exact absurd h (by decide)
  simp [isPieceChar, hblank, hcomma, hbrace]

section List

variable (x : RangeEntry) (more : List RangeEntry) (tail : List Char)

/-- A list of ranges is read as such or not at all. -/
theorem readBody?_rangeList :
    Literal.readBody? (rangeListBody (x :: more) tail) =
      readListOf? .addresses addressItem? (rangeListBody (x :: more) tail) := by
  obtain ⟨c, t, htext, -⟩ := rangeListBody_eq x more tail
  have hstrings : quotedItem? (trimStart (rangeListBody (x :: more) tail)) = none := by
    rw [htext, trimStart_range]
    exact quotedItem?_range x.written _
  have hnumbers : readListOf? .numbers numberItem? (rangeListBody (x :: more) tail) = none := by
    rw [readListOf?, readEntries_numbers]
    rfl
  rw [Literal.readBody?, readListOf?_none .strings hstrings, hnumbers, Option.or_none,
    Option.or_none]

/-- The first piece of a list of ranges is its first range. -/
theorem takeWhile_isPieceChar :
    (trimStart (rangeListBody (x :: more) tail)).takeWhile isPieceChar = x.written.chars := by
  obtain ⟨c, t, htext, hc⟩ := rangeListBody_eq x more tail
  have hall : ∀ d ∈ x.written.chars, isPieceChar d = true := fun d hd =>
    isPieceChar_of_isRangeChar (x.written.spells.all_chars d hd)
  have hstops : Stops isPieceChar (x.after.chars ++ c :: t) := by
    obtain ⟨d, u, hu, hd | ⟨-, rfl, rfl⟩⟩ := blanks_append_cases x.after c t
    · rw [hu, stops_cons]
      simp [isPieceChar, hd]
    · rw [hu, stops_cons]
      rcases hc with rfl | rfl
      · rfl
      · rfl
  rw [htext, trimStart_range, takeWhile_append_of_stops hall hstops]

/-- A range that can be read tells no fault of the list. -/
theorem listFault_range (x : WrittenRange) (start pieceStart : List Char) :
    Literal.listFault start x.chars pieceStart = .invalidList start := by
  have haddress : addressFault? x.chars = none := by
    rw [addressFault?, x.read]
    exact ite_self none
  have hquotation : quotation x.chars = .absent := by
    have h := quotation_range x []
    rwa [List.append_nil] at h
  rw [Literal.listFault, haddress]
  simp only [hquotation, if_neg (show ¬Quotation.absent = .unclosed by simp)]

end List

/-- **What a list of ranges reads as.**  Its entries are ranges without commas, each of them a text that
the reader of ranges takes to its end, with blanks around them.  If each comma separates two ranges,
the list reads as the ranges in order.  If a comma does not, the list is invalid: the reader goes on
with the octets in front of it, takes those behind it for more of them, and stops at the point that
follows. -/
theorem Literal.read_rangeList (x : RangeEntry) (more : List RangeEntry) (tail : List Char) :
    ((x :: more).IsChain RangeEntry.Separate →
      Literal.read (rangeList (x :: more) ++ tail) =
        .ok (.addresses ((x :: more).map RangeEntry.range), tail)) ∧
    (¬(x :: more).IsChain RangeEntry.Separate →
      ∃ rest, Literal.read (rangeList (x :: more) ++ tail) =
        .error ⟨.invalidList (rangeList (x :: more) ++ tail), rest⟩) := by
  obtain ⟨hchain, hbroken⟩ := readEntries_rangeList x more tail (Nat.lt_succ_self _)
  have hbody := readBody?_rangeList x more tail
  rw [rangeList_append]
  refine ⟨fun h => Literal.read_of_readBody? ?_, fun h =>
    ⟨(trimStart (rangeListBody (x :: more) tail)).dropWhile isPieceChar, ?_⟩⟩
  · rw [hbody, readListOf?, hchain h]
    rfl
  · rw [readListOf?, hbroken h] at hbody
    have hquotation : quotation ('\x7b' :: rangeListBody (x :: more) tail) = .absent := rfl
    simp only [Literal.read, hquotation, Literal.readList, hbody, Option.map_none]
    rw [takeWhile_isPieceChar, listFault_range]

/-- A comma with a blank behind it in front of an asterisk. -/
theorem Literal.read_rangeList_blank :
    Literal.read "\x7b10.0.0.1, *.0.0.1\x7d".toList =
      .ok (.addresses [⟨[.single 10], [.single 0], [.single 0], [.single 1]⟩,
        ⟨[.full], [.single 0], [.single 0], [.single 1]⟩], []) := by
  let nothing : Blanks := ⟨[], by simp⟩
  let x : RangeEntry := ⟨nothing, ⟨"10.0.0.1".toList, _, rfl, by decide⟩, nothing⟩
  let y : RangeEntry :=
    ⟨⟨[' '], List.forall_mem_singleton.2 rfl⟩, ⟨"*.0.0.1".toList, _, rfl, by decide⟩, nothing⟩
  have hseparate : x.Separate y := Or.inr (Or.inl (List.cons_ne_nil _ _))
  exact (Literal.read_rangeList x [y] []).1 (.cons_cons hseparate (.singleton y))

/-- The same two ranges, each of them read to its end, in a list without the blank: the octets of the
last place go on with the asterisk. -/
theorem Literal.read_rangeList_asterisk :
    Ipv4Range.read "10.0.0.1".toList =
        .ok (⟨[.single 10], [.single 0], [.single 0], [.single 1]⟩, []) ∧
      Ipv4Range.read "*.0.0.1".toList =
        .ok (⟨[.full], [.single 0], [.single 0], [.single 1]⟩, []) ∧
      ',' ∉ "10.0.0.1".toList ∧ ',' ∉ "*.0.0.1".toList ∧
      Literal.read "\x7b10.0.0.1,*.0.0.1\x7d".toList =
        .error ⟨.invalidList "\x7b10.0.0.1,*.0.0.1\x7d".toList, ",*.0.0.1\x7d".toList⟩ :=
  ⟨rfl, rfl, by decide, by decide, rfl⟩

end DisplayFilter
