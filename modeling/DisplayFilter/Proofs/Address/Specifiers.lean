import DisplayFilter.Proofs.Literal.NumberOctets

/-!
# Ranges without commas

A comma behind the last place of a range may go on with the octets there.  Of a range that has no
comma itself it can be said in advance how it is written, and what has to follow so that it is read
as it stands.

* `SpellsInterval`, `SpellsOctets`, `SpellsRange` — how a range without commas is written;
* **`SpellsRange.read`** — it is read up to what ends it, **`EndsRange`**;
* **`Ipv4Range.read_eq_ok_iff_spells`** — a text without commas is a range exactly if it is written
  like one;
* **`SpellsOctets.leaves_comma`** — octets in front of a comma that goes on with them.
-/

namespace DisplayFilter

open Text

/-- **How an interval is written:** as an asterisk, or with octets below 256, two of them in
order. -/
inductive SpellsInterval : List Char → OctetInterval → Prop
  | full : SpellsInterval ['*'] .full
  | single (octet : Digits) (h : decimalValue octet.chars ≤ 255) :
      SpellsInterval octet.chars (.single (decimalValue octet.chars).toUInt8)
  | range (low high : Digits) (hle : decimalValue low.chars ≤ decimalValue high.chars)
      (h : decimalValue high.chars ≤ 255) :
      SpellsInterval (low.chars ++ '-' :: high.chars)
        ⟨(decimalValue low.chars).toUInt8, (decimalValue high.chars).toUInt8⟩

/-- **Four intervals with points between them.** -/
inductive SpellsOctets : List Char → Ipv4Range → Prop
  | places {a b c d : List Char} {w x y z : OctetInterval} (ha : SpellsInterval a w)
      (hb : SpellsInterval b x) (hc : SpellsInterval c y) (hd : SpellsInterval d z) :
      SpellsOctets (a ++ '.' :: (b ++ '.' :: (c ++ '.' :: d))) ⟨[w], [x], [y], [z]⟩

/-- **A range without commas:** four intervals, or a plain address with the length of a prefix. -/
inductive SpellsRange : List Char → Ipv4Range → Prop
  | octets {s : List Char} {r : Ipv4Range} (h : SpellsOctets s r) : SpellsRange s r
  | block {s length : List Char} {r block : Ipv4Range} {x : Ipv4} {n : Int64}
      (h : SpellsOctets s r) (haddress : r.address? = some x)
      (hlength : Lexeme.integer? length = some (n, []))
      (hblock : Ipv4Range.ofLength? x n = some block) : SpellsRange (s ++ '/' :: length) block

/-! ### Reading what is written -/

/-- **What may follow the places of a range:** nothing that goes on with its last octets, and no
comma that does. -/
structure EndsPlaces (rest : List Char) : Prop where
  octet : EndsOctet rest
  comma : ∀ t, rest = ',' :: t → (startsAddress t || !startsInterval t) = true

theorem SpellsInterval.read {w rest : List Char} {x : OctetInterval} (h : SpellsInterval w x)
    (hrest : EndsOctet rest) : OctetInterval.read (w ++ rest) = .ok (x, rest) := by
  cases h with
  | full => rfl
  | single octet h =>
    rw [OctetInterval.read_of_digits octet.ne_nil octet.all_digits,
      readOctet_digits octet.ne_nil octet.all_digits hrest.1, if_neg (by omega)]
    exact OctetInterval.readFrom_end _ hrest
  | range low high hle h =>
    have hdash : Stops Char.isDigit ('-' :: (high.chars ++ rest)) := stops_cons.2 (by decide)
    have hhigh : ¬255 < decimalValue high.chars := by omega
    have horder : (decimalValue low.chars).toUInt8 ≤ (decimalValue high.chars).toUInt8 := by
      rw [UInt8.le_iff_toNat_le, toNat_toUInt8 (by omega), toNat_toUInt8 h]
      exact hle
    rw [List.append_assoc, List.cons_append,
      OctetInterval.read_of_digits low.ne_nil low.all_digits,
      readOctet_digits low.ne_nil low.all_digits hdash, if_neg (by omega)]
    simp only [bind, Except.bind, OctetInterval.readFrom,
      readOctet_digits high.ne_nil high.all_digits hrest.1, if_neg hhigh, if_pos horder]

theorem SpellsInterval.rest? {w rest : List Char} {x : OctetInterval} (h : SpellsInterval w x)
    (hrest : EndsOctet rest) : OctetInterval.rest? (w ++ rest) = some rest := by
  rw [OctetInterval.rest?, h.read hrest]
  rfl

/-- An interval that no comma goes on with is the only one at its place. -/
theorem SpellsInterval.read_set {w rest : List Char} {x : OctetInterval} (h : SpellsInterval w x)
    (hrest : EndsOctet rest) {last : Bool}
    (hcomma : ∀ t, rest = ',' :: t → ((last && startsAddress t) || !startsInterval t) = true) :
    OctetSet.read last (w ++ rest) = .ok ([x], rest) :=
  OctetSet.readUpTo_end (h.read hrest) hcomma

theorem SpellsOctets.append {s : List Char} {r : Ipv4Range} (h : SpellsOctets s r)
    (rest : List Char) : ∃ a b c d w x y z, SpellsInterval a w ∧ SpellsInterval b x ∧
      SpellsInterval c y ∧ SpellsInterval d z ∧
      s ++ rest = a ++ '.' :: (b ++ '.' :: (c ++ '.' :: (d ++ rest))) ∧
      r = ⟨[w], [x], [y], [z]⟩ := by
  cases h with
  | places ha hb hc hd => exact ⟨_, _, _, _, _, _, _, _, ha, hb, hc, hd, by simp, rfl⟩

theorem SpellsOctets.read {s rest : List Char} {r : Ipv4Range} (h : SpellsOctets s r)
    (hrest : EndsPlaces rest) : Ipv4Range.readOctets (s ++ rest) = .ok (r, rest) := by
  obtain ⟨a, b, c, d, w, x, y, z, ha, hb, hc, hd, htext, rfl⟩ := h.append rest
  have hplace : ∀ {e v} (t : List Char), SpellsInterval e v →
      OctetSet.read false (e ++ '.' :: t) = .ok ([v], '.' :: t) := fun t hv =>
    hv.read_set (endsOctet_point t) (by simp)
  have hlast : OctetSet.read true (d ++ rest) = .ok ([z], rest) :=
    hd.read_set hrest.octet hrest.comma
  rw [htext]
  simp only [Ipv4Range.readOctets, OctetSet.readNext, bind, Except.bind, pure, Except.pure,
    hplace _ ha, hplace _ hb, hplace _ hc, hlast]

/-! ### Characters -/

/-- The characters of intervals. -/
def isIntervalChar (c : Char) : Bool :=
  c.isDigit || c == '*' || c == '-'

/-- The characters of ranges without commas. -/
def isRangeChar (c : Char) : Bool :=
  isIntervalChar c || c == '.' || c == '/' || c == '+'

theorem isIntervalChar_of_isDigit {c : Char} (h : c.isDigit = true) : isIntervalChar c = true := by
  simp [isIntervalChar, h]

theorem isRangeChar_of_isIntervalChar {c : Char} (h : isIntervalChar c = true) :
    isRangeChar c = true := by
  simp [isRangeChar, h]

theorem SpellsInterval.all_chars {w : List Char} {x : OctetInterval} (h : SpellsInterval w x) :
    ∀ c ∈ w, isIntervalChar c = true := by
  have hdigits : ∀ digits : Digits, ∀ c ∈ digits.chars, isIntervalChar c = true :=
    fun digits c hc => isIntervalChar_of_isDigit (digits.all_digits c hc)
  cases h with
  | full => simp [isIntervalChar]
  | single octet h => exact hdigits octet
  | range low high hle h =>
    exact List.forall_mem_append.2 ⟨hdigits low, List.forall_mem_cons.2 ⟨rfl, hdigits high⟩⟩

/-- A class with the characters of intervals and the point holds of the places of a range. -/
theorem SpellsOctets.forall_mem {s : List Char} {r : Ipv4Range} (h : SpellsOctets s r)
    {q : Char → Bool} (hq : ∀ c, isIntervalChar c = true → q c = true) (hpoint : q '.' = true) :
    ∀ c ∈ s, q c = true := by
  have hinterval : ∀ {w x}, SpellsInterval w x → ∀ c ∈ w, q c = true := fun hx c hc =>
    hq c (hx.all_chars c hc)
  cases h with
  | places ha hb hc hd =>
    simp only [List.forall_mem_append, List.forall_mem_cons]
    exact ⟨hinterval ha, hpoint, hinterval hb, hpoint, hinterval hc, hpoint, hinterval hd⟩

theorem SpellsOctets.not_mem {s : List Char} {r : Ipv4Range} (h : SpellsOctets s r) {d : Char}
    (hd : isIntervalChar d = false) (hpoint : d ≠ '.') : d ∉ s := by
  have hall := h.forall_mem (q := (· != d))
    (fun c hc => bne_iff_ne.2 fun heq => by simp [heq, hd] at hc) (bne_iff_ne.2 hpoint.symm)
  exact fun hmem => by simpa using hall d hmem

/-- The length of a prefix has a sign and digits. -/
theorem all_digits_of_integer? {s : List Char} {n : Int64}
    (h : Lexeme.integer? s = some (n, [])) :
    (splitSign s).2 ≠ [] ∧ ∀ c ∈ (splitSign s).2, c.isDigit = true := by
  simp only [Lexeme.integer?, Option.ite_none_left_eq_some, Option.map_eq_some_iff,
    Prod.mk.injEq, List.isEmpty_iff] at h
  obtain ⟨hne, _, -, -, hrest⟩ := h
  have htake : (splitSign s).2.takeWhile Char.isDigit = (splitSign s).2 := by
    have hsplit := List.takeWhile_append_dropWhile (p := Char.isDigit) (l := (splitSign s).2)
    rwa [hrest, List.append_nil] at hsplit
  rw [htake] at hne
  exact ⟨hne, fun c hc => takeWhile_all c (htake.symm ▸ hc)⟩

/-- **A length reads the same** in front of what does not go on with its digits. -/
theorem integer?_append {s rest : List Char} {n : Int64} (h : Lexeme.integer? s = some (n, []))
    (hrest : Stops Char.isDigit rest) : Lexeme.integer? (s ++ rest) = some (n, rest) := by
  obtain ⟨hne, hall⟩ := all_digits_of_integer? h
  have hs : s ≠ [] := by
    rintro rfl
    exact hne rfl
  have hread : ∀ t, Stops Char.isDigit t → Lexeme.integer? (s ++ t) =
      (Lexeme.signedValue? (splitSign s).1 (splitSign s).2).map (·, t) := by
    intro t ht
    simp only [Lexeme.integer?, splitSign_append hs, takeWhile_append_of_stops hall ht,
      dropWhile_append_of_stops hall ht, List.isEmpty_iff, hne, if_false]
  have hvalue := hread [] (stops_nil _)
  rw [List.append_nil, h] at hvalue
  obtain ⟨m, hm, heq⟩ := Option.map_eq_some_iff.1 hvalue.symm
  rw [hread rest hrest, hm, (Prod.mk.inj heq).1]
  rfl

theorem SpellsRange.all_chars {s : List Char} {r : Ipv4Range} (h : SpellsRange s r) :
    ∀ c ∈ s, isRangeChar c = true := by
  have hoctets : ∀ {s r}, SpellsOctets s r → ∀ c ∈ s, isRangeChar c = true := fun h =>
    h.forall_mem (fun _ => isRangeChar_of_isIntervalChar) rfl
  cases h with
  | octets h => exact hoctets h
  | block h _ hlength _ =>
    have hdigits := (all_digits_of_integer? hlength).2
    refine List.forall_mem_append.2 ⟨hoctets h, List.forall_mem_cons.2 ⟨rfl, ?_⟩⟩
    exact forall_of_splitSign (by decide) (by decide) fun c hc =>
      isRangeChar_of_isIntervalChar (isIntervalChar_of_isDigit (hdigits c hc))

/-! ### Reading ranges -/

/-- **What may follow a range:** nothing, a blank, the closing brace of a list, or a comma.  Behind
octets the comma must not go on with them. -/
def EndsRange (s rest : List Char) : Prop :=
  ∀ c t, rest = c :: t → isBlank c = true ∨ c = '\x7d' ∨
    c = ',' ∧ ('/' ∈ s ∨ (startsAddress t || !startsInterval t) = true)

section Ends

variable {s rest : List Char}

theorem EndsRange.stops (h : EndsRange s rest) {q : Char → Bool}
    (hblank : ∀ c, isBlank c = true → q c = false) (hbrace : q '\x7d' = false)
    (hcomma : q ',' = false) : Stops q rest := by
  cases rest with
  | nil => exact stops_nil q
  | cons c t =>
    rw [stops_cons]
    rcases h c t rfl with hc | rfl | ⟨rfl, -⟩
    · exact hblank c hc
    · exact hbrace
    · exact hcomma

theorem EndsRange.ne_cons (h : EndsRange s rest) {d : Char} (hblank : isBlank d = false)
    (hbrace : d ≠ '\x7d') (hcomma : d ≠ ',') (t : List Char) : rest ≠ d :: t := by
  rintro rfl
  rcases h d t rfl with hd | hd | ⟨hd, -⟩
  · simp [hblank] at hd
  · exact hbrace hd
  · exact hcomma hd

theorem EndsRange.endsPlaces (h : EndsRange s rest) (hslash : '/' ∉ s) : EndsPlaces rest where
  octet := ⟨h.stops (fun _ => isDigit_of_isBlank) rfl rfl,
    fun t ht => absurd ht (h.ne_cons rfl (by decide) (by decide) t)⟩
  comma t ht := by
    rcases h ',' t ht with hc | hc | ⟨-, hc⟩
    · simp [isBlank] at hc
    · simp at hc
    · exact hc.resolve_left hslash

end Ends

/-- **A range is read up to what ends it.** -/
theorem SpellsRange.read {s rest : List Char} {r : Ipv4Range} (h : SpellsRange s r)
    (hrest : EndsRange s rest) : Ipv4Range.read (s ++ rest) = .ok (r, rest) := by
  cases h with
  | octets h =>
    have hslash : '/' ∉ s := h.not_mem rfl (by decide)
    have hne : ∀ t, rest ≠ '/' :: t := hrest.ne_cons rfl (by decide) (by decide)
    rw [Ipv4Range.read, h.read (hrest.endsPlaces hslash)]
    simp only [bind, Except.bind]
  | @block s length r' block x n h haddress hlength hblock =>
    have hslash : EndsPlaces ('/' :: (length ++ rest)) :=
      ⟨⟨stops_cons.2 (by decide), by simp⟩, by simp⟩
    have hdigit : Stops Char.isDigit rest := hrest.stops (fun _ => isDigit_of_isBlank) rfl rfl
    rw [List.append_assoc, List.cons_append, Ipv4Range.read, h.read hslash]
    simp only [bind, Except.bind, integer?_append hlength hdigit, haddress, hblock]

/-! ### What is read is written like this -/

theorem exists_of_readOctet {s rest : List Char} {octet : UInt8}
    (h : readOctet s = .ok (octet, rest)) : ∃ digits : Digits, decimalValue digits.chars ≤ 255 ∧
      s = digits.chars ++ rest ∧ octet = (decimalValue digits.chars).toUInt8 := by
  simp only [readOctet, List.isEmpty_iff] at h
  split at h
  · simp at h
  · next hne =>
    split at h
    · simp at h
    · next hlarge =>
      obtain ⟨rfl, rfl⟩ : _ = octet ∧ _ = rest := by simpa using h
      exact ⟨⟨_, hne, takeWhile_all⟩, Nat.le_of_not_lt hlarge,
        List.takeWhile_append_dropWhile.symm, rfl⟩

theorem OctetInterval.exists_of_read {s rest : List Char} {x : OctetInterval}
    (h : OctetInterval.read s = .ok (x, rest)) :
    ∃ w, SpellsInterval w x ∧ s = w ++ rest := by
  by_cases hstar : ∃ t, s = '*' :: t
  · obtain ⟨t, rfl⟩ := hstar
    obtain ⟨rfl, rfl⟩ : OctetInterval.full = x ∧ t = rest := by simpa [OctetInterval.read] using h
    exact ⟨['*'], .full, rfl⟩
  · rw [OctetInterval.read_of_ne fun t ht => hstar ⟨t, ht⟩] at h
    obtain ⟨⟨octet, u⟩, hoctet, h⟩ := bind_eq_ok.1 h
    obtain ⟨low, hlow, rfl, rfl⟩ := exists_of_readOctet hoctet
    have hsingle : ∀ {y v}, Except.ok (OctetInterval.single (decimalValue low.chars).toUInt8, u) =
        (.ok (y, v) : Except RangeStop _) → ∃ w, SpellsInterval w y ∧ low.chars ++ u = w ++ v := by
      intro y v heq
      obtain ⟨rfl, rfl⟩ : OctetInterval.single _ = y ∧ u = v := by simpa using heq
      exact ⟨low.chars, .single low hlow, rfl⟩
    simp only [OctetInterval.readFrom] at h
    split at h
    · next t =>
      split at h
      · next octet v hv =>
        obtain ⟨high, hhigh, rfl, rfl⟩ := exists_of_readOctet hv
        split at h
        · next hle =>
          rw [UInt8.le_iff_toNat_le, toNat_toUInt8 hlow, toNat_toUInt8 hhigh] at hle
          obtain ⟨rfl, rfl⟩ : OctetInterval.mk _ _ = x ∧ v = rest := by simpa using h
          exact ⟨_, .range low high hle hhigh, by simp⟩
        · simp at h
      · exact hsingle h
    · exact hsingle h

section Reading

variable {s rest : List Char} {set : OctetSet} {last : Bool}

theorem OctetSet.exists_of_read (h : OctetSet.read last s = .ok (set, rest)) (hcomma : ',' ∉ s) :
    ∃ w x, SpellsInterval w x ∧ s = w ++ rest ∧ set = [x] := by
  obtain ⟨⟨x, u⟩, hx, hset⟩ := bind_eq_ok.1 h
  obtain ⟨w, hw, htext⟩ := OctetInterval.exists_of_read hx
  simp only at hset
  split at hset
  · exact absurd (htext ▸ List.mem_append_right w List.mem_cons_self) hcomma
  · obtain ⟨rfl, rfl⟩ : [x] = set ∧ u = rest := by simpa using hset
    exact ⟨w, x, hw, htext, rfl⟩

theorem OctetSet.exists_of_readNext {start : List Char}
    (h : OctetSet.readNext start last s = .ok (set, rest)) (hcomma : ',' ∉ s) :
    ∃ w x, SpellsInterval w x ∧ s = '.' :: (w ++ rest) ∧ set = [x] := by
  unfold OctetSet.readNext at h
  split at h
  · obtain ⟨w, x, hw, rfl, rfl⟩ :=
      OctetSet.exists_of_read h fun hmem => hcomma (List.mem_cons_of_mem _ hmem)
    exact ⟨w, x, hw, rfl, rfl⟩
  · simp at h

end Reading

theorem Ipv4Range.exists_of_readOctets {s rest : List Char} {r : Ipv4Range}
    (h : Ipv4Range.readOctets s = .ok (r, rest)) (hcomma : ',' ∉ s) :
    ∃ w, SpellsOctets w r ∧ s = w ++ rest := by
  obtain ⟨⟨first, s₁⟩, h₁, h⟩ := bind_eq_ok.1 h
  obtain ⟨⟨second, s₂⟩, h₂, h⟩ := bind_eq_ok.1 h
  obtain ⟨⟨third, s₃⟩, h₃, h⟩ := bind_eq_ok.1 h
  obtain ⟨⟨fourth, s₄⟩, h₄, h⟩ := bind_eq_ok.1 h
  obtain ⟨rfl, rfl⟩ : Ipv4Range.mk first second third fourth = r ∧ s₄ = rest := by
    simpa [pure, Except.pure] using h
  obtain ⟨a, w, ha, rfl, rfl⟩ := OctetSet.exists_of_read h₁ hcomma
  simp only [List.mem_append, not_or] at hcomma
  obtain ⟨b, x, hb, rfl, rfl⟩ := OctetSet.exists_of_readNext h₂ hcomma.2
  simp only [List.mem_cons, List.mem_append, not_or] at hcomma
  obtain ⟨c, y, hc, rfl, rfl⟩ := OctetSet.exists_of_readNext h₃ hcomma.2.2.2
  simp only [List.mem_cons, List.mem_append, not_or] at hcomma
  obtain ⟨d, z, hd, rfl, rfl⟩ := OctetSet.exists_of_readNext h₄ hcomma.2.2.2.2.2
  exact ⟨_, .places ha hb hc hd, by simp⟩

theorem Ipv4Range.spells_of_read {s : List Char} {r : Ipv4Range}
    (h : Ipv4Range.read s = .ok (r, [])) (hcomma : ',' ∉ s) : SpellsRange s r := by
  obtain ⟨⟨r', u⟩, hu, h⟩ := bind_eq_ok.1 h
  obtain ⟨w, hw, htext⟩ := Ipv4Range.exists_of_readOctets hu hcomma
  simp only at h
  split at h
  · next length =>
    split at h
    · simp at h
    · next n v hlength =>
      split at h
      · simp at h
      · next x haddress =>
        split at h
        · simp at h
        · next block hblock =>
          obtain ⟨rfl, rfl⟩ : block = r ∧ v = [] := by simpa using h
          exact htext ▸ .block hw haddress hlength hblock
  · obtain ⟨rfl, rfl⟩ : r' = r ∧ u = [] := by simpa using h
    rw [htext, List.append_nil]
    exact .octets hw

/-- **A text without commas is a range** exactly if it is written like one. -/
theorem Ipv4Range.read_eq_ok_iff_spells {s : List Char} {r : Ipv4Range} :
    (Ipv4Range.read s = .ok (r, []) ∧ ',' ∉ s) ↔ SpellsRange s r := by
  constructor
  · rintro ⟨h, hcomma⟩
    exact Ipv4Range.spells_of_read h hcomma
  · intro h
    have hends : EndsRange s [] := by simp [EndsRange]
    have hread := h.read hends
    rw [List.append_nil] at hread
    exact ⟨hread, fun hmem => absurd (h.all_chars ',' hmem) (by decide)⟩

/-! ### Octets that go on -/

section Start

variable {s a u : List Char} {r : Ipv4Range} {w : OctetInterval}

theorem SpellsInterval.exists_cons (h : SpellsInterval a w) :
    ∃ c t, a = c :: t ∧ (c = '*' ∨ c.isDigit = true) := by
  have hdigits : ∀ digits : Digits, ∃ c t, digits.chars = c :: t ∧ c.isDigit = true := by
    intro digits
    obtain ⟨c, t, hc⟩ := List.exists_cons_of_ne_nil digits.ne_nil
    exact ⟨c, t, hc, digits.all_digits c (hc ▸ List.mem_cons_self)⟩
  cases h with
  | full => exact ⟨'*', [], rfl, Or.inl rfl⟩
  | single octet h =>
    obtain ⟨c, t, ht, hc⟩ := hdigits octet
    exact ⟨c, t, ht, Or.inr hc⟩
  | range low high hle h =>
    obtain ⟨c, t, ht, hc⟩ := hdigits low
    exact ⟨c, t ++ '-' :: high.chars, by simp [ht], Or.inr hc⟩

/-- A range starts with four intervals. -/
theorem SpellsRange.exists_octets (h : SpellsRange s r) :
    ∃ t r' v, SpellsOctets t r' ∧ s = t ++ v := by
  cases h with
  | octets h => exact ⟨s, r, [], h, (List.append_nil s).symm⟩
  | block h _ _ _ => exact ⟨_, _, _, h, rfl⟩

theorem SpellsRange.start (h : SpellsRange s r) :
    ∃ a w u, SpellsInterval a w ∧ s = a ++ '.' :: u := by
  obtain ⟨t, r', v, ht, rfl⟩ := h.exists_octets
  obtain ⟨a, b, c, d, w, x, y, z, ha, -, -, -, htext, -⟩ := ht.append v
  exact ⟨a, w, _, ha, htext⟩

/-- Whether an address starts here is settled at the first point. -/
theorem startsAddress_point (a u : List Char) :
    startsAddress (a ++ '.' :: u) = startsAddress (a ++ ['.']) := by
  have hhead : ∀ v : List Char, (v ++ '.' :: u).head? = (v ++ ['.']).head? := by
    intro v
    cases v with
    | nil => rfl
    | cons c v => rfl
  have htrim : ∀ t, trimStart (a ++ '.' :: t) = trimStart a ++ '.' :: t :=
    trimStart_append_cons rfl a
  have hdrop : ∀ v t : List Char, (v ++ '.' :: t).dropWhile Char.isDigit =
      v.dropWhile Char.isDigit ++ '.' :: t := dropWhile_append_cons (by decide)
  simp only [startsAddress, htrim, hdrop, hhead]

theorem SpellsRange.startsAddress_append (h : SpellsRange s r) (rest : List Char) :
    startsAddress (s ++ rest) = startsAddress s := by
  obtain ⟨a, w, u, -, rfl⟩ := h.start
  rw [List.append_assoc, List.cons_append, startsAddress_point a (u ++ rest), startsAddress_point a u]

theorem SpellsRange.startsInterval_append (h : SpellsRange s r) (rest : List Char) :
    startsInterval (s ++ rest) = true := by
  obtain ⟨a, w, u, ha, rfl⟩ := h.start
  obtain ⟨c, t, rfl, hc⟩ := ha.exists_cons
  rcases hc with rfl | hc
  · rfl
  · simp [startsInterval, hc]

end Start

/-- A range without a prefix length has four intervals. -/
theorem SpellsRange.octets_of_not_mem {s : List Char} {r : Ipv4Range} (h : SpellsRange s r)
    (hslash : '/' ∉ s) : SpellsOctets s r := by
  cases h with
  | octets h => exact h
  | @block s length => exact absurd (List.mem_append_right s List.mem_cons_self) hslash

/-- **A comma that goes on** with the octets of a range takes the first octets of the next one, so that
the point behind these is left. -/
theorem SpellsOctets.leaves_comma {s t : List Char} {r x : Ipv4Range} (hs : SpellsOctets s r)
    (ht : SpellsRange t x) (haddress : startsAddress t = false) (rest : List Char) :
    Leaves (placesRest? 3 (s ++ ',' :: (t ++ rest))) none := by
  have hgoes : ((0 == 0 && startsAddress (t ++ rest)) || !startsInterval (t ++ rest)) = false := by
    rw [ht.startsAddress_append, haddress, ht.startsInterval_append]
    rfl
  obtain ⟨a, b, c, d, _, _, _, _, ha, hb, hc, hd, htext, -⟩ := hs.append (',' :: (t ++ rest))
  obtain ⟨e, v, u, he, rfl⟩ := ht.start
  have hnext : Leaves (placesRest? 0 (e ++ '.' :: u ++ rest)) none := by
    rw [List.append_assoc, List.cons_append]
    exact leaves_places (he.rest? (endsOctet_point _)) (leaves_point_zero _)
  have hlast : Leaves (placesRest? 0 (d ++ ',' :: (e ++ '.' :: u ++ rest))) none :=
    leaves_places (hd.rest? ⟨stops_cons.2 (by decide), by simp⟩)
      (DisplayFilter.leaves_comma hgoes hnext)
  have hplace : ∀ {f g n} (v : List Char), SpellsInterval f g → Leaves (placesRest? n v) none →
      Leaves (placesRest? (n + 1) (f ++ '.' :: v)) none := fun v hf hv =>
    leaves_places (hf.rest? (endsOctet_point v)) (leaves_point hv)
  rw [htext]
  exact hplace _ ha (hplace _ hb (hplace _ hc hlast))

end DisplayFilter
