import DisplayFilter.Proofs.Address.WrittenForm
import DisplayFilter.Proofs.Locality

/-!
# How far ranges of addresses reach

Whether a list is one of address ranges depends on its whole text, since a comma goes on with the
octets of a place or separates two ranges.  What matters is how much text each part of the reader
leaves.  Seen like this, the reader is a walk from interval to interval that only remembers how many
points its range still needs.

* `OctetInterval.rest?`, `placesRest?`, `rangesRest?` — what is left behind an interval, behind the
  places of a range and behind a list of ranges;
* **`placesRest?_eq`** — one step of the walk, from an interval to the next one;
* `Leaves` — what a list leaves where its reader stands in the middle of a range;
* **`rangesRest?_of_leaves`** — a list starts with a range that needs three points;
* **`OctetInterval.rest?_single`**, **`OctetInterval.rest?_range`** — the intervals.
-/

namespace DisplayFilter

open Text

/-! ### Rests -/

/-- What is left behind an interval. -/
def OctetInterval.rest? (s : List Char) : Option (List Char) :=
  (OctetInterval.read s).toOption.map (·.2)

/-- What is left behind the intervals at one place. -/
def OctetSet.rest? (last : Bool) (s : List Char) : Option (List Char) :=
  (OctetSet.read last s).toOption.map (·.2)

/-- What is left behind a point and what follows it. -/
def pointRest? (next? : List Char → Option (List Char)) : List Char → Option (List Char)
  | '.' :: t => next? t
  | _ => none

/-- **What is left behind the places of a range,** from a place on that `n` points follow. -/
def placesRest? : Nat → List Char → Option (List Char)
  | 0, s => OctetSet.rest? true s
  | n + 1, s => (OctetSet.rest? false s).bind (pointRest? (placesRest? n))

/-- **What is left behind a list of ranges** and its closing brace. -/
def rangesRest? (s : List Char) : Option (List Char) :=
  (readEntries addressItem? (s.length + 1) s).map (·.2)

/-- What is left behind a list of which a range has been read. -/
def rangeEnd? (rest : List Char) : Option (List Char) :=
  match trimStart rest with
  | ',' :: t => rangesRest? t
  | '\x7d' :: t => some t
  | _ => none

/-- Equal texts are alike, so that readers give the same with any fuel that suffices. -/
theorem alike_eq : Alike (fun _ => false) (fun s s' : List Char => s = s') where
  not_inner := by simp
  step := by
    rintro s s' rfl
    cases s with
    | nil => exact Or.inr ⟨by simp [AtStop], by simp [AtStop]⟩
    | cons c s => exact Or.inl ⟨c, s, s, rfl, rfl, rfl⟩
  trim h := congrArg trimStart h
  close := by
    rintro t s' rfl
    exact ⟨t, rfl, rfl⟩
  quote := by
    rintro s s' body rest rfl h
    exact ⟨rest, h, rfl⟩

theorem Matched.eq {α : Type} {x y : Option (α × List Char)}
    (h : Matched (fun s s' : List Char => s = s') x y) : x = y := by
  cases h with
  | none => rfl
  | some a h => rw [h]

/-! ### Intervals at one place -/

section Place

variable {last : Bool} {s rest t : List Char}

theorem OctetInterval.rest?_eq_some (h : OctetInterval.rest? s = some rest) :
    ∃ x, OctetInterval.read s = .ok (x, rest) := by
  obtain ⟨⟨x, u⟩, hx, rfl⟩ := Option.map_eq_some_iff.1 h
  exact ⟨x, toOption_eq_some.1 hx⟩

theorem OctetInterval.rest?_eq_none (h : OctetInterval.rest? s = none) :
    ∃ stop, OctetInterval.read s = .error stop := by
  cases hx : OctetInterval.read s with
  | error stop => exact ⟨stop, rfl⟩
  | ok answer => simp [OctetInterval.rest?, hx, Except.toOption] at h

theorem OctetSet.rest?_none (h : OctetInterval.rest? s = none) : OctetSet.rest? last s = none := by
  obtain ⟨stop, hx⟩ := OctetInterval.rest?_eq_none h
  simp [OctetSet.rest?, OctetSet.read, OctetSet.readUpTo, hx, bind, Except.bind, Except.toOption]

/-- Without a comma behind it, an interval is the last one at its place. -/
theorem OctetSet.rest?_of_ne (h : OctetInterval.rest? s = some rest)
    (hcomma : ∀ t, rest ≠ ',' :: t) : OctetSet.rest? last s = some rest := by
  obtain ⟨x, hx⟩ := OctetInterval.rest?_eq_some h
  have hread : OctetSet.read last s = .ok ([x], rest) := by
    simp only [OctetSet.read, OctetSet.readUpTo, hx, bind, Except.bind]
  rw [OctetSet.rest?, hread]
  rfl

/-- **A comma goes on with the intervals at a place,** or ends them. -/
theorem OctetSet.rest?_comma (h : OctetInterval.rest? s = some (',' :: t)) :
    OctetSet.rest? last s =
      if (last && startsAddress t) || !startsInterval t then some (',' :: t)
      else OctetSet.rest? last t := by
  obtain ⟨x, hx⟩ := OctetInterval.rest?_eq_some h
  have hlength := (OctetInterval.read_properEnd hx).2
  rw [List.length_cons] at hlength
  have hfuel : (OctetSet.readUpTo last s.length t).toOption =
      (OctetSet.readUpTo last (t.length + 1) t).toOption :=
    (alike_eq.set_readUpTo last (by omega) (by omega) rfl).toOption.eq
  rw [OctetSet.rest?, OctetSet.read, OctetSet.readUpTo, hx]
  simp only [bind, Except.bind]
  split
  · rfl
  · rw [OctetSet.rest?, OctetSet.read, ← hfuel]
    cases OctetSet.readUpTo last s.length t with
    | error stop => rfl
    | ok answer => rfl

end Place

/-! ### Places -/

/-- **What is left behind the places of a range,** seen from behind an interval. -/
def placesBehind? (n : Nat) (rest : List Char) : Option (List Char) :=
  match rest with
  | ',' :: t =>
    if (n == 0 && startsAddress t) || !startsInterval t then
      if n = 0 then some rest else none
    else placesRest? n t
  | '.' :: t =>
    match n with
    | 0 => some rest
    | n + 1 => placesRest? n t
  | _ => if n = 0 then some rest else none

theorem placesBehind?_of_ne {rest : List Char} (hcomma : ∀ t, rest ≠ ',' :: t)
    (hpoint : ∀ t, rest ≠ '.' :: t) (n : Nat) :
    placesBehind? n rest = if n = 0 then some rest else none := by
  unfold placesBehind?
  split
  · next t => exact absurd rfl (hcomma t)
  · next t => exact absurd rfl (hpoint t)
  · rfl

theorem pointRest?_of_ne {next? : List Char → Option (List Char)} {rest : List Char}
    (hpoint : ∀ t, rest ≠ '.' :: t) : pointRest? next? rest = none := by
  unfold pointRest?
  split
  · next t => exact absurd rfl (hpoint t)
  · rfl

/-- A place in front of another one leaves what starts with a point. -/
theorem placesRest?_succ_of_ne {n : Nat} {s rest : List Char}
    (h : OctetSet.rest? false s = some rest) (hpoint : ∀ t, rest ≠ '.' :: t) :
    placesRest? (n + 1) s = none := by
  rw [placesRest?, h, Option.bind_some, pointRest?_of_ne hpoint]

/-- **A range is read interval by interval.** -/
theorem placesRest?_eq (n : Nat) (s : List Char) :
    placesRest? n s = (OctetInterval.rest? s).bind (placesBehind? n) := by
  cases h : OctetInterval.rest? s with
  | none =>
    cases n with
    | zero => exact OctetSet.rest?_none h
    | succ n => rw [placesRest?, OctetSet.rest?_none h]; rfl
  | some rest =>
    rw [Option.bind_some]
    by_cases hcomma : ∃ t, rest = ',' :: t
    · obtain ⟨t, rfl⟩ := hcomma
      cases n with
      | zero => exact OctetSet.rest?_comma h
      | succ n =>
        have hset : OctetSet.rest? false s = _ := OctetSet.rest?_comma h
        cases hgoes : startsInterval t with
        | false =>
          rw [hgoes] at hset
          rw [placesRest?_succ_of_ne hset (by simp)]
          simp [placesBehind?, hgoes]
        | true =>
          rw [hgoes] at hset
          rw [placesRest?, hset]
          simp [placesBehind?, hgoes, placesRest?]
    · have hset : ∀ last, OctetSet.rest? last s = some rest := fun last =>
        OctetSet.rest?_of_ne h fun t ht => hcomma ⟨t, ht⟩
      by_cases hpoint : ∃ t, rest = '.' :: t
      · obtain ⟨t, rfl⟩ := hpoint
        cases n with
        | zero => exact hset true
        | succ n => rw [placesRest?, hset]; rfl
      · rw [placesBehind?_of_ne (fun t ht => hcomma ⟨t, ht⟩) (fun t ht => hpoint ⟨t, ht⟩)]
        cases n with
        | zero => exact hset true
        | succ n => exact placesRest?_succ_of_ne (hset false) fun t ht => hpoint ⟨t, ht⟩

/-- A place and what is read behind it. -/
theorem read_bind_rest? {n : Nat}
    {F : OctetSet × List Char → Except RangeStop (Ipv4Range × List Char)}
    (hF : ∀ x rest, (F (x, rest)).toOption.map (·.2) = pointRest? (placesRest? n) rest)
    (s : List Char) :
    (OctetSet.read false s >>= F).toOption.map (·.2) = placesRest? (n + 1) s := by
  rw [placesRest?, OctetSet.rest?]
  cases OctetSet.read false s with
  | error stop => rfl
  | ok answer => exact hF answer.1 answer.2

/-- A point, a place and what is read behind it. -/
theorem readNext_bind_rest? {places? : List Char → Option (List Char)} {last : Bool}
    {F : OctetSet × List Char → Except RangeStop (Ipv4Range × List Char)}
    (hF : ∀ s, (OctetSet.read last s >>= F).toOption.map (·.2) = places? s)
    (start s : List Char) :
    (OctetSet.readNext start last s >>= F).toOption.map (·.2) = pointRest? places? s := by
  by_cases hpoint : ∃ t, s = '.' :: t
  · obtain ⟨t, rfl⟩ := hpoint
    exact hF t
  · have hne : ∀ t, s ≠ '.' :: t := fun t ht => hpoint ⟨t, ht⟩
    rw [pointRest?_of_ne hne]
    unfold OctetSet.readNext
    split
    · next t => exact absurd rfl (hne t)
    · rfl

/-- **The four places of a range.** -/
theorem readOctets_rest? (s : List Char) :
    (Ipv4Range.readOctets s).toOption.map (·.2) = placesRest? 3 s := by
  refine read_bind_rest? (fun first rest => ?_) s
  refine readNext_bind_rest? (read_bind_rest? fun second rest => ?_) s rest
  refine readNext_bind_rest? (read_bind_rest? fun third rest => ?_) s rest
  refine readNext_bind_rest? (fun t => ?_) s rest
  rw [placesRest?, OctetSet.rest?]
  cases OctetSet.read true t with
  | error stop => rfl
  | ok answer => rfl

/-! ### Lists -/

/-- **What a list leaves** where its reader stands in a range of which `placesLeft` is left.  No
prefix length follows the range. -/
def Leaves (placesLeft result : Option (List Char)) : Prop :=
  (placesLeft = none ∧ result = none) ∨
    ∃ rest, placesLeft = some rest ∧ (∀ t, rest ≠ '/' :: t) ∧ rangeEnd? rest = result

section Behind

variable {n : Nat} {s t rest : List Char} {result : Option (List Char)}

theorem leaves_places (h : OctetInterval.rest? s = some rest)
    (hrest : Leaves (placesBehind? n rest) result) : Leaves (placesRest? n s) result := by
  rw [placesRest?_eq, h]
  exact hrest

theorem leaves_places_none (h : OctetInterval.rest? s = none) : Leaves (placesRest? n s) none :=
  Or.inl ⟨by rw [placesRest?_eq, h]; rfl, rfl⟩

/-- A point goes on with the next place, if there is one. -/
theorem leaves_point (h : Leaves (placesRest? n s) result) :
    Leaves (placesBehind? (n + 1) ('.' :: s)) result := h

/-- Neither a point nor a dash separates ranges. -/
theorem rangeEnd?_eq_none (h : trimStart rest = '.' :: t ∨ trimStart rest = '-' :: t) :
    rangeEnd? rest = none := by
  unfold rangeEnd?
  rcases h with h | h
  · rw [h]
    rfl
  · rw [h]
    rfl

/-- A range that has all its points ends here. -/
theorem leaves_end (hcomma : ∀ t, rest ≠ ',' :: t) (hpoint : ∀ t, rest ≠ '.' :: t)
    (hslash : ∀ t, rest ≠ '/' :: t) :
    Leaves (placesBehind? n rest) (if n = 0 then rangeEnd? rest else none) := by
  rw [placesBehind?_of_ne hcomma hpoint]
  by_cases hn : n = 0
  · rw [if_pos hn, if_pos hn]
    exact Or.inr ⟨rest, rfl, hslash, rfl⟩
  · rw [if_neg hn, if_neg hn]
    exact Or.inl ⟨rfl, rfl⟩

/-- **A comma in front of an interval** goes on with the place, unless it ends the range. -/
theorem leaves_comma (hgoes : ((n == 0 && startsAddress s) || !startsInterval s) = false)
    (h : Leaves (placesRest? n s) result) : Leaves (placesBehind? n (',' :: s)) result := by
  have hplaces : placesBehind? n (',' :: s) = placesRest? n s := by
    simp only [placesBehind?, hgoes, Bool.false_eq_true, if_false]
  rw [hplaces]
  exact h

/-- **A comma that does not go on** with the place separates the range from the next one. -/
theorem leaves_separator (hgoes : ((n == 0 && startsAddress s) || !startsInterval s) = true) :
    Leaves (placesBehind? n (',' :: s)) (if n = 0 then rangesRest? s else none) := by
  have hplaces : placesBehind? n (',' :: s) = if n = 0 then some (',' :: s) else none := by
    simp only [placesBehind?, hgoes, if_true]
  rw [hplaces]
  by_cases hn : n = 0
  · rw [if_pos hn, if_pos hn]
    exact Or.inr ⟨',' :: s, rfl, by simp, rfl⟩
  · rw [if_neg hn, if_neg hn]
    exact Or.inl ⟨rfl, rfl⟩

end Behind

section Entry

variable {s rest : List Char} {x : Ipv4Range}

theorem rangeEnd?_of_ne (hcomma : ∀ t, trimStart rest ≠ ',' :: t)
    (hbrace : ∀ t, trimStart rest ≠ '\x7d' :: t) : rangeEnd? rest = none := by
  unfold rangeEnd?
  split
  · next t ht => exact absurd ht (hcomma t)
  · next t ht => exact absurd ht (hbrace t)
  · rfl

/-- Without a comma or a closing brace behind its first range, no list is read. -/
theorem rangesRest?_of_ne (hitem : addressItem? (trimStart s) = some (x, rest))
    (hcomma : ∀ t, trimStart rest ≠ ',' :: t) (hbrace : ∀ t, trimStart rest ≠ '\x7d' :: t) :
    rangesRest? s = none := by
  rw [rangesRest?, readEntries, Option.map_eq_none_iff]
  simp only [hitem, bind, Option.bind_some]

/-- **Behind its first range,** a list goes on or ends. -/
theorem rangesRest?_item (hitem : addressItem? (trimStart s) = some (x, rest)) :
    rangesRest? s = rangeEnd? rest := by
  by_cases hcomma : ∃ t, trimStart rest = ',' :: t
  · obtain ⟨t, ht⟩ := hcomma
    have hlength := (trimStart_properEnd (addressItem?_takesSome _ _ _ hitem)).2
    have hle := (trimStart_suffix rest).length_le
    rw [ht, List.length_cons] at hle
    have hfuel : readEntries addressItem? s.length t = readEntries addressItem? (t.length + 1) t :=
      (alike_eq.readEntries addressItem?_takesSome (fun h => alike_eq.addressItem? h) (by omega)
        (by omega) rfl).eq
    rw [rangesRest?, readEntries]
    simp only [hitem, bind, Option.bind_some, rangeEnd?, ht, hfuel, rangesRest?]
    cases readEntries addressItem? (t.length + 1) t with
    | none => rfl
    | some answer => rfl
  · by_cases hbrace : ∃ t, trimStart rest = '\x7d' :: t
    · obtain ⟨t, ht⟩ := hbrace
      rw [rangesRest?, readEntries]
      simp only [hitem, bind, Option.bind_some, rangeEnd?, ht, Option.map_some]
    · have hc : ∀ t, trimStart rest ≠ ',' :: t := fun t ht => hcomma ⟨t, ht⟩
      have hb : ∀ t, trimStart rest ≠ '\x7d' :: t := fun t ht => hbrace ⟨t, ht⟩
      rw [rangesRest?_of_ne hitem hc hb, rangeEnd?_of_ne hc hb]

end Entry

/-- **A list starts with a range** that needs three points. -/
theorem rangesRest?_of_leaves {s : List Char} {result : Option (List Char)}
    (h : Leaves (placesRest? 3 (trimStart s)) result) : rangesRest? s = result := by
  rw [← readOctets_rest?] at h
  rcases h with ⟨hnone, rfl⟩ | ⟨rest, hsome, hslash, rfl⟩
  · cases hr : Ipv4Range.readOctets (trimStart s) with
    | ok answer => simp [hr, Except.toOption] at hnone
    | error stop =>
      have hitem : addressItem? (trimStart s) = none := by
        simp only [addressItem?, Ipv4Range.read, hr, bind, Except.bind, Except.toOption]
      simp only [rangesRest?, readEntries, hitem, bind, Option.bind, Option.map_none]
  · obtain ⟨⟨r, u⟩, hr, rfl⟩ := Option.map_eq_some_iff.1 hsome
    have hread : Ipv4Range.read (trimStart s) = .ok (r, u) := by
      simp only [Ipv4Range.read, toOption_eq_some.1 hr, bind, Except.bind]
    refine rangesRest?_item (x := r) ?_
    rw [addressItem?, hread]
    rfl

/-! ### Intervals -/

/-- What may follow digits that are an octet of their own: no digit, and no dash with an octet
behind it. -/
def EndsOctet (rest : List Char) : Prop :=
  Stops Char.isDigit rest ∧ ∀ t, rest = '-' :: t → ∃ stop, readOctet t = .error stop

theorem OctetInterval.readFrom_end (low : UInt8) {rest : List Char} (h : EndsOctet rest) :
    OctetInterval.readFrom low rest = .ok (.single low, rest) := by
  unfold OctetInterval.readFrom
  split
  · next t =>
    obtain ⟨stop, hstop⟩ := h.2 t rfl
    rw [hstop]
  · rfl

variable {digits : List Char}

/-- **Digits are an interval** if they are below 256. -/
theorem OctetInterval.rest?_single (hne : digits ≠ []) (hall : ∀ c ∈ digits, c.isDigit = true)
    {rest : List Char} (hrest : EndsOctet rest) :
    OctetInterval.rest? (digits ++ rest) =
      if 255 < decimalValue digits then none else some rest := by
  rw [OctetInterval.rest?, OctetInterval.read_of_digits hne hall,
    readOctet_digits hne hall hrest.1]
  by_cases hlarge : 255 < decimalValue digits
  · rw [if_pos hlarge, if_pos hlarge]
    rfl
  · rw [if_neg hlarge, if_neg hlarge]
    simp only [bind, Except.bind, OctetInterval.readFrom_end _ hrest]
    rfl

theorem toNat_toUInt8 {n : Nat} (h : n ≤ 255) : n.toUInt8.toNat = n :=
  Nat.mod_eq_of_lt (show n < 256 by omega)

/-- **Digits with a dash between them are an interval** if they are in order and below 256. Where
only the first of them are below 256, the dash is left. -/
theorem OctetInterval.rest?_range {high rest : List Char} (hne : digits ≠ [])
    (hall : ∀ c ∈ digits, c.isDigit = true) (hhigh : high ≠ [])
    (hallhigh : ∀ c ∈ high, c.isDigit = true) (hrest : Stops Char.isDigit rest) :
    OctetInterval.rest? (digits ++ '-' :: (high ++ rest)) =
      if 255 < decimalValue digits then none
      else if 255 < decimalValue high then some ('-' :: (high ++ rest))
      else if decimalValue digits ≤ decimalValue high then some rest else none := by
  have hdash : Stops Char.isDigit ('-' :: (high ++ rest)) := stops_cons.2 (by decide)
  rw [OctetInterval.rest?, OctetInterval.read_of_digits hne hall, readOctet_digits hne hall hdash]
  by_cases hlarge : 255 < decimalValue digits
  · rw [if_pos hlarge, if_pos hlarge]
    rfl
  · rw [if_neg hlarge, if_neg hlarge]
    simp only [bind, Except.bind, OctetInterval.readFrom]
    rw [readOctet_digits hhigh hallhigh hrest]
    by_cases hlargehigh : 255 < decimalValue high
    · rw [if_pos hlargehigh, if_pos hlargehigh]
      rfl
    · rw [if_neg hlargehigh, if_neg hlargehigh]
      have hle : (decimalValue digits).toUInt8 ≤ (decimalValue high).toUInt8 ↔
          decimalValue digits ≤ decimalValue high := by
        rw [UInt8.le_iff_toNat_le, toNat_toUInt8 (Nat.le_of_not_lt hlarge),
          toNat_toUInt8 (Nat.le_of_not_lt hlargehigh)]
      simp only [hle]
      split
      · rfl
      · rfl

end DisplayFilter
