import DisplayFilter.Proofs.Literal.NumberOctets

/-!
# Numbers that are addresses

A comma without blanks goes on with the octets of a place, so that entries of a list of numbers may
make up ranges of addresses together.  Such a list is read as these ranges; every other one reads as
the numbers that were written.

* `coversRanges` — whether the entries are ranges of addresses from first to last;
* **`leaves_numberList`** — how the reader of addresses fares;
* **`Literal.read_numberList`** — what a list of numbers reads as.
-/

namespace DisplayFilter

open Text

/-! ### Ranges -/

/-- **Whether entries are ranges of addresses** from first to last, the first of which still needs
`n` points.  A comma without blanks goes on with the octets of a place, unless the range has all its
points and a single octet with a point follows.  Any other comma separates two ranges. -/
def coversRanges : Nat → List WrittenEntry → Bool
  | _, [] => false
  | n, [x] => x.pointsLeft? n == some 0
  | n, x :: y :: more =>
    match x.pointsLeft? n with
    | none => false
    | some m =>
      if x.after.chars = [] ∧ y.before.chars = [] ∧ ¬(m = 0 ∧ y.startsDotted = true) then
        coversRanges m (y :: more)
      else m == 0 && coversRanges 3 (y :: more)

theorem WrittenEntry.pointsLeft?_of_octets {x : WrittenEntry} {xs : List WrittenOctets}
    (h : x.octets? = some xs) (n : Nat) : x.pointsLeft? n = WrittenOctets.pointsLeft? n xs := by
  rw [WrittenEntry.pointsLeft?, h]
  rfl

theorem coversRanges_of_none {x : WrittenEntry} {n : Nat} (h : x.pointsLeft? n = none)
    (more : List WrittenEntry) : coversRanges n (x :: more) = false := by
  cases more with
  | nil => simp [coversRanges, h]
  | cons y more => simp [coversRanges, h]

/-- A comma between entries with blanks at it, or one that goes on with the octets of a place. -/
theorem coversRanges_cons {x y : WrittenEntry} {n m : Nat} (h : x.pointsLeft? n = some m)
    (more : List WrittenEntry) :
    coversRanges n (x :: y :: more) =
      if x.after.chars = [] ∧ y.before.chars = [] ∧ ¬(m = 0 ∧ y.startsDotted = true) then
        coversRanges m (y :: more)
      else m == 0 && coversRanges 3 (y :: more) := by
  rw [coversRanges, h]

theorem endsOctet_listEnd (w : Blanks) (more : List WrittenEntry) (tail : List Char) :
    EndsOctet (w.chars ++ listEnd more tail) := by
  refine ⟨(endsNumber_listEnd w more tail).1, fun t ht => ?_⟩
  have htrim := trimStart_listEnd w more tail
  rw [ht, trimStart_cons_of_not_blank (by decide)] at htrim
  obtain ⟨c, u, hu, hc⟩ := listEnd_cases more tail
  obtain rfl : '-' = c := (List.cons.inj (htrim.trans hu)).1
  simp at hc

theorem listEnd_ne_point (w : Blanks) (more : List WrittenEntry) (tail t : List Char) :
    w.chars ++ listEnd more tail ≠ '.' :: t := by
  intro h
  have htrim := trimStart_listEnd w more tail
  rw [h, trimStart_cons_of_not_blank (by decide)] at htrim
  obtain ⟨c, u, hu, hc⟩ := listEnd_cases more tail
  obtain rfl : '.' = c := (List.cons.inj (htrim.trans hu)).1
  simp at hc

/-- What a list leaves: the text behind it if its entries are ranges. -/
def rangesResult (covered : Bool) (tail : List Char) : Option (List Char) :=
  if covered then some tail else none

/-- A comma between a range that needs `m` points and the next range. -/
theorem rangesResult_separator (m : Nat) (covered : Bool) (tail : List Char) :
    (if m = 0 then rangesResult covered tail else none) =
      rangesResult (m == 0 && covered) tail := by
  cases m with
  | zero => simp
  | succ m => simp [rangesResult]

section Separator

variable {x y : WrittenEntry} {more : List WrittenEntry} {tail text : List Char}

/-- What the reader of addresses does at a new entry. -/
theorem rangesRest?_next
    (hy : ∀ n, Leaves (placesRest? n (y.body ++ (y.after.chars ++ listEnd more tail)))
      (rangesResult (coversRanges n (y :: more)) tail)) :
    rangesRest? (join [','] ((y :: more).map WrittenEntry.chars) ++ '\x7d' :: tail) =
      rangesResult (coversRanges 3 (y :: more)) tail := by
  refine rangesRest?_of_leaves ?_
  rw [join_cons_listEnd, trimStart_body]
  exact hy 3

/-- Blanks in front of a comma end a range. -/
theorem leaves_blank_comma {w : Blanks} {d : Char} {u : List Char} {result : Option (List Char)}
    (hw : w.chars = d :: u)
    (hnext : rangesRest? (join [','] ((y :: more).map WrittenEntry.chars) ++ '\x7d' :: tail) =
      result) (m : Nat) :
    Leaves (placesBehind? m (w.chars ++ listEnd (y :: more) tail))
      (if m = 0 then result else none) := by
  have hblank : isBlank d = true := w.all_blank d (hw ▸ List.mem_cons_self)
  have htrim := trimStart_listEnd w (y :: more) tail
  rw [hw, List.cons_append] at htrim ⊢
  have hend : rangeEnd? (d :: (u ++ listEnd (y :: more) tail)) = result := by
    rw [rangeEnd?, htrim]
    exact hnext
  rw [← hend]
  exact (leaves_blank hblank m _).2

/-- Blanks start no interval. -/
theorem startsInterval_blanks {w : Blanks} {d : Char} {u : List Char} (hw : w.chars = d :: u)
    (rest : List Char) : startsInterval (w.chars ++ rest) = false := by
  have hblank : isBlank d = true := w.all_blank d (hw ▸ List.mem_cons_self)
  have hstar : d ≠ '*' := by
    rintro rfl
    simp [isBlank] at hblank
  rw [hw]
  simp [startsInterval, isDigit_of_isBlank hblank, hstar]

/-- **A comma in front of an entry that could stand in a range** goes on with the octets of a place,
unless the range has all its points and a single octet with a point follows. -/
theorem goesOn_entry {ys : List WrittenOctets} (hoctets : y.octets? = some ys) (m : Nat)
    (htext : text = y.body ++ (y.after.chars ++ listEnd more tail)) :
    ((m == 0 && startsAddress text) || !startsInterval text) = true ↔
      m = 0 ∧ y.startsDotted = true := by
  obtain ⟨hne, hbody⟩ := WrittenEntry.body_eq hoctets
  obtain ⟨hinterval, haddress⟩ := starts_octetList hne (endsOctet_listEnd y.after more tail).1
    (listEnd_ne_point y.after more tail)
  have hdotted : y.startsDotted = WrittenOctets.startDotted ys := by
    rw [WrittenEntry.startsDotted, hoctets]
    rfl
  rw [htext, hbody, hinterval, haddress, ← hdotted]
  simp

/-- **Behind an entry** that leaves `m` points, in front of the next one. -/
theorem leaves_listEnd {n m : Nat} (hx : x.pointsLeft? n = some m)
    (hy : ∀ k, Leaves (placesRest? k (y.body ++ (y.after.chars ++ listEnd more tail)))
      (rangesResult (coversRanges k (y :: more)) tail)) :
    Leaves (placesBehind? m (x.after.chars ++ listEnd (y :: more) tail))
      (rangesResult (coversRanges n (x :: y :: more)) tail) := by
  have htext := join_cons_listEnd y more tail
  have hnext := rangesRest?_next hy
  rw [coversRanges_cons hx]
  cases hafter : x.after.chars with
  | cons d w =>
    rw [if_neg (by simp), ← rangesResult_separator, ← hafter]
    exact leaves_blank_comma hafter hnext m
  | nil =>
    show Leaves (placesBehind? m
      (',' :: (join [','] ((y :: more).map WrittenEntry.chars) ++ '\x7d' :: tail))) _
    generalize join [','] ((y :: more).map WrittenEntry.chars) ++ '\x7d' :: tail = text at *
    have hseparate : ((m == 0 && startsAddress text) || !startsInterval text) = true →
        Leaves (placesBehind? m (',' :: text))
          (rangesResult (m == 0 && coversRanges 3 (y :: more)) tail) := by
      intro hgoes
      rw [← rangesResult_separator, ← hnext]
      exact leaves_separator hgoes
    cases hbefore : y.before.chars with
    | cons d w =>
      have hinterval : startsInterval text = false := htext ▸ startsInterval_blanks hbefore _
      rw [if_neg (by simp)]
      exact hseparate (by simp [hinterval])
    | nil =>
      rw [hbefore, List.nil_append] at htext
      have hgo : ((m == 0 && startsAddress text) || !startsInterval text) = false →
          Leaves (placesBehind? m (',' :: text))
            (rangesResult (coversRanges m (y :: more)) tail) := by
        intro hgoes
        refine leaves_comma hgoes ?_
        rw [htext]
        exact hy m
      cases hoctets : y.octets? with
      | none =>
        -- whatever the comma means here, the next entry ends the list
        have hnone : ∀ k, coversRanges k (y :: more) = false := fun k =>
          coversRanges_of_none (by rw [WrittenEntry.pointsLeft?, hoctets]; rfl) more
        rw [hnone, Bool.and_false] at hseparate
        rw [hnone] at hgo
        rw [hnone, hnone, Bool.and_false, ite_self]
        exact (Bool.eq_false_or_eq_true _).elim hseparate hgo
      | some ys =>
        have hgoes := goesOn_entry hoctets m htext
        by_cases hstop : m = 0 ∧ y.startsDotted = true
        · rw [if_neg (by simp [hstop])]
          exact hseparate (hgoes.2 hstop)
        · rw [if_pos ⟨rfl, rfl, hstop⟩]
          exact hgo (Bool.eq_false_iff.2 fun h => hstop (hgoes.1 h))

end Separator

/-- An entry leaves what its points and what follows it say. -/
theorem leaves_entry {x : WrittenEntry} {more : List WrittenEntry} {tail : List Char} {n : Nat}
    {result : Option (List Char)}
    (hfits : ∀ m, x.pointsLeft? n = some m →
      Leaves (placesBehind? m (x.after.chars ++ listEnd more tail)) result)
    (hfails : x.pointsLeft? n = none → result = none) :
    Leaves (placesRest? n (x.body ++ (x.after.chars ++ listEnd more tail))) result := by
  cases hoctets : x.octets? with
  | none =>
    rw [hfails (by rw [WrittenEntry.pointsLeft?, hoctets]; rfl)]
    exact leaves_none hoctets n _
  | some xs =>
    obtain ⟨hne, hbody⟩ := WrittenEntry.body_eq hoctets
    rw [WrittenEntry.pointsLeft?_of_octets hoctets] at hfits hfails
    rw [hbody]
    exact leaves_octetList hne (endsOctet_listEnd x.after more tail) hfits hfails

/-- **Behind the last entry** stands the closing brace. -/
theorem leaves_brace (x : WrittenEntry) (m : Nat) (tail : List Char) :
    Leaves (placesBehind? m (x.after.chars ++ listEnd [] tail)) (rangesResult (m == 0) tail) := by
  have htrim := trimStart_listEnd x.after [] tail
  have hne : ∀ c t, isBlank c = false → c ≠ '\x7d' → x.after.chars ++ listEnd [] tail ≠ c :: t := by
    intro c t hblank hc h
    rw [h, trimStart_cons_of_not_blank hblank] at htrim
    exact hc (List.cons.inj htrim).1
  have hend : rangeEnd? (x.after.chars ++ listEnd [] tail) = rangesResult true tail := by
    rw [rangeEnd?, htrim]
    rfl
  have hleaves : Leaves (placesBehind? m (x.after.chars ++ listEnd [] tail))
      (if m = 0 then rangeEnd? (x.after.chars ++ listEnd [] tail) else none) :=
    leaves_end (fun t => hne ',' t rfl (by decide)) (fun t => hne '.' t rfl (by decide))
      (fun t => hne '/' t rfl (by decide))
  rwa [hend, rangesResult_separator, Bool.and_true] at hleaves

/-- **How the reader of addresses fares** on a list of numbers that goes on with an entry in a range
that needs `n` points. -/
theorem leaves_numberList (n : Nat) (x : WrittenEntry) (more : List WrittenEntry)
    (tail : List Char) :
    Leaves (placesRest? n (x.body ++ (x.after.chars ++ listEnd more tail)))
      (rangesResult (coversRanges n (x :: more)) tail) := by
  induction more generalizing x n with
  | nil =>
    refine leaves_entry (fun m hm => ?_) (fun hnone => ?_)
    · have hcovers : coversRanges n [x] = (m == 0) := by simp [coversRanges, hm]
      rw [hcovers]
      exact leaves_brace x m tail
    · rw [coversRanges_of_none hnone]
      rfl
  | cons y more ih =>
    refine leaves_entry (fun m hm => leaves_listEnd hm fun k => ih k y) (fun hnone => ?_)
    rw [coversRanges_of_none hnone]
    rfl

/-- **A list of numbers is read as ranges of addresses** exactly if its entries are such. -/
theorem rangesRest?_numberList (x : WrittenEntry) (more : List WrittenEntry) (tail : List Char) :
    rangesRest? (join [','] ((x :: more).map WrittenEntry.chars) ++ '\x7d' :: tail) =
      rangesResult (coversRanges 3 (x :: more)) tail := by
  refine rangesRest?_of_leaves ?_
  rw [join_cons_listEnd, trimStart_body]
  exact leaves_numberList 3 x more tail

/-- A number is no text in quotes. -/
theorem quotedItem?_written (x : WrittenNumber) (rest : List Char) :
    quotedItem? (x.chars ++ rest) = none := by
  obtain ⟨c, t, ht, hc⟩ := x.chars_cons rest
  have hquote : isQuote c = false := by
    rcases hc with rfl | rfl | hc
    · rfl
    · rfl
    · exact not_isQuote_of_isDigit hc
  rw [ht]
  simp only [quotedItem?, quotation, hquote, Bool.false_eq_true, if_false]

theorem length_le_numberList (entries : List WrittenEntry) :
    entries.length ≤ (join [','] (entries.map WrittenEntry.chars)).length + 1 := by
  induction entries with
  | nil => simp
  | cons x more ih =>
    cases more with
    | nil => simp
    | cons y more => simp [join] at ih ⊢; omega

section NumberList

variable (x : WrittenEntry) (more : List WrittenEntry) (tail : List Char)

theorem numberList_append : numberList (x :: more) ++ tail =
    '\x7b' :: (join [','] ((x :: more).map WrittenEntry.chars) ++ '\x7d' :: tail) := by
  simp [numberList]

/-- A list of numbers is read as ranges of addresses, and as numbers if that fails. -/
theorem readBody?_numberList :
    Literal.readBody? (join [','] ((x :: more).map WrittenEntry.chars) ++ '\x7d' :: tail) =
      (readListOf? .addresses addressItem?
        (join [','] ((x :: more).map WrittenEntry.chars) ++ '\x7d' :: tail)).or
          (some (.numbers ((x :: more).map WrittenEntry.value), tail)) := by
  have hfuel : more.length <
      (join [','] ((x :: more).map WrittenEntry.chars) ++ '\x7d' :: tail).length + 1 := by
    have hlength := length_le_numberList (x :: more)
    simp only [List.length_append, List.length_cons] at hlength ⊢
    omega
  have hstrings : quotedItem?
      (trimStart (join [','] ((x :: more).map WrittenEntry.chars) ++ '\x7d' :: tail)) = none := by
    rw [join_cons_listEnd, trimStart_body, x.body_append]
    exact quotedItem?_written x.low _
  have hnumbers : readListOf? .numbers numberItem?
      (join [','] ((x :: more).map WrittenEntry.chars) ++ '\x7d' :: tail) =
        some (.numbers ((x :: more).map WrittenEntry.value), tail) := by
    rw [readListOf?]
    rw [join_cons_listEnd] at hfuel ⊢
    rw [readEntries_numberList x more tail hfuel]
    rfl
  rw [Literal.readBody?, readListOf?_none .strings hstrings, hnumbers]
  rfl

variable {x more}

/-- **Entries that are no ranges of addresses read as numbers.** -/
theorem Literal.read_numbers (h : coversRanges 3 (x :: more) = false) :
    Literal.read (numberList (x :: more) ++ tail) =
      .ok (.numbers ((x :: more).map WrittenEntry.value), tail) := by
  have hranges := rangesRest?_numberList x more tail
  rw [h] at hranges
  rw [numberList_append]
  refine Literal.read_of_readBody? ?_
  rw [readBody?_numberList, readListOf?, Option.map_eq_none_iff.1 hranges]
  rfl

/-- **Entries that are ranges of addresses read as such.** -/
theorem Literal.read_ranges (h : coversRanges 3 (x :: more) = true) :
    ∃ ranges, Literal.read (numberList (x :: more) ++ tail) = .ok (.addresses ranges, tail) := by
  have hranges := rangesRest?_numberList x more tail
  rw [h] at hranges
  obtain ⟨⟨ranges, rest⟩, hentries, rfl⟩ := Option.map_eq_some_iff.1 hranges
  refine ⟨ranges, ?_⟩
  rw [numberList_append]
  refine Literal.read_of_readBody? ?_
  rw [readBody?_numberList, readListOf?, hentries]
  rfl

end NumberList

/-- **What a list of numbers reads as.**  Its entries are numbers with or without a sign and a
fraction, and intervals of such with two points or a dash, with blanks around all of them.  Unless
they are ranges of addresses from first to last, the list reads as the numbers that were written, in
order.  If they are, it reads as ranges of addresses. -/
theorem Literal.read_numberList (x : WrittenEntry) (more : List WrittenEntry) (tail : List Char) :
    (coversRanges 3 (x :: more) = false →
      Literal.read (numberList (x :: more) ++ tail) =
        .ok (.numbers ((x :: more).map WrittenEntry.value), tail)) ∧
    (coversRanges 3 (x :: more) = true →
      ∃ ranges, Literal.read (numberList (x :: more) ++ tail) = .ok (.addresses ranges, tail)) :=
  ⟨Literal.read_numbers tail, Literal.read_ranges tail⟩

/-- An entry that is a number with one digit on each side of its point, without blanks. -/
def dottedEntry (c d : Char) (hc : c.isDigit = true) (hd : d.isDigit = true) : WrittenEntry where
  before := ⟨[], by simp⟩
  low := ⟨none, ⟨[c], by simp, by simpa using hc⟩, some ⟨[d], by simp, by simpa using hd⟩⟩
  high := none
  after := ⟨[], by simp⟩

/-- Three numbers without blanks at their commas that read as one range: `1.2,3.4,5.6`. -/
theorem Literal.read_numberList_range :
    ∃ x more, numberList (x :: more) = "\x7b1.2,3.4,5.6\x7d".toList ∧
      Literal.read "\x7b1.2,3.4,5.6\x7d".toList =
        .ok (.addresses [⟨[.single 1], [.single 2, .single 3], [.single 4, .single 5],
          [.single 6]⟩], []) ∧
      Literal.read (numberList (x :: more)) ≠
        .ok (.numbers ((x :: more).map WrittenEntry.value), []) := by
  have hread : Literal.read "\x7b1.2,3.4,5.6\x7d".toList =
      .ok (.addresses [⟨[.single 1], [.single 2, .single 3], [.single 4, .single 5],
        [.single 6]⟩], []) :=
    rfl
  have htext : numberList [dottedEntry '1' '2' rfl rfl, dottedEntry '3' '4' rfl rfl,
      dottedEntry '5' '6' rfl rfl] = "\x7b1.2,3.4,5.6\x7d".toList := rfl
  refine ⟨_, _, htext, hread, ?_⟩
  rw [htext, hread]
  simp

end DisplayFilter
