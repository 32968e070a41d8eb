import DisplayFilter.Proofs.Address.Coverage
import DisplayFilter.Proofs.Literal.NumberLists

/-!
# Octets in numbers

Points and dashes stand in numbers and in ranges of addresses.  An entry of a list of numbers is
read by the reader of addresses as one to three octets with points between them, unless it has a
sign or two points.  Such an entry ends every list of ranges.

* `WrittenOctets` — octets as they are written, `WrittenOctets.pointsLeft?` — how they fit into a
  range;
* `WrittenEntry.octets?` — the octets of an entry that could stand in a range;
* **`leaves_octetList`** — octets are read if they are valid and fit;
* **`leaves_none`** — an entry that cannot stand in a range ends the list;
* **`starts_octetList`** — what a comma in front of octets means.
-/

namespace DisplayFilter

open Text

/-! ### Octets -/

/-- **Octets as they are written:** a single one, or two with a dash between them. -/
inductive WrittenOctets where
  | single (digits : Digits)
  | range (low high : Digits)

namespace WrittenOctets

def chars : WrittenOctets → List Char
  | single digits => digits.chars
  | range low high => low.chars ++ '-' :: high.chars

/-- Octets are below 256 and in order. -/
def isValid : WrittenOctets → Bool
  | single digits => decimalValue digits.chars ≤ 255
  | range low high =>
    decimalValue low.chars ≤ decimalValue high.chars && decimalValue high.chars ≤ 255

/-- The points that a range still needs behind some octets, if it needed `n` of them in front of
these and they fit into it. -/
def pointsLeft? : Nat → List WrittenOctets → Option Nat
  | n, [] => some n
  | n, [x] => if x.isValid then some n else none
  | 0, _ :: _ :: _ => none
  | n + 1, x :: y :: more => if x.isValid then pointsLeft? n (y :: more) else none

end WrittenOctets

/-- Whether octets start with a single one and a point. -/
def WrittenOctets.startDotted : List WrittenOctets → Bool
  | .single _ :: _ :: _ => true
  | _ => false

/-- The octets of a number, one or two. -/
def WrittenNumber.octets (x : WrittenNumber) : List WrittenOctets :=
  .single x.digits :: x.places.elim [] fun places => [.single places]

/-- **The octets of an entry** that could stand in a range of addresses: there are no signs in front
of its numbers, and an interval has a dash without blanks. -/
def WrittenEntry.octets? (x : WrittenEntry) : Option (List WrittenOctets) :=
  if x.low.sign = none then
    match x.high with
    | none => some x.low.octets
    | some high =>
      if high.number.sign = none ∧ high.points = false ∧ high.before.chars = [] ∧
          high.after.chars = [] then
        let behind := high.number.octets.tail
        match x.low.places with
        | none => some (.range x.low.digits high.number.digits :: behind)
        | some places =>
          some (.single x.low.digits :: .range places high.number.digits :: behind)
      else none
  else none

/-- The points that a range still needs behind an entry, if the entry fits into it. -/
def WrittenEntry.pointsLeft? (n : Nat) (x : WrittenEntry) : Option Nat :=
  x.octets?.bind (WrittenOctets.pointsLeft? n)

/-- Whether an entry starts with a single octet and a point. -/
def WrittenEntry.startsDotted (x : WrittenEntry) : Bool :=
  x.octets?.any WrittenOctets.startDotted

/-! ### Octets in ranges -/

theorem endsOctet_point (t : List Char) : EndsOctet ('.' :: t) :=
  ⟨stops_cons.2 (by decide), by simp⟩

/-- A range without points to come has none. -/
theorem leaves_point_zero (t : List Char) : Leaves (placesBehind? 0 ('.' :: t)) none :=
  Or.inr ⟨'.' :: t, rfl, by simp, rangeEnd?_eq_none (Or.inl (trimStart_cons_of_not_blank rfl t))⟩

/-- A dash behind octets ends every list of ranges. -/
theorem leaves_dash (n : Nat) (t : List Char) : Leaves (placesBehind? n ('-' :: t)) none := by
  have hend : rangeEnd? ('-' :: t) = none :=
    rangeEnd?_eq_none (Or.inr (trimStart_cons_of_not_blank rfl t))
  have hleaves : Leaves (placesBehind? n ('-' :: t))
      (if n = 0 then rangeEnd? ('-' :: t) else none) :=
    leaves_end (by simp) (by simp) (by simp)
  rwa [hend, ite_self] at hleaves

/-- Behind the first octets stand a point and the next ones, or the rest. -/
theorem octetList_append (x : WrittenOctets) (more : List WrittenOctets) (rest : List Char) :
    join ['.'] ((x :: more).map WrittenOctets.chars) ++ rest =
      x.chars ++ if more = [] then rest
        else '.' :: (join ['.'] (more.map WrittenOctets.chars) ++ rest) := by
  cases more with
  | nil => simp [join]
  | cons y more => simp [join]

section Octets

variable {n : Nat} {rest : List Char} {result : Option (List Char)}

/-- **Octets are read if they are valid,** and end every list of ranges if they are not. -/
theorem leaves_octets (x : WrittenOctets) (hrest : EndsOctet rest)
    (hvalid : x.isValid = true → Leaves (placesBehind? n rest) result)
    (hinvalid : x.isValid = false → result = none) :
    Leaves (placesRest? n (x.chars ++ rest)) result := by
  cases x with
  | single digits =>
    have hread := OctetInterval.rest?_single digits.ne_nil digits.all_digits hrest
    by_cases hlarge : 255 < decimalValue digits.chars
    · rw [if_pos hlarge] at hread
      rw [hinvalid (by simpa [WrittenOctets.isValid] using hlarge)]
      exact leaves_places_none hread
    · rw [if_neg hlarge] at hread
      exact leaves_places hread (hvalid (by simpa [WrittenOctets.isValid] using hlarge))
  | range low high =>
    have hread := OctetInterval.rest?_range low.ne_nil low.all_digits high.ne_nil high.all_digits
      hrest.1
    have hchars : (WrittenOctets.range low high).chars ++ rest =
        low.chars ++ '-' :: (high.chars ++ rest) := by
      simp [WrittenOctets.chars]
    rw [hchars]
    simp only [WrittenOctets.isValid, Bool.and_eq_true, Bool.and_eq_false_iff, decide_eq_true_eq,
      decide_eq_false_iff_not] at hvalid hinvalid
    by_cases hlow : 255 < decimalValue low.chars
    · rw [if_pos hlow] at hread
      rw [hinvalid (by omega)]
      exact leaves_places_none hread
    · rw [if_neg hlow] at hread
      by_cases hhigh : 255 < decimalValue high.chars
      · rw [if_pos hhigh] at hread
        rw [hinvalid (by omega)]
        exact leaves_places hread (leaves_dash n _)
      · rw [if_neg hhigh] at hread
        by_cases hle : decimalValue low.chars ≤ decimalValue high.chars
        · rw [if_pos hle] at hread
          exact leaves_places hread (hvalid ⟨hle, by omega⟩)
        · rw [if_neg hle] at hread
          rw [hinvalid (by omega)]
          exact leaves_places_none hread

/-- **Octets with points between them are read** if they are valid and fit into the range. -/
theorem leaves_octetList {xs : List WrittenOctets} (hne : xs ≠ []) (hrest : EndsOctet rest)
    (hfits : ∀ m, WrittenOctets.pointsLeft? n xs = some m → Leaves (placesBehind? m rest) result)
    (hfails : WrittenOctets.pointsLeft? n xs = none → result = none) :
    Leaves (placesRest? n (join ['.'] (xs.map WrittenOctets.chars) ++ rest)) result := by
  induction xs generalizing n with
  | nil => exact absurd rfl hne
  | cons x more ih =>
    cases more with
    | nil =>
      refine leaves_octets x hrest (fun hvalid => hfits n ?_) (fun hinvalid => hfails ?_)
      · rw [WrittenOctets.pointsLeft?, if_pos hvalid]
      · rw [WrittenOctets.pointsLeft?, if_neg (by simp [hinvalid])]
    | cons y more =>
      rw [octetList_append, if_neg (by simp)]
      cases n with
      | zero =>
        obtain rfl : result = none := hfails rfl
        exact leaves_octets x (endsOctet_point _) (fun _ => leaves_point_zero _) (fun _ => rfl)
      | succ n =>
        rw [WrittenOctets.pointsLeft?] at hfits hfails
        refine leaves_octets x (endsOctet_point _) (fun hvalid => leaves_point ?_)
          (fun hinvalid => hfails (if_neg (by simp [hinvalid])))
        rw [if_pos hvalid] at hfits hfails
        exact ih (by simp) hfits hfails

end Octets

/-! ### Entries in ranges -/

/-- The places of a number behind octets that stand for its whole part. -/
theorem WrittenNumber.join_octets (x : WrittenNumber) (first : WrittenOctets) :
    join ['.'] (first.chars :: x.octets.tail.map WrittenOctets.chars) =
      first.chars ++ x.places.elim [] fun places => '.' :: places.chars := by
  unfold WrittenNumber.octets
  cases x.places with
  | none => simp [join]
  | some places => simp [join, WrittenOctets.chars]

theorem WrittenNumber.unsigned_eq (x : WrittenNumber) :
    x.unsigned = join ['.'] (x.octets.map WrittenOctets.chars) :=
  (x.join_octets (.single x.digits)).symm

theorem WrittenNumber.chars_of_sign {x : WrittenNumber} (h : x.sign = none) :
    x.chars = x.unsigned := by
  rw [WrittenNumber.chars, h]
  rfl

/-- An entry that could stand in a range is written with points between its octets. -/
theorem WrittenEntry.body_eq {x : WrittenEntry} {xs : List WrittenOctets}
    (h : x.octets? = some xs) : xs ≠ [] ∧
      x.body = join ['.'] (xs.map WrittenOctets.chars) := by
  simp only [WrittenEntry.octets?, Option.ite_none_right_eq_some] at h
  obtain ⟨hsign, h⟩ := h
  rw [WrittenEntry.body, WrittenNumber.chars_of_sign hsign]
  cases hhigh : x.high with
  | none =>
    rw [hhigh] at h
    obtain rfl : x.low.octets = xs := Option.some.inj h
    exact ⟨by simp [WrittenNumber.octets], by simp [WrittenNumber.unsigned_eq]⟩
  | some high =>
    rw [hhigh] at h
    simp only [Option.ite_none_right_eq_some] at h
    obtain ⟨⟨hsignhigh, hpoints, hbefore, hafter⟩, h⟩ := h
    have hend : high.chars = '-' :: high.number.unsigned := by
      simp [WrittenEnd.chars, hbefore, hafter, hpoints, WrittenNumber.chars_of_sign hsignhigh]
    simp only [Option.elim_some, hend, WrittenNumber.unsigned]
    cases hplaces : x.low.places with
    | none =>
      rw [hplaces] at h
      obtain rfl := Option.some.inj h
      refine ⟨by simp, ?_⟩
      rw [List.map_cons, WrittenNumber.join_octets]
      simp [WrittenOctets.chars]
    | some places =>
      rw [hplaces] at h
      obtain rfl := Option.some.inj h
      refine ⟨by simp, ?_⟩
      simp only [List.map_cons, join, WrittenNumber.join_octets]
      simp [WrittenOctets.chars]

theorem readOctet_of_stops {t : List Char} (h : Stops Char.isDigit t) :
    ∃ stop, readOctet t = .error stop := by
  refine ⟨⟨.expectedOctet t, t⟩, ?_⟩
  simp [readOctet, takeWhile_of_stops h]

/-- A blank goes on with no octets, and ends a range that has all its points. -/
theorem leaves_blank {d : Char} (hd : isBlank d = true) (n : Nat) (u : List Char) :
    EndsOctet (d :: u) ∧
      Leaves (placesBehind? n (d :: u)) (if n = 0 then rangeEnd? (d :: u) else none) := by
  have hne : ∀ c t, isBlank c = false → d :: u ≠ c :: t := by
    intro c t hc h
    obtain rfl : d = c := (List.cons.inj h).1
    simp [hc] at hd
  refine ⟨⟨stops_cons.2 (isDigit_of_isBlank hd), fun t ht => absurd ht (hne '-' t rfl)⟩, ?_⟩
  exact leaves_end (fun t => hne ',' t rfl) (fun t => hne '.' t rfl) (fun t => hne '/' t rfl)

/-- **Blanks in front of a point or a dash** end every list of ranges. -/
theorem leaves_blank_sign {d c : Char} {w : Blanks} {t u : List Char} (hd : isBlank d = true)
    (hu : w.chars ++ c :: t = d :: u) (hc : c = '.' ∨ c = '-') :
    EndsOctet (w.chars ++ c :: t) ∧ ∀ n, Leaves (placesBehind? n (w.chars ++ c :: t)) none := by
  have htrim : trimStart (w.chars ++ c :: t) = c :: t := by
    rw [trimStart_blanks]
    rcases hc with rfl | rfl
    · exact trimStart_cons_of_not_blank rfl t
    · exact trimStart_cons_of_not_blank rfl t
  have hend : rangeEnd? (w.chars ++ c :: t) = none := by
    refine rangeEnd?_eq_none (t := t) ?_
    rw [htrim]
    rcases hc with rfl | rfl
    · exact Or.inl rfl
    · exact Or.inr rfl
  refine ⟨hu ▸ (leaves_blank hd 0 u).1, fun n => ?_⟩
  have hleaves := (leaves_blank hd n u).2
  rw [← hu, hend, ite_self] at hleaves
  exact hleaves

/-- Behind blanks or in front of a sign stands no digit. -/
theorem stops_digit_of_sign (w : Blanks) {x : WrittenNumber}
    (h : ¬(x.sign = none ∧ w.chars = [])) (rest : List Char) :
    Stops Char.isDigit (w.chars ++ (x.chars ++ rest)) := by
  cases hw : w.chars with
  | cons d more => exact stops_cons.2 (isDigit_of_isBlank (w.all_blank d (hw ▸ List.mem_cons_self)))
  | nil =>
    rw [List.nil_append, x.chars_append]
    cases hsign : x.sign with
    | none => exact absurd ⟨hsign, hw⟩ h
    | some sign =>
      cases sign with
      | plus => exact stops_cons.2 (by decide)
      | minus => exact stops_cons.2 (by decide)

/-- **Two points, or blanks or a sign at a dash,** end every list of ranges. -/
theorem leaves_writtenEnd {x : WrittenEnd}
    (h : ¬(x.number.sign = none ∧ x.points = false ∧ x.before.chars = [] ∧ x.after.chars = []))
    (rest : List Char) :
    EndsOctet (x.chars ++ rest) ∧ ∀ n, Leaves (placesBehind? n (x.chars ++ rest)) none := by
  rw [x.chars_append]
  cases hpoints : x.points with
  | true =>
    obtain ⟨d, u, hu, hd | ⟨hnil, -, -⟩⟩ := blanks_append_cases x.before '.'
      ('.' :: (x.after.chars ++ (x.number.chars ++ rest)))
    · exact leaves_blank_sign hd hu (Or.inl rfl)
    · rw [hnil]
      refine ⟨endsOctet_point _, fun n => ?_⟩
      cases n with
      | zero => exact leaves_point_zero _
      | succ n => exact leaves_point (leaves_places_none rfl)
  | false =>
    obtain ⟨d, u, hu, hd | ⟨hnil, -, -⟩⟩ := blanks_append_cases x.before '-'
      (x.after.chars ++ (x.number.chars ++ rest))
    · exact leaves_blank_sign hd hu (Or.inr rfl)
    · rw [hnil]
      have hstops : Stops Char.isDigit (x.after.chars ++ (x.number.chars ++ rest)) :=
        stops_digit_of_sign x.after (fun hsign => h ⟨hsign.1, hpoints, hnil, hsign.2⟩) rest
      refine ⟨⟨stops_cons.2 (by decide), fun t ht => ?_⟩, fun n => leaves_dash n _⟩
      exact readOctet_of_stops ((List.cons.inj ht).2 ▸ hstops)

/-- **An entry that cannot stand in a range** ends every list of ranges. -/
theorem leaves_none {x : WrittenEntry} (h : x.octets? = none) (n : Nat) (rest : List Char) :
    Leaves (placesRest? n (x.body ++ rest)) none := by
  rw [x.body_append]
  cases hsign : x.low.sign with
  | some sign =>
    rw [x.low.chars_append, hsign]
    cases sign with
    | plus => exact leaves_places_none rfl
    | minus => exact leaves_places_none rfl
  | none =>
    rw [WrittenNumber.chars_of_sign hsign, x.low.unsigned_eq]
    simp only [WrittenEntry.octets?, hsign, if_true] at h
    cases hhigh : x.high with
    | none => simp [hhigh] at h
    | some high =>
      simp only [hhigh, ite_eq_right_iff] at h
      have hcond : ¬(high.number.sign = none ∧ high.points = false ∧ high.before.chars = [] ∧
          high.after.chars = []) := by
        intro hcond
        have hnone := h hcond
        cases hplaces : x.low.places with
        | none => simp [hplaces] at hnone
        | some places => simp [hplaces] at hnone
      obtain ⟨hends, hleaves⟩ := leaves_writtenEnd hcond rest
      exact leaves_octetList (by simp [WrittenNumber.octets]) hends (fun m _ => hleaves m)
        (fun _ => rfl)

/-- What digits start. -/
theorem starts_digits (digits : Digits) {u : List Char} (hu : Stops Char.isDigit u) :
    startsInterval (digits.chars ++ u) = true ∧
      startsAddress (digits.chars ++ u) = (u.head? == some '.') := by
  obtain ⟨c, more, hc⟩ := List.exists_cons_of_ne_nil digits.ne_nil
  have hfirst : c.isDigit = true := digits.all_digits c (hc ▸ List.mem_cons_self)
  constructor
  · simp [startsInterval, hc, hfirst]
  · simp only [startsAddress, trimStart_of_stops (digits.stops_blank u),
      dropWhile_append_of_stops digits.all_digits hu]
    simp [hc, hfirst]

/-- **What octets start:** an interval, and an address if they are single with a point behind. -/
theorem starts_octetList {xs : List WrittenOctets} (hne : xs ≠ []) {rest : List Char}
    (hdigit : Stops Char.isDigit rest) (hpoint : ∀ t, rest ≠ '.' :: t) :
    startsInterval (join ['.'] (xs.map WrittenOctets.chars) ++ rest) = true ∧
      startsAddress (join ['.'] (xs.map WrittenOctets.chars) ++ rest) =
        WrittenOctets.startDotted xs := by
  obtain ⟨x, more, rfl⟩ := List.exists_cons_of_ne_nil hne
  rw [octetList_append]
  cases x with
  | range low high =>
    rw [WrittenOctets.chars, List.append_assoc, List.cons_append]
    exact starts_digits low (stops_cons.2 (by decide))
  | single digits =>
    cases more with
    | nil =>
      obtain ⟨hinterval, haddress⟩ := starts_digits digits hdigit
      rw [head?_beq_of_ne hpoint] at haddress
      exact ⟨hinterval, haddress⟩
    | cons y more => exact starts_digits digits (stops_cons.2 (by decide))

end DisplayFilter
