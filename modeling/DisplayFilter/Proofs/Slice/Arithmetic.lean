import DisplayFilter.Proofs.Slice.Chunks
import DisplayFilter.Slice.Reading
import DisplayFilter.Slice.Slicer

/-!
# Arithmetic of slices

The bounds of a slice are any numbers of sixty-four bits, and slicing adds to them and subtracts from them.
Here slicing is run with every sum, every difference and every access checked.  The checked run agrees with
slicing, with one exception: on a text with a separator a bound is decreased, and the least number has
none below it.

* `SliceFailure` — how a checked run ends early, `Checked` — its steps;
* `SlicerSet.checkedSlice` — slicing a value with all steps checked;
* `Slice.Overruns` — whether a slice gets to the least bound on a text with a separator;
* **`checkedSlice_exact`** — the checked run is slicing, unless the slice overruns.
-/

namespace DisplayFilter

open Text

/-! ### Checked steps -/

/-- **How a checked run ends early:** as slicing does, at a number outside of sixty-four bits, or at an
access behind the end. -/
inductive SliceFailure where
  | fault (e : SliceError)
  | overflow (n : Int)
  | outOfBounds (place size : Nat)
  deriving DecidableEq

/-- The result of checked steps. -/
abbrev Checked := Except SliceFailure

/-- A number within sixty-four bits. -/
def Checked.number (n : Int) : Checked Int64 :=
  if fitsInt64 n then .ok (Int64.ofInt n) else .error (.overflow n)

/-- The member of a list at a place. -/
def Checked.member {α : Type} (s : List α) (place : Nat) : Checked α :=
  match s[place]? with
  | some a => .ok a
  | none => .error (.outOfBounds place s.length)

/-- The members of a list between two places. -/
def Checked.between {α : Type} (s : List α) (first last : Nat) : Checked (List α) :=
  if first ≤ last ∧ last ≤ s.length then .ok ((s.take last).drop first)
  else .error (.outOfBounds last s.length)

/-- A number counted from the start of `length` members. -/
def Checked.fromStart (length n : Int64) : Checked Int64 :=
  if n < 0 then Checked.number (n.toInt + length.toInt) else pure n

/-- Indices. -/
def Checked.resolveIndex (index : Int64) (size : Nat) : Checked Nat := do
  let length ← Checked.number size
  let place ← Checked.fromStart length index
  if place < 0 ∨ length ≤ place then .error (.fault (.indexOutOfRange index size))
  else pure place.toInt.toNat

/-- Bounds, clamped. -/
def Checked.clampBound (length bound : Int64) : Checked Int64 := do
  let place ← Checked.fromStart length bound
  pure (if bound < 0 then (if place < 0 then 0 else place)
    else if place ≤ length then place else length)

/-- A bound that may be open. -/
def Checked.endOf (length atOpen : Int64) : Option Int64 → Checked Int64
  | none => pure atOpen
  | some bound => Checked.clampBound length bound

/-- Ranges. -/
def Checked.cut {α : Type} (start stop : Option Int64) (s : List α) : Checked (List α) := do
  let length ← Checked.number s.length
  let first ← Checked.endOf length 0 start
  let last ← Checked.endOf length length stop
  if last ≤ first then pure [] else Checked.between s first.toInt.toNat last.toInt.toNat

/-- Bounds of a range, by characters or by chunks. -/
def Checked.chunkBound (separator : Option Char) (s : List Char) (side : RangeEnd) (bound : Int64) :
    Checked Int64 :=
  match separator with
  | none => pure bound
  | some c =>
    if bound = 0 then pure bound
    else do
      let index ← Checked.number (bound.toInt - 1)
      let i ← Checked.resolveIndex index (separatorPlaces c 0 s).length
      let separatorPlace ← Checked.member (separatorPlaces c 0 s) i
      let place ← Checked.number separatorPlace
      if side = .start then Checked.number (place.toInt + 1) else pure place

/-- Bounds of a range that may be open. -/
def Checked.optionalBound (separator : Option Char) (s : List Char) (side : RangeEnd) :
    Option Int64 → Checked (Option Int64)
  | none => pure none
  | some bound => (Checked.chunkBound separator s side bound).map some

/-- The text that one part of a slice picks. -/
def SliceEntry.checkedPick (separator : Option Char) (s : List Char) : SliceEntry → Checked (List Char)
  | .index i => do
    let place ← Checked.resolveIndex i (parts separator s).length
    Checked.member (parts separator s) place
  | .range start stop => do
    let start ← Checked.optionalBound separator s .start start
    let stop ← Checked.optionalBound separator s .stop stop
    Checked.cut start stop s

/-- The text that a slice picks. -/
def Slice.checkedPick (slice : Slice) (separator : Option Char) (s : List Char) :
    Checked (List Char) := do
  let picked ← slice.mapM (SliceEntry.checkedPick separator s)
  pure (join separator.toList picked)

/-- **Slicing a value with every step checked.** -/
def SlicerSet.checkedSlice (slicers : SlicerSet) (slice : Slice) : Value → Checked Value
  | .null => .ok .null
  | .list _ => .error (.fault (.unsliceable .list))
  | .map _ => .error (.fault (.unsliceable .map))
  | v => do
    let prepared := slicers.prepare v
    let picked ← slice.checkedPick prepared.separator prepared.text
    pure (.string (String.ofList picked))

/-- **Normalising a range with a dash,** with its step checked. -/
def SliceEntry.checkedDash (start stop : Int64) : Checked SliceEntry :=
  (if start < 0 then pure start else Checked.number (start.toInt - 1)).map fun first =>
    .range (some first) (some stop)

/-! ### Slices that overrun -/

/-- Whether a part of a slice decreases the least bound. -/
def SliceEntry.Overruns (separator : Option Char) (s : List Char) : SliceEntry → Prop
  | .index _ => False
  | .range start stop => separator ≠ none ∧ (start = some Int64.minValue ∨
      (∃ place, optionalBound separator s .start start = .ok place) ∧ stop = some Int64.minValue)

/-- **Whether a slice gets to the least bound** of a range, on a text with a separator. -/
def Slice.Overruns (separator : Option Char) (s : List Char) (slice : Slice) : Prop :=
  ∃ front entry behind, slice = front ++ entry :: behind ∧
    (∀ e ∈ front, ∃ t, e.pick separator s = .ok t) ∧ entry.Overruns separator s

/-- Whether slicing a value gets to the least bound. -/
def SlicerSet.Overruns (slicers : SlicerSet) (slice : Slice) : Value → Prop
  | .null | .list _ | .map _ => False
  | v => slice.Overruns (slicers.prepare v).separator (slicers.prepare v).text

/-! ### Numbers -/

theorem Checked.number_eq {n : Int} (hlow : int64Min ≤ n) (hhigh : n ≤ int64Max) :
    ∃ x : Int64, Checked.number n = .ok x ∧ x.toInt = n :=
  have hfits : fitsInt64 n = true := fitsInt64_iff.2 ⟨hlow, hhigh⟩
  ⟨Int64.ofInt n, if_pos hfits, toInt_ofInt hfits⟩

/-- A length is a number within sixty-four bits. -/
theorem Checked.number_natCast {n : Nat} (h : (n : Int) ≤ int64Max) :
    ∃ x : Int64, Checked.number n = .ok x ∧ x.toInt = n :=
  Checked.number_eq (by unfold int64Min; omega) h

theorem int64Min_le_toInt (n : Int64) : int64Min ≤ n.toInt :=
  n.minValue_le_toInt

theorem toInt_le_int64Max (n : Int64) : n.toInt ≤ int64Max :=
  n.toInt_le

theorem toInt_neg_iff (n : Int64) : n < 0 ↔ n.toInt < 0 :=
  Int64.lt_iff_toInt_lt

/-- **Counting from the start** needs no number outside of sixty-four bits. -/
theorem Checked.fromStart_eq {size : Nat} {length : Int64} (hlength : length.toInt = size) (n : Int64) :
    ∃ place : Int64, Checked.fromStart length n = .ok place ∧
      place.toInt = DisplayFilter.fromStart size n := by
  have hlow := int64Min_le_toInt n
  have hhigh := toInt_le_int64Max length
  unfold Checked.fromStart DisplayFilter.fromStart
  by_cases hneg : n.toInt < 0
  · rw [if_pos hneg, if_pos ((toInt_neg_iff n).2 hneg), hlength]
    exact Checked.number_eq (by omega) (by omega)
  · rw [if_neg hneg, if_neg (mt (toInt_neg_iff n).1 hneg)]
    exact ⟨n, rfl, rfl⟩

/-- **Indices** need none either. -/
theorem Checked.resolveIndex_eq (index : Int64) {size : Nat} (hsize : (size : Int) ≤ int64Max) :
    Checked.resolveIndex index size = (DisplayFilter.resolveIndex index size).mapError .fault := by
  obtain ⟨length, hlength, hvalue⟩ := Checked.number_natCast hsize
  obtain ⟨place, hplace, hcount⟩ := Checked.fromStart_eq hvalue index
  have hout : (place < 0 ∨ length ≤ place) ↔ ¬ IsIndex size index := by
    rw [isIndex_iff, toInt_neg_iff, Int64.le_iff_toInt_le, hvalue, hcount]
    omega
  unfold Checked.resolveIndex
  simp only [hlength, hplace, hout, bind, Except.bind, DisplayFilter.resolveIndex_eq]
  by_cases hindex : IsIndex size index
  · rw [if_neg (fun h => h hindex), if_pos hindex, hcount]
    rfl
  · rw [if_pos hindex, if_neg hindex]
    rfl

/-- **Clamping** needs none either. -/
theorem Checked.clampBound_eq {size : Nat} {length : Int64} (hlength : length.toInt = size)
    (bound : Int64) :
    ∃ place : Int64, Checked.clampBound length bound = .ok place ∧
      place.toInt = DisplayFilter.clampBound size bound.toInt := by
  obtain ⟨place, hplace, hcount⟩ := Checked.fromStart_eq hlength bound
  unfold Checked.clampBound
  rw [hplace]
  refine ⟨_, rfl, ?_⟩
  unfold DisplayFilter.fromStart at hcount
  unfold DisplayFilter.clampBound
  simp only [toInt_neg_iff, Int64.le_iff_toInt_le]
  by_cases hneg : bound.toInt < 0
  · rw [if_pos hneg] at hcount ⊢
    rw [if_pos hneg, ← hcount]
    split
    · rw [Int64.toInt_zero]
      omega
    · omega
  · rw [if_neg hneg] at hcount ⊢
    rw [if_neg hneg, hcount, hlength]
    split <;> omega

/-- A bound that may be open is clamped, or stands at its end. -/
theorem Checked.endOf_eq {size place : Nat} {length atOpen : Int64}
    (hlength : length.toInt = size) (hopen : atOpen.toInt = place) (bound : Option Int64) :
    ∃ x : Int64, Checked.endOf length atOpen bound = .ok x ∧
      x.toInt = (((bound.map Int64.toInt).map (DisplayFilter.clampBound size)).getD place : Nat) := by
  cases bound with
  | none => exact ⟨atOpen, rfl, hopen⟩
  | some n => exact Checked.clampBound_eq hlength n

theorem clampBound_le (size : Nat) (bound : Int) : clampBound size bound ≤ size := by
  unfold clampBound
  split <;> omega

/-- **Cutting** needs no number outside of sixty-four bits and no member outside of the list. -/
theorem Checked.cut_eq {α : Type} {s : List α} (hs : (s.length : Int) < int64Max)
    (start stop : Option Int64) :
    Checked.cut start stop s =
      .ok (DisplayFilter.cut (start.map Int64.toInt) (stop.map Int64.toInt) s) := by
  obtain ⟨length, hlength, hvalue⟩ := Checked.number_natCast (Int.le_of_lt hs)
  have hzero : (0 : Int64).toInt = (0 : Nat) := Int64.toInt_zero
  obtain ⟨first, hfirst, hstart⟩ := Checked.endOf_eq hvalue hzero start
  obtain ⟨last, hlast, hstop⟩ := Checked.endOf_eq hvalue hvalue stop
  have hinside : last.toInt ≤ s.length := by
    rw [hstop]
    cases stop with
    | none => exact Int.le_refl _
    | some n => exact Int.ofNat_le.2 (clampBound_le s.length n.toInt)
  unfold Checked.cut
  simp only [hlength, hfirst, hlast, bind, Except.bind, Int64.le_iff_toInt_le]
  have hcut : DisplayFilter.cut (start.map Int64.toInt) (stop.map Int64.toInt) s =
      (s.take last.toInt.toNat).drop first.toInt.toNat := by
    rw [hstart, hstop]
    rfl
  rw [hcut]
  split
  · next hle =>
    rw [List.drop_eq_nil_of_le]
    · rfl
    · rw [List.length_take]
      omega
  · next hlt =>
    unfold Checked.between
    rw [if_pos (by omega)]

/-! ### Bounds of chunks -/

/-- A member at a place of the list. -/
theorem Checked.member_eq {α : Type} {s : List α} {place : Nat} (h : place < s.length) (d : α) :
    Checked.member s place = .ok (s.getD place d) := by
  simp [Checked.member, h]

theorem length_separatorPlaces_le (c : Char) (place : Nat) (s : List Char) :
    (separatorPlaces c place s).length ≤ s.length := by
  induction s generalizing place with
  | nil => exact Nat.le_refl _
  | cons d s ih =>
    have hmore := ih (place + 1)
    unfold separatorPlaces
    split
    · simpa using hmore
    · exact Nat.le_succ_of_le hmore

theorem lt_of_mem_separatorPlaces {c : Char} {place p : Nat} {s : List Char}
    (h : p ∈ separatorPlaces c place s) : p < place + s.length := by
  induction s generalizing place with
  | nil => simp [separatorPlaces] at h
  | cons d s ih =>
    unfold separatorPlaces at h
    have hmore : p ∈ separatorPlaces c (place + 1) s → p < place + (d :: s).length := by
      intro hp
      have hlt := ih hp
      simp only [List.length_cons]
      omega
    split at h
    · rcases List.mem_cons.1 h with rfl | hp
      · simp
      · exact hmore hp
    · exact hmore h

theorem getD_separatorPlaces_lt {c : Char} {s : List Char} {i : Nat}
    (h : i < (separatorPlaces c 0 s).length) : (separatorPlaces c 0 s).getD i 0 < s.length := by
  have hmem := lt_of_mem_separatorPlaces (List.getElem_mem h)
  rw [List.getD_eq_getElem?_getD, List.getElem?_eq_getElem h, Option.getD_some]
  omega

/-- **The place of a bound** needs no number outside of sixty-four bits, unless the bound is the least
number and the text has a separator. -/
theorem Checked.chunkBound_eq {separator : Option Char} {s : List Char}
    (hs : (s.length : Int) < int64Max) (side : RangeEnd) {bound : Int64}
    (hbound : ¬ (separator ≠ none ∧ bound = Int64.minValue)) :
    (Checked.chunkBound separator s side bound).map Int64.toInt =
      (DisplayFilter.chunkBound separator s side bound).mapError .fault := by
  cases separator with
  | none => rfl
  | some c =>
    have hleast : bound.toInt ≠ int64Min := fun h =>
      hbound ⟨Option.some_ne_none c, Int64.toInt_inj.1 h⟩
    unfold Checked.chunkBound DisplayFilter.chunkBound
    simp only
    by_cases hzero : bound = 0
    · rw [if_pos hzero, if_pos hzero, hzero]
      rfl
    · obtain ⟨index, hindex, hvalue⟩ := Checked.number_eq (n := bound.toInt - 1)
        (by have := int64Min_le_toInt bound; omega) (by have := toInt_le_int64Max bound; omega)
      obtain rfl : index = bound - 1 := Int64.toInt_inj.1 (by rw [hvalue, toInt_sub_one hleast])
      have hsize := length_separatorPlaces_le c 0 s
      have hfits : ((separatorPlaces c 0 s).length : Int) ≤ int64Max := by omega
      rw [if_neg hzero, if_neg hzero, hindex]
      simp only [bind, Except.bind, Checked.resolveIndex_eq _ hfits]
      cases hi : DisplayFilter.resolveIndex (bound - 1) (separatorPlaces c 0 s).length with
      | error e => rfl
      | ok i =>
        have hlt := resolveIndex_lt hi
        obtain ⟨place, hplace⟩ : ∃ place, (separatorPlaces c 0 s).getD i 0 = place := ⟨_, rfl⟩
        have hinside : place < s.length := hplace ▸ getD_separatorPlaces_lt hlt
        obtain ⟨x, hx, hxValue⟩ := Checked.number_natCast (n := place) (by omega)
        simp only [mapError_ok, Checked.member_eq hlt 0, hplace, hx]
        cases side with
        | stop => simp [Except.map, pure, Except.pure, hxValue]
        | start =>
          obtain ⟨y, hy, hyValue⟩ := Checked.number_eq (n := (place : Int) + 1)
            (by unfold int64Min; omega) (by omega)
          simp [Except.map, hxValue, hy, hyValue]

/-- Slicing finds no separator at the least bound. -/
theorem chunkBound_least {c : Char} {s : List Char} (hs : (s.length : Int) < int64Max)
    (side : RangeEnd) (place : Int) : chunkBound (some c) s side Int64.minValue ≠ .ok place := by
  have hsize := length_separatorPlaces_le c 0 s
  rw [length_separatorPlaces] at hsize
  have hindex : ¬ IsIndex ((pieces c s).length - 1) (Int64.minValue - 1) := by
    have hvalue : (Int64.minValue - 1).toInt = int64Max := rfl
    unfold IsIndex
    omega
  rw [DisplayFilter.chunkBound_eq, if_neg (by decide), if_neg hindex]
  simp

/-- A bound that may be open, likewise. -/
theorem Checked.optionalBound_cases {separator : Option Char} {s : List Char}
    (hs : (s.length : Int) < int64Max) (side : RangeEnd) {bound : Option Int64}
    (hbound : ¬ (separator ≠ none ∧ bound = some Int64.minValue)) :
    (∃ e, DisplayFilter.optionalBound separator s side bound = .error e ∧
      Checked.optionalBound separator s side bound = .error (.fault e)) ∨
    ∃ x, DisplayFilter.optionalBound separator s side bound = .ok (x.map Int64.toInt) ∧
      Checked.optionalBound separator s side bound = .ok x := by
  cases bound with
  | none => exact Or.inr ⟨none, rfl, rfl⟩
  | some bound =>
    have h := Checked.chunkBound_eq hs side fun hleast : separator ≠ none ∧ bound = Int64.minValue =>
      hbound ⟨hleast.1, congrArg some hleast.2⟩
    simp only [Checked.optionalBound, DisplayFilter.optionalBound]
    cases hplain : DisplayFilter.chunkBound separator s side bound with
    | error e =>
      rw [hplain] at h
      exact Or.inl ⟨e, rfl, by rw [map_eq_error.1 h]; rfl⟩
    | ok place =>
      rw [hplain] at h
      obtain ⟨x, hx, rfl⟩ := map_eq_ok.1 h
      exact Or.inr ⟨some x, rfl, by rw [hx]; rfl⟩

/-! ### Parts of slices -/

theorem length_pieces_le (c : Char) (s : List Char) : (pieces c s).length ≤ s.length + 1 := by
  have hsize := length_separatorPlaces_le c 0 s
  rw [length_separatorPlaces] at hsize
  omega

/-- **An index** is picked without a number outside of sixty-four bits. -/
theorem checkedPick_index {separator : Option Char} {s : List Char} (hs : (s.length : Int) < int64Max)
    (i : Int64) :
    (SliceEntry.index i).checkedPick separator s =
      ((SliceEntry.index i).pick separator s).mapError .fault := by
  have hsize : ((parts separator s).length : Int) ≤ int64Max := by
    cases separator with
    | none =>
      simp only [parts, List.length_map]
      omega
    | some c =>
      have hle := length_pieces_le c s
      simp only [parts]
      omega
  simp only [SliceEntry.checkedPick, SliceEntry.pick, bind, Except.bind, Checked.resolveIndex_eq i hsize]
  cases hi : resolveIndex i (parts separator s).length with
  | error e => rfl
  | ok place =>
    simp only [mapError_ok, Checked.member_eq (resolveIndex_lt hi) []]
    rfl

/-- **A range that does not overrun** is picked without one. -/
theorem checkedPick_range {separator : Option Char} {s : List Char} (hs : (s.length : Int) < int64Max)
    {start stop : Option Int64} (h : ¬ (SliceEntry.range start stop).Overruns separator s) :
    (SliceEntry.range start stop).checkedPick separator s =
      ((SliceEntry.range start stop).pick separator s).mapError .fault := by
  have hstart : ¬ (separator ≠ none ∧ start = some Int64.minValue) := fun hleast =>
    h ⟨hleast.1, Or.inl hleast.2⟩
  simp only [SliceEntry.checkedPick, SliceEntry.pick, bind, Except.bind]
  rcases Checked.optionalBound_cases hs .start hstart with ⟨e, hplain, hchecked⟩ | ⟨x, hplain, hchecked⟩
  · rw [hplain, hchecked]
    rfl
  · have hstop : ¬ (separator ≠ none ∧ stop = some Int64.minValue) := fun hleast =>
      h ⟨hleast.1, Or.inr ⟨⟨_, hplain⟩, hleast.2⟩⟩
    rw [hplain, hchecked]
    simp only
    rcases Checked.optionalBound_cases hs .stop hstop with ⟨e, hplain, hchecked⟩ | ⟨y, hplain, hchecked⟩
    · rw [hplain, hchecked]
      rfl
    · rw [hplain, hchecked]
      exact Checked.cut_eq hs x y

theorem SliceEntry.checkedPick_eq {separator : Option Char} {s : List Char}
    (hs : (s.length : Int) < int64Max) {entry : SliceEntry} (h : ¬ entry.Overruns separator s) :
    entry.checkedPick separator s = (entry.pick separator s).mapError .fault := by
  cases entry with
  | index i => exact checkedPick_index hs i
  | range start stop => exact checkedPick_range hs h

/-- **A part that overruns** is not picked, and its least bound is the reason. -/
theorem SliceEntry.checkedPick_overruns {separator : Option Char} {s : List Char}
    (hs : (s.length : Int) < int64Max) {entry : SliceEntry} (h : entry.Overruns separator s) :
    entry.checkedPick separator s = .error (.overflow (int64Min - 1)) ∧
      ∀ t, entry.pick separator s ≠ .ok t := by
  cases entry with
  | index i => exact h.elim
  | range start stop =>
    obtain ⟨hseparator, hleast⟩ := h
    obtain ⟨c, rfl⟩ := Option.ne_none_iff_exists'.1 hseparator
    have hplain : ∀ side place,
        optionalBound (some c) s side (some Int64.minValue) ≠ .ok place := by
      intro side place hplace
      obtain ⟨p, hp, -⟩ := map_eq_ok.1 hplace
      exact chunkBound_least hs side p hp
    have hchecked : ∀ side, Checked.optionalBound (some c) s side (some Int64.minValue) =
        .error (.overflow (int64Min - 1)) := fun _ => rfl
    by_cases hstart : start = some Int64.minValue
    · subst hstart
      constructor
      · simp only [SliceEntry.checkedPick, bind, Except.bind, hchecked]
      · intro t ht
        obtain ⟨place, hplace, -⟩ := bind_eq_ok.1 ht
        exact hplain .start place hplace
    · obtain ⟨⟨place, hplace⟩, rfl⟩ := hleast.resolve_left hstart
      constructor
      · rcases Checked.optionalBound_cases hs .start (fun h => hstart h.2) with ⟨e, he, -⟩ | ⟨x, -, hx⟩
        · rw [hplace] at he
          simp at he
        · simp only [SliceEntry.checkedPick, bind, Except.bind, hx, hchecked]
      · intro t ht
        obtain ⟨_, _, hstop⟩ := bind_eq_ok.1 ht
        obtain ⟨last, hlast, -⟩ := bind_eq_ok.1 hstop
        exact hplain .stop last hlast

/-! ### Slices -/

/-- **A slice that does not overrun** is picked without a number outside of sixty-four bits. -/
theorem Slice.checkedPick_eq {separator : Option Char} {s : List Char}
    (hs : (s.length : Int) < int64Max) {slice : Slice} (h : ¬ slice.Overruns separator s) :
    slice.checkedPick separator s = (slice.pick separator s).mapError .fault := by
  have hparts : slice.mapM (SliceEntry.checkedPick separator s) =
      (slice.mapM (SliceEntry.pick separator s)).mapError .fault :=
    mapM_mapError fun front entry behind hsplit hfront =>
      SliceEntry.checkedPick_eq hs fun hentry => h ⟨front, entry, behind, hsplit, hfront, hentry⟩
  simp only [Slice.checkedPick, Slice.pick, hparts, bind, Except.bind]
  cases slice.mapM (SliceEntry.pick separator s) with
  | error e => rfl
  | ok picked => rfl

/-- **A slice that overruns** ends at the number below the least one. -/
theorem Slice.checkedPick_overruns {separator : Option Char} {s : List Char}
    (hs : (s.length : Int) < int64Max) {slice : Slice} (h : slice.Overruns separator s) :
    slice.checkedPick separator s = .error (.overflow (int64Min - 1)) := by
  obtain ⟨front, entry, behind, rfl, hfront, hentry⟩ := h
  refine bind_eq_error.2 (Or.inl (mapM_eq_error.2 ⟨front, entry, behind, rfl, fun e he => ?_,
    (SliceEntry.checkedPick_overruns hs hentry).1⟩))
  obtain ⟨t, ht⟩ := hfront e he
  refine ⟨t, ?_⟩
  rw [SliceEntry.checkedPick_eq hs fun hoverruns =>
    (SliceEntry.checkedPick_overruns hs hoverruns).2 t ht, ht]
  rfl

/-- **Normalising** needs no number outside of sixty-four bits: only starts from zero on are decreased. -/
theorem SliceEntry.checkedDash_eq (start stop : Int64) :
    SliceEntry.checkedDash start stop = .ok (SliceEntry.ofDash start stop) := by
  unfold SliceEntry.checkedDash SliceEntry.ofDash
  by_cases hneg : start < 0
  · rw [if_pos hneg, if_pos hneg]
    rfl
  · rw [if_neg hneg, if_neg hneg]
    rw [toInt_neg_iff] at hneg
    have hhigh := toInt_le_int64Max start
    obtain ⟨first, hfirst, hvalue⟩ := Checked.number_eq (n := start.toInt - 1)
      (by unfold int64Min; omega) (by omega)
    have hpred : first = start - 1 := by
      rw [← Int64.toInt_inj, hvalue, toInt_sub_one (by unfold int64Min; omega)]
    rw [hfirst, hpred]
    rfl

/-- A value is null, a list or a map, or it is sliced through a text. -/
theorem slice_cases (slicers : SlicerSet) (slice : Slice) (v : Value) :
    (¬ slicers.Overruns slice v ∧
      slicers.checkedSlice slice v = (slicers.slice slice v).mapError .fault) ∨
    let prepared := slicers.prepare v
    (slicers.Overruns slice v ↔ slice.Overruns prepared.separator prepared.text) ∧
      slicers.checkedSlice slice v =
        (slice.checkedPick prepared.separator prepared.text).map
          (fun picked => .string (String.ofList picked)) ∧
      slicers.slice slice v =
        (slice.pick prepared.separator prepared.text).map
          (fun picked => .string (String.ofList picked)) := by
  cases v with
  | null => exact Or.inl ⟨id, rfl⟩
  | list items => exact Or.inl ⟨id, rfl⟩
  | map entries => exact Or.inl ⟨id, rfl⟩
  | _ => exact Or.inr ⟨Iff.rfl, rfl, rfl⟩

/-- **The arithmetic of slices.**  Normalising never leaves the sixty-four bits.  Slicing a value does at
no step, and gets to no place outside of a text, unless the slice gets to the least bound on a text with a
separator. -/
theorem checkedSlice_exact (slicers : SlicerSet) (slice : Slice) {v : Value}
    (hv : ((slicers.prepare v).text.length : Int) < int64Max) :
    (∀ start stop, SliceEntry.checkedDash start stop = .ok (SliceEntry.ofDash start stop)) ∧
    (¬ slicers.Overruns slice v →
      slicers.checkedSlice slice v = (slicers.slice slice v).mapError .fault) ∧
    (slicers.Overruns slice v →
      slicers.checkedSlice slice v = .error (.overflow (int64Min - 1))) := by
  refine ⟨SliceEntry.checkedDash_eq, ?_⟩
  rcases slice_cases slicers slice v with ⟨hnot, hsame⟩ | ⟨hoverruns, hchecked, hplain⟩
  · exact ⟨fun _ => hsame, fun h => absurd h hnot⟩
  · rw [hoverruns, hchecked, hplain]
    constructor
    · intro h
      rw [Slice.checkedPick_eq hv h]
      cases slice.pick (slicers.prepare v).separator (slicers.prepare v).text with
      | error e => rfl
      | ok picked => rfl
    · intro h
      rw [Slice.checkedPick_overruns hv h]
      rfl

/-- Bounds at both ends of the sixty-four bits. -/
theorem checkedSlice_extreme :
    let slice : Slice := [.range (some 1) none, .range none (some (Int64.minValue + 1))]
    let v : Value := .ipv4 ⟨10, 2, 2, 2⟩
    ((SlicerSet.prepare Slicer.all v).text.length : Int) < int64Max ∧
      ¬ SlicerSet.Overruns Slicer.all slice v ∧
      SlicerSet.checkedSlice Slicer.all slice v =
        .error (.fault (.indexOutOfRange Int64.minValue 3)) := by
  intro slice v
  have hv : ((SlicerSet.prepare Slicer.all v).text.length : Int) < int64Max := by decide
  have hno : ¬ SlicerSet.Overruns Slicer.all slice v := by
    rintro ⟨front, entry, behind, hslice, -, hentry⟩
    have hmem : entry ∈ slice := hslice ▸ List.mem_append_right front List.mem_cons_self
    rcases List.mem_cons.1 hmem with rfl | hmem
    · rcases hentry.2 with h | ⟨-, h⟩
      · exact absurd h (by decide)
      · simp at h
    · obtain rfl := List.mem_singleton.1 hmem
      rcases hentry.2 with h | ⟨-, h⟩
      · simp at h
      · exact absurd h (by decide)
  refine ⟨hv, hno, ?_⟩
  rw [(checkedSlice_exact Slicer.all slice hv).2.1 hno]
  rfl

/-- **The least bound overflows** on an address. -/
theorem checkedSlice_least :
    ∃ slice, Slice.ofText "[-9223372036854775808:]" = .ok slice ∧
      SlicerSet.checkedSlice Slicer.all slice (.ipv4 ⟨10, 2, 2, 2⟩) =
        .error (.overflow (-9223372036854775809)) ∧
      SlicerSet.slice Slicer.all slice (.ipv4 ⟨10, 2, 2, 2⟩) =
        .error (.indexOutOfRange 9223372036854775807 3) := by
  refine ⟨[.range (some Int64.minValue) none], ?_, rfl, rfl⟩
  rfl

end DisplayFilter
