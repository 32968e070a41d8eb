import DisplayFilter.Proofs.EndPieces
import DisplayFilter.Proofs.Text.Pieces
import DisplayFilter.Slice.Cutting

/-!
# Slices of sequences

Without a separator a slice picks characters as sequences are indexed and sliced: an index has to name a
place, from either end, and the bounds of a range are clamped.

* `fromStart` — a number counted from the start, `rangePlaces` — the places that a range has;
* `SliceEntry.members` — the members of a sequence that one part of a slice names;
* **`cut_eq_sequenceRange`** — cutting between clamped bounds takes the members at those places;
* **`pick_eq_ok_iff`**, **`pick_eq_error_iff`** — what a slice picks, and which of its parts fails;
* **`pickText_plain`** — a slice of a text without a separator.
-/

namespace DisplayFilter

open Text

/-! ### Places -/

/-- **Counting from the start.** A negative number counts from the end of `size` members. -/
def fromStart (size : Nat) (n : Int64) : Int :=
  if n.toInt < 0 then n.toInt + size else n.toInt

/-- Whether an index names one of `size` members, from the start or from the end. -/
def IsIndex (size : Nat) (i : Int64) : Prop :=
  -(size : Int) ≤ i.toInt ∧ i.toInt < size

/-- **The places of a range** among `size` members: none before its start and none from its stop on.  An
open bound leaves out none. -/
def rangePlaces (size : Nat) (start stop : Option Int64) : List Nat :=
  (List.range size).filter fun place =>
    start.all (fun n => fromStart size n ≤ place) && stop.all (fun n => (place : Int) < fromStart size n)

/-- **Ranges of a sequence:** its members at the places of the range. -/
def sequenceRange {α : Type} (start stop : Option Int64) (s : List α) : List α :=
  (rangePlaces s.length start stop).filterMap (s[·]?)

/-- **The members of a sequence** that one part of a slice names. -/
def SliceEntry.members {α : Type} (s : List α) : SliceEntry → List α
  | .index i => s[(fromStart s.length i).toNat]?.toList
  | .range start stop => sequenceRange start stop s

instance (size : Nat) (i : Int64) : Decidable (IsIndex size i) :=
  inferInstanceAs (Decidable (_ ∧ _))

/-- An index names a member if it is the place of one when counted from the start. -/
theorem isIndex_iff {size : Nat} {i : Int64} :
    IsIndex size i ↔ 0 ≤ fromStart size i ∧ fromStart size i < size := by
  unfold IsIndex fromStart
  constructor
  · intro h
    split <;> omega
  · intro h
    split at h <;> omega

/-- **Indices** are resolved to the place that they name. -/
theorem resolveIndex_eq (i : Int64) (size : Nat) :
    resolveIndex i size =
      if IsIndex size i then .ok (fromStart size i).toNat else .error (.indexOutOfRange i size) := by
  show (if 0 ≤ fromStart size i ∧ fromStart size i < size then _ else _) = _
  simp only [isIndex_iff]
  rfl

/-- The place of an index is the place of a member. -/
theorem resolveIndex_lt {i : Int64} {size place : Nat} (h : resolveIndex i size = .ok place) :
    place < size := by
  rw [resolveIndex_eq] at h
  split at h
  · next hindex =>
    obtain ⟨hlow, hhigh⟩ := isIndex_iff.1 hindex
    have hplace := Except.ok.inj h
    omega
  · simp at h

/-! ### Cutting -/

/-- The members at the places between two bounds stand between the two in the list. -/
theorem filterMap_places {α : Type} (s : List α) (first last : Nat) :
    ((List.range s.length).filter fun place => decide (first ≤ place) && decide (place < last)).filterMap
      (s[·]?) = (s.take last).drop first := by
  induction s generalizing first last with
  | nil => simp
  | cons a s ih =>
    rw [List.length_cons, List.range_succ_eq_map, List.filter_cons, List.filter_map]
    have hshift : ((fun place => decide (first ≤ place) && decide (place < last)) ∘ Nat.succ) =
        fun place => decide (first - 1 ≤ place) && decide (place < last - 1) := by
      funext place
      simp only [Function.comp]
      congr 1
      · rw [decide_eq_decide]; omega
      · rw [decide_eq_decide]; omega
    have htail : (((List.range s.length).filter fun place =>
        decide (first - 1 ≤ place) && decide (place < last - 1)).map Nat.succ).filterMap
          ((a :: s)[·]?) = (s.take (last - 1)).drop (first - 1) := by
      rw [List.filterMap_map, ← ih]
      rfl
    rw [hshift]
    cases last with
    | zero => simp
    | succ last =>
      cases first with
      | zero => simpa using htail
      | succ first => simpa using htail

/-- A clamped bound leaves out the places that the bound counted from the start leaves out. -/
theorem clampBound_le_iff {size place : Nat} (hplace : place < size) (n : Int64) :
    clampBound size n.toInt ≤ place ↔ fromStart size n ≤ place := by
  unfold clampBound fromStart
  split <;> omega

/-- **Cutting is slicing a sequence.** -/
theorem cut_eq_sequenceRange {α : Type} (start stop : Option Int64) (s : List α) :
    cut (start.map Int64.toInt) (stop.map Int64.toInt) s = sequenceRange start stop s := by
  unfold cut sequenceRange rangePlaces
  simp only
  rw [← filterMap_places]
  congr 1
  apply List.filter_congr
  intro place hplace
  have hsize := List.mem_range.1 hplace
  congr 1
  · cases start with
    | none => simp
    | some n => simpa using clampBound_le_iff hsize n
  · cases stop with
    | none => simpa using hsize
    | some n => simpa [Nat.not_le, Int.not_le] using not_congr (clampBound_le_iff hsize n)

/-! ### The parts of a slice -/

/-- **What a slice picks:** what each of its parts picks, joined. -/
theorem Slice.pick_eq_ok_iff {slice : Slice} {separator : Option Char} {s t : List Char} :
    slice.pick separator s = .ok t ↔
      ∃ picked, slice.map (SliceEntry.pick separator s) = picked.map .ok ∧
        join separator.toList picked = t := by
  unfold Slice.pick
  rw [bind_eq_ok]
  simp only [mapM_eq_ok, pure, Except.pure, Except.ok.injEq]

/-- **Why a slice fails:** one of its parts does, behind parts that do not. -/
theorem Slice.pick_eq_error_iff {slice : Slice} {separator : Option Char} {s : List Char}
    {e : SliceError} :
    slice.pick separator s = .error e ↔
      ∃ front entry behind, slice = front ++ entry :: behind ∧
        (∀ entry ∈ front, ∃ t, entry.pick separator s = .ok t) ∧ entry.pick separator s = .error e := by
  unfold Slice.pick
  rw [bind_eq_error, mapM_eq_error]
  simp only [pure, Except.pure, reduceCtorEq, and_false, exists_false, or_false]

theorem Slice.pickText_eq_ok_iff {slice : Slice} {separator : Option Char} {text result : String} :
    slice.pickText separator text = .ok result ↔
      slice.pick separator text.toList = .ok result.toList := by
  unfold Slice.pickText
  rw [map_eq_ok]
  constructor
  · rintro ⟨t, hpick, rfl⟩
    rw [String.toList_ofList, hpick]
  · intro hpick
    exact ⟨result.toList, hpick, String.ofList_toList⟩

theorem Slice.pickText_eq_error_iff {slice : Slice} {separator : Option Char} {text : String}
    {e : SliceError} :
    slice.pickText separator text = .error e ↔ slice.pick separator text.toList = .error e :=
  map_eq_error

/-! ### Characters -/

theorem pick_index_plain (i : Int64) (s : List Char) :
    (SliceEntry.index i).pick none s =
      if IsIndex s.length i then .ok ((SliceEntry.index i).members s)
      else .error (.indexOutOfRange i s.length) := by
  simp only [SliceEntry.pick, parts, List.length_map, resolveIndex_eq]
  split
  · next h =>
    obtain ⟨hlow, hhigh⟩ := isIndex_iff.1 h
    have hplace : (fromStart s.length i).toNat < s.length := by omega
    simp [bind, Except.bind, pure, Except.pure, SliceEntry.members, hplace]
  · rfl

theorem pick_range_plain (start stop : Option Int64) (s : List Char) :
    (SliceEntry.range start stop).pick none s = .ok ((SliceEntry.range start stop).members s) := by
  have hbound : ∀ side bound, optionalBound none s side bound = .ok (bound.map Int64.toInt) := by
    intro side bound
    cases bound with
    | none => rfl
    | some n => rfl
  simp only [SliceEntry.pick, hbound, bind, Except.bind, pure, Except.pure, SliceEntry.members,
    cut_eq_sequenceRange]

/-- **A part that names no member** is the only one that fails. -/
theorem pick_plain_eq_error_iff {entry : SliceEntry} {s : List Char} {e : SliceError} :
    entry.pick none s = .error e ↔
      ∃ i, entry = .index i ∧ ¬ IsIndex s.length i ∧ e = .indexOutOfRange i s.length := by
  cases entry with
  | index i =>
    rw [pick_index_plain]
    by_cases h : IsIndex s.length i
    · simp [h]
    · simp [h, eq_comm]
  | range start stop => simp [pick_range_plain]

/-- **All other parts** pick their members. -/
theorem pick_plain_eq_ok_iff {entry : SliceEntry} {s t : List Char} :
    entry.pick none s = .ok t ↔
      (∀ i, entry = .index i → IsIndex s.length i) ∧ entry.members s = t := by
  cases entry with
  | index i =>
    rw [pick_index_plain]
    by_cases h : IsIndex s.length i
    · simp [h]
    · simp [h]
  | range start stop => simp [pick_range_plain]

theorem map_pick_plain {slice : Slice} {s : List Char} {picked : List (List Char)} :
    slice.map (SliceEntry.pick none s) = picked.map .ok ↔
      (∀ i, .index i ∈ slice → IsIndex s.length i) ∧ slice.map (·.members s) = picked := by
  induction slice generalizing picked with
  | nil => cases picked <;> simp
  | cons entry slice ih =>
    cases picked with
    | nil => simp
    | cons t picked =>
      simp only [List.map_cons, List.cons.injEq, pick_plain_eq_ok_iff, ih, List.mem_cons]
      constructor
      · rintro ⟨⟨hentry, ht⟩, hslice, hmore⟩
        exact ⟨fun i hi => hi.elim (fun h => hentry i h.symm) (hslice i), ht, hmore⟩
      · rintro ⟨hnames, ht, hmore⟩
        exact ⟨⟨fun i hi => hnames i (Or.inl hi.symm), ht⟩, fun i hi => hnames i (Or.inr hi), hmore⟩

/-- **A text without a separator is sliced like a sequence.**  The parts of a slice pick their members
one after the other; the first index that names no character is the error, and ranges never fail. -/
theorem pickText_plain (slice : Slice) (text : String) :
    (∀ result, slice.pickText none text = .ok result ↔
      (∀ i, .index i ∈ slice → IsIndex text.toList.length i) ∧
        result.toList = slice.flatMap (·.members text.toList)) ∧
    (∀ e, slice.pickText none text = .error e ↔
      ∃ front i behind, slice = front ++ .index i :: behind ∧
        (∀ j, .index j ∈ front → IsIndex text.toList.length j) ∧ ¬ IsIndex text.toList.length i ∧
          e = .indexOutOfRange i text.toList.length) := by
  constructor
  · intro result
    simp only [Slice.pickText_eq_ok_iff, Slice.pick_eq_ok_iff, map_pick_plain, Option.toList_none,
      join_nil, List.flatMap_def]
    constructor
    · rintro ⟨picked, ⟨hnames, rfl⟩, hjoin⟩
      exact ⟨hnames, hjoin.symm⟩
    · rintro ⟨hnames, hresult⟩
      exact ⟨_, ⟨hnames, rfl⟩, hresult.symm⟩
  · intro e
    simp only [Slice.pickText_eq_error_iff, Slice.pick_eq_error_iff, pick_plain_eq_error_iff,
      pick_plain_eq_ok_iff, exists_and_left, exists_eq', and_true]
    constructor
    · rintro ⟨front, _, behind, hslice, hfront, i, rfl, hnames, he⟩
      exact ⟨front, i, behind, hslice, fun j hj => hfront _ hj j rfl, hnames, he⟩
    · rintro ⟨front, i, behind, hslice, hfront, hnames, he⟩
      refine ⟨front, _, behind, hslice, ?_, i, rfl, hnames, he⟩
      rintro _ hentry j rfl
      exact hfront j hentry

end DisplayFilter
