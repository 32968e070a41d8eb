import DisplayFilter.Proofs.Cursor.Lexeme
import DisplayFilter.Proofs.Cursor.Places

/-!
# Slices with a cursor

Blanks in front of a sign that does not follow, or of a bound that is open, are left to read: the cursor goes
back in front of them.

* `Scan.bound`, `Scan.sliceEntry` — a bound that has to be there, and one part of a slice;
* `Scan.slice` — a slice, if a bracket opens;
* **`tracks_slice`** — it does what the reader of slices does.
-/

namespace DisplayFilter

open Text

namespace Scan

/-- A bound that has to be there. -/
def bound (missing : Nat → SliceFault Nat) : Scan (SliceFault Nat) Int64 := do
  match ← integer with
  | some n => pure n
  | none => faultHere missing

/-- What follows the first bound of a part. -/
def sliceEntryFrom (start : Int64) : Scan (SliceFault Nat) SliceEntry := do
  let behindStart ← position
  let _ ← skipBlanks
  if (← eat [':']) then do
    let behindColon ← position
    let _ ← skipBlanks
    match ← integer with
    | some stop => pure (.range (some start) (some stop))
    | none => do
      reset behindColon
      pure (.range (some start) none)
  else do
    if (← eat ['-']) then do
      let _ ← skipBlanks
      return .ofDash start (← bound .expectedRangeEnd)
    else do
      reset behindStart
      pure (.index start)

/-- **One part of a slice.** -/
def sliceEntry : Scan (SliceFault Nat) SliceEntry := do
  if (← eat [':']) then do
    let _ ← skipBlanks
    return .range none (some (← bound .expectedEnd))
  else do
    sliceEntryFrom (← bound .expectedIndex)

/-- **The parts of a slice** and the closing bracket, `fuel` parts at most. -/
def sliceEntries : Nat → Scan (SliceFault Nat) Slice
  | 0 => fail .unfinished
  | fuel + 1 => do
    let _ ← skipBlanks
    let entry ← sliceEntry
    let _ ← skipBlanks
    if (← eat [',']) then return entry :: (← sliceEntries fuel)
    else do
      if (← eat [']']) then pure [entry]
      else faultHere .expectedSeparator

/-- **A slice,** if a bracket opens. -/
def slice : Scan (SliceFault Nat) (Option Slice) := do
  if (← eat ['[']) then return some (← sliceEntries ((← rest).length + 1))
  else pure none

end Scan

variable {src s : List Char}

theorem tracks_bound {fault : List Char → SliceFault (List Char)} {missing : Nat → SliceFault Nat}
    (hs : s <:+ src) (hmissing : SliceFault.Reports src ⟨fault s, s⟩ (missing (bytePosition src s))) :
    Tracks (SliceFault.Reports src) src (Scan.bound missing) (bytePosition src s)
      (readBound fault s) := by
  refine (tracks_integer hs).bind_tried ?_ ?_
  · intro hnone _
    rw [readBound, hnone]
    exact tracks_faultHere hs hmissing
  · intro n t hn ht
    rw [readBound, hn]
    exact tracks_pure ht n

theorem tracks_sliceEntryFrom (start : Int64) (hs : s <:+ src) :
    Tracks (SliceFault.Reports src) src (Scan.sliceEntryFrom start) (bytePosition src s)
      (SliceEntry.readFrom start s) := by
  have htrim : trimStart s <:+ src := (trimStart_suffix s).trans hs
  refine (tracks_position hs).step ?_
  refine (tracks_skipBlanks hs).step ?_
  unfold SliceEntry.readFrom
  split
  · next t ht =>
    rw [ht] at htrim ⊢
    have hcolon : t <:+ src := (List.suffix_cons ':' t).trans htrim
    have hblanks : trimStart t <:+ src := (trimStart_suffix t).trans hcolon
    refine (tracks_eat_cons htrim).step ?_
    refine (tracks_position hcolon).step ?_
    refine (tracks_skipBlanks hcolon).step ?_
    refine (tracks_integer hblanks).bind_tried ?_ ?_
    · intro hnone _
      rw [hnone]
      exact (tracks_reset hcolon).step (tracks_pure hcolon _)
    · intro stop rest hstop hrest
      rw [hstop]
      exact tracks_pure hrest _
  · next t ht =>
    rw [ht] at htrim ⊢
    have hdash : t <:+ src := (List.suffix_cons '-' t).trans htrim
    have hblanks : trimStart t <:+ src := (trimStart_suffix t).trans hdash
    refine (tracks_eat_of_ne htrim (by simp)).step ?_
    refine (tracks_eat_cons htrim).step ?_
    refine (tracks_skipBlanks hdash).step ?_
    refine (tracks_bound hblanks ?_).bind ?_
    · exact ⟨rfl, isBoundary_bytePosition hblanks⟩
    · intro stop rest hrest _
      exact tracks_pure hrest _
  · next hcolon hdash =>
    refine (tracks_eat_of_ne htrim hcolon).step ?_
    refine (tracks_eat_of_ne htrim hdash).step ?_
    exact (tracks_reset hs).step (tracks_pure hs _)

theorem tracks_sliceEntry (hs : s <:+ src) :
    Tracks (SliceFault.Reports src) src Scan.sliceEntry (bytePosition src s)
      (SliceEntry.read s) := by
  unfold SliceEntry.read
  split
  · next t =>
    have ht : t <:+ src := (List.suffix_cons ':' t).trans hs
    have hblanks : trimStart t <:+ src := (trimStart_suffix t).trans ht
    refine (tracks_eat_cons hs).step ?_
    refine (tracks_skipBlanks ht).step ?_
    refine (tracks_bound hblanks ?_).bind ?_
    · exact ⟨rfl, isBoundary_bytePosition hblanks⟩
    · intro stop rest hrest _
      exact tracks_pure hrest _
  · next hcolon =>
    refine (tracks_eat_of_ne hs hcolon).step ?_
    refine (tracks_bound hs ?_).bind ?_
    · exact ⟨rfl, isBoundary_bytePosition hs⟩
    · intro start rest hrest _
      exact tracks_sliceEntryFrom start hrest

theorem tracks_sliceEntries {fuel : Nat} (hs : s <:+ src) (hfuel : s.length < fuel) :
    Tracks (SliceFault.Reports src) src (Scan.sliceEntries fuel) (bytePosition src s)
      (Slice.readEntries fuel s) := by
  induction fuel generalizing s with
  | zero => exact absurd hfuel (Nat.not_lt_zero _)
  | succ fuel ih =>
    have htrim : trimStart s <:+ src := (trimStart_suffix s).trans hs
    refine (tracks_skipBlanks hs).step ?_
    refine (tracks_sliceEntry htrim).bind ?_
    intro entry rest hrest hentry
    have hbehind : trimStart rest <:+ src := (trimStart_suffix rest).trans hrest
    have hshort := (trimStart_properEnd (SliceEntry.read_properEnd hentry)).2
    have hblanks := (trimStart_suffix rest).length_le
    refine (tracks_skipBlanks hrest).step ?_
    simp only
    split
    · next t ht =>
      rw [ht] at hbehind hblanks ⊢
      have hcomma : t <:+ src := (List.suffix_cons ',' t).trans hbehind
      refine (tracks_eat_cons hbehind).step ?_
      have hlength : t.length < fuel := by
        rw [List.length_cons] at hblanks
        omega
      refine (ih hcomma hlength).bind ?_
      intro more u hu _
      exact tracks_pure hu _
    · next t ht =>
      rw [ht] at hbehind ⊢
      have hclose : t <:+ src := (List.suffix_cons ']' t).trans hbehind
      refine (tracks_eat_of_ne hbehind (by simp)).step ?_
      exact (tracks_eat_cons hbehind).step (tracks_pure hclose _)
    · next hcomma hclose =>
      refine (tracks_eat_of_ne hbehind hcomma).step ?_
      refine (tracks_eat_of_ne hbehind hclose).step ?_
      exact tracks_faultHere hbehind ⟨rfl, isBoundary_bytePosition hbehind⟩

/-- **Slices.** -/
theorem tracks_slice (hs : s <:+ src) :
    Tracks (SliceFault.Reports src) src Scan.slice (bytePosition src s) (Slice.read s) := by
  unfold Slice.read
  split
  · next t =>
    have ht : t <:+ src := (List.suffix_cons '[' t).trans hs
    refine (tracks_eat_cons hs).step ?_
    refine (tracks_rest ht).step ?_
    refine (tracks_sliceEntries ht (Nat.lt_succ_self _)).bind ?_
    intro entries rest hrest _
    exact tracks_pure hrest _
  · next hopen => exact (tracks_eat_of_ne hs hopen).step (tracks_pure hs none)

end DisplayFilter
