import DisplayFilter.Proofs.Cursor.Lexeme
import DisplayFilter.Proofs.Cursor.Places

/-!
# Address ranges with a cursor

Where a dash or a comma turns out not to belong to a range, the cursor goes back in front of it; whether
an address follows is found out with a second cursor.

* `Scan.octet`, `Scan.interval`, `Scan.octetSet` — an octet, and the intervals at one place;
* `Scan.range` — a range;
* **`tracks_range`** — it does what the reader of ranges does.
-/

namespace DisplayFilter

open Text

namespace Scan

variable {ε : Type}

/-- A number below 256. -/
def octet : Scan (RangeFault Nat) UInt8 := do
  let start ← position
  let digits ← takeWhile Char.isDigit
  if digits.isEmpty then fault (.expectedOctet start)
  else if 255 < decimalValue digits then do
    reset start
    fault (.octetTooLarge (String.ofList digits))
  else pure (decimalValue digits).toUInt8

/-- **One interval.** -/
def interval : Scan (RangeFault Nat) OctetInterval := do
  if (← eat ['*']) then pure .full
  else do
    let low ← octet
    let dash ← position
    if (← eat ['-']) then do
      match ← attempt octet with
      | .ok high =>
        if low ≤ high then pure ⟨low, high⟩ else fault (.emptyInterval low high)
      | .error _ => do
        reset dash
        pure (.single low)
    else pure (.single low)

/-- Whether an address follows behind blanks, found out with a second cursor. -/
def addressAhead : Scan ε Bool :=
  lookahead do
    let _ ← skipBlanks
    let digits ← takeWhile Char.isDigit
    if digits.isEmpty then pure false
    else return (← peek) == some '.'

/-- Whether a comma separates two ranges, which it may do behind the last place only. -/
def separates (last : Bool) : Scan ε Bool :=
  if last then addressAhead else pure false

/-- **The intervals at one place,** `fuel` of them at most. -/
def octetSetUpTo (last : Bool) : Nat → Scan (RangeFault Nat) OctetSet
  | 0 => fail .unfinished
  | fuel + 1 => do
    let x ← interval
    let comma ← position
    if (← eat [',']) then do
      let separated ← separates last
      let next ← peek
      if separated || !next.any (fun c => c.isDigit || c == '*') then do
        reset comma
        pure [x]
      else return x :: (← octetSetUpTo last fuel)
    else pure [x]

/-- The intervals at one place. -/
def octetSet (last : Bool) : Scan (RangeFault Nat) OctetSet := do
  octetSetUpTo last ((← rest).length + 1)

/-- The intervals at one place behind a point; the range starts at `start`. -/
def octetSetBehind (start : Nat) (last : Bool) : Scan (RangeFault Nat) OctetSet := do
  if (← eat ['.']) then octetSet last
  else do
    reset start
    faultHere .expectedOctets

/-- The intervals at the four places. -/
def octets : Scan (RangeFault Nat) Ipv4Range := do
  let start ← position
  let first ← octetSet false
  let second ← octetSetBehind start false
  let third ← octetSetBehind start false
  let fourth ← octetSetBehind start true
  pure ⟨first, second, third, fourth⟩

/-- The block of a range with a prefix length, which has to be a plain address. -/
def block (r : Ipv4Range) (length : Int64) : Scan (RangeFault Nat) Ipv4Range :=
  match r.address? with
  | none => fault .lengthOfMany
  | some x =>
    match Ipv4Range.ofLength? x length with
    | none => fault (.invalidLength length)
    | some block => pure block

/-- **A range.** -/
def range : Scan (RangeFault Nat) Ipv4Range := do
  let r ← octets
  let slash ← position
  if (← eat ['/']) then do
    match ← integer with
    | none => do
      reset slash
      faultHere .expectedLength
    | some length => block r length
  else pure r

end Scan

variable {ε ε' : Type} {reported : ε' → ε → Prop} {src s t : List Char}

theorem tracks_octet (hs : s <:+ src) :
    Tracks (RangeFault.Reports src) src Scan.octet (bytePosition src s) (readOctet s) := by
  refine (tracks_position hs).step ?_
  refine (tracks_takeWhile hs Char.isDigit).step ?_
  simp only [readOctet]
  by_cases hempty : (s.takeWhile Char.isDigit).isEmpty = true
  · rw [if_pos hempty, if_pos hempty]
    exact tracks_fault ⟨rfl, isBoundary_bytePosition hs⟩
  · rw [if_neg hempty, if_neg hempty]
    by_cases hlarge : 255 < decimalValue (s.takeWhile Char.isDigit)
    · rw [if_pos hlarge, if_pos hlarge]
      exact (tracks_reset hs).step (tracks_fault ⟨rfl, trivial⟩)
    · rw [if_neg hlarge, if_neg hlarge]
      exact tracks_pure ((List.dropWhile_suffix Char.isDigit).trans hs) _

theorem tracks_interval (hs : s <:+ src) :
    Tracks (RangeFault.Reports src) src Scan.interval (bytePosition src s)
      (OctetInterval.read s) := by
  unfold OctetInterval.read
  split
  · next t =>
    have ht : t <:+ src := (List.suffix_cons '*' t).trans hs
    exact (tracks_eat_cons hs).step (tracks_pure ht OctetInterval.full)
  · next hstar =>
    refine (tracks_eat_of_ne hs hstar).step ?_
    refine (tracks_octet hs).bind ?_
    intro low rest hrest _
    refine (tracks_position hrest).step ?_
    simp only
    split
    · next t _ =>
      have ht : t <:+ src := (List.suffix_cons '-' t).trans hrest
      refine (tracks_eat_cons hrest).step ?_
      refine (tracks_octet ht).attempt ?_ ?_
      · intro high u hhigh hu
        rw [hhigh]
        simp only
        by_cases hle : low ≤ high
        · rw [if_pos hle, if_pos hle]
          exact tracks_pure hu _
        · rw [if_neg hle, if_neg hle]
          exact tracks_fault ⟨rfl, trivial⟩
      · intro stop e after hstop _
        rw [hstop]
        exact (tracks_reset hrest).step (tracks_pure hrest _)
    · next hdash => exact (tracks_eat_of_ne hrest hdash).step (tracks_pure hrest _)

/-- A run is empty exactly if the text does not start with one of its characters. -/
theorem isEmpty_takeWhile (p : Char → Bool) (s : List Char) :
    (s.takeWhile p).isEmpty = !s.head?.any p := by
  cases s with
  | nil => rfl
  | cons c s =>
    rw [List.takeWhile_cons]
    cases hc : p c
    · simp [hc]
    · simp [hc]

theorem tracks_addressAhead (hs : s <:+ src) :
    Tracks reported src (Scan.addressAhead : Scan ε Bool) (bytePosition src s)
      (.ok (startsAddress s, s)) := by
  have htrim : trimStart s <:+ src := (trimStart_suffix s).trans hs
  have hdrop := (List.dropWhile_suffix Char.isDigit).trans htrim
  refine @Tracks.lookahead _ _ _ _ src s ((trimStart s).dropWhile Char.isDigit) _ _ hs ?_
  refine (tracks_skipBlanks hs).step ?_
  refine (tracks_takeWhile htrim Char.isDigit).step ?_
  simp only [startsAddress, isEmpty_takeWhile]
  by_cases hdigit : (trimStart s).head?.any Char.isDigit = true
  · rw [hdigit, Bool.true_and, if_neg (by simp)]
    exact (tracks_peek hdrop).step (tracks_pure hdrop _)
  · rw [Bool.eq_false_iff.2 hdigit, Bool.false_and, if_pos (by simp)]
    exact tracks_pure hdrop false

theorem tracks_separates (last : Bool) (hs : s <:+ src) :
    Tracks reported src (Scan.separates last : Scan ε Bool) (bytePosition src s)
      (.ok (last && startsAddress s, s)) := by
  cases last with
  | true => exact tracks_addressAhead hs
  | false => exact tracks_pure hs false

theorem tracks_octetSetUpTo (last : Bool) {fuel : Nat} (hs : s <:+ src) (hfuel : s.length < fuel) :
    Tracks (RangeFault.Reports src) src (Scan.octetSetUpTo last fuel) (bytePosition src s)
      (OctetSet.readUpTo last fuel s) := by
  induction fuel generalizing s with
  | zero => exact absurd hfuel (Nat.not_lt_zero _)
  | succ fuel ih =>
    refine (tracks_interval hs).bind ?_
    intro x rest hrest hx
    have hshort := (OctetInterval.read_properEnd hx).2
    refine (tracks_position hrest).step ?_
    simp only
    split
    · next t =>
      have ht : t <:+ src := (List.suffix_cons ',' t).trans hrest
      refine (tracks_eat_cons hrest).step ?_
      refine (tracks_separates last ht).step ?_
      refine (tracks_peek ht).step ?_
      show Tracks _ src (if ((last && startsAddress t) || !startsInterval t) = true then _ else _) _ _
      by_cases hback : ((last && startsAddress t) || !startsInterval t) = true
      · rw [if_pos hback, if_pos hback]
        exact (tracks_reset hrest).step (tracks_pure hrest _)
      · rw [if_neg hback, if_neg hback]
        have hlength : t.length < fuel := by
          rw [List.length_cons] at hshort
          omega
        refine (ih ht hlength).bind ?_
        intro more u hu _
        exact tracks_pure hu _
    · next hcomma => exact (tracks_eat_of_ne hrest hcomma).step (tracks_pure hrest _)

theorem tracks_octetSet (last : Bool) (hs : s <:+ src) :
    Tracks (RangeFault.Reports src) src (Scan.octetSet last) (bytePosition src s)
      (OctetSet.read last s) :=
  (tracks_rest hs).step (tracks_octetSetUpTo last hs (Nat.lt_succ_self _))

theorem tracks_octetSetBehind {start : List Char} (last : Bool) (hs : s <:+ src)
    (hstart : start <:+ src) :
    Tracks (RangeFault.Reports src) src (Scan.octetSetBehind (bytePosition src start) last)
      (bytePosition src s) (OctetSet.readNext start last s) := by
  unfold OctetSet.readNext
  split
  · next t =>
    have ht : t <:+ src := (List.suffix_cons '.' t).trans hs
    exact (tracks_eat_cons hs).step (tracks_octetSet last ht)
  · next hpoint =>
    refine (tracks_eat_of_ne hs hpoint).step ?_
    refine (tracks_reset hstart).step ?_
    exact tracks_faultHere hstart ⟨rfl, isBoundary_bytePosition hstart⟩

theorem tracks_octets (hs : s <:+ src) :
    Tracks (RangeFault.Reports src) src Scan.octets (bytePosition src s)
      (Ipv4Range.readOctets s) := by
  refine (tracks_position hs).step ?_
  refine (tracks_octetSet false hs).bind ?_
  intro first s₁ h₁ _
  refine (tracks_octetSetBehind false h₁ hs).bind ?_
  intro second s₂ h₂ _
  refine (tracks_octetSetBehind false h₂ hs).bind ?_
  intro third s₃ h₃ _
  refine (tracks_octetSetBehind true h₃ hs).bind ?_
  intro fourth s₄ h₄ _
  exact tracks_pure h₄ _

/-- The block of a range with a prefix length, as the reader of ranges answers it. -/
def blockAt (r : Ipv4Range) (length : Int64) (t : List Char) :
    Except RangeStop (Ipv4Range × List Char) :=
  match r.address? with
  | none => .error ⟨.lengthOfMany, t⟩
  | some x =>
    match Ipv4Range.ofLength? x length with
    | none => .error ⟨.invalidLength length, t⟩
    | some block => .ok (block, t)

theorem tracks_block (r : Ipv4Range) (length : Int64) (hs : s <:+ src) :
    Tracks (RangeFault.Reports src) src (Scan.block r length) (bytePosition src s)
      (blockAt r length s) := by
  unfold Scan.block blockAt
  cases r.address? with
  | none => exact tracks_fault ⟨rfl, trivial⟩
  | some x =>
    simp only
    cases Ipv4Range.ofLength? x length with
    | none => exact tracks_fault ⟨rfl, trivial⟩
    | some block => exact tracks_pure hs block

/-- **Ranges.** -/
theorem tracks_range (hs : s <:+ src) :
    Tracks (RangeFault.Reports src) src Scan.range (bytePosition src s) (Ipv4Range.read s) := by
  refine (tracks_octets hs).bind ?_
  intro r rest hrest _
  refine (tracks_position hrest).step ?_
  simp only
  split
  · next t _ =>
    have ht : t <:+ src := (List.suffix_cons '/' t).trans hrest
    refine (tracks_eat_cons hrest).step ?_
    refine (tracks_integer ht).bind_tried ?_ ?_
    · intro hnone _
      rw [hnone]
      refine (tracks_reset hrest).step ?_
      exact tracks_faultHere hrest ⟨rfl, isBoundary_bytePosition hrest⟩
    · intro length u hlength hu
      rw [hlength]
      exact tracks_block r length hu
  · next hslash => exact (tracks_eat_of_ne hrest hslash).step (tracks_pure hrest r)

end DisplayFilter
