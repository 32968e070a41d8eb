import DisplayFilter.Proofs.Number.Digits
import DisplayFilter.Proofs.Slice.Sequence
import DisplayFilter.Proofs.Slice.WrittenForm

/-!
# Slices by chunks

With a separator the bounds of a range stand for separators: a range starts behind one and stops in front
of one.  In front of the `n`-th separator stand the first `n` chunks, so that the text between two bounds
is a run of whole chunks.

* `chunkPlace` — the place in a text where the chunks from a number on start, or those up to it stop;
* **`drop_take_chunks`** — between two such places stand the chunks in between;
* **`chunkBound_eq`** — the place that a bound stands for;
* **`pick_range_within`** — what a range within the chunks picks, **`pick_first`** — the first of them;
* **`pickText_chunks`** — what a range picks, and which of its bounds fails;
* **`pickText_rejoined`** — the two ranges on both sides of a bound make up the text.
-/

namespace DisplayFilter

open Text

/-! ### Places of chunks -/

/-- **The places of the separators:** in front of each stand the first chunks. -/
theorem separatorPlaces_eq (c : Char) (place : Nat) (s : List Char) :
    separatorPlaces c place s = (List.range ((pieces c s).length - 1)).map fun i =>
      place + (join [c] ((pieces c s).take (i + 1))).length := by
  induction s generalizing place with
  | nil => rfl
  | cons d s ih =>
    obtain ⟨piece, more, hpieces⟩ := List.exists_cons_of_ne_nil (pieces_ne_nil c s)
    have htail := ih (place + 1)
    rw [hpieces] at htail
    unfold separatorPlaces pieces
    by_cases hd : d = c
    · rw [if_pos hd, if_pos hd, htail, hpieces]
      simp only [List.length_cons, Nat.add_sub_cancel, List.range_succ_eq_map, List.map_cons,
        List.map_map]
      congr 1
      apply List.map_congr_left
      intro i _
      simp [join]
      omega
    · rw [if_neg hd, if_neg hd, htail, hpieces]
      simp only [List.length_cons, Nat.add_sub_cancel]
      apply List.map_congr_left
      intro i _
      cases hmore : more.take i with
      | nil => simp [join, hmore]; omega
      | cons next rest => simp [join, hmore]; omega

/-- There is one separator less than there are chunks. -/
theorem length_separatorPlaces (c : Char) (place : Nat) (s : List Char) :
    (separatorPlaces c place s).length = (pieces c s).length - 1 := by
  rw [separatorPlaces_eq, List.length_map, List.length_range]

/-- **Where chunks start or stop:** the place where the chunks from number `n` on start, or where those in
front of number `n` stop. -/
def chunkPlace (c : Char) (s : List Char) : RangeEnd → Nat → Nat
  | .start, 0 => 0
  | .start, n + 1 => (join [c] ((pieces c s).take (n + 1))).length + 1
  | .stop, n => (join [c] ((pieces c s).take n)).length

/-- **Between two places** stand the chunks in between. -/
theorem drop_take_chunks (c : Char) (s : List Char) (first last : Nat) :
    (s.take (chunkPlace c s .stop last)).drop (chunkPlace c s .start first) =
      join [c] (((pieces c s).take last).drop first) := by
  have hstop : s.take (chunkPlace c s .stop last) = join [c] ((pieces c s).take last) := by
    have hprefix := join_take_prefix [c] (pieces c s) last
    rw [join_pieces] at hprefix
    exact (List.prefix_iff_eq_take.1 hprefix).symm
  rw [hstop]
  cases first with
  | zero => rfl
  | succ first =>
    rw [← drop_join c _ (Nat.succ_ne_zero first), List.take_take]
    by_cases hle : first + 1 ≤ last
    · rw [Nat.min_eq_left hle]
      rfl
    · rw [Nat.min_eq_right (by omega)]
      have hprefix := join_take_prefix [c] ((pieces c s).take (first + 1)) last
      rw [List.take_take, Nat.min_eq_left (by omega)] at hprefix
      have hlength := hprefix.length_le
      rw [List.drop_eq_nil_of_le (Nat.le_succ _), List.drop_eq_nil_of_le]
      exact Nat.le_succ_of_le hlength

/-! ### Bounds -/

/-- **The place that a bound stands for.** -/
theorem chunkBound_eq (c : Char) (s : List Char) (side : RangeEnd) (bound : Int64) :
    chunkBound (some c) s side bound =
      if bound = 0 then .ok 0
      else if IsIndex ((pieces c s).length - 1) (bound - 1) then
        .ok (chunkPlace c s side ((fromStart ((pieces c s).length - 1) (bound - 1)).toNat + 1))
      else .error (.indexOutOfRange (bound - 1) ((pieces c s).length - 1)) := by
  unfold chunkBound
  simp only [length_separatorPlaces, resolveIndex_eq]
  split
  · rfl
  · by_cases hindex : IsIndex ((pieces c s).length - 1) (bound - 1)
    · obtain ⟨hlow, hhigh⟩ := isIndex_iff.1 hindex
      have hplace : (fromStart ((pieces c s).length - 1) (bound - 1)).toNat <
          (pieces c s).length - 1 := by omega
      rw [if_pos hindex, if_pos hindex]
      simp only [separatorPlaces_eq, List.getD_eq_getElem?_getD, List.getElem?_map,
        List.getElem?_range hplace, Option.map_some, Option.getD_some, Nat.zero_add]
      cases side with
      | start => rfl
      | stop => rfl
    · rw [if_neg hindex, if_neg hindex]

/-- The chunk that an open bound stands in front of, or the one that a bound which counts from the start
names. -/
def chunkNumber (size : Nat) : RangeEnd → Option Int64 → Nat
  | _, some n => n.toInt.toNat
  | .start, none => 0
  | .stop, none => size

/-- Whether a bound is open or names one of `size` chunks, counted from the start. -/
def BoundWithin (size : Nat) (bound : Option Int64) : Prop :=
  ∀ n ∈ bound, 0 ≤ n.toInt ∧ n.toInt < size

/-- The place where a text starts or stops, for open bounds. -/
def openPlace (s : List Char) : RangeEnd → Int
  | .start => 0
  | .stop => s.length

theorem clampBound_natCast (size place : Nat) : clampBound size (place : Int) = min place size := by
  rw [clampBound, if_neg (Int.not_lt.2 (Int.natCast_nonneg place)), Int.toNat_natCast]

/-- **Cutting at the places of chunks** leaves the chunks in between. -/
theorem cut_chunks {c : Char} {s : List Char} {start stop : Option Int} {first last : Nat}
    (hstart : start.getD (openPlace s .start) = chunkPlace c s .start first)
    (hstop : stop.getD (openPlace s .stop) = chunkPlace c s .stop last) :
    cut start stop s = join [c] (((pieces c s).take last).drop first) := by
  have hfirst : (start.map (clampBound s.length)).getD 0 =
      min (chunkPlace c s .start first) s.length := by
    rw [← clampBound_natCast, ← hstart]
    cases start with
    | none => simp [openPlace, clampBound]
    | some place => rfl
  have hlast : (stop.map (clampBound s.length)).getD s.length =
      min (chunkPlace c s .stop last) s.length := by
    rw [← clampBound_natCast, ← hstop]
    cases stop with
    | none => simp [openPlace, clampBound_natCast]
    | some place => rfl
  rw [← drop_take_chunks]
  unfold cut
  simp only [hfirst, hlast]
  rw [← List.take_eq_take_min, List.drop_eq_drop_iff, List.length_take]
  omega

theorem openPlace_start (c : Char) (s : List Char) : openPlace s .start = chunkPlace c s .start 0 :=
  rfl

theorem openPlace_stop (c : Char) (s : List Char) :
    openPlace s .stop = chunkPlace c s .stop (pieces c s).length := by
  rw [chunkPlace, List.take_length, join_pieces]
  rfl

/-- A bound stands for the place of a chunk, if it stands for a place. -/
theorem exists_chunkPlace {c : Char} {s : List Char} {side : RangeEnd} {bound : Option Int64}
    {place : Option Int} (h : optionalBound (some c) s side bound = .ok place) :
    ∃ n, place.getD (openPlace s side) = chunkPlace c s side n := by
  cases bound with
  | none =>
    obtain rfl : none = place := Except.ok.inj h
    cases side with
    | start => exact ⟨0, openPlace_start c s⟩
    | stop => exact ⟨_, openPlace_stop c s⟩
  | some bound =>
    obtain ⟨p, hp, rfl⟩ := map_eq_ok.1 h
    rw [chunkBound_eq] at hp
    split at hp
    · obtain rfl := Except.ok.inj hp
      refine ⟨0, ?_⟩
      cases side with
      | start => rfl
      | stop => simp [chunkPlace, join]
    · split at hp
      · obtain rfl := Except.ok.inj hp
        exact ⟨_, rfl⟩
      · simp at hp

/-- A bound that counts chunks from the start stands for the place of its chunk. -/
theorem optionalBound_within {c : Char} {s : List Char} (side : RangeEnd) {bound : Option Int64}
    (h : BoundWithin (pieces c s).length bound) :
    ∃ place, optionalBound (some c) s side bound = .ok place ∧
      place.getD (openPlace s side) =
        chunkPlace c s side (chunkNumber (pieces c s).length side bound) := by
  cases bound with
  | none =>
    refine ⟨none, rfl, ?_⟩
    cases side with
    | start => exact openPlace_start c s
    | stop => exact openPlace_stop c s
  | some n =>
    obtain ⟨hlow, hhigh⟩ := h n rfl
    simp only [optionalBound, chunkBound_eq, chunkNumber]
    by_cases hzero : n = 0
    · rw [if_pos hzero, hzero]
      refine ⟨_, rfl, ?_⟩
      cases side with
      | start => rfl
      | stop => rfl
    · have hpos : n.toInt ≠ 0 := fun h => hzero (Int64.toInt_inj.1 h)
      have hpred : (n - 1).toInt = n.toInt - 1 := toInt_sub_one (by unfold int64Min; omega)
      have hindex : IsIndex ((pieces c s).length - 1) (n - 1) := by
        unfold IsIndex
        omega
      have hnumber : (fromStart ((pieces c s).length - 1) (n - 1)).toNat + 1 = n.toInt.toNat := by
        unfold fromStart
        omega
      rw [if_neg hzero, if_pos hindex, hnumber]
      exact ⟨_, rfl, rfl⟩

/-- A bound behind the last separator stands for no place. -/
theorem optionalBound_behind {c : Char} {s : List Char} (side : RangeEnd) {n : Int64}
    (h : (pieces c s).length ≤ n.toInt) :
    optionalBound (some c) s side (some n) =
      .error (.indexOutOfRange (n - 1) ((pieces c s).length - 1)) := by
  have hsome : 0 < (pieces c s).length := List.length_pos_iff.2 (pieces_ne_nil c s)
  have hzero : n ≠ 0 := by
    rintro rfl
    rw [Int64.toInt_zero] at h
    omega
  have hpred : (n - 1).toInt = n.toInt - 1 := toInt_sub_one (by unfold int64Min; omega)
  have hindex : ¬ IsIndex ((pieces c s).length - 1) (n - 1) := by
    unfold IsIndex
    omega
  simp only [optionalBound, chunkBound_eq]
  rw [if_neg hzero, if_neg hindex]
  rfl

/-- Bounds that count from the start take the members in front of the one and not of the other. -/
theorem sequenceRange_within {α : Type} {s : List α} {start stop : Option Int64}
    (hstart : BoundWithin s.length start) (hstop : BoundWithin s.length stop) :
    sequenceRange start stop s =
      (s.take (chunkNumber s.length .stop stop)).drop (chunkNumber s.length .start start) := by
  have hclamp : ∀ n : Int64, 0 ≤ n.toInt ∧ n.toInt < s.length →
      clampBound s.length n.toInt = n.toInt.toNat := by
    rintro n ⟨hlow, hhigh⟩
    rw [clampBound, if_neg (Int.not_lt.2 hlow), Nat.min_eq_left (by omega)]
  have hfirst : ((start.map Int64.toInt).map (clampBound s.length)).getD 0 =
      chunkNumber s.length .start start := by
    cases start with
    | none => rfl
    | some n => exact hclamp n (hstart n rfl)
  have hlast : ((stop.map Int64.toInt).map (clampBound s.length)).getD s.length =
      chunkNumber s.length .stop stop := by
    cases stop with
    | none => rfl
    | some n => exact hclamp n (hstop n rfl)
  rw [← cut_eq_sequenceRange]
  unfold cut
  simp only [hfirst, hlast]

/-! ### Ranges -/

/-- **A range within the chunks** picks the chunks that the sequence of them has there. -/
theorem pick_range_within {c : Char} {s : List Char} {start stop : Option Int64}
    (hstart : BoundWithin (pieces c s).length start) (hstop : BoundWithin (pieces c s).length stop) :
    (SliceEntry.range start stop).pick (some c) s =
      .ok (join [c] (sequenceRange start stop (pieces c s))) := by
  obtain ⟨first, hfirst, hplace⟩ := optionalBound_within .start hstart
  obtain ⟨last, hlast, hplaces⟩ := optionalBound_within .stop hstop
  simp only [SliceEntry.pick, hfirst, hlast, bind, Except.bind, pure, Except.pure,
    cut_chunks hplace hplaces, sequenceRange_within hstart hstop]

/-- A slice of one part picks what its part picks. -/
theorem pick_single (entry : SliceEntry) (separator : Option Char) (s : List Char) :
    Slice.pick [entry] separator s = entry.pick separator s := by
  unfold Slice.pick
  cases h : entry.pick separator s with
  | error e => simp [h, bind, Except.bind]
  | ok t => simp [h, bind, Except.bind, pure, Except.pure, join]

/-- **The first of some texts** between separators: a range picks them up to its bound. -/
theorem pick_first {c : Char} {texts : List (List Char)} (hplain : ∀ text ∈ texts, c ∉ text)
    {start : Option Int64} (hstart : start = none ∨ start = some 0) {k : Nat} (hk : k < texts.length)
    (hfits : (Int64.ofNat k).toInt = k) :
    Slice.pick [.range start (some (Int64.ofNat k))] (some c) (join [c] texts) =
      .ok (join [c] (texts.take k)) := by
  have hne : texts ≠ [] := List.ne_nil_of_length_pos (Nat.zero_lt_of_lt hk)
  have hpieces := pieces_join hne hplain
  have hfirst : BoundWithin texts.length start := by
    intro n hn
    rcases hstart with rfl | rfl
    · nomatch hn
    · obtain rfl := Option.some.inj hn
      exact ⟨Int.le_refl 0, Int.natCast_pos.2 (Nat.zero_lt_of_lt hk)⟩
  have hlast : BoundWithin texts.length (some (Int64.ofNat k)) := by
    intro n hn
    obtain rfl := Option.some.inj hn
    rw [hfits]
    exact ⟨Int.natCast_nonneg k, Int.ofNat_lt.2 hk⟩
  have hnumber : chunkNumber texts.length .start start = 0 := by
    rcases hstart with rfl | rfl
    · rfl
    · rfl
  have hpick := @pick_range_within c (join [c] texts) start (some (Int64.ofNat k))
  rw [hpieces] at hpick
  rw [pick_single, hpick hfirst hlast, sequenceRange_within hfirst hlast, hnumber, List.drop_zero,
    chunkNumber, hfits, Int.toNat_natCast]

/-- **Ranges of chunks.**  A range whose bounds are open or name chunks from the start picks these chunks
as they stand in the text.  A bound behind the last separator is an error, and whatever a range picks, it
is a run of whole chunks. -/
theorem pickText_chunks (c : Char) (text : String) (start stop : Option Int64) :
    let chunks := pieces c text.toList
    let picked := Slice.pickText [.range start stop] (some c) text
    (BoundWithin chunks.length start → BoundWithin chunks.length stop →
      picked = .ok (String.ofList (join [c] (sequenceRange start stop chunks)))) ∧
    (∀ n ∈ start, chunks.length ≤ n.toInt →
      picked = .error (.indexOutOfRange (n - 1) (chunks.length - 1))) ∧
    (BoundWithin chunks.length start → ∀ n ∈ stop, chunks.length ≤ n.toInt →
      picked = .error (.indexOutOfRange (n - 1) (chunks.length - 1))) ∧
    (∀ result, picked = .ok result → ∃ first last,
      result = String.ofList (join [c] ((chunks.take last).drop first))) := by
  intro chunks picked
  simp only [picked, Slice.pickText, pick_single]
  refine ⟨fun hstart hstop => ?_, fun n hn hbehind => ?_, fun hstart n hn hbehind => ?_,
    fun result hresult => ?_⟩
  · rw [pick_range_within hstart hstop]
    rfl
  · obtain rfl : start = some n := hn
    simp only [SliceEntry.pick, optionalBound_behind .start hbehind, bind, Except.bind]
    rfl
  · obtain ⟨first, hfirst, -⟩ := optionalBound_within .start hstart
    obtain rfl : stop = some n := hn
    simp only [SliceEntry.pick, hfirst, optionalBound_behind .stop hbehind, bind, Except.bind]
    rfl
  · obtain ⟨t, ht, rfl⟩ := map_eq_ok.1 hresult
    obtain ⟨x, hx, hmore⟩ := bind_eq_ok.1 ht
    obtain ⟨y, hy, hcut⟩ := bind_eq_ok.1 hmore
    obtain ⟨first, hfirst⟩ := exists_chunkPlace hx
    obtain ⟨last, hlast⟩ := exists_chunkPlace hy
    obtain rfl : cut x y text.toList = t := Except.ok.inj hcut
    exact ⟨first, last, by rw [cut_chunks hfirst hlast]⟩

/-- **Chunks are not clamped:** a bound behind the last separator is an error, and a negative one does not
count from the end of the chunks. -/
theorem pickText_chunks_unclamped :
    Slice.pickText [.range (some 0) (some 9)] (some '.') "a.b.c" = .error (.indexOutOfRange 8 2) ∧
      join ['.'] (sequenceRange (some 0) (some 9) (pieces '.' "a.b.c".toList)) = "a.b.c".toList ∧
      Slice.pickText [.range (some (-1)) none] (some '.') "a.b.c" = .ok "b.c" ∧
      join ['.'] (sequenceRange (some (-1)) none (pieces '.' "a.b.c".toList)) = "c".toList :=
  ⟨rfl, by decide, rfl, by decide⟩

/-! ### Both sides of a bound -/

/-- **The two ranges on both sides of a bound.** -/
def halves (k : Int64) : Slice :=
  [.range none (some k), .range (some k) none]

theorem pick_halves (k : Int64) (separator : Option Char) (s : List Char) :
    (halves k).pick separator s = (do
      let stop ← chunkBound separator s .stop k
      let start ← chunkBound separator s .start k
      pure (join separator.toList [cut none (some stop) s, cut (some start) none s])) := by
  simp only [halves, Slice.pick, List.mapM_cons, List.mapM_nil, SliceEntry.pick, optionalBound]
  cases chunkBound separator s .stop k with
  | error e => rfl
  | ok stop =>
    cases chunkBound separator s .start k with
    | error e => rfl
    | ok start => rfl

/-- Without a separator, the two sides are a beginning and the rest. -/
theorem pick_halves_plain (k : Int64) (s : List Char) : (halves k).pick none s = .ok s := by
  rw [pick_halves]
  simp [chunkBound, cut, bind, Except.bind, pure, Except.pure, join]

/-- With a separator, the two sides are the chunks in front of it and those behind it, and it stands
between them. -/
theorem pick_halves_chunks (c : Char) (s : List Char) {k : Int64} (hk : k ≠ 0) :
    (halves k).pick (some c) s =
      if IsIndex ((pieces c s).length - 1) (k - 1) then .ok s
      else .error (.indexOutOfRange (k - 1) ((pieces c s).length - 1)) := by
  rw [pick_halves]
  simp only [chunkBound_eq, if_neg hk]
  by_cases hindex : IsIndex ((pieces c s).length - 1) (k - 1)
  · obtain ⟨hlow, hhigh⟩ := isIndex_iff.1 hindex
    obtain ⟨n, hn⟩ : ∃ n, (fromStart ((pieces c s).length - 1) (k - 1)).toNat + 1 = n := ⟨_, rfl⟩
    have hfront : cut none (some (chunkPlace c s .stop n : Int)) s =
        join [c] (((pieces c s).take n).drop 0) :=
      cut_chunks rfl rfl
    have hbehind : cut (some (chunkPlace c s .start n : Int)) none s =
        join [c] (((pieces c s).take (pieces c s).length).drop n) :=
      cut_chunks rfl (by rw [Option.getD_none, openPlace_stop c])
    have htake : (pieces c s).take n ≠ [] := by
      rw [Ne, List.take_eq_nil_iff]
      exact not_or.2 ⟨by omega, pieces_ne_nil c s⟩
    have hdrop : (pieces c s).drop n ≠ [] := by
      rw [Ne, List.drop_eq_nil_iff]
      omega
    have hjoin := join_append [c] htake hdrop
    rw [List.take_append_drop, join_pieces] at hjoin
    simp only [if_pos hindex, hn, bind, Except.bind, pure, Except.pure, hfront, hbehind, join,
      Option.toList_some, List.drop_zero, List.take_length]
    rw [← hjoin]
  · simp only [if_neg hindex, bind, Except.bind]

theorem text_halves (k : Int64) :
    (halves k).text = "[:" ++ integerText k.toInt ++ "," ++ integerText k.toInt ++ ":]" := by
  rw [← String.toList_inj]
  simp [Slice.text, Slice.chars, Slice.entryChars, SliceEntry.chars, boundText, halves]

/-- **Splitting and rejoining.**  The ranges in front of a bound and behind it make up the text, wherever
they can be picked.  Without a separator they always can, and with one for every bound that counts chunks
from the start. -/
theorem pickText_rejoined {separator : Option Char} {k : Int64} (hk : separator ≠ none → k ≠ 0)
    (text : String) :
    ∃ slice, Slice.ofText ("[:" ++ integerText k.toInt ++ "," ++ integerText k.toInt ++ ":]") =
        .ok slice ∧
      (∀ result, slice.pickText separator text = .ok result → result = text) ∧
      (separator = none → slice.pickText separator text = .ok text) ∧
      (∀ c ∈ separator, 0 ≤ k.toInt → k.toInt < (pieces c text.toList).length →
        slice.pickText separator text = .ok text) := by
  have hread : Slice.ofText (halves k).text = .ok (halves k) :=
    Slice.ofText_text ⟨List.cons_ne_nil _ _, by simp [halves, SliceEntry.Bounded]⟩
  refine ⟨halves k, text_halves k ▸ hread, ?_⟩
  simp only [Slice.pickText_eq_ok_iff]
  cases separator with
  | none => simp [pick_halves_plain, String.toList_inj, eq_comm]
  | some c =>
    have hne := hk (Option.some_ne_none c)
    simp only [pick_halves_chunks c _ hne]
    refine ⟨fun result h => ?_, fun h => absurd h (Option.some_ne_none c), ?_⟩
    · split at h
      · exact String.toList_inj.1 (Except.ok.inj h).symm
      · simp at h
    · rintro d hd hlow hhigh
      obtain rfl : c = d := Option.some.inj hd
      have hpos : k.toInt ≠ 0 := fun h => hne (Int64.toInt_inj.1 h)
      have hpred : (k - 1).toInt = k.toInt - 1 := toInt_sub_one (by unfold int64Min; omega)
      rw [if_pos]
      unfold IsIndex
      omega

/-- Repeated separators, and separators at both ends. -/
theorem pickText_rejoined_repeated :
    ((some '.' : Option Char) ≠ none → (2 : Int64) ≠ 0) ∧
      ∃ slice, Slice.ofText "[:2,2:]" = .ok slice ∧
        slice.pickText (some '.') "..a.b." = .ok "..a.b." := by
  have hk : (some '.' : Option Char) ≠ none → (2 : Int64) ≠ 0 := fun _ => by decide
  obtain ⟨slice, hread, -, -, hpick⟩ := pickText_rejoined hk "..a.b."
  exact ⟨hk, slice, hread, hpick '.' rfl (by decide) (by decide)⟩

end DisplayFilter
