import DisplayFilter.Proofs.EndPieces
import DisplayFilter.Proofs.Number.Digits

/-!
# Written slices

A slice has a normalised text, with colons and without blanks.  Reading it gives the slice back, and
a slice that was read from any other notation has such a text.

* `SliceEntry.Bounded` — a range with one bound at least;
* **`Slice.read_chars`** — the text of a slice reads as the slice;
* **`writable_of_read`** — what is read has entries, and none of them is open at both ends;
* **`Slice.writable_iff_read`** — so the slices that can be written are those that can be read.
-/

namespace DisplayFilter

open Text

/-- A part of a slice that can be written: a range has one bound at least. -/
def SliceEntry.Bounded : SliceEntry → Prop
  | .index _ => True
  | .range start stop => start.isSome ∨ stop.isSome

/-- A slice that can be written has parts, each of which can. -/
def Slice.Writable (slice : Slice) : Prop :=
  slice ≠ [] ∧ ∀ entry ∈ slice, entry.Bounded

/-! ### Reading what is written -/

/-- An integer is written with a minus sign or a digit in front. -/
theorem integerText_cons (n : Int) :
    ∃ c s, (integerText n).toList = c :: s ∧ (c = '-' ∨ c.isDigit = true) := by
  rw [integerText_toList]
  unfold signed
  split
  · exact ⟨'-', _, rfl, Or.inl rfl⟩
  · cases h : decimalDigits n.natAbs with
    | nil => exact absurd h (decimalDigits_ne_nil _)
    | cons d ds =>
      have hd : d ∈ decimalDigits n.natAbs := h ▸ List.mem_cons_self
      exact ⟨d, ds, rfl, Or.inr (isDigit_of_mem_decimalDigits hd)⟩

theorem integerText_stops_blank (n : Int) (tail : List Char) :
    Stops isBlank ((integerText n).toList ++ tail) := by
  obtain ⟨c, s, h, hc⟩ := integerText_cons n
  rw [h, List.cons_append, stops_cons]
  rcases hc with rfl | hc
  · decide
  · exact not_blank_of_isDigit hc

/-- What may follow a part of a slice: a comma or the closing bracket. -/
def EndsEntry (tail : List Char) : Prop :=
  ∃ t, tail = ',' :: t ∨ tail = ']' :: t

theorem EndsEntry.stops_digit {tail : List Char} (h : EndsEntry tail) :
    Stops Char.isDigit tail := by
  obtain ⟨t, rfl | rfl⟩ := h
  · exact stops_cons.2 (by decide)
  · exact stops_cons.2 (by decide)

theorem EndsEntry.trimStart {tail : List Char} (h : EndsEntry tail) : trimStart tail = tail := by
  obtain ⟨t, rfl | rfl⟩ := h
  · exact trimStart_cons_of_not_blank (by decide) t
  · exact trimStart_cons_of_not_blank (by decide) t

/-- Behind the colon of a range, the written upper bound is read. -/
theorem readFrom_colon (start : Int64) (stop : Option Int64) {tail : List Char}
    (htail : EndsEntry tail) :
    SliceEntry.readFrom start (':' :: (boundText stop ++ tail)) =
      .ok (.range (some start) stop, tail) := by
  unfold SliceEntry.readFrom
  rw [trimStart_cons_of_not_blank (by decide)]
  simp only
  cases stop with
  | none =>
    have hnone : Lexeme.integer? tail = none := by
      obtain ⟨t, rfl | rfl⟩ := htail
      · rfl
      · rfl
    simp only [boundText, List.nil_append, htail.trimStart, hnone]
  | some n =>
    simp only [boundText]
    rw [trimStart_of_stops (integerText_stops_blank n.toInt tail),
      integer?_integerText n htail.stops_digit]

theorem readFrom_end (start : Int64) {tail : List Char} (htail : EndsEntry tail) :
    SliceEntry.readFrom start tail = .ok (.index start, tail) := by
  unfold SliceEntry.readFrom
  rw [htail.trimStart]
  obtain ⟨t, rfl | rfl⟩ := htail
  · rfl
  · rfl

/-- A part that starts with a number is read from its number on. -/
theorem read_integerText (n : Int64) {s : List Char} (hs : Stops Char.isDigit s) :
    SliceEntry.read ((integerText n.toInt).toList ++ s) = SliceEntry.readFrom n s := by
  obtain ⟨c, t, h, hc⟩ := integerText_cons n.toInt
  have hint : Lexeme.integer? (c :: (t ++ s)) = some (n, s) := by
    rw [← List.cons_append, ← h]
    exact integer?_integerText n hs
  rw [h, List.cons_append]
  unfold SliceEntry.read
  split
  · next heq =>
    obtain rfl := (List.cons.inj heq).1
    simp at hc
  · simp only [readBound, hint, bind, Except.bind]

/-- **A written part reads as the part.** -/
theorem SliceEntry.read_chars {entry : SliceEntry} (h : entry.Bounded) {tail : List Char}
    (htail : EndsEntry tail) : SliceEntry.read (entry.chars ++ tail) = .ok (entry, tail) := by
  cases entry with
  | index i =>
    rw [SliceEntry.chars, boundText, read_integerText i htail.stops_digit, readFrom_end i htail]
  | range start stop =>
    cases start with
    | some n =>
      show SliceEntry.read ((integerText n.toInt).toList ++ ':' :: boundText stop ++ tail) = _
      rw [List.append_assoc, List.cons_append, read_integerText n (stops_cons.2 (by decide)),
        readFrom_colon n stop htail]
    | none =>
      cases stop with
      | none => simp [SliceEntry.Bounded] at h
      | some n =>
        have hint := integer?_integerText n htail.stops_digit
        simp only [SliceEntry.chars, boundText, List.nil_append, List.cons_append]
        unfold SliceEntry.read
        simp only
        rw [trimStart_of_stops (integerText_stops_blank n.toInt tail)]
        simp only [readBound, hint, bind, Except.bind, pure, Except.pure]

theorem SliceEntry.chars_stops_blank (entry : SliceEntry) (tail : List Char) :
    Stops isBlank (entry.chars ++ tail) := by
  cases entry with
  | index i => exact integerText_stops_blank i.toInt tail
  | range start stop =>
    cases start with
    | none => exact stops_cons.2 (by decide)
    | some n =>
      simp only [SliceEntry.chars, boundText, List.append_assoc]
      exact integerText_stops_blank n.toInt _

theorem readEntries_entryChars {slice : Slice} (h : slice.Writable) {fuel : Nat}
    (hfuel : slice.length ≤ fuel) (tail : List Char) :
    Slice.readEntries fuel (Slice.entryChars slice ++ ']' :: tail) = .ok (slice, tail) := by
  induction slice generalizing fuel with
  | nil => exact absurd rfl h.1
  | cons entry more ih =>
    obtain ⟨fuel, rfl⟩ : ∃ k, fuel = k + 1 := ⟨fuel - 1, by simp at hfuel; omega⟩
    have hentry := h.2 entry List.mem_cons_self
    unfold Slice.readEntries
    cases more with
    | nil =>
      have hends : EndsEntry (']' :: tail) := ⟨tail, Or.inr rfl⟩
      have hread := SliceEntry.read_chars hentry hends
      simp only [Slice.entryChars]
      rw [trimStart_of_stops (entry.chars_stops_blank _), hread]
      simp only [bind, Except.bind]
      rw [trimStart_cons_of_not_blank (by decide)]
      rfl
    | cons next more =>
      have hends : EndsEntry (',' :: (Slice.entryChars (next :: more) ++ ']' :: tail)) :=
        ⟨_, Or.inl rfl⟩
      have hread := SliceEntry.read_chars hentry hends
      have hlength : (next :: more).length ≤ fuel := by
        simp at hfuel ⊢
        omega
      have hmore := ih ⟨by simp, fun e he => h.2 e (List.mem_cons_of_mem _ he)⟩ hlength
      simp only [Slice.entryChars, List.append_assoc, List.cons_append]
      rw [trimStart_of_stops (entry.chars_stops_blank _), hread]
      simp only [bind, Except.bind]
      rw [trimStart_cons_of_not_blank (by decide)]
      simp only [hmore, pure, Except.pure]

theorem length_le_entryChars (slice : Slice) :
    slice.length ≤ (Slice.entryChars slice).length + 1 := by
  induction slice with
  | nil => simp
  | cons entry more ih =>
    cases more with
    | nil => simp [Slice.entryChars]
    | cons next more => simp [Slice.entryChars] at ih ⊢; omega

/-- **A written slice reads as the slice.** -/
theorem Slice.read_chars {slice : Slice} (h : slice.Writable) (tail : List Char) :
    Slice.read (Slice.chars slice ++ tail) = .ok (some slice, tail) := by
  have hlen := length_le_entryChars slice
  have hfuel : slice.length ≤ (Slice.entryChars slice ++ ']' :: tail).length + 1 := by
    simp
    omega
  have hread := readEntries_entryChars h hfuel tail
  simp only [Slice.chars, List.cons_append, List.append_assoc, List.nil_append, Slice.read]
  rw [hread]
  rfl

/-- **The text of a slice is the whole slice.** -/
theorem Slice.ofText_text {slice : Slice} (h : slice.Writable) :
    Slice.ofText slice.text = .ok slice := by
  have hread := Slice.read_chars h []
  rw [List.append_nil] at hread
  have htrim : trim (Slice.chars slice) = Slice.chars slice := by
    refine trim_of_ends (stops_cons.2 (by decide)) ?_
    rw [Slice.chars, List.reverse_append]
    exact stops_cons.2 (by decide)
  simp only [Slice.ofText, Slice.text, String.toList_ofList, htrim, hread]

/-! ### What is read can be written -/

theorem readFrom_bounded {start : Int64} {s rest : List Char} {entry : SliceEntry}
    (h : SliceEntry.readFrom start s = .ok (entry, rest)) : entry.Bounded := by
  unfold SliceEntry.readFrom at h
  split at h
  · split at h
    · next stop u _ =>
      obtain ⟨rfl, -⟩ : .range (some start) (some stop) = entry ∧ _ := by simpa using h
      exact Or.inl rfl
    · obtain ⟨rfl, -⟩ : .range (some start) none = entry ∧ _ := by simpa using h
      exact Or.inl rfl
  · obtain ⟨⟨stop, u⟩, -, h⟩ := bind_eq_ok.1 h
    obtain ⟨rfl, -⟩ : SliceEntry.ofDash start stop = entry ∧ _ := by
      simpa [pure, Except.pure] using h
    exact Or.inl rfl
  · obtain ⟨rfl, -⟩ : .index start = entry ∧ _ := by simpa using h
    trivial

theorem SliceEntry.bounded_of_read {s rest : List Char} {entry : SliceEntry}
    (h : SliceEntry.read s = .ok (entry, rest)) : entry.Bounded := by
  unfold SliceEntry.read at h
  split at h
  · obtain ⟨⟨stop, u⟩, -, h⟩ := bind_eq_ok.1 h
    obtain ⟨rfl, -⟩ : .range none (some stop) = entry ∧ _ := by simpa [pure, Except.pure] using h
    exact Or.inr rfl
  · obtain ⟨⟨start, u⟩, -, h⟩ := bind_eq_ok.1 h
    exact readFrom_bounded h

theorem writable_of_readEntries {fuel : Nat} {s rest : List Char} {slice : Slice}
    (h : Slice.readEntries fuel s = .ok (slice, rest)) : slice.Writable := by
  induction fuel generalizing s slice with
  | zero => simp [Slice.readEntries] at h
  | succ fuel ih =>
    obtain ⟨⟨entry, u⟩, hu, h⟩ := bind_eq_ok.1 h
    have hentry := SliceEntry.bounded_of_read hu
    simp only at h
    split at h
    · obtain ⟨⟨more, v⟩, hv, h⟩ := bind_eq_ok.1 h
      obtain ⟨rfl, rfl⟩ : entry :: more = slice ∧ v = rest := by
        simpa [pure, Except.pure] using h
      exact ⟨by simp, by simpa using ⟨hentry, (ih hv).2⟩⟩
    · obtain ⟨rfl, -⟩ : [entry] = slice ∧ _ := by simpa using h
      exact ⟨by simp, by simpa using hentry⟩
    · simp at h

/-- **What is read has entries, none of them open at both ends.** -/
theorem writable_of_read {s rest : List Char} {slice : Slice}
    (h : Slice.read s = .ok (some slice, rest)) : slice.Writable := by
  unfold Slice.read at h
  split at h
  · obtain ⟨⟨entries, u⟩, hu, h⟩ := bind_eq_ok.1 h
    obtain ⟨rfl, -⟩ : entries = slice ∧ _ := by simpa [pure, Except.pure] using h
    exact writable_of_readEntries hu
  · simp at h

/-- A slice that is a whole text was read at its start. -/
theorem Slice.read_of_ofText {text : String} {slice : Slice} (h : Slice.ofText text = .ok slice) :
    Slice.read (trim text.toList) = .ok (some slice, []) := by
  unfold Slice.ofText at h
  simp only at h
  split at h
  · simp at h
  · simp at h
  · next entries hread =>
    obtain rfl : entries = slice := by simpa using h
    exact hread
  · simp at h

/-- **Writing and reading.**  A slice can be written exactly if its text reads as the slice, with nothing
of the text left and whatever follows; and these are the slices that any text at all reads as, whatever
its notation and its blanks. -/
theorem Slice.writable_iff_read (slice : Slice) :
    (slice.Writable ↔ Slice.ofText slice.text = .ok slice) ∧
    (slice.Writable ↔
      ∀ tail, Slice.read (Slice.chars slice ++ tail) = .ok (some slice, tail)) ∧
    (slice.Writable ↔ ∃ text, Slice.ofText text = .ok slice) ∧
    (slice.Writable ↔ ∃ s rest, Slice.read s = .ok (some slice, rest)) := by
  have hwritable : ∀ {text : String}, Slice.ofText text = .ok slice → slice.Writable :=
    fun h => writable_of_read (Slice.read_of_ofText h)
  refine ⟨⟨Slice.ofText_text, hwritable⟩, ⟨Slice.read_chars, fun h => writable_of_read (h [])⟩,
    ⟨fun h => ⟨slice.text, Slice.ofText_text h⟩, ?_⟩,
    ⟨fun h => ⟨Slice.chars slice, [], ?_⟩, ?_⟩⟩
  · intro h
    obtain ⟨text, htext⟩ := h
    exact hwritable htext
  · simpa using Slice.read_chars h []
  · intro h
    obtain ⟨s, rest, hread⟩ := h
    exact writable_of_read hread

/-- A range with a dash becomes one with a colon, here with a start that counts from the end. -/
example : (Slice.ofText " [ 0 - 5 , -9223372036854775808 :,:9223372036854775807] ").map Slice.text
    = .ok "[-1:5,-9223372036854775808:,:9223372036854775807]" := by rfl

end DisplayFilter
