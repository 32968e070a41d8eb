import DisplayFilter.Proofs.Text.Runs
import DisplayFilter.Proofs.Text.Utf8

/-!
# Boundaries of characters

A position in a text is counted in bytes, and only some of them stand between two characters.  A text can
be cut at these positions only.

* `IsBoundary` — a position at which a text can be cut, **`isBoundary_iff`** — the size of what stands in
  front of it;
* **`isBoundary_iff_byte`** — in the bytes of the text such a position is the end or the first byte of a
  character;
* `takeBytes?` — the text in front of a position;
* **`bytePosition_of_append`** — the position of an end piece;
* **`utf8Size_of_equalCaseless`** — a word has one size in every case of letters.
-/

namespace DisplayFilter.Text

/-! ### Cutting at a position -/

/-- The rest of a text from a position on stands behind as many bytes. -/
theorem dropBytes?_append (front rest : List Char) :
    dropBytes? (utf8Size front) (front ++ rest) = some rest := by
  induction front with
  | nil => cases rest <;> rfl
  | cons c front ih =>
    have hpos := c.utf8Size_pos
    obtain ⟨n, hn⟩ : ∃ n, utf8Size (c :: front) = n + 1 :=
      ⟨utf8Size (c :: front) - 1, by rw [utf8Size_cons]; omega⟩
    have hrest : n + 1 - c.utf8Size = utf8Size front := by
      rw [← hn, utf8Size_cons]
      omega
    rw [hn, List.cons_append, dropBytes?, if_pos (by rw [← hn, utf8Size_cons]; omega), hrest, ih]

theorem dropBytes?_eq_some_iff {n : Nat} {s rest : List Char} :
    dropBytes? n s = some rest ↔ ∃ front, s = front ++ rest ∧ utf8Size front = n := by
  constructor
  · intro h
    induction s generalizing n with
    | nil =>
      cases n with
      | zero => exact ⟨[], Option.some.inj h, rfl⟩
      | succ n => nomatch h
    | cons c s ih =>
      cases n with
      | zero => exact ⟨[], Option.some.inj h, rfl⟩
      | succ n =>
        rw [dropBytes?] at h
        split at h
        · next hle =>
          obtain ⟨front, hs, hsize⟩ := ih h
          refine ⟨c :: front, by rw [hs, List.cons_append], ?_⟩
          rw [utf8Size_cons, hsize]
          omega
        · nomatch h
  · intro ⟨front, hs, hsize⟩
    rw [hs, ← hsize]
    exact dropBytes?_append front rest

/-- **A boundary:** a position in bytes at which a text can be cut. -/
def IsBoundary (s : List Char) (n : Nat) : Prop :=
  (dropBytes? n s).isSome = true

instance (s : List Char) (n : Nat) : Decidable (IsBoundary s n) :=
  inferInstanceAs (Decidable (_ = true))

/-- **A boundary** is the size of what stands in front of it. -/
theorem isBoundary_iff {s : List Char} {n : Nat} :
    IsBoundary s n ↔ ∃ front rest, s = front ++ rest ∧ utf8Size front = n := by
  rw [IsBoundary, Option.isSome_iff_exists]
  constructor
  · intro ⟨rest, hrest⟩
    obtain ⟨front, hs, hsize⟩ := dropBytes?_eq_some_iff.1 hrest
    exact ⟨front, rest, hs, hsize⟩
  · intro ⟨front, rest, hs, hsize⟩
    exact ⟨rest, dropBytes?_eq_some_iff.2 ⟨front, hs, hsize⟩⟩

theorem IsBoundary.le {s : List Char} {n : Nat} (h : IsBoundary s n) : n ≤ utf8Size s := by
  obtain ⟨front, rest, rfl, rfl⟩ := isBoundary_iff.1 h
  rw [utf8Size_append]
  exact Nat.le_add_right _ _

/-! ### Boundaries in bytes -/

/-- Whether a byte goes on with a character that started in front of it. -/
def isContinuation (b : UInt8) : Bool :=
  (continuation? b).isSome

theorem isContinuation_toUInt8 {n : Nat} (h : n < 256) :
    isContinuation n.toUInt8 = decide (0x80 ≤ n ∧ n < 0xC0) := by
  rw [isContinuation, continuation?, toNat_toUInt8 h]
  split
  · next hn => simp [hn]
  · next hn => simp [hn]

/-- **The bytes of a character:** one that starts it, and others that go on with it. -/
theorem encodeChar_cons (c : Char) :
    ∃ b more, encodeChar c = b :: more ∧ isContinuation b = false ∧
      ∀ d ∈ more, isContinuation d = true := by
  have hlt := toNat_lt_bound c
  have hlow : ∀ n : Nat, isContinuation (0x80 + n % 0x40).toUInt8 = true := by
    intro n
    have hmod := Nat.mod_lt n (show 0 < 0x40 by decide)
    rw [isContinuation_toUInt8 (by omega)]
    simp
    omega
  have hfirst : ∀ n : Nat, n < 256 → n < 0x80 ∨ 0xC0 ≤ n → isContinuation n.toUInt8 = false := by
    intro n hn hrange
    rw [isContinuation_toUInt8 hn]
    simp
    omega
  have hall : ∀ {more : List Nat}, ∀ d ∈ more.map fun n => (0x80 + n % 0x40).toUInt8,
      isContinuation d = true := by
    intro more d hd
    obtain ⟨n, -, rfl⟩ := List.mem_map.1 hd
    exact hlow n
  unfold encodeChar
  simp only
  split
  · next hone => exact ⟨_, [], rfl, hfirst _ (by omega) (Or.inl hone), by simp⟩
  · split
    · next htwo => exact ⟨_, _, rfl, hfirst _ (by omega) (Or.inr (by omega)), @hall [c.toNat]⟩
    · split
      · next hthree =>
        exact ⟨_, _, rfl, hfirst _ (by omega) (Or.inr (by omega)), @hall [c.toNat / 0x40, c.toNat]⟩
      · exact ⟨_, _, rfl, hfirst _ (by omega) (Or.inr (by omega)),
          @hall [c.toNat / 0x1000, c.toNat / 0x40, c.toNat]⟩

theorem isBoundary_zero (s : List Char) : IsBoundary s 0 :=
  isBoundary_iff.2 ⟨[], s, rfl, rfl⟩

/-- Behind a character the boundaries are those of the rest. -/
theorem isBoundary_cons {c : Char} {s : List Char} {n : Nat} :
    IsBoundary (c :: s) (c.utf8Size + n) ↔ IsBoundary s n := by
  have hpos := c.utf8Size_pos
  obtain ⟨m, hm⟩ : ∃ m, c.utf8Size + n = m + 1 := ⟨c.utf8Size + n - 1, by omega⟩
  have hrest : m + 1 - c.utf8Size = n := by omega
  rw [IsBoundary, IsBoundary, hm, dropBytes?, if_pos (by omega), hrest]

/-- Inside of a character there is none. -/
theorem not_isBoundary_inside {c : Char} {s : List Char} {n : Nat} (hpos : 0 < n)
    (hlt : n < c.utf8Size) : ¬ IsBoundary (c :: s) n := by
  obtain ⟨m, rfl⟩ : ∃ m, n = m + 1 := ⟨n - 1, by omega⟩
  rw [IsBoundary, dropBytes?, if_neg (by omega)]
  simp

/-- **In the bytes of a text** a position is a boundary exactly if it is the end or the position of a byte
that does not go on with a character. -/
theorem isBoundary_iff_byte {s : List Char} {n : Nat} :
    IsBoundary s n ↔
      n = (encode s).length ∨ ∃ b, (encode s)[n]? = some b ∧ isContinuation b = false := by
  induction s generalizing n with
  | nil =>
    constructor
    · intro h
      exact Or.inl (Nat.le_zero.1 h.le)
    · intro h
      rcases h with rfl | ⟨b, hb, -⟩
      · exact isBoundary_zero []
      · nomatch hb
  | cons c s ih =>
    obtain ⟨first, more, hchar, hfirst, hmore⟩ := encodeChar_cons c
    have hencode : encode (c :: s) = encodeChar c ++ encode s := rfl
    have hsize : (encodeChar c).length = c.utf8Size := by
      rw [encodeChar_eq, String.length_utf8EncodeChar]
    have hlength : (encode (c :: s)).length = c.utf8Size + (encode s).length := by
      rw [hencode, List.length_append, hsize]
    by_cases hbehind : c.utf8Size ≤ n
    · obtain ⟨m, rfl⟩ := Nat.exists_eq_add_of_le hbehind
      have hbyte : (encode (c :: s))[c.utf8Size + m]? = (encode s)[m]? := by
        rw [hencode, List.getElem?_append_right (by omega), hsize, Nat.add_sub_cancel_left]
      rw [isBoundary_cons, ih, hbyte, hlength, Nat.add_left_cancel_iff]
    · by_cases hzero : n = 0
      · subst hzero
        have hbyte : (encode (c :: s))[0]? = some first := by
          rw [hencode, hchar]
          rfl
        exact iff_of_true (isBoundary_zero _) (Or.inr ⟨first, hbyte, hfirst⟩)
      · refine iff_of_false (not_isBoundary_inside (by omega) (by omega)) ?_
        intro h
        rcases h with hend | ⟨b, hb, hstart⟩
        · omega
        · -- the byte is one of those behind the first byte of `c`
          have hmem : b ∈ more := by
            rw [hencode, List.getElem?_append_left (by omega), hchar] at hb
            obtain ⟨m, rfl⟩ : ∃ m, n = m + 1 := ⟨n - 1, by omega⟩
            exact List.mem_of_getElem? hb
          rw [hmore b hmem] at hstart
          nomatch hstart

/-! ### The text in front of a position -/

/-- The text in front of a byte position, if it is a boundary. -/
def takeBytes? (n : Nat) (s : List Char) : Option (List Char) :=
  (dropBytes? n s).map fun rest => s.take (s.length - rest.length)

theorem takeBytes?_append (front rest : List Char) :
    takeBytes? (utf8Size front) (front ++ rest) = some front := by
  rw [takeBytes?, dropBytes?_append, Option.map_some, List.length_append, Nat.add_sub_cancel,
    List.take_left]

theorem takeBytes?_eq_some_iff {n : Nat} {s front : List Char} :
    takeBytes? n s = some front ↔ ∃ rest, s = front ++ rest ∧ utf8Size front = n := by
  constructor
  · intro h
    obtain ⟨rest, hrest, hfront⟩ := Option.map_eq_some_iff.1 h
    obtain ⟨other, rfl, hsize⟩ := dropBytes?_eq_some_iff.1 hrest
    rw [List.length_append, Nat.add_sub_cancel, List.take_left] at hfront
    exact ⟨rest, by rw [hfront], hfront ▸ hsize⟩
  · intro ⟨rest, hs, hsize⟩
    rw [hs, ← hsize]
    exact takeBytes?_append front rest

/-! ### Positions of end pieces -/

/-- **The position of an end piece** is the size of what stands in front of it. -/
theorem bytePosition_of_append (front rest : List Char) :
    bytePosition (front ++ rest) rest = utf8Size front := by
  rw [bytePosition, utf8Size_append, Nat.add_sub_cancel]

theorem isBoundary_bytePosition {s rest : List Char} (h : rest <:+ s) :
    IsBoundary s (bytePosition s rest) := by
  obtain ⟨front, rfl⟩ := h
  exact isBoundary_iff.2 ⟨front, rest, rfl, (bytePosition_of_append front rest).symm⟩

/-- What an end piece starts with moves the position. -/
theorem bytePosition_append {s front rest : List Char} (h : front ++ rest <:+ s) :
    bytePosition s rest = bytePosition s (front ++ rest) + utf8Size front := by
  obtain ⟨before, rfl⟩ := h
  rw [bytePosition_of_append before (front ++ rest), ← List.append_assoc, bytePosition_of_append,
    utf8Size_append]

theorem dropBytes?_bytePosition {s rest : List Char} (h : rest <:+ s) :
    dropBytes? (bytePosition s rest) s = some rest := by
  obtain ⟨front, rfl⟩ := h
  rw [bytePosition_of_append]
  exact dropBytes?_append front rest

theorem bytePosition_self (s : List Char) : bytePosition s s = 0 :=
  Nat.sub_self _

/-! ### Case of letters -/

theorem utf8Size_eq_one {c : Char} (h : c.toNat ≤ 127) : c.utf8Size = 1 :=
  Char.utf8Size_eq_one_iff.2 (UInt32.le_iff_toNat_le.2 h)

theorem utf8Size_toLower (c : Char) : c.toLower.utf8Size = c.utf8Size := by
  by_cases hupper : c.isUpper = true
  · have hc := toNat_of_isUpper hupper
    have hlower := toNat_toLower_of_isUpper hupper
    rw [utf8Size_eq_one (show c.toNat ≤ 127 by omega),
      utf8Size_eq_one (show c.toLower.toNat ≤ 127 by omega)]
  · rw [toLower_of_not_isUpper hupper]

theorem utf8Size_map_toLower (s : List Char) : utf8Size (s.map Char.toLower) = utf8Size s := by
  induction s with
  | nil => rfl
  | cons c s ih => rw [List.map_cons, utf8Size_cons, utf8Size_cons, utf8Size_toLower, ih]

/-- **A word has one size** in every case of letters. -/
theorem utf8Size_of_equalCaseless {word w : List Char} (h : equalCaseless word w = true) :
    utf8Size w = utf8Size word := by
  rw [← utf8Size_map_toLower w, ← equalCaseless_iff.1 h, utf8Size_map_toLower]

end DisplayFilter.Text
