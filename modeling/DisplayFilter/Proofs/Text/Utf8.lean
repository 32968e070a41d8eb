import DisplayFilter.Text.Utf8

/-!
# Texts and their bytes

Decoding reads the bytes of a text back, one character after the other: the first byte says how many
more there are, and each of these carries six bits of the code.

* **`encode_toList`** — the bytes of a text are those of the string in UTF-8, **`length_encode`** — as
  many as its size says;
* `decodeChar?_one` to `decodeChar?_four` — the forms that the first character has;
* **`decodeChar?_encodeChar`** — it is read whatever stands behind it;
* **`decode?_encode`** — the bytes of a text are read as the text.
-/

namespace DisplayFilter.Text

/-! ### The standard form -/

/-- Codes of characters end below `110000`. -/
theorem toNat_lt_bound (c : Char) : c.toNat < 0x110000 := by
  have hvalid : c.toNat.isValidChar := c.valid
  unfold Nat.isValidChar at hvalid
  omega

theorem encodeChar_eq (c : Char) : encodeChar c = String.utf8EncodeChar c := by
  have hcode : c.val.toNat = c.toNat := rfl
  have hlt := toNat_lt_bound c
  have hlead : ∀ n m k : Nat, n < m → (k + n).toUInt8 = UInt8.ofNat (n % m + k) := fun n m k h => by
    rw [Nat.mod_eq_of_lt h, Nat.add_comm]
  have hlow : ∀ n : Nat, (0x80 + n % 0x40).toUInt8 = UInt8.ofNat (n % 64 + 128) := fun n => by
    rw [Nat.add_comm]
  simp only [encodeChar, String.utf8EncodeChar, hcode]
  by_cases hone : c.toNat < 0x80
  · rw [if_pos hone, if_pos (by omega)]
  by_cases htwo : c.toNat < 0x800
  · rw [if_neg hone, if_pos htwo, if_neg (by omega), if_pos (by omega), hlead _ 32 _ (by omega), hlow]
  by_cases hthree : c.toNat < 0x10000
  · rw [if_neg hone, if_neg htwo, if_pos hthree, if_neg (by omega), if_neg (by omega),
      if_pos (by omega), hlead _ 16 _ (by omega), hlow, hlow]
  · rw [if_neg hone, if_neg htwo, if_neg hthree, if_neg (by omega), if_neg (by omega),
      if_neg (by omega), hlead _ 8 _ (by omega), hlow, hlow, hlow]

/-- **The bytes of a text** are those that the string has in UTF-8. -/
theorem encode_toList (s : String) : encode s.toList = s.toUTF8.data.toList := by
  rw [show s.toUTF8 = s.toList.utf8Encode from String.utf8Encode_toList.symm, List.utf8Encode, encode,
    funext encodeChar_eq]
  simp

/-- There are as many of them as the size of the text says. -/
theorem length_encode (s : List Char) : (encode s).length = utf8Size s := by
  induction s with
  | nil => rfl
  | cons c s ih =>
    show (encodeChar c ++ encode s).length = c.utf8Size + utf8Size s
    rw [List.length_append, ih, encodeChar_eq, String.length_utf8EncodeChar]

theorem length_le_utf8Size (s : List Char) : s.length ≤ utf8Size s := by
  induction s with
  | nil => exact Nat.le_refl 0
  | cons c s ih =>
    have hpos := c.utf8Size_pos
    rw [List.length_cons, utf8Size_cons]
    omega

/-! ### Decoding -/

theorem toNat_toUInt8 {n : Nat} (h : n < 256) : n.toUInt8.toNat = n :=
  Nat.mod_eq_of_lt h

/-- A continuation byte gives back the six bits that it carries. -/
theorem continuation?_low {n : Nat} (h : n < 0x40) : continuation? (0x80 + n).toUInt8 = some n := by
  rw [continuation?, toNat_toUInt8 (by omega), if_pos (by omega), Nat.add_sub_cancel_left]

/-- The code of a character names the character, above any bound that it keeps. -/
theorem scalar?_toNat {least : Nat} (c : Char) (h : least ≤ c.toNat) :
    scalar? least c.toNat = some c := by
  rw [scalar?, if_pos ⟨h, c.valid⟩, Char.ofNat_toNat]

/-- The bits that two, three or four bytes carry make up the code. -/
theorem code_two (n : Nat) : n / 0x40 * 0x40 + n % 0x40 = n :=
  Nat.div_add_mod' n 0x40

theorem code_three (n : Nat) :
    n / 0x1000 * 0x1000 + n / 0x40 % 0x40 * 0x40 + n % 0x40 = n := by
  omega

theorem code_four (n : Nat) :
    n / 0x40000 * 0x40000 + n / 0x1000 % 0x40 * 0x1000 + n / 0x40 % 0x40 * 0x40 + n % 0x40 = n := by
  omega

section Forms

variable {a b c d : UInt8} {k l m n : Nat} {rest : List UInt8}

/-- A byte below `80` is a character. -/
theorem decodeChar?_one (ha : a.toNat < 0x80) :
    decodeChar? (a :: rest) = some (Char.ofNat a.toNat, rest) := by
  unfold decodeChar?
  exact if_pos ha

/-- **Two bytes:** the first one has five bits of the code. -/
theorem decodeChar?_two (ha : a.toNat = 0xC0 + m) (hm : m < 0x20) (hb : continuation? b = some n) :
    decodeChar? (a :: b :: rest) = (scalar? 0x80 (m * 0x40 + n)).map (·, rest) := by
  have hfirst : a.toNat - 0xC0 = m := by omega
  rw [decodeChar?, if_neg (by omega), if_neg (by omega), if_pos (by omega), hfirst]
  show ((continuation? b).bind fun n =>
    (scalar? 0x80 (m * 0x40 + n)).bind fun c => some (c, rest)) = _
  rw [hb, Option.bind_some, Option.map_eq_bind]
  rfl

/-- **Three bytes:** the first one has four bits of the code. -/
theorem decodeChar?_three (ha : a.toNat = 0xE0 + l) (hl : l < 0x10)
    (hb : continuation? b = some m) (hc : continuation? c = some n) :
    decodeChar? (a :: b :: c :: rest) =
      (scalar? 0x800 (l * 0x1000 + m * 0x40 + n)).map (·, rest) := by
  have hfirst : a.toNat - 0xE0 = l := by omega
  rw [decodeChar?, if_neg (by omega), if_neg (by omega), if_neg (by omega), if_pos (by omega), hfirst]
  show ((continuation? b).bind fun m => (continuation? c).bind fun n =>
    (scalar? 0x800 (l * 0x1000 + m * 0x40 + n)).bind fun c => some (c, rest)) = _
  rw [hb, Option.bind_some, hc, Option.bind_some, Option.map_eq_bind]
  rfl

/-- **Four bytes:** the first one has three bits of the code. -/
theorem decodeChar?_four (ha : a.toNat = 0xF0 + k) (hk : k < 0x8) (hb : continuation? b = some l)
    (hc : continuation? c = some m) (hd : continuation? d = some n) :
    decodeChar? (a :: b :: c :: d :: rest) =
      (scalar? 0x10000 (k * 0x40000 + l * 0x1000 + m * 0x40 + n)).map (·, rest) := by
  have hfirst : a.toNat - 0xF0 = k := by omega
  rw [decodeChar?, if_neg (by omega), if_neg (by omega), if_neg (by omega), if_neg (by omega),
    if_pos (by omega), hfirst]
  show ((continuation? b).bind fun l => (continuation? c).bind fun m => (continuation? d).bind fun n =>
    (scalar? 0x10000 (k * 0x40000 + l * 0x1000 + m * 0x40 + n)).bind fun c => some (c, rest)) = _
  -- one bind after the other: `rfl` on the whole chain computes with the bound of the code
  rw [hb, Option.bind_some, hc, Option.bind_some, hd, Option.bind_some, Option.map_eq_bind]
  rfl

end Forms

/-- **The first character** of some bytes is read from its own bytes alone. -/
theorem decodeChar?_encodeChar (c : Char) (rest : List UInt8) :
    decodeChar? (encodeChar c ++ rest) = some (c, rest) := by
  have hlt := toNat_lt_bound c
  have hlow : ∀ n, continuation? (0x80 + n % 0x40).toUInt8 = some (n % 0x40) := fun n =>
    continuation?_low (Nat.mod_lt n (by decide))
  rw [encodeChar]
  -- the four lengths that a character has
  by_cases hone : c.toNat < 0x80
  · have hfirst : c.toNat.toUInt8.toNat = c.toNat := toNat_toUInt8 (by omega)
    rw [if_pos hone, List.cons_append, decodeChar?_one (by omega), hfirst, Char.ofNat_toNat]
    rfl
  by_cases htwo : c.toNat < 0x800
  · rw [if_neg hone, if_pos htwo, List.cons_append, List.cons_append,
      decodeChar?_two (toNat_toUInt8 (by omega)) (by omega) (hlow _), code_two,
      scalar?_toNat c (by omega)]
    rfl
  by_cases hthree : c.toNat < 0x10000
  · rw [if_neg hone, if_neg htwo, if_pos hthree, List.cons_append, List.cons_append,
      List.cons_append, decodeChar?_three (toNat_toUInt8 (by omega)) (by omega) (hlow _) (hlow _),
      code_three, scalar?_toNat c (by omega)]
    rfl
  · rw [if_neg hone, if_neg htwo, if_neg hthree, List.cons_append, List.cons_append,
      List.cons_append, List.cons_append,
      decodeChar?_four (toNat_toUInt8 (by omega)) (by omega) (hlow _) (hlow _) (hlow _),
      code_four, scalar?_toNat c (by omega)]
    rfl

/-- Decoding takes the first character and goes on behind it. -/
theorem decodeUpTo?_cons {fuel : Nat} {bytes rest : List UInt8} {c : Char} {s : List Char}
    (hc : decodeChar? bytes = some (c, rest)) (hs : decodeUpTo? fuel rest = some s) :
    decodeUpTo? (fuel + 1) bytes = some (c :: s) := by
  cases bytes with
  | nil => simp [decodeChar?] at hc
  | cons b bytes =>
    exact Option.bind_eq_some_iff.2 ⟨(c, rest), hc, Option.bind_eq_some_iff.2 ⟨s, hs, rfl⟩⟩

theorem decodeUpTo?_encode {fuel : Nat} {s : List Char} (h : s.length ≤ fuel) :
    decodeUpTo? fuel (encode s) = some s := by
  induction s generalizing fuel with
  | nil => cases fuel <;> rfl
  | cons c s ih =>
    cases fuel with
    | zero => simp at h
    | succ fuel =>
      exact decodeUpTo?_cons (decodeChar?_encodeChar c (encode s)) (ih (Nat.le_of_succ_le_succ h))

/-- **The bytes of a text** are read as the text. -/
theorem decode?_encode (s : List Char) : decode? (encode s) = some s :=
  decodeUpTo?_encode (by rw [length_encode]; exact length_le_utf8Size s)

end DisplayFilter.Text
