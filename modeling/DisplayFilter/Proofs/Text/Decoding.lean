import DisplayFilter.Text.Escape
import DisplayFilter.Value.Reading

/-!
# Texts that stand for themselves

A literal is unescaped, and then its codes are read as bytes where they are the bytes of a text.
Without a backslash there is nothing to unescape, and without a code that starts a longer character
the bytes of a text are the text itself, or no text at all.

* `isUnescaped` — the characters that are neither a backslash nor the first byte of a character;
* **`decoded_of_unescaped`** — a text of such characters stands for itself.
-/

namespace DisplayFilter.Text

/-- The characters that are neither a backslash nor have the code of a byte that starts a longer
character. -/
def isUnescaped (c : Char) : Bool :=
  c != '\\' && (c.toNat < 192 || 256 ≤ c.toNat)

theorem unescape_of_unescaped {s : List Char} (h : ∀ c ∈ s, isUnescaped c = true) :
    unescape s = s := by
  induction s with
  | nil => rfl
  | cons c s ih =>
    have hc := h c List.mem_cons_self
    have hs := ih fun d hd => h d (List.mem_cons_of_mem _ hd)
    have hne : c ≠ '\\' := by
      rintro rfl
      exact absurd hc (by decide)
    rw [unescape, hs]
    exact fun _ _ _ hbackslash => absurd hbackslash hne

/-- Bytes that start no longer character are read as their codes, or not at all. -/
theorem eq_of_decodeUpTo? {s t : List Char} {bytes : List UInt8} {fuel : Nat}
    (h : ∀ c ∈ s, isUnescaped c = true) (hbytes : latin1? s = some bytes)
    (ht : decodeUpTo? fuel bytes = some t) : t = s := by
  induction s generalizing bytes fuel t with
  | nil =>
    obtain rfl : [] = bytes := by simpa [latin1?] using hbytes
    cases fuel <;> simpa [decodeUpTo?, eq_comm] using ht
  | cons c s ih =>
    have hc := h c List.mem_cons_self
    simp only [isUnescaped, Bool.and_eq_true, Bool.or_eq_true, decide_eq_true_eq] at hc
    simp only [latin1?, Option.ite_none_right_eq_some, Option.map_eq_some_iff] at hbytes
    obtain ⟨hlt, more, hmore, rfl⟩ := hbytes
    have hcode : c.toNat.toUInt8.toNat = c.toNat := Nat.mod_eq_of_lt hlt
    cases fuel with
    | zero => simp [decodeUpTo?] at ht
    | succ fuel =>
      obtain ⟨⟨d, rest⟩, hd, ht⟩ := Option.bind_eq_some_iff.1 ht
      obtain ⟨u, hu, ht⟩ := Option.bind_eq_some_iff.1 ht
      obtain rfl : d :: u = t := by simpa using ht
      simp only [decodeChar?, hcode] at hd
      split at hd
      · obtain ⟨rfl, rfl⟩ : Char.ofNat c.toNat = d ∧ more = rest := by simpa using hd
        rw [Char.ofNat_toNat, ih (fun x hx => h x (List.mem_cons_of_mem _ hx)) hmore hu]
      · rw [if_pos (by omega)] at hd
        simp at hd

/-- **A text of such characters stands for itself.** -/
theorem decoded_of_unescaped {s : List Char} (h : ∀ c ∈ s, isUnescaped c = true) :
    decoded s = s := by
  unfold decoded
  rw [unescape_of_unescaped h]
  split
  · next t ht =>
    obtain ⟨bytes, hbytes, ht⟩ := Option.bind_eq_some_iff.1 ht
    exact eq_of_decodeUpTo? h hbytes ht
  · rfl

theorem decodedText_of_unescaped {s : String} (h : ∀ c ∈ s.toList, isUnescaped c = true) :
    decodedText s = s := by
  rw [decodedText, decoded_of_unescaped h, String.ofList_toList]

end DisplayFilter.Text
