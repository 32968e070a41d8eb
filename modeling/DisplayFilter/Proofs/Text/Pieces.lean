import DisplayFilter.Text.Pieces

/-!
# Texts and their pieces

A separator cuts a text into pieces, and joining puts it between pieces.  Each undoes the other, as long
as no piece has the separator in it.

* **`join_append`** — between the first pieces and the others stands the separator, **`drop_join`** — and
  behind it the others;
* **`pieces_append`** — behind a separator the pieces start anew;
* **`pieces_join`** — joined pieces come apart again, **`pieces_eq_iff`** — and only the pieces of a text
  make it up in this way.
-/

namespace DisplayFilter.Text

/-! ### Joined pieces -/

/-- Joining with nothing is appending. -/
theorem join_nil (pieces : List (List Char)) : join [] pieces = pieces.flatten := by
  induction pieces with
  | nil => rfl
  | cons piece more ih =>
    cases more with
    | nil => simp [join]
    | cons next more => simp [join, ih]

/-- Between the pieces in front and those behind stands a separator. -/
theorem join_append (separator : List Char) {front behind : List (List Char)} (hfront : front ≠ [])
    (hbehind : behind ≠ []) :
    join separator (front ++ behind) = join separator front ++ separator ++ join separator behind := by
  induction front with
  | nil => exact absurd rfl hfront
  | cons piece front ih =>
    cases front with
    | nil =>
      obtain ⟨next, more, rfl⟩ := List.exists_cons_of_ne_nil hbehind
      rfl
    | cons next front =>
      have hmore := ih (List.cons_ne_nil next front)
      simp only [List.cons_append, join] at hmore ⊢
      rw [hmore]
      simp only [List.append_assoc]

/-- The first pieces stand in front. -/
theorem join_take_prefix (separator : List Char) (pieces : List (List Char)) (n : Nat) :
    join separator (pieces.take n) <+: join separator pieces := by
  by_cases htake : pieces.take n = []
  · rw [htake]
    exact List.nil_prefix
  · by_cases hdrop : pieces.drop n = []
    · have hall := List.take_of_length_le (List.drop_eq_nil_iff.1 hdrop)
      exact ⟨[], by rw [hall, List.append_nil]⟩
    · have hsplit := join_append separator htake hdrop
      rw [List.take_append_drop] at hsplit
      rw [hsplit, List.append_assoc]
      exact List.prefix_append _ _

/-- Behind the first pieces and a separator stand the others. -/
theorem drop_join (c : Char) (pieces : List (List Char)) {n : Nat} (hn : n ≠ 0) :
    (join [c] pieces).drop ((join [c] (pieces.take n)).length + 1) = join [c] (pieces.drop n) := by
  by_cases hdrop : pieces.drop n = []
  · rw [hdrop, List.take_of_length_le (List.drop_eq_nil_iff.1 hdrop)]
    exact List.drop_eq_nil_of_le (Nat.le_succ _)
  · have htake : pieces.take n ≠ [] := by
      intro h
      rcases List.take_eq_nil_iff.1 h with rfl | h
      · exact hn rfl
      · exact hdrop (by rw [h, List.drop_nil])
    have hsplit := join_append [c] htake hdrop
    rw [List.take_append_drop] at hsplit
    rw [hsplit]
    exact List.drop_left' (by simp)

/-! ### Cutting what was joined -/

/-- A text without the separator is one piece. -/
theorem pieces_of_not_mem {separator : Char} {s : List Char} (h : separator ∉ s) :
    pieces separator s = [s] := by
  induction s with
  | nil => rfl
  | cons c s ih =>
    obtain ⟨hc, hs⟩ := not_or.1 fun hmem => h (List.mem_cons.2 hmem)
    rw [pieces, if_neg (Ne.symm hc), ih hs]

/-- Behind a separator the pieces start anew. -/
theorem pieces_append (separator : Char) (s t : List Char) :
    pieces separator (s ++ separator :: t) = pieces separator s ++ pieces separator t := by
  induction s with
  | nil => simp [pieces]
  | cons c s ih =>
    rw [List.cons_append, pieces, pieces]
    split
    · rw [ih, List.cons_append]
    · obtain ⟨piece, more, hpieces⟩ := List.exists_cons_of_ne_nil (pieces_ne_nil separator s)
      rw [ih, hpieces]
      rfl

/-- No piece has the separator in it. -/
theorem not_mem_of_mem_pieces {separator : Char} {s piece : List Char} (h : piece ∈ pieces separator s) :
    separator ∉ piece := by
  induction s generalizing piece with
  | nil =>
    obtain rfl : piece = [] := List.mem_singleton.1 h
    exact List.not_mem_nil
  | cons c s ih =>
    obtain ⟨first, more, hpieces⟩ := List.exists_cons_of_ne_nil (pieces_ne_nil separator s)
    rw [hpieces] at ih
    rw [pieces, hpieces] at h
    split at h
    · rcases List.mem_cons.1 h with rfl | h
      · exact List.not_mem_nil
      · exact ih h
    · next hc =>
      rcases List.mem_cons.1 h with rfl | h
      · intro hmem
        rcases List.mem_cons.1 hmem with rfl | hmem
        · exact hc rfl
        · exact ih List.mem_cons_self hmem
      · exact ih (List.mem_cons_of_mem _ h)

/-- **Joined pieces come apart again,** if none of them has the separator in it. -/
theorem pieces_join {separator : Char} {texts : List (List Char)} (hne : texts ≠ [])
    (h : ∀ text ∈ texts, separator ∉ text) : pieces separator (join [separator] texts) = texts := by
  induction texts with
  | nil => exact absurd rfl hne
  | cons text texts ih =>
    have htext := pieces_of_not_mem (h text List.mem_cons_self)
    cases texts with
    | nil => exact htext
    | cons next texts =>
      have hmore := ih (List.cons_ne_nil next texts) fun x hx => h x (List.mem_cons_of_mem _ hx)
      show pieces separator (text ++ [separator] ++ join [separator] (next :: texts)) = _
      rw [List.append_assoc, List.singleton_append, pieces_append, htext, hmore]
      rfl

/-- **The pieces of a text** are the texts without the separator that make it up. -/
theorem pieces_eq_iff {separator : Char} {s : List Char} {texts : List (List Char)} :
    pieces separator s = texts ↔
      texts ≠ [] ∧ (∀ text ∈ texts, separator ∉ text) ∧ join [separator] texts = s := by
  constructor
  · rintro rfl
    exact ⟨pieces_ne_nil separator s, fun _ => not_mem_of_mem_pieces, join_pieces separator s⟩
  · rintro ⟨hne, hplain, rfl⟩
    exact pieces_join hne hplain

end DisplayFilter.Text
