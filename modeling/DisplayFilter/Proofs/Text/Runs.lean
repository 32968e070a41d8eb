import DisplayFilter.Text.Blank
import DisplayFilter.Text.Pieces

/-!
# Runs and beginnings of texts

Readers take a run of characters of one class, or a word that a text starts with.  What they take
is fixed by the characters of the run and by the first character behind it.

* **`takeWhile_append_of_stops`**, **`dropWhile_append_of_stops`** — a run ends where the class ends;
* **`trimStart_append_blanks`** — blanks in front of a text do not count;
* **`dropCaseless?_eq_some_iff`** — what a keyword leaves of a text, up to the case of letters;
* **`longestStart?_eq_some_iff`** — the longest listed word is the longest prefix on the list.
-/

namespace DisplayFilter.Text

/-- Whether a text does not start with a character of the class `p`. -/
def Stops (p : Char → Bool) (s : List Char) : Prop :=
  ∀ c ∈ s.head?, p c = false

theorem stops_nil (p : Char → Bool) : Stops p [] := by
  simp [Stops]

theorem stops_cons {p : Char → Bool} {c : Char} {s : List Char} :
    Stops p (c :: s) ↔ p c = false := by
  simp [Stops]

/-- What is left behind a run starts with no character of its class. -/
theorem stops_dropWhile (p : Char → Bool) (s : List Char) : Stops p (s.dropWhile p) := by
  induction s with
  | nil => exact stops_nil p
  | cons c s ih =>
    cases h : p c with
    | true => rwa [List.dropWhile_cons_of_pos h]
    | false =>
      rw [List.dropWhile_cons_of_neg (by simp [h])]
      exact stops_cons.2 h

theorem takeWhile_of_stops {p : Char → Bool} {s : List Char} (h : Stops p s) :
    s.takeWhile p = [] := by
  cases s with
  | nil => rfl
  | cons c s => exact List.takeWhile_cons_of_neg (by simp [stops_cons.1 h])

theorem dropWhile_of_stops {p : Char → Bool} {s : List Char} (h : Stops p s) :
    s.dropWhile p = s := by
  cases s with
  | nil => rfl
  | cons c s => exact List.dropWhile_cons_of_neg (by simp [stops_cons.1 h])

/-- **A run ends where its class ends.** -/
theorem takeWhile_append_of_stops {p : Char → Bool} {w s : List Char} (hw : ∀ c ∈ w, p c = true)
    (hs : Stops p s) : (w ++ s).takeWhile p = w := by
  rw [List.takeWhile_append_of_pos hw, takeWhile_of_stops hs, List.append_nil]

/-- **Behind a run** stands the text that does not go on with its class. -/
theorem dropWhile_append_of_stops {p : Char → Bool} {w s : List Char} (hw : ∀ c ∈ w, p c = true)
    (hs : Stops p s) : (w ++ s).dropWhile p = s := by
  rw [List.dropWhile_append_of_pos hw, dropWhile_of_stops hs]

theorem takeWhile_all {p : Char → Bool} {s : List Char} : ∀ c ∈ s.takeWhile p, p c = true := by
  have h := List.all_takeWhile (p := p) (l := s)
  rwa [List.all_eq_true] at h

/-- A character outside of the class ends the run of any text in front of it. -/
theorem dropWhile_append_cons {p : Char → Bool} {d : Char} (hd : p d = false) (s t : List Char) :
    (s ++ d :: t).dropWhile p = s.dropWhile p ++ d :: t := by
  induction s with
  | nil => exact dropWhile_of_stops (stops_cons.2 hd)
  | cons c s ih =>
    cases h : p c with
    | true => rw [List.cons_append, List.dropWhile_cons_of_pos h, List.dropWhile_cons_of_pos h, ih]
    | false =>
      rw [List.cons_append, List.dropWhile_cons_of_neg (by simp [h]),
        List.dropWhile_cons_of_neg (by simp [h]), List.cons_append]

/-- In a text over a class no character stands that is not in it. -/
theorem count_of_class {q : Char → Bool} {s : List Char} (h : ∀ c ∈ s, q c = true) {d : Char}
    (hd : q d = false) : s.count d = 0 := by
  refine List.count_eq_zero.2 fun hmem => ?_
  rw [h d hmem] at hd
  exact Bool.noConfusion hd

/-- Words over a class of characters, none of them empty, can be told by computing. -/
theorem words_over_of_all {α : Type} {xs : List α} {chars : α → List Char} {q : Char → Bool}
    (h : xs.all (fun x => !(chars x).isEmpty && (chars x).all q) = true) :
    ∀ x ∈ xs, chars x ≠ [] ∧ ∀ c ∈ chars x, q c = true := by
  intro x hx
  have hword := List.all_eq_true.1 h x hx
  rw [Bool.and_eq_true, Bool.not_eq_true', List.all_eq_true] at hword
  exact ⟨by simpa using hword.1, hword.2⟩

/-- The pieces of a joined string, joined. -/
theorem toList_intercalate (separator : String) (pieces : List String) :
    (separator.intercalate pieces).toList = join separator.toList (pieces.map String.toList) := by
  have hjoin : ∀ pieces : List (List Char),
      separator.toList.intercalate pieces = join separator.toList pieces := by
    intro pieces
    induction pieces with
    | nil => rfl
    | cons piece pieces ih =>
      cases pieces with
      | nil => simp [join]
      | cons next pieces =>
        show _ = piece ++ separator.toList ++ join separator.toList (next :: pieces)
        rw [List.intercalate_cons_cons, ih]
  rw [String.toList_intercalate, hjoin]

/-! ### Blanks -/

theorem trimStart_of_stops {s : List Char} (h : Stops isBlank s) : trimStart s = s :=
  dropWhile_of_stops h

/-- A text with no blank at either end is not trimmed. -/
theorem trim_of_ends {s : List Char} (hfirst : Stops isBlank s) (hlast : Stops isBlank s.reverse) :
    trim s = s := by
  rw [trim, trimStart_of_stops hfirst, trimEnd, dropWhile_of_stops hlast, List.reverse_reverse]

/-- **Trimming** takes blanks off both ends. -/
theorem trim_append (s : List Char) : ∃ u v, s = u ++ trim s ++ v ∧
    (∀ c ∈ u, isBlank c = true) ∧ ∀ c ∈ v, isBlank c = true := by
  refine ⟨s.takeWhile isBlank, ((trimStart s).reverse.takeWhile isBlank).reverse, ?_, takeWhile_all,
    fun c hc => takeWhile_all c (List.mem_reverse.1 hc)⟩
  have hend : trim s ++ ((trimStart s).reverse.takeWhile isBlank).reverse = trimStart s := by
    rw [trim, trimEnd, ← List.reverse_append, List.takeWhile_append_dropWhile, List.reverse_reverse]
  rw [List.append_assoc, hend]
  exact List.takeWhile_append_dropWhile.symm

theorem trimStart_suffix (s : List Char) : trimStart s <:+ s :=
  List.dropWhile_suffix isBlank

@[simp] theorem trimStart_nil : trimStart [] = [] := rfl

/-- Blanks in front of a text do not count. -/
theorem trimStart_append_blanks {w : List Char} (hw : ∀ c ∈ w, isBlank c = true) (s : List Char) :
    trimStart (w ++ s) = trimStart s :=
  List.dropWhile_append_of_pos hw

theorem trimStart_cons_of_blank {c : Char} (hc : isBlank c = true) (s : List Char) :
    trimStart (c :: s) = trimStart s :=
  List.dropWhile_cons_of_pos hc

theorem trimStart_cons_of_not_blank {c : Char} (hc : isBlank c = false) (s : List Char) :
    trimStart (c :: s) = c :: s :=
  trimStart_of_stops (stops_cons.2 hc)

theorem trimStart_append_cons {d : Char} (hd : isBlank d = false) (s t : List Char) :
    trimStart (s ++ d :: t) = trimStart s ++ d :: t :=
  dropWhile_append_cons hd s t

/-- A text that is blank at its start is blank altogether. -/
theorem trim_eq_nil_iff {s : List Char} : trim s = [] ↔ trimStart s = [] := by
  constructor
  · intro h
    obtain ⟨u, v, hs, hu, hv⟩ := trim_append s
    rw [h, List.append_nil] at hs
    have hnil := trimStart_append_blanks hv []
    rw [List.append_nil] at hnil
    rw [hs, trimStart_append_blanks hu, hnil, trimStart_nil]
  · intro h
    rw [trim, h]
    rfl


/-! ### Letters -/

theorem toNat_of_isUpper {c : Char} (h : c.isUpper = true) : 65 ≤ c.toNat ∧ c.toNat ≤ 90 := by
  have hrange : 'A'.val ≤ c.val ∧ c.val ≤ 'Z'.val := of_decide_eq_true h
  exact ⟨UInt32.le_iff_toNat_le.1 hrange.1, UInt32.le_iff_toNat_le.1 hrange.2⟩

theorem toNat_toLower_of_isUpper {c : Char} (h : c.isUpper = true) :
    97 ≤ c.toLower.toNat ∧ c.toLower.toNat ≤ 122 := by
  have hc := toNat_of_isUpper h
  have hval : c.toLower.val = c.val + 32 := by
    unfold Char.toLower
    rw [dif_pos (of_decide_eq_true h)]
    rfl
  have hsum : c.toLower.toNat = (c.toNat + 32) % 2 ^ 32 := by
    show c.toLower.val.toNat = _
    rw [hval, UInt32.toNat_add]
    rfl
  omega

theorem toNat_of_isLower {c : Char} (h : c.isLower = true) : 97 ≤ c.toNat ∧ c.toNat ≤ 122 := by
  obtain ⟨hlow, hhigh⟩ : decide ('a'.val ≤ c.val) = true ∧ decide (c.val ≤ 'z'.val) = true :=
    Bool.and_eq_true_iff.1 h
  exact ⟨UInt32.le_iff_toNat_le.1 (of_decide_eq_true hlow),
    UInt32.le_iff_toNat_le.1 (of_decide_eq_true hhigh)⟩

/-! ### Keywords -/

/-- **What a keyword leaves of a text:** what stands behind a beginning that spells it. -/
theorem dropCaseless?_eq_some_iff {word s rest : List Char} :
    dropCaseless? word s = some rest ↔ ∃ w, s = w ++ rest ∧ equalCaseless word w = true := by
  induction word generalizing s with
  | nil =>
    constructor
    · intro h
      have hs : s = rest := by simpa [dropCaseless?] using h
      exact ⟨[], by simpa using hs, rfl⟩
    · rintro ⟨w, rfl, hw⟩
      cases w with
      | nil => rfl
      | cons c w => simp [equalCaseless] at hw
  | cons c word ih =>
    constructor
    · intro h
      cases s with
      | nil => simp [dropCaseless?] at h
      | cons d s =>
        simp only [dropCaseless?] at h
        split at h
        · next hcd =>
          obtain ⟨w, rfl, hw⟩ := ih.1 h
          exact ⟨d :: w, rfl, by simp [equalCaseless, hcd, hw]⟩
        · simp at h
    · rintro ⟨w, rfl, hw⟩
      cases w with
      | nil => simp [equalCaseless] at hw
      | cons d w =>
        simp only [equalCaseless, Bool.and_eq_true, beq_iff_eq] at hw
        simp only [List.cons_append, dropCaseless?, hw.1, if_true]
        exact ih.2 ⟨w, rfl, hw.2⟩

theorem dropCaseless?_suffix {word s rest : List Char} (h : dropCaseless? word s = some rest) :
    rest <:+ s := by
  obtain ⟨w, rfl, -⟩ := dropCaseless?_eq_some_iff.1 h
  exact List.suffix_append w rest

/-- A keyword is not found by looking past a character that it does not have. -/
theorem dropCaseless?_append_cons {word : List Char} {d : Char}
    (hd : d.toLower ∉ word.map Char.toLower) (s t : List Char) :
    dropCaseless? word (s ++ d :: t) = (dropCaseless? word s).map (· ++ d :: t) := by
  induction word generalizing s with
  | nil => rfl
  | cons c word ih =>
    obtain ⟨hc, hword⟩ : d.toLower ≠ c.toLower ∧ d.toLower ∉ word.map Char.toLower := by
      rwa [List.map_cons, List.mem_cons, not_or] at hd
    cases s with
    | nil => simp [dropCaseless?, hc.symm]
    | cons e s =>
      simp only [List.cons_append, dropCaseless?]
      split
      · exact ih hword s
      · rfl

/-- Two texts are equal up to the case of letters if they are equal in lower case. -/
theorem equalCaseless_iff {s t : List Char} :
    equalCaseless s t = true ↔ s.map Char.toLower = t.map Char.toLower := by
  induction s generalizing t with
  | nil =>
    cases t with
    | nil => simp [equalCaseless]
    | cons d t => simp [equalCaseless]
  | cons c s ih =>
    cases t with
    | nil => simp [equalCaseless]
    | cons d t => simp [equalCaseless, ih]

/-- Only upper-case letters have another lower case. -/
theorem toLower_of_not_isUpper {c : Char} (h : ¬ c.isUpper = true) : c.toLower = c := by
  unfold Char.toLower
  exact dif_neg fun hc => h (decide_eq_true hc)

/-- **What a spelling is made of:** in lower case a spelling and its word have the same characters. -/
theorem mem_of_equalCaseless {word w : List Char} (h : equalCaseless word w = true) :
    (∀ c ∈ w, ∃ d ∈ word, d.toLower = c.toLower) ∧ ∀ d ∈ word, ∃ c ∈ w, c.toLower = d.toLower := by
  have hmap := equalCaseless_iff.1 h
  constructor
  · intro c hc
    exact List.mem_map.1 (hmap ▸ List.mem_map_of_mem hc)
  · intro d hd
    exact List.mem_map.1 (hmap ▸ List.mem_map_of_mem hd)

/-- A class of characters with the upper-case letters holds of a spelling if it holds of the characters
of the word in lower case. -/
theorem forall_of_equalCaseless {q : Char → Bool} {word s : List Char}
    (hupper : ∀ c : Char, c.isUpper = true → q c = true) (hword : ∀ c ∈ word, q c.toLower = true)
    (h : equalCaseless word s = true) : ∀ c ∈ s, q c = true := by
  intro c hc
  obtain ⟨d, hd, hdc⟩ := (mem_of_equalCaseless h).1 c hc
  by_cases hcase : c.isUpper = true
  · exact hupper c hcase
  · rw [← toLower_of_not_isUpper hcase, ← hdc]
    exact hword d hd

/-! ### Listed words -/

theorem dropText?_isSome_iff {word s : List Char} : (dropText? word s).isSome ↔ word <+: s := by
  constructor
  · intro h
    obtain ⟨rest, hrest⟩ := Option.isSome_iff_exists.1 h
    exact ⟨rest, (eq_append_of_dropText? hrest).symm⟩
  · rintro ⟨rest, rfl⟩
    simp

/-- A fold of `longer` finds a longest member; the accumulator counts as one. -/
theorem foldl_longer_eq_some {words : List String} {best w : Option String}
    (h : words.foldl longer best = w) :
    (w = none → best = none ∧ words = []) ∧
      ∀ x ∈ w, (x ∈ best ∨ x ∈ words) ∧ (∀ y ∈ best, y.length ≤ x.length) ∧
        ∀ y ∈ words, y.length ≤ x.length := by
  induction words generalizing best with
  | nil =>
    subst h
    refine ⟨fun hb => ⟨hb, rfl⟩, fun x hx => ⟨Or.inl hx, fun y hy => ?_, by simp⟩⟩
    have hxy : x = y := Option.mem_unique hx hy
    exact Nat.le_of_eq (hxy ▸ rfl)
  | cons word words ih =>
    obtain ⟨hnone, hsome⟩ := ih h
    have hlonger : ∃ z, longer best word = some z ∧ (z ∈ best ∨ z = word) ∧
        word.length ≤ z.length ∧ ∀ y ∈ best, y.length ≤ z.length := by
      cases best with
      | none => exact ⟨word, rfl, Or.inr rfl, Nat.le_refl _, by simp⟩
      | some other =>
        by_cases hlen : other.length ≤ word.length
        · exact ⟨word, by simp [longer, hlen], Or.inr rfl, Nat.le_refl _, by simpa using hlen⟩
        · exact ⟨other, by simp [longer, hlen], Or.inl rfl, by omega, by simp⟩
    obtain ⟨z, hz, hmem, hword, hbest⟩ := hlonger
    refine ⟨fun hw => by simp [hz] at hnone; exact absurd hw hnone, fun x hx => ?_⟩
    obtain ⟨hx1, hx2, hx3⟩ := hsome x hx
    have hzx : z.length ≤ x.length := hx2 z hz
    refine ⟨?_, fun y hy => Nat.le_trans (hbest y hy) hzx, ?_⟩
    · rcases hx1 with hx1 | hx1
      · obtain rfl : z = x := by rw [hz] at hx1; simpa using hx1
        rcases hmem with hmem | rfl
        · exact Or.inl hmem
        · exact Or.inr List.mem_cons_self
      · exact Or.inr (List.mem_cons_of_mem _ hx1)
    · intro y hy
      rcases List.mem_cons.1 hy with rfl | hy
      · exact Nat.le_trans hword hzx
      · exact hx3 y hy

/-- No listed word is found exactly where the text starts with none of them. -/
theorem longestStart?_eq_none_iff {words : List String} {s : List Char} :
    longestStart? words s = none ↔ ∀ w ∈ words, ¬ w.toList <+: s := by
  constructor
  · intro h w hw hp
    have hempty := ((foldl_longer_eq_some h).1 rfl).2
    have hmem : w ∈ words.filter fun word => (dropText? word.toList s).isSome :=
      List.mem_filter.2 ⟨hw, dropText?_isSome_iff.2 hp⟩
    rw [hempty] at hmem
    simp at hmem
  · intro h
    have hfilter : (words.filter fun word => (dropText? word.toList s).isSome) = [] := by
      rw [List.filter_eq_nil_iff]
      intro w hw hp
      exact h w hw (dropText?_isSome_iff.1 hp)
    simp [longestStart?, hfilter]

/-- **The longest listed word.** It is on the list, the text starts with it, and no listed word
that the text starts with is longer. -/
theorem longestStart?_eq_some_iff {words : List String} {s : List Char} {w : String} :
    longestStart? words s = some w ↔
      w ∈ words ∧ w.toList <+: s ∧ ∀ v ∈ words, v.toList <+: s → v.length ≤ w.length := by
  have hsome : ∀ x, longestStart? words s = some x →
      x ∈ words ∧ x.toList <+: s ∧ ∀ v ∈ words, v.toList <+: s → v.length ≤ x.length := by
    intro x hx
    obtain ⟨hmem, -, hmax⟩ := (foldl_longer_eq_some hx).2 x rfl
    have hmem' := List.mem_filter.1 (hmem.resolve_left (by simp))
    refine ⟨hmem'.1, dropText?_isSome_iff.1 hmem'.2, fun v hv hp => hmax v ?_⟩
    exact List.mem_filter.2 ⟨hv, dropText?_isSome_iff.2 hp⟩
  constructor
  · exact hsome w
  · rintro ⟨hw, hp, hmax⟩
    cases hx : longestStart? words s with
    | none => exact absurd hp (longestStart?_eq_none_iff.1 hx w hw)
    | some x =>
      -- two beginnings of one length are the same
      obtain ⟨hx1, hx2, hx3⟩ := hsome x hx
      have hlen : x.length = w.length := Nat.le_antisymm (hmax x hx1 hx2) (hx3 w hw hp)
      have hlist : x.toList = w.toList :=
        (List.prefix_of_prefix_length_le hx2 hp (Nat.le_of_eq hlen)).eq_of_length hlen
      rw [String.toList_inj.1 hlist]

end DisplayFilter.Text
