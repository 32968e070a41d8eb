import DisplayFilter.Proofs.Literal.WrittenForm
import DisplayFilter.Proofs.Tree.Names

/-!
# Spellings of operators and connectives

A keyword may be spelled in any case of letters, and blanks stand behind it.  The spelling is the run
in front of the first blank, so that no other keyword is found in its place.

* **`keyword?_append`** — a spelling with blanks behind it is found as what it spells;
* **`read_keyword`** — in the place of a literal, the spelling of a keyword is a word.
-/

namespace DisplayFilter

open Text

/-- A word without letters is spelled in one way only. -/
theorem eq_of_equalCaseless {word w : List Char}
    (hword : ∀ c ∈ word, c.toLower = c ∧ (c.toNat < 97 ∨ 122 < c.toNat))
    (h : equalCaseless word w = true) : w = word := by
  induction word generalizing w with
  | nil =>
    cases w with
    | nil => rfl
    | cons d w => simp [equalCaseless] at h
  | cons c word ih =>
    cases w with
    | nil => simp [equalCaseless] at h
    | cons d w =>
      simp only [equalCaseless, Bool.and_eq_true, beq_iff_eq] at h
      obtain ⟨hlower, hrange⟩ := hword c List.mem_cons_self
      have hd : d.toLower = d := by
        by_cases hupper : d.isUpper = true
        · have hletter := toNat_toLower_of_isUpper hupper
          rw [← h.1, hlower] at hletter
          omega
        · exact toLower_of_not_isUpper hupper
      rw [← hd, ← h.1, hlower, ih (fun x hx => hword x (List.mem_cons_of_mem _ hx)) h.2]

/-- A character of a word in front of which it does not matter whether there was a quote. -/
def isBareChar (c : Char) : Bool :=
  isWordChar c && !isQuote c

theorem isBareChar_of_isUpper {c : Char} (h : c.isUpper = true) : isBareChar c = true := by
  have hc := toNat_of_isUpper h
  have hne : ∀ d : Char, d.toNat < 65 ∨ 90 < d.toNat → c ≠ d := by
    rintro d hd rfl
    omega
  simp only [isBareChar, isWordChar, isBlank, isControl, isBracket, isQuote, Bool.and_eq_true,
    Bool.not_eq_true', Bool.or_eq_false_iff, beq_eq_false_iff_ne]
  refine ⟨⟨⟨?_, ?_⟩, ?_⟩, ?_⟩
  · grind
  · grind
  · exact ⟨⟨⟨⟨⟨hne _ (by decide), hne _ (by decide)⟩, hne _ (by decide)⟩, hne _ (by decide)⟩,
      hne _ (by decide)⟩, hne _ (by decide)⟩
  · exact ⟨hne _ (by decide), hne _ (by decide)⟩

theorem not_blank_of_isBareChar {c : Char} (h : isBareChar c = true) : isBlank c = false := by
  simp only [isBareChar, isWordChar, Bool.and_eq_true, Bool.not_eq_true'] at h
  exact h.1.1.1

theorem not_isBareChar_of_isBlank {c : Char} (h : isBlank c = true) : isBareChar c = false := by
  simp [isBareChar, isWordChar, h]

/-- **Keywords** that read as words: none is empty, and blanks, brackets and quotes are no part of
them. -/
def BareWords {α : Type} (words : List (String × α)) : Prop :=
  ∀ x ∈ words, x.1.toList ≠ [] ∧ ∀ c ∈ x.1.toList, isBareChar c.toLower = true

theorem bareWords_operators : BareWords Operator.spellings :=
  words_over_of_all (by decide)

theorem bareWords_connectives : BareWords Connective.spellings :=
  words_over_of_all (by decide)

variable {α : Type} {words : List (String × α)}

/-- A keyword that is found is spelled in front of the first blank. -/
theorem keyword?_spelled (hwords : BareWords words) {s rest : List Char} {a : α}
    (h : keyword? words s = some (a, rest)) :
    ∃ word w b u, (word, a) ∈ words ∧ equalCaseless word.toList w = true ∧ s = w ++ b :: u ∧
      isBlank b = true ∧ (∀ c ∈ w, isBareChar c = true) ∧ rest = trimStart (b :: u) := by
  obtain ⟨word, hmem, t, ht, hblanks⟩ := keyword?_eq_some h
  obtain ⟨w, rfl, hw⟩ := dropCaseless?_eq_some_iff.1 ht
  cases t with
  | nil => simp [blanks?] at hblanks
  | cons b u =>
    simp only [blanks?, Option.ite_none_right_eq_some, Option.some.injEq] at hblanks
    obtain ⟨hb, rfl⟩ := hblanks
    refine ⟨word, w, b, u, hmem, hw, rfl, hb, ?_, ?_⟩
    · exact forall_of_equalCaseless (fun _ => isBareChar_of_isUpper) (hwords _ hmem).2 hw
    · exact (trimStart_cons_of_blank hb u).symm

/-- **A spelling with blanks behind it is found as what it spells.** -/
theorem keyword?_append (hwords : BareWords words)
    (hunique : ∀ x ∈ words, ∀ y ∈ words,
      equalCaseless x.1.toList y.1.toList = true → x.2 = y.2)
    {word : String} {a : α} (hmem : (word, a) ∈ words) {w : List Char}
    (hw : equalCaseless word.toList w = true) {blank : List Char} (hne : blank ≠ [])
    (hblank : ∀ c ∈ blank, isBlank c = true) (rest : List Char) :
    keyword? words (w ++ (blank ++ rest)) = some (a, trimStart rest) := by
  obtain ⟨b, more, rfl⟩ := List.exists_cons_of_ne_nil hne
  have hb : isBlank b = true := hblank b List.mem_cons_self
  have hbare : ∀ c ∈ w, isBareChar c = true :=
    forall_of_equalCaseless (fun _ => isBareChar_of_isUpper) (hwords _ hmem).2 hw
  have hdrop : dropCaseless? word.toList (w ++ b :: (more ++ rest)) = some (b :: (more ++ rest)) :=
    dropCaseless?_eq_some_iff.2 ⟨w, rfl, hw⟩
  cases hfound : keyword? words (w ++ (b :: more ++ rest)) with
  | none =>
    have hno := List.findSome?_eq_none_iff.1 hfound (word, a) hmem
    simp only [List.cons_append, hdrop, Option.bind_some, blanks?, hb, if_true, Option.map_some,
      reduceCtorEq] at hno
  | some answer =>
    obtain ⟨a', rest'⟩ := answer
    obtain ⟨word', w', b', u, hmem', hw', hs, hb', hbare', rfl⟩ := keyword?_spelled hwords hfound
    -- both spellings are the run in front of the first blank
    have hrun := takeWhile_append_of_stops hbare
      (s := b :: (more ++ rest)) (stops_cons.2 (not_isBareChar_of_isBlank hb))
    rw [← List.cons_append, hs, takeWhile_append_of_stops hbare'
      (stops_cons.2 (not_isBareChar_of_isBlank hb'))] at hrun
    subst hrun
    have htail : b :: more ++ rest = b' :: u := List.append_cancel_left hs
    have hsame : equalCaseless word'.toList word.toList = true :=
      equalCaseless_iff.2 ((equalCaseless_iff.1 hw').trans (equalCaseless_iff.1 hw).symm)
    rw [show a' = a from hunique _ hmem' _ hmem hsame, ← htail, trimStart_append_blanks hblank]

/-- **In the place of a literal, a keyword is a word,** which spells it. -/
theorem read_keyword (hwords : BareWords words) {s rest : List Char} {a : α}
    (h : keyword? words s = some (a, rest)) :
    ∃ word w u, (word, a) ∈ words ∧ equalCaseless word.toList w = true ∧ s = w ++ u ∧
      Literal.read s = .ok (.text (String.ofList w), u) ∧ trimStart u = rest := by
  obtain ⟨word, w, b, u, hmem, hw, rfl, hb, hbare, rfl⟩ := keyword?_spelled hwords h
  have hne : w ≠ [] := by
    rintro rfl
    have hnil := equalCaseless_iff.1 hw
    exact (hwords _ hmem).1 (by simpa using hnil)
  have hbareword : isBare w = true := by
    obtain ⟨c, more, rfl⟩ := List.exists_cons_of_ne_nil hne
    have hc := hbare c List.mem_cons_self
    simp only [isBareChar, Bool.and_eq_true, Bool.not_eq_true'] at hc hbare
    simp only [isBare, List.isEmpty_cons, List.head?_cons, Option.any_some, hc.2, Bool.not_false,
      Bool.and_self, Bool.true_and, List.all_eq_true]
    exact fun d hd => (hbare d hd).1
  refine ⟨word, w, b :: u, hmem, hw, rfl, Literal.read_bare hbareword (stops_cons.2 ?_), rfl⟩
  simp [isWordChar, hb]

end DisplayFilter
