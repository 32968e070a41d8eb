import DisplayFilter.Proofs.Comparison.Complement

/-!
# Membership in lists of texts

A value is looked for in a list of texts as a number first, and as a text where one of the two sides is no
number.  So a text is found in a list that has it as an entry, unless it is the word `nan`: that is read as
a value that is not equal to itself, and then the texts are not compared any more.

* `spellsNaN` — the word `nan` in its spellings, **`decimal?_eq_nan_iff`** — what is read as this value;
* **`isEntry_self`**, **`isEntry_nan`** — a text and itself, and the word and any entry;
* **`evaluate_strings_iff`** — membership in a list of texts;
* **`evaluate_member`** — an entry is found exactly if it is not the word.
-/

namespace DisplayFilter

open Text

/-! ### The word for no number -/

/-- **The spellings of the word:** `nan` in any letter case, behind a sign and between blanks. -/
def spellsNaN (s : String) : Bool :=
  equalCaseless (splitSign (trim s.toList)).2 "nan".toList

theorem Binary64.ofUnits_ne_nan (negative : Bool) (units : Nat) : ofUnits negative units ≠ .nan := by
  unfold ofUnits
  split <;> simp

theorem Binary64.ofDecimal_ne_nan (negative : Bool) (digits : Nat) (exponent : Int) :
    ofDecimal negative digits exponent ≠ .nan := by
  unfold ofDecimal
  simp only
  split
  · simp
  split
  · simp
  split
  · exact ofUnits_ne_nan _ _
  · exact ofUnits_ne_nan _ _

/-- Digits are a number. -/
theorem readDecimal?_ne_nan (negative : Bool) (s : List Char) : readDecimal? negative s ≠ some .nan := by
  intro h
  simp only [readDecimal?, Option.ite_none_left_eq_some] at h
  obtain ⟨-, h⟩ := h
  obtain ⟨exponent, -, h⟩ := Option.bind_eq_some_iff.1 h
  exact Binary64.ofDecimal_ne_nan _ _ _ (Option.some.inj h)

/-- **What is read as no number** is the word. -/
theorem decimal?_eq_nan_iff {s : String} : decimal? s = some .nan ↔ spellsNaN s = true := by
  simp only [decimal?, Binary64.ofText?, spellsNaN]
  cases hnan : equalCaseless (splitSign (trim s.toList)).2 "nan".toList with
  | true =>
    have hword := equalCaseless_iff.1 hnan
    have hother : ∀ word ∈ ["inf", "infinity"],
        equalCaseless (splitSign (trim s.toList)).2 word.toList = false := by
      intro word hmem
      rw [← Bool.not_eq_true, equalCaseless_iff, hword]
      simp only [List.mem_cons, List.not_mem_nil, or_false] at hmem
      rcases hmem with rfl | rfl <;> decide
    rw [hother "inf" (by simp), hother "infinity" (by simp), Bool.or_self]
    simp only [Bool.false_eq_true, if_false, if_true]
  | false =>
    simp only [Bool.false_eq_true, if_false, iff_false]
    split
    · exact fun h => Binary64.noConfusion (Option.some.inj h)
    · exact readDecimal?_ne_nan _ _

/-! ### Entries -/

/-- **A text is found as an entry** if it is not the word. -/
theorem isEntry_self {s : String} (h : spellsNaN s = false) :
    Comparator.isEntry (.string s) s = true := by
  have hnan : decimal? s ≠ some .nan := by simp [decimal?_eq_nan_iff, h]
  unfold Comparator.isEntry
  cases hx : decimal? s with
  | none => simp [Value.looseNumber?, hx]
  | some x =>
    have hself : x.compare? x = some .eq := Binary64.compare?_self fun heq => hnan (by rw [hx, heq])
    simp [Value.looseNumber?, hx, Binary64.numEq, hself]

/-- **The word** is found as no entry: it is equal to no number, and what is the same text is read as a
number like it. -/
theorem isEntry_nan {s : String} (h : spellsNaN s = true) (entry : String) :
    Comparator.isEntry (.string s) entry = false := by
  have hnan : decimal? s = some .nan := decimal?_eq_nan_iff.2 h
  unfold Comparator.isEntry
  cases hy : decimal? entry with
  | none =>
    have hne : s ≠ entry := by
      rintro rfl
      rw [hnan] at hy
      simp at hy
    simp [Value.looseNumber?, hnan, hne]
  | some y => simp [Value.looseNumber?, hnan, Binary64.numEq, Binary64.compare?]

/-! ### Lists -/

/-- **Membership in a list of texts** holds if an item is one of the entries. -/
theorem evaluate_strings_iff {e : Expression} {entries : List String}
    (he : e.comparison = some ⟨.member, .strings entries⟩) (v : Value) :
    ComparatorTable.standard.evaluate e v = true ↔
      ∃ w ∈ v.operands, ∃ entry ∈ entries, Comparator.isEntry w entry = true := by
  rw [ComparatorTable.evaluate, he]
  simp only [ComparatorTable.consulted, any_consult_of_ne (show Operator.member ≠ .ne by decide),
    ComparatorTable.standard, ComparatorTable.withEngine, List.any_cons, List.any_nil,
    Bool.or_false, Bool.or_eq_true,
    Comparator.affirms, overItems_any (show Operator.member ≠ .ne by decide), Bool.and_eq_true,
    List.any_eq_true]
  simp [Comparator.addressRange, Comparator.list, Comparator.addresses?, Literal.isList, settled,
    Comparator.isMember?]

/-- **A text is found in a list** that has it as an entry exactly if it is not the word `nan`. -/
theorem evaluate_member (e : Expression) {s : String} {entries : List String} (hs : s ∈ entries) :
    ComparatorTable.standard.evaluate { e with comparison := some ⟨.member, .strings entries⟩ }
        (.string s) = true ↔ spellsNaN s = false := by
  rw [evaluate_strings_iff rfl]
  simp only [Value.operands, List.mem_singleton, exists_eq_left]
  cases h : spellsNaN s with
  | false => simpa using ⟨s, hs, isEntry_self h⟩
  | true => simp [isEntry_nan h]

/-- A text that is a number, in a list in which another text is the same number. -/
theorem evaluate_member_number :
    let e : Expression := ⟨"f", none, none, none⟩
    let entries := ["Neo", "1", " 1.0 "]
    " 1.0 " ∈ entries ∧ spellsNaN " 1.0 " = false ∧
      ComparatorTable.standard.evaluate { e with comparison := some ⟨.member, .strings entries⟩ }
        (.string " 1.0 ") = true := by
  intro e entries
  have hs : " 1.0 " ∈ entries := by simp [entries]
  have hword : spellsNaN " 1.0 " = false := rfl
  exact ⟨hs, hword, (evaluate_member e hs).2 hword⟩

/-- **The word** is not found in a list of it alone, but it is equal to itself as a text. -/
theorem evaluate_member_nan :
    let compared : Operator → Literal → Bool := fun op literal =>
      ComparatorTable.standard.evaluate ⟨"f", none, none, some ⟨op, literal⟩⟩ (.string "nan")
    "nan" ∈ ["nan"] ∧ compared .member (.strings ["nan"]) = false ∧
      compared .eq (.text "nan") = true := by
  intro compared
  refine ⟨by simp, ?_, ?_⟩
  · show ComparatorTable.standard.evaluate ⟨"f", none, none, some ⟨.member, .strings ["nan"]⟩⟩
      (.string "nan") = false
    rw [← Bool.not_eq_true, evaluate_strings_iff rfl]
    simp [Value.operands, isEntry_nan (show spellsNaN "nan" = true from rfl)]
  · refine (evaluate_eq_iff rfl _).2 (Or.inr (Or.inr (Or.inr (agrees_string_iff.2 ?_))))
    exact ⟨.string "nan", by simp [Value.operands], rfl⟩

end DisplayFilter
