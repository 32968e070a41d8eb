import DisplayFilter.Proofs.Comparison.Broadcast
import DisplayFilter.Proofs.Number.Integers

/-!
# Comparing integers

An integer of a record is compared with an integer of a filter as a number, and numbers are binary64
values.  So the comparison is that of the nearest values: it is exact as long as one of the two integers
is below `2 ^ 53`, and beyond it takes integers for equal that have the same nearest value.  The bits of
an integer of a record are all there, but the mask is read as a number first, and masks of `9.2e18` or
more are not taken for integers.

* **`affirms_integers`** — what the comparator of numbers says about two integers;
* **`evaluate_order_integers`**, **`evaluate_equality_integers`** — the six operators;
* **`wholeNumber?_integerText`** — an integer as a mask;
* **`evaluate_integers`** — what the comparisons of integers say;
* **`evaluate_integers_rounded`** — two integers that are taken for equal, and a mask that is none.
-/

namespace DisplayFilter

open Binary64

/-! ### Integers as numbers -/

theorem natAbs_toInt_le (n : Int64) : n.toInt.natAbs ≤ Nat.pow 2 63 := by
  have hlow := n.le_toInt
  have hhigh := n.toInt_lt
  rw [Nat.pow_eq]
  omega

/-- What an operator says about two nearest integers: what it says about equal ones if they are the same,
and what it says about the integers if not. -/
theorem relates_nearest {op : Operator} {m n : Int} :
    op.Relates (nearest m) (nearest n) ↔
      if nearest m = nearest n then op.Relates n n else op.Relates m n := by
  rw [← Operator.ofOrder?_compare]
  by_cases h : nearest m = nearest n
  · rw [if_pos h, h, ← Operator.ofOrder?_compare, Int.compare_eq_eq.2 rfl, Int.compare_eq_eq.2 rfl]
  · rw [if_neg h, compare_nearest h, Operator.ofOrder?_compare]

/-- **An integer as a mask:** the nearest integer, if that is below the bound of integers. -/
theorem wholeNumber?_integerText (n : Int64) : wholeNumber? (integerText n.toInt) =
    if (nearest n.toInt).natAbs < wholeBound then some (Int64.ofInt (nearest n.toInt)) else none := by
  rw [wholeNumber?, number?_integerText, Option.bind_some, integer?, whole?_ofInt (natAbs_toInt_le n)]
  split <;> rfl

/-! ### Comparisons -/

section Comparisons

variable (e : Expression) (v n : Int64) {op : Operator}

/-- **Numbers.**  Their comparator reads both integers, and compares the nearest ones. -/
theorem affirms_integers (hop : op ≠ .ne) :
    Comparator.number.affirms op (.text (integerText n.toInt)) (.integer v) = true ↔
      op.Relates (nearest v.toInt) (nearest n.toInt) := by
  have hread : Comparator.number.affirms op (.text (integerText n.toInt)) (.integer v) = true ↔
      ((ofInt v.toInt).compare? (ofInt n.toInt)).bind op.ofOrder? = some true :=
    affirms_byOrder_read hop rfl (number?_integerText n) rfl
  rw [hread, compare?_ofInt (natAbs_toInt_le v) (natAbs_toInt_le n), Option.bind_some,
    Operator.ofOrder?_compare]

/-- **Order.**  Of its comparators only that of numbers reads integers of a record. -/
theorem evaluate_order_integers (hop : op ∈ [Operator.ge, .gt, .le, .lt]) :
    ComparatorTable.standard.evaluate
        { e with comparison := some ⟨op, .text (integerText n.toInt)⟩ } (.integer v) = true ↔
      op.Relates (nearest v.toInt) (nearest n.toInt) := by
  have hne : op ≠ .ne := Operator.ne_ne_of_order hop
  have hipv4 : Comparator.ipv4.affirms op (.text (integerText n.toInt)) (.integer v) = false :=
    affirms_byOrder_unreadable rfl rfl
  have hipv6 : Comparator.ipv6.affirms op (.text (integerText n.toInt)) (.integer v) = false :=
    affirms_byOrder_unreadable rfl rfl
  have hdate : Comparator.date.affirms op (.text (integerText n.toInt)) (.integer v) = false :=
    affirms_byOrder_unreadable rfl rfl
  rw [evaluate_order_iff hop rfl, affirms_integers v n hne, hipv4, hipv6, hdate]
  simp only [Bool.false_eq_true, false_or]

/-- **Equality and inequality.**  The comparator of numbers is asked first, and an integer with the text
of the literal is the same integer. -/
theorem evaluate_equality_integers (hop : op ∈ [Operator.eq, .ne]) :
    ComparatorTable.standard.evaluate
        { e with comparison := some ⟨op, .text (integerText n.toInt)⟩ } (.integer v) = true ↔
      op.Relates (nearest v.toInt) (nearest n.toInt) := by
  have hnan : number? (integerText n.toInt) ≠ some .nan := by
    rw [number?_integerText, ofInt_eq (natAbs_toInt_le n)]
    simp
  have hformat : ∀ x, Value.float x ∈ (Value.integer v).operands → x.InFormat := by
    simp [Value.operands]
  have hfirst : (ComparatorTable.standard .eq).find?
      (·.accepts (.text (integerText n.toInt)) (.integer v)) = some Comparator.number := by
    have hyes : Comparator.number.accepts (.text (integerText n.toInt)) (.integer v) = true :=
      accepts_byOrder_read rfl (number?_integerText n) rfl
    simp only [ComparatorTable.standard, ComparatorTable.withEngine, List.find?_cons, hyes]
  have hequal : Operator.eq ≠ .ne := by decide
  exact evaluate_equality e hnan hformat hfirst (affirms_integers v n hequal) hop

/-- **Bits.**  A mask is the nearest integer, and one that is out of reach has no bits. -/
theorem evaluate_bits_integers :
    ComparatorTable.standard.evaluate
        { e with comparison := some ⟨.bitAnd, .text (integerText n.toInt)⟩ } (.integer v) = true ↔
      (nearest n.toInt).natAbs < wholeBound ∧ v &&& Int64.ofInt (nearest n.toInt) ≠ 0 := by
  have haffirms : Comparator.integer.affirms .bitAnd (.text (integerText n.toInt)) (.integer v) =
      (wholeNumber? (integerText n.toInt)).any fun mask => v &&& mask != 0 := by
    simp only [Comparator.affirms, Comparator.integer, overItems, settled, someReadable, Literal.text?,
      Value.wholeNumber?, Option.bind_some, bind, if_true]
    cases wholeNumber? (integerText n.toInt) <;> rfl
  have hevaluate : ComparatorTable.standard.evaluate
      { e with comparison := some ⟨.bitAnd, .text (integerText n.toInt)⟩ } (.integer v) =
        (wholeNumber? (integerText n.toInt)).any fun mask => v &&& mask != 0 := by
    rw [ComparatorTable.evaluate]
    simp only [ComparatorTable.consulted, any_consult_of_ne (by decide : Operator.bitAnd ≠ .ne),
      ComparatorTable.standard, ComparatorTable.withEngine, List.any_cons, List.any_nil,
      Bool.or_false, haffirms]
  rw [hevaluate, wholeNumber?_integerText]
  by_cases hbound : (nearest n.toInt).natAbs < wholeBound
  · simp [hbound]
  · simp [hbound]

/-- **Comparisons of integers.**  An integer of a record is compared exactly with an integer of a filter,
but different ones with the same nearest value are taken for equal; both of them are beyond `2 ^ 53` then.
A bit in common is looked for in the nearest value of the mask, if that is below `9.2e18`. -/
theorem evaluate_integers :
    (∀ op ∈ Operator.orders,
      (ComparatorTable.standard.evaluate
          { e with comparison := some ⟨op, .text (integerText n.toInt)⟩ } (.integer v) = true ↔
        if nearest v.toInt = nearest n.toInt then op.Relates n.toInt n.toInt
        else op.Relates v.toInt n.toInt)) ∧
      (v ≠ n → nearest v.toInt = nearest n.toInt →
        Nat.pow 2 53 ≤ v.toInt.natAbs ∧ Nat.pow 2 53 ≤ n.toInt.natAbs) ∧
      (ComparatorTable.standard.evaluate
          { e with comparison := some ⟨.bitAnd, .text (integerText n.toInt)⟩ } (.integer v) = true ↔
        (nearest n.toInt).natAbs < wholeBound ∧ v &&& Int64.ofInt (nearest n.toInt) ≠ 0) ∧
      (n.toInt.natAbs ≤ Nat.pow 2 53 → nearest n.toInt = n.toInt) := by
  refine ⟨fun op hop => ?_, fun hne h => ?_, evaluate_bits_integers e v n, nearest_exact⟩
  · rw [← relates_nearest]
    rcases Operator.orders_cases hop with hequality | horder
    · exact evaluate_equality_integers e v n hequality
    · exact evaluate_order_integers e v n horder
  · exact nearest_collision h fun hsame => hne (Int64.toInt_inj.1 hsame)

end Comparisons

/-- Small integers, a mask with a bit of the integer, and two integers with the same nearest value. -/
theorem evaluate_integers_small :
    let e : Expression := ⟨"f", none, none, none⟩
    Operator.lt ∈ Operator.orders ∧
      ComparatorTable.standard.evaluate
        { e with comparison := some ⟨.lt, .text (integerText (Int64.toInt 7))⟩ } (.integer (-12)) =
          true ∧
      (9007199254740993 : Int64) ≠ 9007199254740992 ∧
      nearest (Int64.toInt 9007199254740993) = nearest (Int64.toInt 9007199254740992) ∧
      Nat.pow 2 53 ≤ (Int64.toInt 9007199254740993).natAbs ∧
      (Int64.toInt 6).natAbs ≤ Nat.pow 2 53 ∧
      ComparatorTable.standard.evaluate
        { e with comparison := some ⟨.bitAnd, .text (integerText (Int64.toInt 6))⟩ } (.integer 3) =
          true := by
  intro e
  have hop : Operator.lt ∈ Operator.orders := by decide
  have hne : (9007199254740993 : Int64) ≠ 9007199254740992 := by decide
  have hnearest : nearest (Int64.toInt 9007199254740993) =
      nearest (Int64.toInt 9007199254740992) := by decide
  have hsmall : (Int64.toInt 6).natAbs ≤ Nat.pow 2 53 := by decide
  obtain ⟨horder, -⟩ := evaluate_integers e (-12) 7
  obtain ⟨-, hcollision, -⟩ := evaluate_integers e 9007199254740993 9007199254740992
  obtain ⟨-, -, hbits, hexact⟩ := evaluate_integers e 3 6
  refine ⟨hop, (horder .lt hop).2 (by decide), hne, hnearest, (hcollision hne hnearest).1,
    hsmall, hbits.2 ?_⟩
  rw [hexact hsmall]
  decide

/-- **Not every comparison of integers is exact:** two different integers are taken for equal, and the
greatest mask is taken for none. -/
theorem evaluate_integers_rounded :
    let e : Expression := ⟨"f", none, none, none⟩
    (ComparatorTable.standard.evaluate
        { e with comparison := some ⟨.eq, .text (integerText (Int64.toInt 9007199254740992))⟩ }
        (.integer 9007199254740993) = true ∧ (9007199254740993 : Int64) ≠ 9007199254740992) ∧
      ComparatorTable.standard.evaluate
        { e with comparison := some ⟨.bitAnd, .text (integerText (Int64.toInt 9223372036854775807))⟩ }
        (.integer 1) = false ∧ (1 : Int64) &&& 9223372036854775807 ≠ 0 := by
  intro e
  have hequal : nearest (Int64.toInt 9007199254740993) =
      nearest (Int64.toInt 9007199254740992) := by decide
  have hbound : ¬ (nearest (Int64.toInt 9223372036854775807)).natAbs < wholeBound := by decide
  refine ⟨⟨(evaluate_equality_integers e _ _ (by decide)).2 hequal, by decide⟩, ?_, by decide⟩
  rw [Bool.eq_false_iff]
  intro hbits
  exact hbound ((evaluate_bits_integers e _ _).1 hbits).1

end DisplayFilter
