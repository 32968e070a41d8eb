import DisplayFilter.Comparison.Table

/-!
# Who decides a comparison

The comparators are asked one after the other, and those that cannot read both sides are passed over.
A comparison with `==` succeeds if any of the others says "yes"; about `!=` the first of them decides
alone.

* `Value.operands` — the single values that a comparison is about;
* **`any_consult_of_ne`**, **`any_consult_eq`** — every comparison but inequality is a disjunction over
  the comparators;
* **`any_consult_ne`** — inequality is the answer of the first comparator that accepts;
* **`overItems_ne`** — about one comparator, the answers to `!=` and to `==` are opposite;
* `Operator.orders`, `Operator.Relates` — the operators about order, and what they say;
* **`affirms_byOrder_iff`** — when a comparator by order says "yes";
* **`agrees_byOrder_iff`**, **`agrees_string_iff`** — when a comparator takes a value for a text;
* **`evaluate_eq_iff`**, **`evaluate_order_iff`** — equality and order with a text.
-/

namespace DisplayFilter

/-- **The single values that a comparison is about:** the items of a list that is not empty, else the
value itself. -/
def Value.operands : Value → List Value
  | .list [] => [.list []]
  | .list items => items
  | v => [v]

theorem someReadable_eq (readable : Value → Bool) (v : Value) :
    someReadable readable v = v.operands.any readable := by
  cases v with
  | list items => cases items <;> simp [someReadable, Value.operands]
  | _ => simp [someReadable, Value.operands]

/-- About every operator but `!=`, one item that matches is enough. -/
theorem overItems_any {op : Operator} (hop : op ≠ .ne) (c : Comparator) (literal : Literal)
    (v : Value) : overItems c op literal v = v.operands.any (settled c op literal) := by
  cases v with
  | list items => cases items <;> simp [overItems, Value.operands, hop]
  | _ => simp [overItems, Value.operands]

/-- About `!=`, all items have to differ. -/
theorem overItems_all (c : Comparator) (literal : Literal) (v : Value) :
    overItems c .ne literal v = v.operands.all (settled c .ne literal) := by
  cases v with
  | list items => cases items <;> simp [overItems, Value.operands]
  | _ => simp [overItems, Value.operands]

theorem overItems_eq (c : Comparator) (literal : Literal) (v : Value) :
    overItems c .eq literal v = v.operands.any (settled c .eq literal) :=
  overItems_any (by decide) c literal v

/-! ### Opposite answers -/

/-- A comparator that says about `!=` the opposite of what it says about `==`. -/
def Comparator.Opposes (c : Comparator) (literal : Literal) : Prop :=
  ∀ v, settled c .ne literal v = !settled c .eq literal v

/-- **About one comparator,** the answers to `!=` and to `==` are opposite, also over lists. -/
theorem overItems_ne {c : Comparator} {literal : Literal} (h : c.Opposes literal) (v : Value) :
    overItems c .ne literal v = !overItems c .eq literal v := by
  rw [overItems_all, overItems_eq, List.not_any_eq_all_not]
  exact congrArg (fun p => v.operands.all p) (funext h)

/-- Comparators by order oppose. -/
theorem opposes_byOrder {α : Type} (name : String) (ofText? : String → Option α)
    (ofValue? : Value → Option α) (order? : α → α → Option Ordering) (literal : Literal) :
    (Comparator.byOrder name ofText? ofValue? order?).Opposes literal := by
  intro v
  simp only [settled, Comparator.byOrder, bind]
  cases literal.text?.bind ofText? with
  | none => rfl
  | some expected =>
    cases ofValue? v with
    | none => rfl
    | some actual =>
      simp only [Option.bind_some]
      cases order? actual expected with
      | none => rfl
      | some order => simp [Operator.ofOrder?, bne]

/-- So do strings. -/
theorem opposes_string (engine : PatternEngine) (literal : Literal) :
    (Comparator.string engine).Opposes literal := by
  intro v
  simp only [settled, Comparator.string, bind]
  cases literal.text? with
  | none => rfl
  | some expected =>
    cases v.string? with
    | none => rfl
    | some actual => simp [Comparator.compareStrings?, bne]

/-! ### Consulting -/

/-- Whether a comparator accepts both sides and says "yes". -/
def Comparator.affirms (c : Comparator) (op : Operator) (literal : Literal) (v : Value) : Bool :=
  c.accepts literal v && overItems c op literal v

/-- Whether a comparator accepts both sides and takes a value, or an item of a list, for a literal. -/
def Comparator.agrees (c : Comparator) (literal : Literal) (v : Value) : Bool :=
  c.accepts literal v && overItems c .eq literal v

/-- **Every comparison but inequality** is a disjunction over the comparators. -/
theorem any_consult_of_ne {op : Operator} (hop : op ≠ .ne) (literal : Literal) (v : Value)
    (comparators : List Comparator) :
    (consult op literal v comparators).any (·.2) = comparators.any (·.affirms op literal v) := by
  induction comparators with
  | nil => rfl
  | cons c more ih =>
    rw [consult, List.any_cons, Comparator.affirms]
    cases c.accepts literal v with
    | false => simpa using ih
    | true =>
      cases overItems c op literal v with
      | true => simp
      | false => simpa [hop] using ih

/-- **Equality** is a disjunction over the comparators. -/
theorem any_consult_eq (literal : Literal) (v : Value) (comparators : List Comparator) :
    (consult .eq literal v comparators).any (·.2) = comparators.any (·.agrees literal v) :=
  any_consult_of_ne (by decide) literal v comparators

/-- **Inequality** is the answer of the first comparator that accepts both sides. -/
theorem any_consult_ne (literal : Literal) (v : Value) (comparators : List Comparator) :
    (consult .ne literal v comparators).any (·.2) =
      (comparators.find? (·.accepts literal v)).any (overItems · .ne literal v) := by
  induction comparators with
  | nil => rfl
  | cons c more ih =>
    rw [consult, List.find?_cons]
    cases c.accepts literal v with
    | false => simpa using ih
    | true => simp

/-! ### Orders -/

/-- **What an operator says** about two things that have an order. -/
def Operator.Relates {α : Type} [LT α] [LE α] (op : Operator) (x y : α) : Prop :=
  match op with
  | .eq => x = y
  | .ne => x ≠ y
  | .ge => x ≥ y
  | .gt => x > y
  | .le => x ≤ y
  | .lt => x < y
  | _ => False

instance {α : Type} [LT α] [LE α] [DecidableEq α] [DecidableLT α] [DecidableLE α] (op : Operator)
    (x y : α) : Decidable (op.Relates x y) :=
  match op with
  | .eq => inferInstanceAs (Decidable (x = y))
  | .ne => inferInstanceAs (Decidable (x ≠ y))
  | .ge => inferInstanceAs (Decidable (x ≥ y))
  | .gt => inferInstanceAs (Decidable (x > y))
  | .le => inferInstanceAs (Decidable (x ≤ y))
  | .lt => inferInstanceAs (Decidable (x < y))
  | .search | .contains | .bitAnd | .member => inferInstanceAs (Decidable False)

/-- **The six operators that are about order.** -/
def Operator.orders : List Operator :=
  [.eq, .ne, .ge, .gt, .le, .lt]

/-- Two of them are about equality, the others about which side is greater. -/
theorem Operator.orders_cases {op : Operator} (h : op ∈ orders) :
    op ∈ [Operator.eq, .ne] ∨ op ∈ [Operator.ge, .gt, .le, .lt] :=
  List.mem_append.1 (show op ∈ [Operator.eq, .ne] ++ [.ge, .gt, .le, .lt] from h)

theorem Operator.ne_ne_of_order {op : Operator} (h : op ∈ [Operator.ge, .gt, .le, .lt]) :
    op ≠ .ne := by
  rintro rfl
  exact absurd h (by decide)

theorem Operator.ofOrder?_compare {α : Type} [Ord α] [LT α] [LE α] [Std.LawfulEqOrd α]
    [Std.LawfulOrderOrd α] [Std.LawfulOrderLT α] {op : Operator} {x y : α} :
    op.ofOrder? (compare x y) = some true ↔ op.Relates x y := by
  have hle : compare x y ≠ .gt ↔ x ≤ y := by
    rw [← Std.isLE_compare, Ordering.isLE_iff_ne_gt]
  have hge : compare x y ≠ .lt ↔ y ≤ x := by
    rw [← Std.isGE_compare, Ordering.isGE_iff_ne_lt]
  cases op with
  | ge => simp [ofOrder?, Relates, hge]
  | gt => simp [ofOrder?, Relates, Std.compare_eq_gt]
  | le => simp [ofOrder?, Relates, hle]
  | lt => simp [ofOrder?, Relates, Std.compare_eq_lt]
  | _ => simp [ofOrder?, Relates]

/-! ### What comparators take for a text -/

section ByOrder

variable {α : Type} {name : String} {ofText? : String → Option α} {ofValue? : Value → Option α}
  {order? : α → α → Option Ordering} {op : Operator} {s : String} {v : Value}

/-- **A comparator by order** says "yes" about a value if one of its items has the right order. -/
theorem affirms_byOrder_iff (hop : op ≠ .ne) :
    (Comparator.byOrder name ofText? ofValue? order?).affirms op (.text s) v = true ↔
      ∃ x, ofText? s = some x ∧ ∃ w ∈ v.operands, ∃ y, ofValue? w = some y ∧
        (order? y x).bind op.ofOrder? = some true := by
  have hne : (op == .ne) = false := by simp [hop]
  simp only [Comparator.affirms, overItems_any hop, Bool.and_eq_true, List.any_eq_true]
  simp only [Comparator.byOrder, someReadable_eq, settled, Literal.text?, Option.bind_some, bind,
    Bool.and_eq_true, List.any_eq_true, hne]
  cases hx : ofText? s with
  | none => simp
  | some x =>
    simp only [Option.isSome_some, true_and, Option.bind_some, Option.some.injEq, exists_eq_left']
    constructor
    · rintro ⟨-, w, hw, hsettled⟩
      cases hy : ofValue? w with
      | none => simp [hy] at hsettled
      | some y =>
        refine ⟨w, hw, y, hy, ?_⟩
        cases hanswer : (order? y x).bind op.ofOrder? with
        | none => simp [hy, hanswer] at hsettled
        | some answer => simpa [hy, hanswer] using hsettled
    · rintro ⟨w, hw, y, hy, hanswer⟩
      exact ⟨⟨w, hw, by rw [hy]; rfl⟩, w, hw, by simp [hy, hanswer]⟩

/-- What a comparator by order says about a single value that it reads. -/
theorem affirms_byOrder_read (hop : op ≠ .ne) {x y : α} (hv : v.operands = [v])
    (hx : ofText? s = some x) (hy : ofValue? v = some y) :
    (Comparator.byOrder name ofText? ofValue? order?).affirms op (.text s) v = true ↔
      (order? y x).bind op.ofOrder? = some true := by
  simp [affirms_byOrder_iff hop, hv, hx, hy]

/-- It accepts what it can read on both sides. -/
theorem accepts_byOrder_read {x y : α} (hv : v.operands = [v]) (hx : ofText? s = some x)
    (hy : ofValue? v = some y) :
    (Comparator.byOrder name ofText? ofValue? order?).accepts (.text s) v = true := by
  simp [Comparator.byOrder, someReadable_eq, Literal.text?, hv, hx, hy]

/-- It does not accept a text that it cannot read. -/
theorem accepts_byOrder_unread (hx : ofText? s = none) :
    (Comparator.byOrder name ofText? ofValue? order?).accepts (.text s) v = false := by
  simp [Comparator.byOrder, Literal.text?, hx]

/-- Nor a value that it cannot read. -/
theorem accepts_byOrder_unreadable (hv : v.operands = [v]) (hy : ofValue? v = none) :
    (Comparator.byOrder name ofText? ofValue? order?).accepts (.text s) v = false := by
  simp [Comparator.byOrder, someReadable_eq, hv, hy]

/-- It does not say "yes" about a text that it cannot read. -/
theorem affirms_byOrder_unread (hx : ofText? s = none) :
    (Comparator.byOrder name ofText? ofValue? order?).affirms op (.text s) v = false := by
  rw [Comparator.affirms, accepts_byOrder_unread hx, Bool.false_and]

/-- Nor about such a value. -/
theorem affirms_byOrder_unreadable (hv : v.operands = [v]) (hy : ofValue? v = none) :
    (Comparator.byOrder name ofText? ofValue? order?).affirms op (.text s) v = false := by
  rw [Comparator.affirms, accepts_byOrder_unreadable hv hy, Bool.false_and]

/-- **A comparator by order** takes a value for a text if one of its items is equal to it. -/
theorem agrees_byOrder_iff :
    (Comparator.byOrder name ofText? ofValue? order?).agrees (.text s) v = true ↔
      ∃ x, ofText? s = some x ∧ ∃ w ∈ v.operands, ∃ y, ofValue? w = some y ∧
        order? y x = some .eq := by
  have hequal : ∀ answer : Option Ordering,
      answer.bind Operator.eq.ofOrder? = some true ↔ answer = some .eq := by
    intro answer
    cases answer with
    | none => simp
    | some order => simp [Operator.ofOrder?]
  rw [Comparator.agrees, ← Comparator.affirms, affirms_byOrder_iff (by decide)]
  simp only [hequal]

end ByOrder

/-- **Strings** take a value for a text if one of its items has the decoded text. -/
theorem agrees_string_iff {engine : PatternEngine} {s : String} {v : Value} :
    (Comparator.string engine).agrees (.text s) v = true ↔
      ∃ w ∈ v.operands, w.string? = some (decodedText s) := by
  simp only [Comparator.agrees, overItems_eq, Bool.and_eq_true, List.any_eq_true]
  simp only [Comparator.string, settled, Literal.text?, Option.isSome_some, true_and,
    Option.bind_some, bind]
  constructor
  · rintro ⟨w, hw, hsettled⟩
    cases hactual : w.string? with
    | none => simp [hactual] at hsettled
    | some actual =>
      exact ⟨w, hw, by simpa [hactual, Comparator.compareStrings?] using hsettled⟩
  · rintro ⟨w, hw, hactual⟩
    exact ⟨w, hw, by simp [hactual, Comparator.compareStrings?]⟩

theorem agrees_number_iff {s : String} {v : Value} : Comparator.number.agrees (.text s) v = true ↔
    ∃ x, number? s = some x ∧ ∃ w ∈ v.operands, ∃ y, w.number? = some y ∧
      y.compare? x = some .eq :=
  agrees_byOrder_iff

theorem agrees_ipv4_iff {s : String} {v : Value} : Comparator.ipv4.agrees (.text s) v = true ↔
    ∃ x, ipv4? s = some x ∧ ∃ w ∈ v.operands, ∃ y, w.ipv4? = some y ∧
      some (Ipv4.compare y x) = some .eq :=
  agrees_byOrder_iff

theorem agrees_ipv6_iff {s : String} {v : Value} : Comparator.ipv6.agrees (.text s) v = true ↔
    ∃ x, ipv6? s = some x ∧ ∃ w ∈ v.operands, ∃ y, w.ipv6? = some y ∧
      some (Ipv6.compare y x) = some .eq :=
  agrees_byOrder_iff

/-- **Order with respect to a text** holds if one of the four comparators says so. -/
theorem evaluate_order_iff {op : Operator} (hop : op ∈ [Operator.ge, .gt, .le, .lt]) {e : Expression}
    {s : String} (he : e.comparison = some ⟨op, .text s⟩) (v : Value) :
    ComparatorTable.standard.evaluate e v = true ↔
      Comparator.ipv4.affirms op (.text s) v = true ∨ Comparator.ipv6.affirms op (.text s) v = true ∨
        Comparator.date.affirms op (.text s) v = true ∨
          Comparator.number.affirms op (.text s) v = true := by
  have hne : op ≠ .ne := Operator.ne_ne_of_order hop
  have htable : ComparatorTable.standard op = [.ipv4, .ipv6, .date, .number] := by
    simp only [List.mem_cons, List.not_mem_nil, or_false] at hop
    rcases hop with rfl | rfl | rfl | rfl <;> rfl
  rw [ComparatorTable.evaluate, he]
  simp only [ComparatorTable.consulted, any_consult_of_ne hne, htable, List.any_cons,
    List.any_nil, Bool.or_false, Bool.or_eq_true]

/-- **Equality with a text** holds if one of the four comparators says so. -/
theorem evaluate_eq_iff {e : Expression} {s : String} (he : e.comparison = some ⟨.eq, .text s⟩)
    (v : Value) :
    ComparatorTable.standard.evaluate e v = true ↔
      Comparator.number.agrees (.text s) v = true ∨ Comparator.ipv4.agrees (.text s) v = true ∨
        Comparator.ipv6.agrees (.text s) v = true ∨ Comparator.string.agrees (.text s) v = true := by
  rw [ComparatorTable.evaluate, he]
  simp only [ComparatorTable.consulted, any_consult_eq, ComparatorTable.standard,
    ComparatorTable.withEngine, List.any_cons, List.any_nil, Bool.or_false, Bool.or_eq_true]

end DisplayFilter
