import DisplayFilter.Proofs.Comparison.Consultation
import DisplayFilter.Proofs.Value.ReadBack

/-!
# Inequality is the complement of equality

Equality asks every comparator that accepts both sides, inequality asks the first of them only.  The
two are complementary because the first comparator settles the matter: a text has one reading at most,
so that no other comparator of numbers or addresses accepts it, and a value that is the same string is
read as the same number or address.

* `Comparator.Settles` — one comparator agrees whenever a later one does;
* **`any_consult_complement`** — if every comparator settles the matter for the later ones, inequality
  is the complement of equality;
* **`settles_byOrder`**, **`settles_string`**, **`settles_standard`** — why the usual comparators do;
* **`evaluate_first`**, **`evaluate_equality`** — the first of them that accepts decides about both;
* **`evaluate_ne`** — `!=` is the complement of `==`, for every text but those of `NaN`.
-/

namespace DisplayFilter

/-! ### The first comparator that accepts -/

/-- **A comparator settles the matter** for a later one: if it accepts both sides, it agrees whenever
the later one does. -/
def Comparator.Settles (literal : Literal) (v : Value) (c later : Comparator) : Prop :=
  c.accepts literal v = true → later.agrees literal v = true → c.agrees literal v = true

/-- If any comparator agrees, the first one that accepts does. -/
theorem any_agrees {literal : Literal} {v : Value} {comparators : List Comparator}
    (h : comparators.Pairwise (Comparator.Settles literal v)) :
    comparators.any (·.agrees literal v) =
      (comparators.find? (·.accepts literal v)).any (·.agrees literal v) := by
  induction comparators with
  | nil => rfl
  | cons c more ih =>
    obtain ⟨hc, hmore⟩ := List.pairwise_cons.1 h
    rw [List.any_cons, List.find?_cons]
    cases haccepts : c.accepts literal v with
    | false =>
      have hno : c.agrees literal v = false := by
        rw [Comparator.agrees, haccepts, Bool.false_and]
      rw [hno, Bool.false_or, ih hmore]
    | true =>
      cases hany : more.any (·.agrees literal v) with
      | false => rw [Bool.or_false]; rfl
      | true =>
        obtain ⟨later, hlater, hagrees⟩ := List.any_eq_true.1 hany
        have hyes := hc later hlater haccepts hagrees
        rw [Bool.or_true]
        exact hyes.symm

/-- **Inequality is the complement of equality** if every comparator settles the matter for those
behind it, and one of them accepts both sides. -/
theorem any_consult_complement {literal : Literal} {v : Value} {comparators : List Comparator}
    (hopposes : ∀ c ∈ comparators, c.Opposes literal)
    (hsettles : comparators.Pairwise (Comparator.Settles literal v))
    (haccepts : ∃ c ∈ comparators, c.accepts literal v = true) :
    (consult .ne literal v comparators).any (·.2) =
      !(consult .eq literal v comparators).any (·.2) := by
  rw [any_consult_ne, any_consult_eq, any_agrees hsettles]
  cases hfirst : comparators.find? (·.accepts literal v) with
  | none =>
    obtain ⟨c, hc, hyes⟩ := haccepts
    exact absurd hyes (List.find?_eq_none.1 hfirst c hc)
  | some c =>
    have hc : c ∈ comparators := List.mem_of_find?_eq_some hfirst
    have hyes : c.accepts literal v = true := by simpa using List.find?_some hfirst
    show overItems c .ne literal v = !c.agrees literal v
    rw [overItems_ne (hopposes c hc), Comparator.agrees, hyes, Bool.true_and]

/-! ### The usual comparators -/

section Comparators

variable {α : Type} {name : String} {ofText? : String → Option α} {ofValue? : Value → Option α}
  {order? : α → α → Option Ordering} {s : String} {v : Value}

theorem exists_of_accepts
    (h : (Comparator.byOrder name ofText? ofValue? order?).accepts (.text s) v = true) :
    ∃ x, ofText? s = some x := by
  simp only [Comparator.byOrder, Literal.text?, Option.bind_some, Bool.and_eq_true] at h
  exact Option.isSome_iff_exists.1 h.1

/-- **Of two comparators by order** the first one settles the matter if no text is read by both. -/
theorem settles_byOrder {β : Type} {other : String} {ofOther? : String → Option β}
    {ofOtherValue? : Value → Option β} {otherOrder? : β → β → Option Ordering}
    (h : ∀ x, ofText? s = some x → ofOther? s = none) :
    (Comparator.byOrder name ofText? ofValue? order?).Settles (.text s) v
      (Comparator.byOrder other ofOther? ofOtherValue? otherOrder?) := by
  intro haccepts hagrees
  obtain ⟨x, hx⟩ := exists_of_accepts haccepts
  obtain ⟨y, hy, -⟩ := agrees_byOrder_iff.1 hagrees
  rw [h x hx] at hy
  simp at hy

/-- **In front of strings** a comparator by order settles the matter if the text that it reads stands
for itself, and if a value with this text is read as the text is. -/
theorem settles_string (hdecoded : ∀ x, ofText? s = some x → decodedText s = s)
    (hself : ∀ x, ofText? s = some x → order? x x = some .eq)
    (hread : ∀ w ∈ v.operands, w.string? = some s → ofText? s = ofValue? w) :
    (Comparator.byOrder name ofText? ofValue? order?).Settles (.text s) v .string := by
  intro haccepts hagrees
  obtain ⟨x, hx⟩ := exists_of_accepts haccepts
  obtain ⟨w, hw, htext⟩ := agrees_string_iff.1 hagrees
  rw [hdecoded x hx] at htext
  exact agrees_byOrder_iff.2 ⟨x, hx, w, hw, x, (hread w hw htext).symm.trans hx, hself x hx⟩

end Comparators

/-- Every number is equal to itself. -/
theorem Binary64.compare?_self {x : Binary64} (h : x ≠ .nan) : x.compare? x = some .eq := by
  cases x with
  | nan => exact absurd rfl h
  | infinite negative => cases negative <;> rfl
  | finite negative units => simp [Binary64.compare?]

/-- The comparators of equality answer the opposite to inequality. -/
theorem opposes_withEngine (engine : PatternEngine) (literal : Literal) :
    ∀ c ∈ ComparatorTable.withEngine engine .eq, c.Opposes literal := by
  intro c hc
  simp only [ComparatorTable.withEngine, List.mem_cons, List.not_mem_nil, or_false] at hc
  rcases hc with rfl | rfl | rfl | rfl
  · exact opposes_byOrder _ _ _ _ _
  · exact opposes_byOrder _ _ _ _ _
  · exact opposes_byOrder _ _ _ _ _
  · exact opposes_string engine _

theorem opposes_standard (literal : Literal) :
    ∀ c ∈ ComparatorTable.standard .eq, c.Opposes literal :=
  opposes_withEngine .standard literal

/-- **The comparators of equality** settle the matter for those behind them. -/
theorem settles_standard {s : String} (hs : number? s ≠ some .nan) {v : Value}
    (hv : ∀ x, Value.float x ∈ v.operands → x.InFormat) :
    (ComparatorTable.standard .eq).Pairwise (Comparator.Settles (.text s) v) := by
  have hread : ∀ w ∈ v.operands, w.string? = some s →
      number? s = w.number? ∧ ipv4? s = w.ipv4? ∧ ipv6? s = w.ipv6? := by
    intro w hw htext
    refine read_text (fun x hx => ?_) htext
    rw [hx] at hw
    exact hv x hw
  -- in front of strings: a value with the text of the literal is read as the literal is
  have hnumber : Comparator.number.Settles (.text s) v .string := by
    refine settles_string (fun _ => decodedText_of_number?) (fun x hx => ?_)
      fun w hw htext => (hread w hw htext).1
    refine Binary64.compare?_self fun hnan => hs ?_
    rw [hx, hnan]
  have hipv4 : Comparator.ipv4.Settles (.text s) v .string :=
    settles_string (fun _ => decodedText_of_ipv4?) (fun x _ => by simp [Ipv4.compare])
      fun w hw htext => (hread w hw htext).2.1
  have hipv6 : Comparator.ipv6.Settles (.text s) v .string :=
    settles_string (fun _ => decodedText_of_ipv6?) (fun x _ => by simp [Ipv6.compare])
      fun w hw htext => (hread w hw htext).2.2
  -- among the others: the literal has one reading at most
  have hnumbers : Comparator.number.Settles (.text s) v .ipv4 ∧
      Comparator.number.Settles (.text s) v .ipv6 :=
    ⟨settles_byOrder fun _ => ipv4?_of_number?, settles_byOrder fun _ => ipv6?_of_number?⟩
  have haddresses : Comparator.ipv4.Settles (.text s) v .ipv6 :=
    settles_byOrder fun _ => ipv6?_of_ipv4?
  simp [ComparatorTable.standard, ComparatorTable.withEngine, hnumbers, haddresses, hnumber, hipv4,
    hipv6]

/-- **The first comparator that accepts both sides** decides about equality and inequality. -/
theorem evaluate_first (e : Expression) {s : String} (hs : number? s ≠ some .nan) {v : Value}
    (hv : ∀ x, Value.float x ∈ v.operands → x.InFormat) {c : Comparator}
    (hfirst : (ComparatorTable.standard .eq).find? (·.accepts (.text s) v) = some c) :
    ComparatorTable.standard.evaluate { e with comparison := some ⟨.eq, .text s⟩ } v =
        c.agrees (.text s) v ∧
      ComparatorTable.standard.evaluate { e with comparison := some ⟨.ne, .text s⟩ } v =
        !c.agrees (.text s) v := by
  have hsettles := settles_standard hs hv
  have heq : (consult .eq (.text s) v (ComparatorTable.standard .eq)).any (·.2) =
      c.agrees (.text s) v := by
    rw [any_consult_eq, any_agrees hsettles, hfirst]
    rfl
  have hne := any_consult_complement (opposes_standard _) hsettles
    ⟨c, List.mem_of_find?_eq_some hfirst, by simpa using List.find?_some hfirst⟩
  rw [heq] at hne
  exact ⟨heq, hne⟩

/-- If this comparator compares two things that have an order, equality and inequality do. -/
theorem evaluate_equality (e : Expression) {s : String} (hs : number? s ≠ some .nan) {v : Value}
    (hv : ∀ x, Value.float x ∈ v.operands → x.InFormat) {c : Comparator}
    (hfirst : (ComparatorTable.standard .eq).find? (·.accepts (.text s) v) = some c) {α : Type}
    [LT α] [LE α] {x y : α} (hagrees : c.agrees (.text s) v = true ↔ x = y) {op : Operator}
    (hop : op ∈ [Operator.eq, .ne]) :
    ComparatorTable.standard.evaluate { e with comparison := some ⟨op, .text s⟩ } v = true ↔
      op.Relates x y := by
  obtain ⟨heq, hne⟩ := evaluate_first e hs hv hfirst
  simp only [List.mem_cons, List.not_mem_nil, or_false] at hop
  rcases hop with rfl | rfl
  · rw [heq]
    exact hagrees
  · rw [hne, Bool.not_eq_true', ← Bool.not_eq_true]
    exact not_congr hagrees

/-- **`!=` is the complement of `==`** for every value, if the text is not read as `NaN`. -/
theorem evaluate_ne (e : Expression) {s : String} (hs : number? s ≠ some .nan) {v : Value}
    (hv : ∀ x, Value.float x ∈ v.operands → x.InFormat) :
    ComparatorTable.standard.evaluate { e with comparison := some ⟨.ne, .text s⟩ } v =
      !ComparatorTable.standard.evaluate { e with comparison := some ⟨.eq, .text s⟩ } v :=
  any_consult_complement (opposes_standard _) (settles_standard hs hv)
    ⟨.string, by simp [ComparatorTable.standard, ComparatorTable.withEngine], rfl⟩

/-- A list with a null, another list, and a number that is equal. -/
theorem evaluate_ne_mixed :
    let e : Expression := ⟨"f", none, none, some ⟨.ne, .text "1"⟩⟩
    let v : Value := .list [.null, .string "one", .list [.integer 1], .float .one]
    number? "1" ≠ some .nan ∧ (∀ x, Value.float x ∈ v.operands → x.InFormat) ∧
      ComparatorTable.standard.evaluate e v = false := by
  intro e v
  have hs : number? "1" ≠ some .nan := by decide +kernel
  have hv : ∀ x, Value.float x ∈ v.operands → x.InFormat := by
    intro x hx
    obtain rfl : x = .one := by simpa [v, Value.operands] using hx
    show Binary64.Representable Binary64.unitsPerOne
    unfold Binary64.Representable
    decide +kernel
  have heq : ComparatorTable.standard.evaluate { e with comparison := some ⟨.eq, .text "1"⟩ } v =
      true := by
    decide +kernel
  refine ⟨hs, hv, ?_⟩
  have hne := evaluate_ne e hs hv
  rwa [heq] at hne

end DisplayFilter
