import DisplayFilter.Filter

/-!
# The items of a selection

A selection is asked for its items one by one, and each time it looks at as many records as it
takes.  Taken together the items do not depend on the steps: they are what the records give one
after another, up to the first structural error.

* `itemsOf` — what some records give, one after another;
* `Selection.items` — what is still to come from a selection;
* **`nextOf_yields`** — a step yields the first item and leaves the others;
* **`collect_items`** — all items of a selection are what its records give.
-/

namespace DisplayFilter

/-! ### Items -/

/-- **The items of some records.**  A record that satisfies the tree is an item, and so is the first
structural error, behind which nothing follows. -/
def itemsOf (f : Filter) (tree : FilterTree) : List Record → List (Except EvaluationError Record)
  | [] => []
  | record :: records =>
    match f.satisfies tree record with
    | .ok true => .ok record :: itemsOf f tree records
    | .ok false => itemsOf f tree records
    | .error e => if e.isStructural then [.error e] else itemsOf f tree records

/-- The items that a selection has left. -/
def Selection.items (s : Selection) : List (Except EvaluationError Record) :=
  if s.failed then [] else itemsOf s.filter s.tree s.records

/-! ### Steps -/

/-- **What a step has to do** with some items: it yields the first of them and leaves the others to a
selection of fewer than `bound` records, or there are none. -/
def Step.Yields (step : Step) (items : List (Except EvaluationError Record)) (bound : Nat) : Prop :=
  (step.item = none ∧ items = []) ∨
    ∃ item, step.item = some item ∧ items = item :: step.after.items ∧
      step.after.records.length < bound

theorem Step.Yields.mono {step : Step} {items : List (Except EvaluationError Record)}
    {bound more : Nat} (h : step.Yields items bound) (hmore : bound ≤ more) :
    step.Yields items more := by
  rcases h with hnone | ⟨item, hitem, hitems, hlength⟩
  · exact Or.inl hnone
  · exact Or.inr ⟨item, hitem, hitems, Nat.lt_of_lt_of_le hlength hmore⟩

/-- **A step yields the first item** of its records. -/
theorem nextOf_yields (f : Filter) (tree : FilterTree) (records : List Record) :
    (nextOf f tree records).Yields (itemsOf f tree records) records.length := by
  induction records with
  | nil => exact Or.inl ⟨rfl, rfl⟩
  | cons record records ih =>
    have hpassed := ih.mono (Nat.le_succ _)
    cases h : f.satisfies tree record with
    | ok b =>
      cases b with
      | true =>
        refine Or.inr ⟨.ok record, ?_, ?_, ?_⟩
        · simp only [nextOf, h]
        · simp [itemsOf, nextOf, h, Selection.items]
        · simp [nextOf, h]
      | false =>
        simp only [nextOf, itemsOf, h]
        exact hpassed
    | error e =>
      cases hstruct : e.isStructural with
      | true =>
        refine Or.inr ⟨.error e, ?_, ?_, ?_⟩
        · simp only [nextOf, h, hstruct, if_true]
        · simp [itemsOf, nextOf, h, hstruct, Selection.items]
        · simp [nextOf, h, hstruct]
      | false =>
        simp only [nextOf, itemsOf, h, hstruct]
        exact hpassed

/-- The items of as many steps as there are records, and one more, are all items. -/
theorem take_items {polls : Nat} {s : Selection} (h : s.records.length < polls) :
    (s.take polls).1 = s.items := by
  induction polls generalizing s with
  | zero => omega
  | succ polls ih =>
    cases hfailed : s.failed with
    | true => simp [Selection.take, Selection.next, Selection.items, hfailed]
    | false =>
      have hnext : s.next = nextOf s.filter s.tree s.records := by
        simp [Selection.next, hfailed]
      have hitems : s.items = itemsOf s.filter s.tree s.records := by
        simp [Selection.items, hfailed]
      rcases nextOf_yields s.filter s.tree s.records with
        ⟨hitem, hnil⟩ | ⟨item, hitem, hmore, hlength⟩
      · simp only [Selection.take, hnext, hitem, hitems, hnil]
      · simp only [Selection.take, hnext, hitem, hitems, hmore]
        rw [ih (by omega)]

/-- **All items of a selection** are what its records give. -/
theorem collect_items (s : Selection) : s.collect.1 = s.items :=
  take_items (Nat.lt_succ_self _)

theorem items_select (f : Filter) (tree : FilterTree) (records : List Record) :
    (f.select tree records).items = itemsOf f tree records := rfl

end DisplayFilter
