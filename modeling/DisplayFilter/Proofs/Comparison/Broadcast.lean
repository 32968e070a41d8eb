import DisplayFilter.Proofs.Comparison.Complement

/-!
# Comparing lists

A comparator accepts a list as soon as it can read one of the items, and is then asked about all of
them, while an item on its own goes to the first comparator that can read it.  Both ways lead to the
same answer.  A "yes" is only said about what can be read, so that it does not matter which other items
can be.  About `!=`, an item that the comparator of the list cannot read counts as different; if another
comparator took it for the literal, the first one could have read it.

* `Comparator.Itemwise` — comparators that accept lists for their items and say "yes" about what they
  can read; **`itemwise_known`** — all known ones;
* **`any_consult_items`** — a list matches if one of its items does;
* `Comparator.Outranks`, **`outranks_withEngine`** — what a later comparator takes for a text, the first
  one can read; **`any_consult_items_ne`** — a list differs if all of its items do;
* **`evaluate_items`** — the usual comparators.
-/

namespace DisplayFilter

/-! ### Lists and single values -/

theorem operands_items {items : List Value} (hne : items ≠ []) :
    (Value.list items).operands = items := by
  obtain ⟨w, more, rfl⟩ := List.exists_cons_of_ne_nil hne
  rfl

theorem operands_ne_nil (v : Value) : v.operands ≠ [] := by
  cases v with
  | list items => cases items <;> simp [Value.operands]
  | _ => simp [Value.operands]

/-- A value that is no list with items is a single value. -/
theorem operands_single {w : Value} (h : ∀ x more, w ≠ .list (x :: more)) : w.operands = [w] := by
  cases w with
  | list items =>
    cases items with
    | nil => rfl
    | cons x more => exact absurd rfl (h x more)
  | _ => rfl

/-- About a single value, a comparator gives its own answer. -/
theorem overItems_single {w : Value} (hw : w.operands = [w]) (c : Comparator) (op : Operator)
    (literal : Literal) : overItems c op literal w = settled c op literal w := by
  by_cases hop : op = .ne
  · rw [hop, overItems_all, hw, List.all_cons, List.all_nil, Bool.and_true]
  · rw [overItems_any hop, hw, List.any_cons, List.any_nil, Bool.or_false]

/-! ### Comparators and what they read -/

/-- **A comparator that reads items:** it accepts both sides if it knows the literal and can read one
of the single values, and a "yes" is about a value that it can read. -/
def Comparator.Itemwise (c : Comparator) (literal : Literal) : Prop :=
  ∃ (knows : Bool) (readable : Value → Bool),
    (∀ v, c.accepts literal v = (knows && v.operands.any readable)) ∧
      ∀ op w, op ≠ .ne → settled c op literal w = true → knows = true ∧ readable w = true

theorem compare?_of_settled {c : Comparator} {op : Operator} {literal : Literal} {w : Value}
    (hop : op ≠ .ne) (h : settled c op literal w = true) : c.compare? op literal w = some true := by
  rw [settled, beq_false_of_ne hop] at h
  cases hanswer : c.compare? op literal w with
  | none =>
    rw [hanswer] at h
    exact Bool.noConfusion h
  | some answer =>
    rw [hanswer] at h
    exact congrArg some h

theorem itemwise_byOrder {α : Type} (name : String) (ofText? : String → Option α)
    (ofValue? : Value → Option α) (order? : α → α → Option Ordering) (literal : Literal) :
    (Comparator.byOrder name ofText? ofValue? order?).Itemwise literal := by
  refine ⟨(literal.text?.bind ofText?).isSome, fun w => (ofValue? w).isSome, fun v => ?_,
    fun op w hop h => ?_⟩
  · simp only [Comparator.byOrder, someReadable_eq]
  · obtain ⟨expected, hexpected, h⟩ := Option.bind_eq_some_iff.1 (compare?_of_settled hop h)
    obtain ⟨actual, hactual, -⟩ := Option.bind_eq_some_iff.1 h
    exact ⟨Option.isSome_iff_exists.2 ⟨expected, hexpected⟩,
      Option.isSome_iff_exists.2 ⟨actual, hactual⟩⟩

theorem itemwise_integer (literal : Literal) : Comparator.integer.Itemwise literal := by
  refine ⟨(literal.text?.bind wholeNumber?).isSome, fun w => w.wholeNumber?.isSome, fun v => ?_,
    fun op w hop h => ?_⟩
  · simp only [Comparator.integer, someReadable_eq]
  · obtain ⟨mask, hmask, h⟩ := Option.bind_eq_some_iff.1 (compare?_of_settled hop h)
    obtain ⟨n, hn, -⟩ := Option.bind_eq_some_iff.1 h
    exact ⟨Option.isSome_iff_exists.2 ⟨mask, hmask⟩, Option.isSome_iff_exists.2 ⟨n, hn⟩⟩

theorem itemwise_addressRange (literal : Literal) : Comparator.addressRange.Itemwise literal := by
  refine ⟨(Comparator.addresses? literal).isSome, fun w => w.ipv4?.isSome, fun v => ?_,
    fun op w hop h => ?_⟩
  · simp only [Comparator.addressRange, someReadable_eq]
  · obtain ⟨ranges, hranges, h⟩ := Option.bind_eq_some_iff.1 (compare?_of_settled hop h)
    obtain ⟨x, hx, -⟩ := Option.bind_eq_some_iff.1 h
    exact ⟨Option.isSome_iff_exists.2 ⟨ranges, hranges⟩, Option.isSome_iff_exists.2 ⟨x, hx⟩⟩

/-- Where every value is readable, one of the single values is. -/
theorem any_operands_true (v : Value) : v.operands.any (fun _ => true) = true := by
  obtain ⟨w, more, hw⟩ := List.exists_cons_of_ne_nil (operands_ne_nil v)
  rw [hw]
  rfl

theorem itemwise_string (engine : PatternEngine) (literal : Literal) :
    (Comparator.string engine).Itemwise literal := by
  refine ⟨literal.text?.isSome, fun _ => true, fun v => ?_, fun op w hop h => ⟨?_, rfl⟩⟩
  · rw [any_operands_true, Bool.and_true]
    rfl
  · obtain ⟨expected, hexpected, -⟩ := Option.bind_eq_some_iff.1 (compare?_of_settled hop h)
    rw [hexpected]
    rfl

theorem itemwise_list (literal : Literal) : Comparator.list.Itemwise literal := by
  refine ⟨literal.isList, fun _ => true, fun v => ?_, fun op w hop h => ⟨?_, rfl⟩⟩
  · rw [any_operands_true, Bool.and_true]
    rfl
  · have hmember : Comparator.isMember? w literal = some true := compare?_of_settled hop h
    cases literal with
    | text s => simp [Comparator.isMember?] at hmember
    | _ => rfl

/-- **All known comparators** read items. -/
theorem itemwise_known (engine : PatternEngine) (literal : Literal) :
    ∀ c ∈ Comparator.known engine, c.Itemwise literal := by
  intro c hc
  simp only [Comparator.known, List.mem_cons, List.not_mem_nil, or_false] at hc
  rcases hc with rfl | rfl | rfl | rfl | rfl | rfl | rfl | rfl
  · exact itemwise_byOrder _ _ _ _ literal
  · exact itemwise_integer literal
  · exact itemwise_byOrder _ _ _ _ literal
  · exact itemwise_byOrder _ _ _ _ literal
  · exact itemwise_byOrder _ _ _ _ literal
  · exact itemwise_string engine literal
  · exact itemwise_addressRange literal
  · exact itemwise_list literal

/-- The usual comparators are known ones. -/
theorem withEngine_known (engine : PatternEngine) (op : Operator) :
    ∀ c ∈ ComparatorTable.withEngine engine op, c ∈ Comparator.known engine := by
  cases op <;> simp [ComparatorTable.withEngine, Comparator.known]

section Items

variable {c : Comparator} {op : Operator} {literal : Literal} {items : List Value} {w : Value}

/-- A list is accepted if one of its items is. -/
theorem accepts_items (h : c.Itemwise literal) (hne : items ≠ [])
    (hsingle : ∀ w ∈ items, w.operands = [w]) :
    c.accepts literal (.list items) = true ↔ ∃ w ∈ items, c.accepts literal w = true := by
  obtain ⟨knows, readable, haccepts, -⟩ := h
  rw [haccepts, operands_items hne, Bool.and_eq_true, List.any_eq_true]
  constructor
  · rintro ⟨hknows, w, hw, hreadable⟩
    refine ⟨w, hw, ?_⟩
    rw [haccepts, hsingle w hw, hknows, List.any_cons, hreadable]
    rfl
  · rintro ⟨w, hw, hyes⟩
    rw [haccepts, hsingle w hw, List.any_cons, List.any_nil, Bool.or_false,
      Bool.and_eq_true] at hyes
    exact ⟨hyes.1, w, hw, hyes.2⟩

/-- What a comparator says "yes" about, it accepts. -/
theorem accepts_of_settled (h : c.Itemwise literal) (hop : op ≠ .ne) (hw : w.operands = [w])
    (hyes : settled c op literal w = true) : c.accepts literal w = true := by
  obtain ⟨knows, readable, haccepts, hsettled⟩ := h
  obtain ⟨hknows, hreadable⟩ := hsettled op w hop hyes
  rw [haccepts, hw, hknows, List.any_cons, hreadable]
  rfl

/-- A comparator says "yes" about a list if it does about one of the items. -/
theorem affirms_items (h : c.Itemwise literal) (hop : op ≠ .ne) (hne : items ≠ [])
    (hsingle : ∀ w ∈ items, w.operands = [w]) :
    c.affirms op literal (.list items) = true ↔ ∃ w ∈ items, c.affirms op literal w = true := by
  simp only [Comparator.affirms, Bool.and_eq_true, accepts_items h hne hsingle, overItems_any hop,
    operands_items hne, List.any_eq_true]
  constructor
  · rintro ⟨-, w, hw, hyes⟩
    exact ⟨w, hw, accepts_of_settled h hop (hsingle w hw) hyes, w, by simp [hsingle w hw], hyes⟩
  · rintro ⟨w, hw, haccepts, x, hx, hyes⟩
    obtain rfl : x = w := by simpa [hsingle w hw] using hx
    exact ⟨⟨x, hw, haccepts⟩, x, hw, hyes⟩

end Items

/-! ### A list matches if one of its items does -/

/-- **About every operator but `!=`,** a list is consulted about as its items are, one by one. -/
theorem any_consult_items {op : Operator} (hop : op ≠ .ne) {literal : Literal} {items : List Value}
    (hne : items ≠ []) (hsingle : ∀ w ∈ items, w.operands = [w]) {comparators : List Comparator}
    (hitemwise : ∀ c ∈ comparators, c.Itemwise literal) :
    (consult op literal (.list items) comparators).any (·.2) = true ↔
      ∃ w ∈ items, (consult op literal w comparators).any (·.2) = true := by
  simp only [any_consult_of_ne hop, List.any_eq_true]
  constructor
  · rintro ⟨c, hc, hyes⟩
    obtain ⟨w, hw, hyes⟩ := (affirms_items (hitemwise c hc) hop hne hsingle).1 hyes
    exact ⟨w, hw, c, hc, hyes⟩
  · rintro ⟨w, hw, c, hc, hyes⟩
    exact ⟨c, hc, (affirms_items (hitemwise c hc) hop hne hsingle).2 ⟨w, hw, hyes⟩⟩

/-! ### A list differs if all of its items do -/

/-- **A comparator outranks** a later one: where it can read the literal, it can read every value that
the later one takes for the literal. -/
def Comparator.Outranks (literal : Literal) (w : Value) (c later : Comparator) : Prop :=
  ∀ v, c.accepts literal v = true → later.agrees literal w = true → c.accepts literal w = true

/-- A single value that a comparator cannot read counts as different. -/
theorem differs_of_unread {c : Comparator} {literal : Literal} {w : Value}
    (hitemwise : c.Itemwise literal) (hopposes : c.Opposes literal) (hw : w.operands = [w])
    (hunread : c.accepts literal w = false) : settled c .ne literal w = true := by
  rw [hopposes w, Bool.not_eq_true']
  refine Bool.eq_false_iff.2 fun hyes => ?_
  rw [accepts_of_settled hitemwise (by decide) hw hyes] at hunread
  exact Bool.noConfusion hunread

/-- Nor do the comparators behind it take such a value for the literal, if it outranks them. -/
theorem differs_behind {c : Comparator} {behind : List Comparator} {literal : Literal} {v w : Value}
    (hopposes : ∀ a ∈ behind, a.Opposes literal)
    (houtranks : ∀ a ∈ behind, Comparator.Outranks literal w c a)
    (hv : c.accepts literal v = true) (hunread : c.accepts literal w = false)
    (hsome : ∃ a ∈ behind, a.accepts literal w = true) :
    (behind.find? (·.accepts literal w)).any (overItems · .ne literal w) = true := by
  cases hnext : behind.find? (·.accepts literal w) with
  | none =>
    obtain ⟨a, ha, hyes⟩ := hsome
    exact absurd hyes (List.find?_eq_none.1 hnext a ha)
  | some a =>
    have ha : a ∈ behind := List.mem_of_find?_eq_some hnext
    have hreads : a.accepts literal w = true := by simpa using List.find?_some hnext
    show overItems a .ne literal w = true
    rw [overItems_ne (hopposes a ha), Bool.not_eq_true']
    refine Bool.eq_false_iff.2 fun hyes => ?_
    have hagrees : a.agrees literal w = true := by
      rw [Comparator.agrees, hreads, hyes]
      rfl
    rw [houtranks a ha v hv hagrees] at hunread
    exact Bool.noConfusion hunread

/-- **About `!=`,** the comparator of the list decides as the comparators of the items do, if every
comparator outranks those behind it. -/
theorem any_consult_items_ne {literal : Literal} {items : List Value} (hne : items ≠ [])
    (hsingle : ∀ w ∈ items, w.operands = [w]) {comparators : List Comparator}
    (hitemwise : ∀ c ∈ comparators, c.Itemwise literal)
    (hopposes : ∀ c ∈ comparators, c.Opposes literal)
    (houtranks : ∀ w ∈ items, comparators.Pairwise (Comparator.Outranks literal w))
    (hsome : ∀ w ∈ items, ∃ c ∈ comparators, c.accepts literal w = true) :
    (consult .ne literal (.list items) comparators).any (·.2) = true ↔
      ∀ w ∈ items, (consult .ne literal w comparators).any (·.2) = true := by
  simp only [any_consult_ne]
  obtain ⟨w₀, more, hitems⟩ := List.exists_cons_of_ne_nil hne
  have hw₀ : w₀ ∈ items := hitems ▸ List.mem_cons_self
  cases hfirst : comparators.find? (·.accepts literal (.list items)) with
  | none =>
    obtain ⟨c, hc, hyes⟩ := hsome w₀ hw₀
    have hlist := (accepts_items (hitemwise c hc) hne hsingle).2 ⟨w₀, hw₀, hyes⟩
    exact absurd hlist (List.find?_eq_none.1 hfirst c hc)
  | some c =>
    obtain ⟨hlist, before, behind, rfl, hbefore⟩ := List.find?_eq_some_iff_append.1 hfirst
    have hc : c ∈ before ++ c :: behind := by simp
    show overItems c .ne literal (.list items) = true ↔ _
    rw [overItems_all, operands_items hne, List.all_eq_true]
    refine forall₂_congr fun w hw => ?_
    -- what does not accept the list does not accept the item
    have hpassed : before.find? (·.accepts literal w) = none := by
      refine List.find?_eq_none.2 fun a ha hyes => ?_
      have hno := hbefore a ha
      rw [(accepts_items (hitemwise a (by simp [ha])) hne hsingle).2 ⟨w, hw, hyes⟩] at hno
      exact Bool.noConfusion hno
    rw [List.find?_append, hpassed, Option.none_or, List.find?_cons]
    cases hreads : c.accepts literal w with
    | true =>
      show _ ↔ overItems c .ne literal w = true
      rw [overItems_single (hsingle w hw)]
    | false =>
      refine iff_of_true
        (differs_of_unread (hitemwise c hc) (hopposes c hc) (hsingle w hw) hreads)
        (differs_behind (fun a ha => hopposes a (by simp [ha]))
          (List.pairwise_cons.1 (List.pairwise_append.1 (houtranks w hw)).2.1).1 hlist hreads ?_)
      obtain ⟨a, ha, hyes⟩ := hsome w hw
      rcases List.mem_append.1 ha with ha | ha
      · exact absurd hyes (List.find?_eq_none.1 hpassed a ha)
      · rcases List.mem_cons.1 ha with rfl | ha
        · rw [hreads] at hyes
          exact Bool.noConfusion hyes
        · exact ⟨a, ha, hyes⟩

/-! ### The usual comparators -/

section Comparators

variable {α : Type} {name : String} {ofText? : String → Option α} {ofValue? : Value → Option α}
  {order? : α → α → Option Ordering} {s : String} {w : Value}

/-- **Of two comparators by order** the first one outranks the other if no text is read by both. -/
theorem outranks_byOrder {β : Type} {other : String} {ofOther? : String → Option β}
    {ofOtherValue? : Value → Option β} {otherOrder? : β → β → Option Ordering}
    (h : ∀ x, ofText? s = some x → ofOther? s = none) :
    (Comparator.byOrder name ofText? ofValue? order?).Outranks (.text s) w
      (Comparator.byOrder other ofOther? ofOtherValue? otherOrder?) := by
  intro v haccepts hagrees
  obtain ⟨x, hx⟩ := exists_of_accepts haccepts
  obtain ⟨y, hy, -⟩ := agrees_byOrder_iff.1 hagrees
  rw [h x hx] at hy
  simp at hy

/-- **In front of strings** a comparator by order outranks them if the text that it reads stands for
itself, and if a value with this text can be read, too. -/
theorem outranks_string (engine : PatternEngine) (hw : w.operands = [w])
    (hdecoded : ∀ x, ofText? s = some x → decodedText s = s)
    (hread : ∀ x, ofText? s = some x → w.string? = some s → (ofValue? w).isSome = true) :
    (Comparator.byOrder name ofText? ofValue? order?).Outranks (.text s) w (.string engine) := by
  intro v haccepts hagrees
  obtain ⟨x, hx⟩ := exists_of_accepts haccepts
  obtain ⟨y, hy, htext⟩ := agrees_string_iff.1 hagrees
  obtain rfl : y = w := by simpa [hw] using hy
  rw [hdecoded x hx] at htext
  simp only [Comparator.byOrder, Literal.text?, Option.bind_some, hx, Option.isSome_some,
    Bool.true_and, someReadable_eq, hw, List.any_cons, hread x hx htext, Bool.true_or]

end Comparators

/-- A value with a text that is read as a number or an address is one, too. -/
theorem readable_of_text {s : String} {w : Value} (h : w.string? = some s) :
    ((number? s).isSome = true → w.number?.isSome = true) ∧
      ((ipv4? s).isSome = true → w.ipv4?.isSome = true) ∧
        ((ipv6? s).isSome = true → w.ipv6?.isSome = true) := by
  by_cases hfloat : ∃ x, w = .float x
  · obtain ⟨x, rfl⟩ := hfloat
    obtain rfl : x.display = s := by simpa [Value.string?, Value.text, Value.chars] using h
    obtain ⟨hipv4, hipv6⟩ := no_address_display x
    exact ⟨fun _ => rfl, fun hread => by simp [hipv4] at hread, fun hread => by simp [hipv6] at hread⟩
  · obtain ⟨hnumber, hipv4, hipv6⟩ := read_text (fun x hx => absurd ⟨x, hx⟩ hfloat) h
    rw [hnumber, hipv4, hipv6]
    exact ⟨id, id, id⟩

/-- **The comparators of equality** outrank those behind them, about every single value. -/
theorem outranks_withEngine (engine : PatternEngine) {s : String} {w : Value}
    (hw : w.operands = [w]) :
    (ComparatorTable.withEngine engine .eq).Pairwise (Comparator.Outranks (.text s) w) := by
  have hnumber : Comparator.number.Outranks (.text s) w (.string engine) :=
    outranks_string engine hw (fun _ => decodedText_of_number?) fun x hx htext =>
      (readable_of_text htext).1 (by rw [hx]; rfl)
  have hipv4 : Comparator.ipv4.Outranks (.text s) w (.string engine) :=
    outranks_string engine hw (fun _ => decodedText_of_ipv4?) fun x hx htext =>
      (readable_of_text htext).2.1 (by rw [hx]; rfl)
  have hipv6 : Comparator.ipv6.Outranks (.text s) w (.string engine) :=
    outranks_string engine hw (fun _ => decodedText_of_ipv6?) fun x hx htext =>
      (readable_of_text htext).2.2 (by rw [hx]; rfl)
  have hnumbers : Comparator.number.Outranks (.text s) w .ipv4 ∧
      Comparator.number.Outranks (.text s) w .ipv6 :=
    ⟨outranks_byOrder fun _ => ipv4?_of_number?, outranks_byOrder fun _ => ipv6?_of_number?⟩
  have haddresses : Comparator.ipv4.Outranks (.text s) w .ipv6 :=
    outranks_byOrder fun _ => ipv6?_of_ipv4?
  simp [ComparatorTable.withEngine, hnumbers, haddresses, hnumber, hipv4, hipv6]

/-- **Lists with the usual comparators.**  A list matches if one of its items does, whatever the
operator and the literal are and whatever looks for patterns, but for `!=`: there all items have to
differ. -/
theorem evaluate_items (engine : PatternEngine) {e : Expression} {c : Comparison} (he : e.comparison = some c)
    {items : List Value} (hne : items ≠ []) (hflat : ∀ w ∈ items, ∀ x more, w ≠ .list (x :: more)) :
    (c.operator ≠ .ne → ((ComparatorTable.withEngine engine).evaluate e (.list items) = true ↔
      ∃ w ∈ items, (ComparatorTable.withEngine engine).evaluate e w = true)) ∧
    (c.operator = .ne → ((ComparatorTable.withEngine engine).evaluate e (.list items) = true ↔
      ∀ w ∈ items, (ComparatorTable.withEngine engine).evaluate e w = true)) := by
  obtain ⟨op, literal⟩ := c
  have hsingle : ∀ w ∈ items, w.operands = [w] := fun w hw => operands_single (hflat w hw)
  have hitemwise : ∀ c ∈ ComparatorTable.withEngine engine op, c.Itemwise literal := fun c hc =>
    itemwise_known engine literal c (withEngine_known engine op c hc)
  have heval : ∀ v, (ComparatorTable.withEngine engine).evaluate e v =
      (consult op literal v (ComparatorTable.withEngine engine op)).any (·.2) := by
    intro v
    rw [ComparatorTable.evaluate, he]
    rfl
  simp only [heval]
  refine ⟨fun hop => any_consult_items hop hne hsingle hitemwise, fun hop => ?_⟩
  obtain rfl : op = .ne := hop
  by_cases htext : ∃ s, literal = .text s
  · obtain ⟨s, rfl⟩ := htext
    exact any_consult_items_ne hne hsingle hitemwise (opposes_withEngine engine _)
      (fun w hw => outranks_withEngine engine (hsingle w hw))
      fun w _ => ⟨.string engine, by simp [ComparatorTable.withEngine], rfl⟩
  · -- no comparator of inequality knows a list
    have hno : ∀ v, consult .ne literal v (ComparatorTable.withEngine engine .ne) = [] := by
      intro v
      cases literal with
      | text s => exact absurd ⟨s, rfl⟩ htext
      | _ => rfl
    obtain ⟨w, more, rfl⟩ := List.exists_cons_of_ne_nil hne
    simp only [hno]
    exact ⟨fun h => Bool.noConfusion h, fun h => h w List.mem_cons_self⟩

/-- A list with a null, a text that is no number, an empty list and a number, in front of `!=`. -/
theorem evaluate_items_mixed :
    let e : Expression := ⟨"f", none, none, some ⟨.ne, .text "1"⟩⟩
    let items : List Value := [.null, .string "one", .list [], .integer 2]
    items ≠ [] ∧ (∀ w ∈ items, ∀ x more, w ≠ .list (x :: more)) ∧
      ComparatorTable.standard.evaluate e (.list items) = true := by
  intro e items
  have hne : items ≠ [] := by simp [items]
  have hflat : ∀ w ∈ items, ∀ x more, w ≠ .list (x :: more) := by simp [items]
  refine ⟨hne, hflat, ((evaluate_items .standard (e := e) rfl hne hflat).2 rfl).2 ?_⟩
  exact List.all_eq_true.1 (by decide +kernel)

end DisplayFilter
