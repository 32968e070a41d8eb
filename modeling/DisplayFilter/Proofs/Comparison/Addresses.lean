import DisplayFilter.Proofs.Address.Mask
import DisplayFilter.Proofs.Comparison.Broadcast
import DisplayFilter.Proofs.Slice.AddressPrefix

/-!
# Comparing addresses

The comparators of addresses are asked together with those of numbers, moments and strings, and any of
them may say "yes".  None of the others does where the addresses do not: the text of an address is no
number and no moment, no text is an address of both kinds, and a value with the very same text is the
same address.

* **`Ipv6.toNat_inj`** — addresses are told apart by their numbers;
* **`filterDate?_of_ipv4?`** — the text of an IPv4 address is no moment;
* **`evaluate_order_ipv4`** — the order of IPv4 addresses;
* **`evaluate_equality_ipv4`**, **`evaluate_equality_ipv6`** — equality and inequality;
* **`evaluate_addresses`** — addresses compare by address and not by spelling.
-/

namespace DisplayFilter

/-! ### Numbers of addresses -/

/-- As many groups behind each other spell different numbers if they are different. -/
theorem foldl_groups_inj {groups others : List UInt16} (hlength : groups.length = others.length)
    {m n : Nat} (h : groups.foldl (fun n g => n * 65536 + g.toNat) m =
      others.foldl (fun n g => n * 65536 + g.toNat) n) : m = n ∧ groups = others := by
  induction groups generalizing others m n with
  | nil =>
    obtain rfl := List.eq_nil_of_length_eq_zero hlength.symm
    exact ⟨h, rfl⟩
  | cons g groups ih =>
    obtain ⟨k, others, rfl⟩ := List.exists_cons_of_length_eq_add_one hlength.symm
    obtain ⟨hnext, hmore⟩ := ih (Nat.succ.inj hlength) h
    have hg := g.toNat_lt
    have hk := k.toNat_lt
    have hstep : m * 65536 + g.toNat = n * 65536 + k.toNat := hnext
    have hsame : g = k := UInt16.toNat_inj.1 (by omega)
    exact ⟨by omega, by rw [hsame, hmore]⟩

/-- An IPv6 address is determined by its number. -/
theorem Ipv6.toNat_inj {x y : Ipv6} : x.toNat = y.toNat ↔ x = y := by
  constructor
  · intro h
    obtain ⟨-, hgroups⟩ := foldl_groups_inj (x.size_eq.trans y.size_eq.symm) h
    cases x
    cases y
    simpa using hgroups
  · rintro rfl
    rfl

/-! ### Texts of addresses -/

/-- **The text of an IPv4 address is no moment** in a filter: it looks like a number. -/
theorem filterDate?_of_ipv4? {s : String} {x : Ipv4} (h : ipv4? s = some x) : filterDate? s = none := by
  have hpoint : '.' ∈ dotted x.octets := by simp [Ipv4.octets, dotted_cons]
  have hall : ∀ c ∈ dotted x.octets, (c.isDigit || c == '.' || c == '-' || c == '+') = true := by
    intro c hc
    rcases mem_dotted hc with hdigit | rfl
    · simp [hdigit]
    · decide
  have hlooks : looksNumeric (dotted x.octets) = true := by
    rw [looksNumeric, List.contains_iff_mem.2 hpoint, List.all_eq_true.2 hall]
    rfl
  rw [eq_dotted_of_ipv4? h, filterDate?, String.toList_ofList, if_pos hlooks]

/-- A value that is read as an address is a single one and no number of the format. -/
theorem operands_of_address {v : Value} (h : v.ipv4?.isSome = true ∨ v.ipv6?.isSome = true) :
    v.operands = [v] ∧ ∀ x, Value.float x ∈ v.operands → x.InFormat := by
  cases v with
  | list items => simp [Value.ipv4?, Value.ipv6?] at h
  | float x => simp [Value.ipv4?, Value.ipv6?] at h
  | _ => exact ⟨rfl, fun x hx => by simp [Value.operands] at hx⟩

theorem ipv4?_of_isAddress {x : Ipv4} {v : Value} (h : IsAddress x v) : v.ipv4? = some x := by
  rcases h with rfl | rfl
  · rfl
  · exact ipv4?_text x

/-- **The comparators of addresses** compare the numbers of addresses. -/
theorem affirms_ipv4 {op : Operator} (hop : op ≠ .ne) {s : String} {v : Value} {x y : Ipv4}
    (hv : v.operands = [v]) (hy : ipv4? s = some y) (hx : v.ipv4? = some x) :
    Comparator.ipv4.affirms op (.text s) v = true ↔ op.Relates x.toNat y.toNat :=
  (affirms_byOrder_read hop hv hy hx).trans Operator.ofOrder?_compare

theorem affirms_ipv6 {op : Operator} (hop : op ≠ .ne) {s : String} {v : Value} {x y : Ipv6}
    (hv : v.operands = [v]) (hy : ipv6? s = some y) (hx : v.ipv6? = some x) :
    Comparator.ipv6.affirms op (.text s) v = true ↔ op.Relates x.toNat y.toNat :=
  (affirms_byOrder_read hop hv hy hx).trans Operator.ofOrder?_compare

/-! ### Order -/

/-- **The order of IPv4 addresses** is that of their numbers. -/
theorem evaluate_order_ipv4 {op : Operator} (hop : op ∈ [Operator.ge, .gt, .le, .lt]) {e : Expression}
    {s : String} (he : e.comparison = some ⟨op, .text s⟩) {v : Value} {x y : Ipv4}
    (hs : ipv4? s = some y) (hv : v.ipv4? = some x) :
    ComparatorTable.standard.evaluate e v = true ↔ op.Relates x.toNat y.toNat := by
  have hne : op ≠ .ne := Operator.ne_ne_of_order hop
  have hsingle := (operands_of_address (Or.inl (Option.isSome_of_eq_some hv))).1
  have hnumber : number? s = none := none_of_excluded (fun _ => ipv4?_of_number?) hs
  have hipv6 : Comparator.ipv6.affirms op (.text s) v = false :=
    affirms_byOrder_unread (ipv6?_of_ipv4? hs)
  have hdate : Comparator.date.affirms op (.text s) v = false :=
    affirms_byOrder_unread (filterDate?_of_ipv4? hs)
  have hnone : Comparator.number.affirms op (.text s) v = false := affirms_byOrder_unread hnumber
  rw [evaluate_order_iff hop he, affirms_ipv4 hne hsingle hs hv, hipv6, hdate, hnone]
  simp

/-! ### Equality and inequality -/

/-- **Equality of IPv4 addresses** is that of their numbers. -/
theorem evaluate_equality_ipv4 (e : Expression) {s : String} {v : Value} {x y : Ipv4}
    (hs : ipv4? s = some y) (hv : v.ipv4? = some x) {op : Operator}
    (hop : op ∈ [Operator.eq, .ne]) :
    ComparatorTable.standard.evaluate { e with comparison := some ⟨op, .text s⟩ } v = true ↔
      op.Relates x.toNat y.toNat := by
  obtain ⟨hsingle, hformat⟩ := operands_of_address (Or.inl (Option.isSome_of_eq_some hv))
  have hnumber : number? s = none := none_of_excluded (fun _ => ipv4?_of_number?) hs
  have hfirst : (ComparatorTable.standard .eq).find? (·.accepts (.text s) v) =
      some Comparator.ipv4 := by
    have hno : Comparator.number.accepts (.text s) v = false := accepts_byOrder_unread hnumber
    have hyes : Comparator.ipv4.accepts (.text s) v = true := accepts_byOrder_read hsingle hs hv
    simp only [ComparatorTable.standard, ComparatorTable.withEngine, List.find?_cons, hno, hyes]
  have hequal : Operator.eq ≠ .ne := by decide
  exact evaluate_equality e (by simp [hnumber]) hformat hfirst (affirms_ipv4 hequal hsingle hs hv) hop

/-- **So is equality of IPv6 addresses,** whatever they are written like. -/
theorem evaluate_equality_ipv6 (e : Expression) {s : String} {v : Value} {x y : Ipv6}
    (hs : ipv6? s = some y) (hv : v.ipv6? = some x) {op : Operator}
    (hop : op ∈ [Operator.eq, .ne]) :
    ComparatorTable.standard.evaluate { e with comparison := some ⟨op, .text s⟩ } v = true ↔
      op.Relates x.toNat y.toNat := by
  obtain ⟨hsingle, hformat⟩ := operands_of_address (Or.inr (Option.isSome_of_eq_some hv))
  have hnumber : number? s = none := none_of_excluded (fun _ => ipv6?_of_number?) hs
  have hfirst : (ComparatorTable.standard .eq).find? (·.accepts (.text s) v) =
      some Comparator.ipv6 := by
    have hno : Comparator.number.accepts (.text s) v = false := accepts_byOrder_unread hnumber
    have hipv4 : Comparator.ipv4.accepts (.text s) v = false :=
      accepts_byOrder_unread (none_of_excluded (fun _ => ipv6?_of_ipv4?) hs)
    have hyes : Comparator.ipv6.accepts (.text s) v = true := accepts_byOrder_read hsingle hs hv
    simp only [ComparatorTable.standard, ComparatorTable.withEngine, List.find?_cons, hno, hipv4, hyes]
  have hequal : Operator.eq ≠ .ne := by decide
  exact evaluate_equality e (by simp [hnumber]) hformat hfirst (affirms_ipv6 hequal hsingle hs hv) hop

/-- **Addresses compare by address and not by spelling.**  IPv4 addresses compare as the numbers that
they spell, by all six operators.  Two texts of IPv6 addresses, or an address and a text, are equal if
they denote the same address. -/
theorem evaluate_addresses (e : Expression) :
    (∀ (a b : Ipv4) (v : Value), IsAddress a v → ∀ op ∈ Operator.orders,
      (ComparatorTable.standard.evaluate { e with comparison := some ⟨op, .text b.text⟩ } v = true ↔
        op.Relates a.toNat b.toNat)) ∧
      ∀ (s : String) (v : Value) (x y : Ipv6), ipv6? s = some x → v.ipv6? = some y →
        (ComparatorTable.standard.evaluate { e with comparison := some ⟨.eq, .text s⟩ } v = true ↔
            x = y) ∧
          (ComparatorTable.standard.evaluate { e with comparison := some ⟨.ne, .text s⟩ } v = true ↔
            x ≠ y) := by
  constructor
  · intro a b v hv op hop
    have hread : v.ipv4? = some a := ipv4?_of_isAddress hv
    rcases Operator.orders_cases hop with hequality | horder
    · exact evaluate_equality_ipv4 e (ipv4?_text b) hread hequality
    · exact evaluate_order_ipv4 horder rfl (ipv4?_text b) hread
  · intro s v x y hs hv
    have hsame : y.toNat = x.toNat ↔ x = y := Ipv6.toNat_inj.trans eq_comm
    constructor
    · exact (evaluate_equality_ipv6 e hs hv (by decide)).trans hsame
    · exact (evaluate_equality_ipv6 e hs hv (by decide)).trans (not_congr hsame)

/-- An address and its neighbour, and two spellings of one address. -/
theorem evaluate_addresses_spellings :
    let e : Expression := ⟨"f", none, none, none⟩
    let v : Value := .string "2001:db8::1.2.3.4"
    IsAddress ⟨9, 0, 0, 255⟩ (.string "9.0.0.255") ∧ Operator.lt ∈ Operator.orders ∧
      ComparatorTable.standard.evaluate
        { e with comparison := some ⟨.lt, .text (Ipv4.mk 10 0 0 0).text⟩ } (.string "9.0.0.255") =
          true ∧
      (∃ x, ipv6? "2001:0DB8:0:0:0:0:102:304" = some x ∧ v.ipv6? = some x) ∧
      ComparatorTable.standard.evaluate
        { e with comparison := some ⟨.eq, .text "2001:0DB8:0:0:0:0:102:304"⟩ } v = true := by
  intro e v
  obtain ⟨horder, hequality⟩ := evaluate_addresses e
  have haddress : IsAddress ⟨9, 0, 0, 255⟩ (.string "9.0.0.255") := Or.inr rfl
  have hop : Operator.lt ∈ Operator.orders := by decide
  have hread : ∃ x, ipv6? "2001:0DB8:0:0:0:0:102:304" = some x ∧ v.ipv6? = some x := by
    refine ⟨⟨[0x2001, 0xdb8, 0, 0, 0, 0, 0x102, 0x304], rfl⟩, ?_, ?_⟩
    · rfl
    · rfl
  refine ⟨haddress, hop, (horder _ _ _ haddress .lt hop).2 (by decide), hread, ?_⟩
  obtain ⟨x, hs, hv⟩ := hread
  exact (hequality _ v x x hs hv).1.2 rfl

end DisplayFilter
