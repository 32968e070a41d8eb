import DisplayFilter.Proofs.Comparison.Broadcast
import DisplayFilter.Proofs.Number.Integers
import DisplayFilter.Proofs.Text.Escapes

/-!
# How a literal is spelled

A number has many spellings and a text has many names by escapes, and equality does not tell them apart.
If a literal is read as a number, its own text does not matter: a value with this text is read as the same
number.  If it is written with escapes, it is read as nothing but a text, and stands for the text that the
escapes name.

* **`evaluate_eq_number_iff`** — equality with the text of a number is equality of numbers;
* **`evaluate_eq_unread_iff`** — equality with a text that is read as nothing else is that of texts;
* **`evaluate_spelling`** — two spellings of a number have the same equals;
* **`evaluate_named`** — a text by the escapes of its bytes, and what is equal to it.
-/

namespace DisplayFilter

open Text NumberText

/-! ### Equality with numbers and with other texts -/

/-- **Equal numbers** compare alike with every number. -/
theorem Binary64.compare?_congr {x y : Binary64} (h : x.compare? y = some .eq) (z : Binary64) :
    z.compare? x = z.compare? y := by
  cases x with
  | nan => simp [compare?] at h
  | infinite negative =>
    cases y with
    | nan => simp [compare?] at h
    | infinite negative' => cases negative <;> cases negative' <;> simp_all [compare?]
    | finite negative' units' => cases negative <;> simp [compare?] at h
  | finite negative units =>
    cases y with
    | nan => simp [compare?] at h
    | infinite negative' => cases negative' <;> simp [compare?] at h
    | finite negative' units' =>
      have hunits : signedUnits negative units = signedUnits negative' units' := by
        simpa [compare?] using h
      cases z with
      | nan => rfl
      | infinite negative'' => cases negative'' <;> rfl
      | finite negative'' units'' => simp only [compare?, hunits]

theorem Binary64.ne_nan_of_compare? {x y : Binary64} {order : Ordering}
    (h : x.compare? y = some order) : x ≠ .nan ∧ y ≠ .nan := by
  constructor
  · rintro rfl
    simp [compare?] at h
  · rintro rfl
    cases x <;> simp [compare?] at h

section Equality

variable {e : Expression} {s : String} {v : Value}

/-- **Equality with the text of a number** is equality of numbers: what has the same text is the same
number. -/
theorem evaluate_eq_number_iff (he : e.comparison = some ⟨.eq, .text s⟩) {x : Binary64}
    (hx : number? s = some x) (hnan : x ≠ .nan)
    (hv : ∀ z, Value.float z ∈ v.operands → z.InFormat) :
    ComparatorTable.standard.evaluate e v = true ↔
      ∃ w ∈ v.operands, ∃ y, w.number? = some y ∧ y.compare? x = some .eq := by
  rw [evaluate_eq_iff he, agrees_number_iff, agrees_ipv4_iff, agrees_ipv6_iff, agrees_string_iff,
    ipv4?_of_number? hx, ipv6?_of_number? hx, decodedText_of_number? hx, hx]
  simp only [Option.some.injEq, exists_eq_left', reduceCtorEq, false_and, exists_false, false_or]
  refine or_iff_left_of_imp ?_
  rintro ⟨w, hw, htext⟩
  have hread := (read_text (fun z hz => hv z (hz ▸ hw)) htext).1
  exact ⟨w, hw, x, hread.symm.trans hx, Binary64.compare?_self hnan⟩

/-- **Equality with a text** that is read as nothing else is equality of texts. -/
theorem evaluate_eq_unread_iff (he : e.comparison = some ⟨.eq, .text s⟩) (hnumber : number? s = none)
    (hipv4 : ipv4? s = none) (hipv6 : ipv6? s = none) :
    ComparatorTable.standard.evaluate e v = true ↔
      ∃ w ∈ v.operands, w.string? = some (decodedText s) := by
  rw [evaluate_eq_iff he, agrees_number_iff, agrees_ipv4_iff, agrees_ipv6_iff, agrees_string_iff,
    hnumber, hipv4, hipv6]
  simp only [reduceCtorEq, false_and, exists_false, false_or]

end Equality

/-! ### Spellings of a number -/

/-- **Two literals that have the same equals** have the same unequals. -/
theorem evaluate_equality_congr (e : Expression) {s t : String} (hs : number? s ≠ some .nan)
    (ht : number? t ≠ some .nan) {v : Value} (hv : ∀ z, Value.float z ∈ v.operands → z.InFormat)
    (heq : ComparatorTable.standard.evaluate { e with comparison := some ⟨.eq, .text s⟩ } v =
      ComparatorTable.standard.evaluate { e with comparison := some ⟨.eq, .text t⟩ } v)
    {op : Operator} (hop : op ∈ [Operator.eq, .ne]) :
    ComparatorTable.standard.evaluate { e with comparison := some ⟨op, .text s⟩ } v =
      ComparatorTable.standard.evaluate { e with comparison := some ⟨op, .text t⟩ } v := by
  have hcomplement : ∀ {r : String}, number? r ≠ some .nan →
      ComparatorTable.standard.evaluate { e with comparison := some ⟨.ne, .text r⟩ } v =
        !ComparatorTable.standard.evaluate { e with comparison := some ⟨.eq, .text r⟩ } v :=
    fun hr => any_consult_complement (opposes_standard _) (settles_standard hr hv)
      ⟨.string, by simp [ComparatorTable.standard, ComparatorTable.withEngine], rfl⟩
  simp only [List.mem_cons, List.not_mem_nil, or_false] at hop
  rcases hop with rfl | rfl
  · exact heq
  · rw [hcomplement hs, hcomplement ht, heq]

/-- **The spelling of a number** does not matter to equality and inequality, with any value. -/
theorem evaluate_spelling (e : Expression) {s t : String} {x y : Binary64} (hs : number? s = some x)
    (ht : number? t = some y) (hxy : x.numEq y = true) {v : Value}
    (hv : ∀ z, Value.float z ∈ v.operands → z.InFormat) {op : Operator}
    (hop : op ∈ [Operator.eq, .ne]) :
    ComparatorTable.standard.evaluate { e with comparison := some ⟨op, .text s⟩ } v =
      ComparatorTable.standard.evaluate { e with comparison := some ⟨op, .text t⟩ } v := by
  have hequal : x.compare? y = some .eq := by simpa [Binary64.numEq] using hxy
  obtain ⟨hx, hy⟩ := Binary64.ne_nan_of_compare? hequal
  refine evaluate_equality_congr e (by simp [hs, hx]) (by simp [ht, hy]) hv ?_ hop
  rw [Bool.eq_iff_iff, evaluate_eq_number_iff rfl hs hx hv, evaluate_eq_number_iff rfl ht hy hv]
  simp only [Binary64.compare?_congr hequal]

/-- A hexadecimal number and a decimal with an exponent and blanks, and a list with an octal number. -/
theorem evaluate_spelling_bases :
    let e : Expression := ⟨"f", none, none, none⟩
    let v : Value := .list [.null, .string "0x2", .list [.integer 32], .string "040"]
    let x : Binary64 := .ofInt 32
    let y : Binary64 := .ofDecimal false 32 0
    number? "0x20" = some x ∧ number? " 3.2e1 " = some y ∧ x.numEq y = true ∧
      (∀ z, Value.float z ∈ v.operands → z.InFormat) ∧ Operator.ne ∈ [Operator.eq, .ne] ∧
        ComparatorTable.standard.evaluate { e with comparison := some ⟨.ne, .text "0x20"⟩ } v =
          ComparatorTable.standard.evaluate { e with comparison := some ⟨.ne, .text " 3.2e1 "⟩ } v := by
  intro e v x y
  have hs : number? "0x20" = some x := rfl
  have ht : number? " 3.2e1 " = some y := rfl
  have hxy : x.numEq y = true := by
    have hvalue : y = x := Binary64.ofDecimal_whole false (n := 32) (by decide) 0 (by decide)
    have hself : x.compare? x = some .eq := by
      rw [Binary64.compare?_ofInt (by decide) (by decide), Int.compare_eq_eq.2 rfl]
    rw [hvalue, Binary64.numEq, hself]
    rfl
  have hv : ∀ z, Value.float z ∈ v.operands → z.InFormat := by simp [v, Value.operands]
  have hop : Operator.ne ∈ [Operator.eq, .ne] := by simp
  exact ⟨hs, ht, hxy, hv, hop, evaluate_spelling e hs ht hxy hv hop⟩

/-! ### Names by escapes -/

/-- **A text that names bytes** is read as nothing but a text. -/
theorem unread_of_names {s : String} {bytes : List UInt8} (h : Names s.toList bytes) :
    number? s = none ∧ ipv4? s = none ∧ ipv6? s = none := by
  generalize hl : s.toList = l at h
  cases h with
  | nil =>
    obtain rfl : s = "" := String.toList_eq_nil_iff.1 hl
    exact ⟨rfl, rfl, rfl⟩
  | cons hcode hmore =>
    have hmem : '\\' ∈ s.toList := by simp [hl, escape]
    exact ⟨number?_of_mem hmem (by decide), no_address_of_mem hmem (by decide)⟩

theorem Value.string?_eq_some_iff {v : Value} {s : String} :
    v.string? = some s ↔ v ≠ .null ∧ v.text = s := by
  cases v with
  | null => simp [string?]
  | string t => simp [string?, text, chars]
  | _ => simp [string?]

/-- **Every text has a name** by the escapes of its bytes.  A literal with any of its names stands for the
text, and a value that is no list is equal to it if it is not null and has this text. -/
theorem evaluate_named (e : Expression) (s : String) :
    (∃ name : String, Names name.toList s.toUTF8.data.toList) ∧
      ∀ name : String, Names name.toList s.toUTF8.data.toList → decodedText name = s ∧
        ∀ v : Value, (∀ items, v ≠ .list items) →
          (ComparatorTable.standard.evaluate { e with comparison := some ⟨.eq, .text name⟩ } v = true ↔
            v ≠ .null ∧ v.text = s) := by
  refine ⟨?_, fun name hname => ?_⟩
  · obtain ⟨name, hname⟩ := exists_names s.toUTF8.data.toList
    exact ⟨String.ofList name, by rwa [String.toList_ofList]⟩
  · obtain ⟨hnumber, hipv4, hipv6⟩ := unread_of_names hname
    have hdecoded : decodedText name = s := by
      rw [decodedText, decoded_names (encode_toList s ▸ hname), String.ofList_toList]
    refine ⟨hdecoded, fun v hv => ?_⟩
    rw [evaluate_eq_unread_iff rfl hnumber hipv4 hipv6, operands_single fun x more => hv (x :: more),
      hdecoded]
    simp only [List.mem_singleton, exists_eq_left, Value.string?_eq_some_iff]

/-- A text of two bytes, named with digits of both cases. -/
theorem evaluate_named_accent :
    let e : Expression := ⟨"f", none, none, none⟩
    let name := "\\xc3\\xA9"
    Names name.toList "é".toUTF8.data.toList ∧ decodedText name = "é" ∧
      (∀ items, Value.string "é" ≠ .list items) ∧
        ComparatorTable.standard.evaluate { e with comparison := some ⟨.eq, .text name⟩ }
          (.string "é") = true := by
  intro e name
  have hname : Names name.toList "é".toUTF8.data.toList := by
    have hchars : "\\xc3\\xA9".toList = escape 'c' '3' ++ (escape 'A' '9' ++ []) := rfl
    have hbytes : encode "é".toList = [0xC3, 0xA9] := rfl
    rw [← encode_toList, hbytes]
    show Names "\\xc3\\xA9".toList [0xC3, 0xA9]
    rw [hchars]
    exact .cons rfl (.cons rfl .nil)
  have hv : ∀ items, Value.string "é" ≠ .list items := fun items h => Value.noConfusion h
  obtain ⟨hdecoded, heval⟩ := (evaluate_named e "é").2 name hname
  exact ⟨hname, hdecoded, hv, (heval (.string "é") hv).2 ⟨fun h => Value.noConfusion h, rfl⟩⟩

end DisplayFilter
