import DisplayFilter.Filter
import DisplayFilter.Proofs.Tree.Keywords
import DisplayFilter.Proofs.Tree.Shape
import DisplayFilter.Proofs.Tree.WrittenForm

/-!
# Slices compared with a text

The first octets of an address are found by a filter that slices the field and compares what is left with
a text.  Such a filter reads back from its text, and what it answers is what the comparators say about the
slice.

* `slicedEquality` — the expression, **`parse_slicedEquality`** — its text parses to it;
* **`satisfies_sliced`** — a field that can be sliced has the answer of its slice.
-/

namespace DisplayFilter

open Text

/-- **A slice compared with a text.** -/
def slicedEquality (name : String) (slice : Slice) (s : List Char) : Expression where
  field := name
  slice := some slice
  comparison := some ⟨.eq, .text (String.ofList s)⟩

/-- A word without quotes needs none. -/
theorem isBare_of_all {s : List Char} (hne : s ≠ []) (h : ∀ c ∈ s, isBareChar c = true) :
    isBare s = true := by
  obtain ⟨c, more, rfl⟩ := List.exists_cons_of_ne_nil hne
  have hchars : ∀ d ∈ c :: more, isWordChar d = true ∧ isQuote d = false := by
    intro d hd
    simpa [isBareChar] using h d hd
  simp only [isBare, Bool.and_eq_true, Bool.not_eq_true', List.all_eq_true]
  exact ⟨⟨rfl, by simpa using (hchars c List.mem_cons_self).2⟩, fun d hd => (hchars d hd).1⟩

theorem slicedEquality_chars (name : String) (slice : Slice) {s : List Char} (hbare : isBare s = true) :
    (slicedEquality name slice s).chars =
      name.toList ++ slice.chars ++ ' ' :: '=' :: '=' :: ' ' :: s := by
  have hliteral : (Literal.text (String.ofList s)).chars = s := by
    rw [Literal.chars, String.toList_ofList, quoted, if_pos hbare]
  simp [Expression.chars, slicedEquality, Expression.subject, hliteral, Operator.symbol]

/-- **The text of such an expression parses to it.** -/
theorem parse_slicedEquality {name : String} (hname : ({} : Parser).Names name) {slice : Slice}
    (hslice : slice.Writable) {s : List Char} (hbare : isBare s = true) :
    ({} : Parser).parse (slicedEquality name slice s).text =
      .ok [.leaf (slicedEquality name slice s)] := by
  have hwritable : (slicedEquality name slice s).Writable {} :=
    { licensed := ⟨by simp [slicedEquality], fun h => absurd rfl h,
        by simp [slicedEquality]⟩
      named := hname
      slice := fun other hother => Option.some.inj hother ▸ hslice
      literal := fun c hc => Option.some.inj hc ▸ Or.inl (by rwa [String.toList_ofList]) }
  refine parse_expression plainNames_standard hwritable ?_
  rw [← List.append_nil (Expression.chars _), slicedEquality, field_chars_append]
  exact negation?_name hname.ne_nil hname.chars (stops_cons.2 (by decide))
    (Or.inr (stops_cons.2 (by decide)))

/-- **A field that can be sliced** is compared by its slice. -/
theorem satisfies_sliced {f : Filter} {e : Expression} {slice : Slice} (hslice : e.slice = some slice)
    (hfunction : e.function = none) {record : Record} {v : Value}
    (h : f.slicers.slice slice (record.resolve e.field) = .ok v) :
    f.satisfies [.leaf e] record = .ok (f.comparators.evaluate e v) := by
  apply satisfies_leaf
  rw [Filter.leaf, Filter.resolve, Filter.sliced, hslice, hfunction]
  simp only [h, mapError_ok, bind, Except.bind, pure, Except.pure, Except.map]

end DisplayFilter
