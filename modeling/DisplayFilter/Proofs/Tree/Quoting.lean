import DisplayFilter.Proofs.Tree.Locality
import DisplayFilter.Proofs.Tree.WrittenForm

/-!
# Quoted texts in filters

A text is written into a filter with the quotes that it needs: none around a bare word, double ones, or
single ones around a text with a double one in it.  Quoted texts have no escapes, and so a text that
needs quotes and has both kinds in it ends at its own first single quote; what follows is read as more
of the filter.

* `textComparison`, `quotedFilter` — the comparison of a field with a text, and the filter for it;
* **`reads_equality`** — a field, the sign of equality and a literal read as a comparison;
* **`reads_chain_iff`** — what stands behind a first operand;
* **`read_quoted`**, **`read_broken`** — what the quoted text is read as, with and without quotes that fit;
* **`parse_quotedFilter`** — which texts read back, and what becomes of the others.
-/

namespace DisplayFilter

open Text

/-- The comparison of a field with a text. -/
def textComparison (name s : String) : Expression where
  field := name
  comparison := some ⟨.eq, .text s⟩

/-- **The filter that compares a field with a text,** quoted where it needs quotes. -/
def quotedFilter (name s : String) : String :=
  name ++ " == " ++ String.ofList (quoted s.toList)

theorem quotedFilter_toList (name s : String) :
    (quotedFilter name s).toList = name.toList ++ ' ' :: '=' :: '=' :: ' ' :: quoted s.toList := by
  simp [quotedFilter]

/-! ### Comparisons -/

variable {p : Parser} {name : String}

/-- A field, the sign of equality and a literal are an expression. -/
theorem expression_equality (hp : p.PlainNames) (hname : p.Names name) {t rest : List Char}
    {literal : Literal} (ht : Stops isBlank t) (hread : Literal.read t = .ok (literal, rest)) :
    p.expression (name.toList ++ ' ' :: '=' :: '=' :: ' ' :: t) =
      .ok (⟨name, none, none, some ⟨.eq, literal⟩⟩, rest) := by
  have hends : EndsName (' ' :: '=' :: '=' :: ' ' :: t) := endsName_cons (Or.inl rfl) _
  have hoperator : operatorAt? (' ' :: '=' :: '=' :: ' ' :: t) = some (.eq, trimStart t) :=
    operatorAt?_symbol .eq t
  have hcompared : comparisonAt (' ' :: '=' :: '=' :: ' ' :: t) =
      .ok (some ⟨.eq, literal⟩, rest) := by
    simp only [comparisonAt, hoperator, trimStart_of_stops ht, hread]
  have hslice : sliceAt (' ' :: '=' :: '=' :: ' ' :: t) =
      .ok (none, ' ' :: '=' :: '=' :: ' ' :: t) :=
    sliceAt_none (by simp)
  rw [Parser.expression, callAt?_field hp hname.chars hends.1 hends.2.2,
    calledWord?_field hname.chars hends]
  simp only [Parser.fieldExpression, field_append hp hname hends.1, hslice, hcompared, bind,
    Except.bind, pure, Except.pure, Option.isSome_none, Bool.false_and, Bool.false_eq_true, if_false]

/-- **A field, the sign of equality and a literal** read as a comparison, also if the field is spelled
`not`: no operand starts with the sign of equality, so that there is nothing to negate. -/
theorem reads_equality (hp : p.PlainNames) (hname : p.Names name) {t rest : List Char}
    {literal : Literal} (ht : Stops isBlank t) (hread : Literal.read t = .ok (literal, rest)) :
    p.Reads (name.toList ++ ' ' :: '=' :: '=' :: ' ' :: t)
      (.operand (.leaf ⟨name, none, none, some ⟨.eq, literal⟩⟩)) rest := by
  have hexpression := expression_equality hp hname ht hread
  by_cases hnot : equalCaseless ['n', 'o', 't'] name.toList = true
  · have hnegation : negation? (name.toList ++ ' ' :: '=' :: '=' :: ' ' :: t) =
        some ('=' :: '=' :: ' ' :: t) :=
      negation?_eq_some_iff.2 (Or.inl ⟨name.toList, ' ', _, rfl, hnot, rfl, rfl⟩)
    obtain ⟨fault, hfault⟩ :=
      unary_symbol hp (x := ("==", .eq)) (by decide) (by decide) (' ' :: t)
    exact .namedNot hnegation hfault hexpression rfl
  · have hnegation : negation? (name.toList ++ ' ' :: '=' :: '=' :: ' ' :: t) = none :=
      negation?_name hname.ne_nil hname.chars (stops_cons.2 (by decide))
        (Or.inl (Bool.eq_false_iff.2 hnot))
    refine .expression hnegation (fun u hu => ?_) hexpression
    obtain ⟨c, more, hcons⟩ := List.exists_cons_of_ne_nil hname.ne_nil
    rw [hcons, List.cons_append] at hu
    obtain rfl := (List.cons.inj hu).1
    have hparen : isFieldChar '(' = true := hname.chars '(' (hcons ▸ List.mem_cons_self)
    exact absurd hparen (by decide)

/-! ### What follows the first operand -/

/-- **Behind a first operand** stand the connectives and operands of a chain. -/
theorem reads_chain_iff {s u rest : List Char} {first x : Node} (h : p.Reads s (.operand first) u) :
    p.Reads s (.chain x) rest ↔ ∃ links, x = joined first links ∧ p.Reads u (.tail links) rest := by
  constructor
  · intro hchain
    cases hchain with
    | @chain _ t _ other links hother hlinks =>
      have hfirst := unary_eq_ok_iff.2 h
      rw [unary_eq_ok_iff.2 hother] at hfirst
      obtain ⟨rfl, rfl⟩ := Prod.mk.inj (Except.ok.inj hfirst)
      exact ⟨links, rfl, hlinks⟩
  · rintro ⟨links, rfl, hlinks⟩
    exact .chain h hlinks

theorem reads_tail_nil {u rest : List Char} (h : p.Reads u (.tail []) rest) : rest = u := by
  cases h with
  | done _ => rfl

/-- **A filter that starts with a comparison** is the comparison, or goes on behind it. -/
theorem parse_equality_iff (hp : p.PlainNames) (hname : p.Names name) {filter : String}
    {t rest : List Char} {literal : Literal}
    (hfilter : filter.toList = name.toList ++ ' ' :: '=' :: '=' :: ' ' :: t) (ht : Stops isBlank t)
    (hread : Literal.read t = .ok (literal, rest)) {tree : FilterTree} :
    p.parse filter = .ok tree ↔ ∃ links last,
      tree = [joined (.leaf ⟨name, none, none, some ⟨.eq, literal⟩⟩) links] ∧
        p.Reads rest (.tail links) last ∧ trimStart last = [] := by
  obtain ⟨c, more, hcons⟩ := List.exists_cons_of_ne_nil hname.ne_nil
  have hblank : isBlank c = false :=
    not_blank_of_isFieldChar (hname.chars c (hcons ▸ List.mem_cons_self))
  have htrim : trimStart filter.toList = filter.toList := by
    rw [hfilter, hcons]
    exact trimStart_cons_of_not_blank hblank _
  have hne : filter.toList ≠ [] := by simp [hfilter]
  have hoperand := reads_equality hp hname ht hread
  rw [← hfilter] at hoperand
  rw [parse_eq_ok_iff, htrim]
  constructor
  · rintro (⟨hnil, -⟩ | ⟨-, x, last, hx, hlast, rfl⟩)
    · exact absurd hnil hne
    · obtain ⟨links, rfl, hlinks⟩ := (reads_chain_iff hoperand).1 hx
      exact ⟨links, last, rfl, hlinks, hlast⟩
  · rintro ⟨links, last, rfl, hlinks, hlast⟩
    exact Or.inr ⟨hne, _, last, (reads_chain_iff hoperand).2 ⟨links, rfl, hlinks⟩, hlast, rfl⟩

/-! ### Quoted texts -/

/-- **A text whose quotes fit** is read as itself. -/
theorem read_quoted {s : String} (h : isBare s.toList = true ∨ Quotable s.toList) :
    Literal.read (quoted s.toList) = .ok (.text s, []) := by
  have hwritable : (Literal.text s).Writable := h
  have hread := Literal.read_chars hwritable (stops_nil _)
  rwa [List.append_nil] at hread

/-- **A text that no quotes fit** is read up to its first single quote. -/
theorem read_broken {s : List Char} (h : ¬ (isBare s = true ∨ Quotable s)) : ∃ rest,
    s = s.takeWhile (· != '\'') ++ '\'' :: rest ∧
      Literal.read (quoted s) =
        .ok (.text (String.ofList (s.takeWhile (· != '\''))), rest ++ ['\'']) := by
  rw [not_or, Quotable, not_or, Decidable.not_not, Decidable.not_not] at h
  obtain ⟨hbare, hdouble, hsingle⟩ := h
  obtain ⟨body, rest, rfl, hbody⟩ := List.eq_append_cons_of_mem hsingle
  have htake : (body ++ '\'' :: rest).takeWhile (· != '\'') = body := by
    refine takeWhile_append_of_stops (fun c hc => ?_) (stops_cons.2 (by decide))
    rw [bne_iff_ne]
    rintro rfl
    exact hbody hc
  have hquoted : quoted (body ++ '\'' :: rest) =
      '\'' :: body ++ '\'' :: (rest ++ ['\'']) := by
    rw [quoted, if_neg hbare, enclosed, if_pos (List.contains_iff_mem.2 hdouble)]
    simp
  have hquotation : quotation (quoted (body ++ '\'' :: rest)) = .closed body (rest ++ ['\'']) :=
    quotation_eq_closed_iff.2 ⟨'\'', rfl, hbody, hquoted⟩
  refine ⟨rest, by rw [htake], ?_⟩
  rw [htake]
  unfold Literal.read
  rw [hquotation]

theorem quoted_stops_blank (s : List Char) : Stops isBlank (quoted s) := by
  unfold quoted
  split
  · next hbare =>
    have hwritable : (Literal.text (String.ofList s)).Writable :=
      Or.inl (by rwa [String.toList_ofList])
    have hblank := literal_stops_blank hwritable []
    rwa [List.append_nil, Literal.chars, String.toList_ofList, quoted, if_pos hbare] at hblank
  · obtain ⟨q, t, hq, hquote⟩ := enclosed_cons s
    rw [hq, stops_cons]
    exact not_blank_of_isQuote hquote

/-- **Quoted texts read back** if and only if they are bare or quotes of one kind fit around them.  From
every other text the filter breaks out: if it parses at all, the field is compared with the part of
the text in front of its first single quote, and what follows is more of the filter. -/
theorem parse_quotedFilter (hp : p.PlainNames) (hname : p.Names name) (s : String) :
    (p.parse (quotedFilter name s) = .ok [.leaf (textComparison name s)] ↔
      isBare s.toList = true ∨ Quotable s.toList) ∧
    (¬ (isBare s.toList = true ∨ Quotable s.toList) → ∀ tree,
      p.parse (quotedFilter name s) = .ok tree → ∃ links, links ≠ [] ∧
        tree = [.group (.leaf (textComparison name
          (String.ofList (s.toList.takeWhile (· != '\'')))) :: flattened links)]) := by
  have hblank := quoted_stops_blank s.toList
  have hbroken : ¬ (isBare s.toList = true ∨ Quotable s.toList) → ∀ tree,
      p.parse (quotedFilter name s) = .ok tree → ∃ links, links ≠ [] ∧
        tree = [.group (.leaf (textComparison name
          (String.ofList (s.toList.takeWhile (· != '\'')))) :: flattened links)] := by
    intro h tree htree
    obtain ⟨rest, -, hread⟩ := read_broken h
    obtain ⟨links, last, rfl, hlinks, hlast⟩ :=
      (parse_equality_iff hp hname (quotedFilter_toList name s) hblank hread).1 htree
    cases links with
    | nil =>
      -- the quote at the end is not read by anything
      rw [reads_tail_nil hlinks, trimStart_eq_nil_iff] at hlast
      exact absurd (hlast '\'' (by simp)) (by decide)
    | cons link links => exact ⟨link :: links, by simp, rfl⟩
  refine ⟨⟨fun htree => ?_, fun h => ?_⟩, hbroken⟩
  · by_cases h : isBare s.toList = true ∨ Quotable s.toList
    · exact h
    · obtain ⟨links, -, hgroup⟩ := hbroken h _ htree
      simp at hgroup
  · refine (parse_equality_iff hp hname (quotedFilter_toList name s) hblank (read_quoted h)).2 ?_
    exact ⟨[], [], rfl, .done rfl, rfl⟩

/-- A text with a double quote, a blank and a bracket. -/
theorem parse_quotedFilter_bracket : ({} : Parser).PlainNames ∧ ({} : Parser).Names "f" ∧
    quotedFilter "f" "a) or \"b" = "f == 'a) or \"b'" ∧
    ({} : Parser).parse (quotedFilter "f" "a) or \"b") = .ok [.leaf (textComparison "f" "a) or \"b")] := by
  have hname : ({} : Parser).Names "f" :=
    ⟨by decide, List.all_eq_true.1 (by decide), fun hno => absurd rfl hno⟩
  have hquotable : Quotable "a) or \"b".toList := Or.inr (by decide)
  exact ⟨plainNames_standard, hname, rfl,
    (parse_quotedFilter plainNames_standard hname _).1.2 (Or.inr hquotable)⟩

/-- **A text that breaks out:** with both kinds of quotes in it, it becomes two comparisons. -/
theorem parse_quotedFilter_broken :
    let s := "\"' or g == '"
    quotedFilter "f" s = "f == '\"' or g == ''" ∧
      ({} : Parser).parse (quotedFilter "f" s) =
        .ok [.group [.leaf (textComparison "f" "\""), .connective .or, .leaf (textComparison "g" "")]] ∧
      ({} : Parser).parse (quotedFilter "f" s) ≠ .ok [.leaf (textComparison "f" s)] := by
  intro s
  have hname : ∀ name ∈ ["f", "g"], ({} : Parser).Names name := by
    intro name hmem
    have hchars : ∀ name ∈ ["f", "g"], name.toList ≠ [] ∧ name.toList.all isFieldChar = true := by
      decide
    obtain ⟨hne, hall⟩ := hchars name hmem
    exact ⟨hne, List.all_eq_true.1 hall, fun hno => absurd rfl hno⟩
  have htext : quotedFilter "f" "\"' or g == '" = "f == '\"' or g == ''" := rfl
  have hfilter : (quotedFilter "f" s).toList =
      "f".toList ++ ' ' :: '=' :: '=' :: ' ' :: "'\"' or g == ''".toList := by
    rw [htext]
    rfl
  have hsecond : ({} : Parser).Reads "g == ''".toList (.operand (.leaf (textComparison "g" ""))) [] :=
    reads_equality plainNames_standard (hname "g" (by simp)) (stops_cons.2 (by decide)) rfl
  have hparse : ({} : Parser).parse (quotedFilter "f" s) =
      .ok [.group [.leaf (textComparison "f" "\""), .connective .or,
        .leaf (textComparison "g" "")]] := by
    refine (parse_equality_iff plainNames_standard (hname "f" (by simp)) hfilter
      (stops_cons.2 (by decide)) rfl).2 ?_
    exact ⟨[(.or, .leaf (textComparison "g" ""))], [], rfl, .next rfl hsecond (.done rfl), rfl⟩
  refine ⟨htext, hparse, fun hno => ?_⟩
  rw [hparse] at hno
  simp at hno

end DisplayFilter
