import DisplayFilter.Proofs.Tree.Locality
import DisplayFilter.Proofs.Tree.WrittenForm

/-!
# Restricted parsers

A parser that admits listed fields finds the longest of them at the start of what is left of the text,
and one that admits any field takes all characters of a name.  Where they differ, the name on the list
ends in the middle of the longer one.  What stands behind it is then neither a connective nor a closing
parenthesis nor the end of the text, so that the filter around it cannot go on.

* `Parser.Admits` — the expressions whose names a parser knows;
* **`stops_behind_field`** — a name in front of a comparison ends where its characters do;
* **`expression_carried`** — an expression that is admitted by another parser, **`reads_carried`** — a
  derivation;
* **`parse_carried`** — a filter; **`parse_restricted`** — the filters of a restricted parser.
-/

namespace DisplayFilter

open Text

/-! ### Names that another parser knows -/

/-- **Whether a parser knows the names in an expression:** its field may be named, its function is
the one with this name, and its field is not spelled `not`. -/
structure Parser.Admits (p : Parser) (e : Expression) : Prop where
  field : p.Names e.field
  function : ∀ f, e.function = some f → p.functions.get? f.name = some f
  notNamed : e.isNamedNot = false

variable {p q : Parser}

theorem inRuns_of_mem {runs : List CodeRun} {first last : Nat} (h : ⟨first, last, 1⟩ ∈ runs)
    {c : Char} (hc : first ≤ c.toNat ∧ c.toNat ≤ last) : inRuns runs c = true :=
  List.any_eq_true.2 ⟨_, h, by simp [CodeRun.contains, hc, Nat.mod_one]⟩

theorem isCallChar_of_isFunctionChar {c : Char} (h : isFunctionChar c = true) :
    isCallChar c = true := by
  simp only [isFunctionChar, Bool.or_eq_true] at h
  simp only [isCallChar, Bool.or_eq_true, isAlphanumeric]
  refine h.imp_left fun halnum => ?_
  have hkind : ((c.isUpper || c.isLower) || c.isDigit) = true := halnum
  rw [Bool.or_eq_true, Bool.or_eq_true] at hkind
  rcases hkind with (hupper | hlower) | hdigit
  · have hmem : ⟨0x41, 0x5A, 1⟩ ∈ alphabeticRuns := List.mem_cons_self
    exact Or.inl (inRuns_of_mem hmem (toNat_of_isUpper hupper))
  · have hmem : ⟨0x61, 0x7A, 1⟩ ∈ alphabeticRuns := List.mem_cons_of_mem _ List.mem_cons_self
    exact Or.inl (inRuns_of_mem hmem (toNat_of_isLower hlower))
  · have hmem : ⟨0x30, 0x39, 1⟩ ∈ numericRuns := List.mem_cons_self
    exact Or.inr (inRuns_of_mem hmem (Char.isDigit_iff_toNat.1 hdigit))

/-- No function is called where no word is. -/
theorem callAt?_of_calledWord? (hp : p.PlainNames) {s : List Char} (h : calledWord? s = none) :
    p.callAt? s = none := by
  cases hcall : p.callAt? s with
  | none => rfl
  | some answer =>
    obtain ⟨f, t⟩ := answer
    have hplain := hp.functions _ (mem_names_of_get? (callAt?_registered hcall))
    have hchars : ∀ c ∈ f.name.toList, isCallChar c = true := fun c hc =>
      isCallChar_of_isFunctionChar (hplain.2 c hc)
    have hstop : Stops isCallChar ('(' :: t) := stops_cons.2 (not_isCallChar (by simp))
    rw [append_of_callAt? hcall] at h
    simp only [calledWord?, takeWhile_append_of_stops hchars hstop,
      dropWhile_append_of_stops hchars hstop] at h
    simp [hplain.1] at h

/-- **A field that ends where its characters do** is read the same by every parser that knows it. -/
theorem field_carried (hq : q.PlainNames) {s rest : List Char} {name : String}
    (h : p.field s = .ok (name, rest)) (hname : q.Names name) (hrest : Stops isFieldChar rest) :
    q.field s = .ok (name, rest) := by
  rw [append_of_field h]
  exact field_append hq hname hrest

/-! ### Where a field ends -/

theorem sliceAt_field {c : Char} (hc : isFieldChar c = true) {s rest : List Char}
    {slice : Option Slice} (h : sliceAt (c :: s) = .ok (slice, rest)) : rest = c :: s := by
  refine sliceAt_of_ne (fun t ht => ?_) h
  obtain rfl : c = '[' := (List.cons.inj ht).1
  exact absurd hc (by decide)

/-- The characters of a name are no comparison. -/
theorem comparisonAt_field {c : Char} (hc : isFieldChar c = true) {s rest : List Char}
    {x : Option Comparison} (h : comparisonAt (c :: s) = .ok (x, rest)) : rest = c :: s := by
  rw [comparisonAt, operatorAt?_field hc s] at h
  obtain ⟨-, rfl⟩ : _ ∧ c :: s = rest := by simpa using h
  rfl

/-- **A field in front of a comparison** ends where its characters do, if the filter goes on. -/
theorem stops_behind_field {s₁ s₂ rest : List Char} {slice : Option Slice} {c : Option Comparison}
    (hslice : sliceAt s₁ = .ok (slice, s₂)) (hcomparison : comparisonAt s₂ = .ok (c, rest))
    (hrest : Continues rest) : Stops isFieldChar s₁ := by
  cases s₁ with
  | nil => exact stops_nil _
  | cons d s =>
    rw [stops_cons, Bool.eq_false_iff]
    intro hd
    obtain rfl := sliceAt_field hd hslice
    obtain rfl := comparisonAt_field hd hcomparison
    exact not_continues_field hd s hrest

/-- **A field in front of a closing parenthesis** ends where its characters do. -/
theorem stops_before_close {s₁ s₂ t : List Char} {slice : Option Slice}
    (hslice : sliceAt s₁ = .ok (slice, s₂)) (hclose : trimStart s₂ = ')' :: t) :
    Stops isFieldChar s₁ := by
  cases s₁ with
  | nil => exact stops_nil _
  | cons d s =>
    rw [stops_cons, Bool.eq_false_iff]
    intro hd
    obtain rfl := sliceAt_field hd hslice
    exact not_continues_field hd s (Or.inr (Or.inl ⟨t, hclose⟩))

/-! ### Expressions and derivations -/

/-- **An expression that another parser admits** is read the same by it, if the filter goes on. -/
theorem expression_carried (hq : q.PlainNames) {s rest : List Char}
    {e : Expression} (h : p.expression s = .ok (e, rest)) (hrest : Continues rest)
    (hadmits : q.Admits e) : q.expression s = .ok (e, rest) := by
  rcases Parser.expression_eq_ok h with ⟨f, t, hcall, h⟩ | ⟨-, hword, h⟩
  · obtain ⟨field, s₁, slice, s₂, u, c, h₁, h₂, hu, h₃, rfl⟩ := Parser.callBody_eq_ok h
    have hcall' : q.callAt? s = some (f, t) := by
      rw [append_of_callAt? hcall]
      exact callAt?_append hq (hadmits.function f rfl) t
    have hfield : q.field (trimStart t) = .ok (field, s₁) :=
      field_carried hq h₁ hadmits.field (stops_before_close h₂ hu)
    unfold Parser.expression
    rw [hcall']
    simp only [Parser.callBody, hfield, h₂, bind, Except.bind, hu, h₃, pure, Except.pure]
  · obtain ⟨field, s₁, slice, s₂, c, h₁, h₂, h₃, hc, rfl⟩ := Parser.fieldExpression_eq_ok h
    have hfield : q.field s = .ok (field, s₁) :=
      field_carried hq h₁ hadmits.field (stops_behind_field h₂ h₃ hrest)
    have hcompared : (slice.isSome && c.isNone) = false := by
      cases slice with
      | none => rfl
      | some slice => simpa using hc rfl
    unfold Parser.expression
    rw [callAt?_of_calledWord? hq hword, hword]
    simp only [Parser.fieldExpression, hfield, h₂, bind, Except.bind, h₃, hcompared, pure,
      Except.pure, Bool.false_eq_true, if_false]

/-- **A derivation whose expressions another parser admits** is one of this parser. -/
theorem reads_carried (hp : p.PlainNames) (hq : q.PlainNames) {s rest : List Char}
    {phrase : Phrase} (h : p.Reads s phrase rest) (hrest : phrase.Followed rest)
    (hadmits : ∀ e ∈ phrase.leaves, q.Admits e) : q.Reads s phrase rest := by
  induction h with
  | negated hneg _ ih =>
    exact .negated hneg (ih hrest (by
      simpa [Phrase.leaves, Node.leaves, FilterTree.leaves] using hadmits))
  | namedNot hneg _ he hc =>
    have hleaf := hadmits _ List.mem_cons_self
    have hnot := (keyword_of_namedNot hp.solid hneg (callAt?_of_negation? hp hneg) he hc).1
    exact absurd (hleaf.notNamed.symm.trans hnot) (by decide)
  | @parenthesised t rest after x hclose _ hafter ih =>
    exact .parenthesised hclose (ih (Or.inr ⟨after, hafter⟩) hadmits) hafter
  | expression hneg hparen he =>
    exact .expression hneg hparen (expression_carried hq he hrest (hadmits _ List.mem_cons_self))
  | @chain s t rest first links _ htail ihfirst ihtail =>
    rw [Phrase.leaves, leaves_joined] at hadmits
    exact .chain
      (ihfirst (continues_of_tail htail hrest) fun e he => hadmits e (List.mem_append_left _ he))
      (ihtail hrest fun e he => hadmits e (List.mem_append_right _ he))
  | done hc => exact .done hc
  | @next s t u rest c x links hc _ hlinks ihx ihlinks =>
    have hleaves : ∀ e ∈ x.leaves ++ FilterTree.leaves (flattened links), q.Admits e := by
      simpa [Phrase.leaves, flattened, FilterTree.leaves, Node.leaves] using hadmits
    exact .next hc
      (ihx (continues_of_tail hlinks hrest) fun e he => hleaves e (List.mem_append_left _ he))
      (ihlinks hrest fun e he => hleaves e (List.mem_append_right _ he))

/-! ### Filters -/

/-- **A filter whose expressions another parser admits** parses to the same tree there. -/
theorem parse_carried (hp : p.PlainNames) (hq : q.PlainNames) {text : String} {tree : FilterTree}
    (h : p.parse text = .ok tree) (hadmits : ∀ e ∈ FilterTree.leaves tree, q.Admits e) :
    q.parse text = .ok tree := by
  rw [parse_eq_ok_iff] at h ⊢
  rcases h with hblank | ⟨hblank, x, rest, hx, hrest, rfl⟩
  · exact Or.inl hblank
  · have hleaves : ∀ e ∈ x.leaves, q.Admits e := by
      simpa [FilterTree.leaves] using hadmits
    exact Or.inr ⟨hblank, x, rest, reads_carried hp hq hx (Or.inl hrest) hleaves, hrest, rfl⟩

/-- **Restricting a parser** to listed fields and to some of its functions only takes filters away.
A text has a tree without fields called `not` exactly if the unrestricted parser has the same tree
for it, and the fields of this tree are listed and its functions among those that are left. -/
theorem parse_restricted (hp : p.PlainNames) (hq : q.PlainNames) (hlisted : p.fieldNames ≠ [])
    (hany : q.fieldNames = [])
    (hmore : ∀ name f, p.functions.get? name = some f → q.functions.get? name = some f)
    {tree : FilterTree} (hnot : ∀ e ∈ FilterTree.leaves tree, e.isNamedNot = false)
    (text : String) :
    p.parse text = .ok tree ↔
      q.parse text = .ok tree ∧ ∀ e ∈ FilterTree.leaves tree, e.field ∈ p.fieldNames ∧
        ∀ f, e.function = some f → f.name ∈ p.functions.names := by
  constructor
  · intro h
    have hleaves := (parse_shaped h).2
    refine ⟨parse_carried hp hq h fun e he => ?_, fun e he => ?_⟩
    · have hfield := hp.fields _ ((hleaves e he).listed hlisted)
      exact ⟨⟨hfield.1, hfield.2, fun hno => absurd hany hno⟩,
        fun f hf => hmore _ _ ((hleaves e he).registered f hf), hnot e he⟩
    · exact ⟨(hleaves e he).listed hlisted,
        fun f hf => mem_names_of_get? ((hleaves e he).registered f hf)⟩
  · rintro ⟨h, hknown⟩
    have hleaves := (parse_shaped h).2
    refine parse_carried hq hp h fun e he => ?_
    obtain ⟨hfield, hfunction⟩ := hknown e he
    refine ⟨⟨(hp.fields _ hfield).1, (hp.fields _ hfield).2, fun _ => hfield⟩, fun f hf => ?_,
      hnot e he⟩
    -- the function that is left under the name is the one of the unrestricted parser
    obtain ⟨g, hg⟩ := get?_of_mem_names (hfunction f hf)
    have hsame := (hmore _ _ hg).symm.trans ((hleaves e he).registered f hf)
    rw [hg, hsame]

/-- Two listed fields of which one starts the other, and one function that is left. -/
theorem parse_restricted_prefixes :
    let p : Parser := { fieldNames := ["a", "ab"], functions := [("len", lengthOf)] }
    ∃ tree, p.parse "len(ab) == 2 and (a or not ab == a)" = .ok tree ∧
      FilterTree.text tree = "len(ab) == 2 and (a or (not ab == a))" ∧
      ({} : Parser).parse "len(ab) == 2 and (a or not ab == a)" = .ok tree ∧
      ∀ e ∈ FilterTree.leaves tree, e.field ∈ p.fieldNames := by
  intro p
  have hp : p.PlainNames :=
    ⟨words_over_of_all (by decide), words_over_of_all (by decide)⟩
  have hmore : ∀ name f, p.functions.get? name = some f →
      FunctionTable.standard.get? name = some f := by
    intro name f hf
    have hmem : name ∈ ["len"] := mem_names_of_get? hf
    obtain rfl : name = "len" := by simpa using hmem
    exact hf
  have hparse : (p.parse "len(ab) == 2 and (a or not ab == a)").toOption.map (fun tree =>
      (FilterTree.text tree, (FilterTree.leaves tree).all fun e => !e.isNamedNot)) =
        some ("len(ab) == 2 and (a or (not ab == a))", true) := by
    decide +kernel
  obtain ⟨tree, htree, h⟩ := Option.map_eq_some_iff.1 hparse
  obtain ⟨htext, hleaves⟩ := Prod.mk.inj h
  simp only [List.all_eq_true, Bool.not_eq_true'] at hleaves
  have hok := toOption_eq_some.1 htree
  obtain ⟨hany, hknown⟩ := (parse_restricted hp plainNames_standard (by simp [p]) rfl hmore hleaves
    "len(ab) == 2 and (a or not ab == a)").1 hok
  exact ⟨tree, hok, htext, hany, fun e he => (hknown e he).1⟩

end DisplayFilter
