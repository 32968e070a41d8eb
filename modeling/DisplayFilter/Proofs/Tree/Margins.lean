import DisplayFilter.Proofs.Tree.SameEnd

/-!
# Blanks around a filter

Blanks in front of a filter are dropped before it is read.  Blanks behind it are dropped after it was
read, and on the way a reader may have seen them: a keyword is a keyword only in front of a blank.  This
makes a difference where a filter ends in the spelling of a keyword that would have to go on.  A field
called `not` at the end is a negation of nothing if a blank follows.  And in `not eq ==`, where `eq` is a
field that is negated, the text behind it is an operator if a blank follows, `eq` cannot be read, and `not`
is a field that is compared with `==`.

* `Parser.EndsInKeyword` — the two ways in which a filter ends in such a keyword;
* **`negation?_none_sameEnd`** — expressions that are no negation in either text;
* **`operand_of_called`**, **`namedNot_sameEnd`** — the operand of a negation that cannot be read;
* **`reads_sameEnd`** — derivations;
* **`parse_blanks_append`**, **`parse_append_blanks`** — blanks in front of a filter and behind it;
* **`parse_margins`** — blanks around a filter.
-/

namespace DisplayFilter

open Text

variable {p : Parser} {s s' : List Char}

/-! ### Filters that end in a keyword -/

/-- **A text that ends in a keyword with its last expression.**  The expression is the presence test of a
field spelled `not`, and the text ends in the name of this field.  Or such a field is compared with an
operator, and the text ends in this operator behind another one, which the parser could read as a field. -/
inductive Parser.EndsInKeyword (p : Parser) (s : List Char) : Expression → Prop
  | presence {field : String} : equalCaseless ['n', 'o', 't'] field.toList = true →
      EndsIn s field.toList → p.EndsInKeyword s ⟨field, none, none, none⟩
  | comparison {field word x : String} {op : Operator} {blank : List Char} :
      equalCaseless ['n', 'o', 't'] field.toList = true → Operator.ofText? word = some op →
      p.field word.toList = .ok (word, []) → (Operator.ofText? x).isSome → blank ≠ [] →
      (∀ c ∈ blank, isBlank c = true) → EndsIn s (word.toList ++ blank ++ x.toList) →
      p.EndsInKeyword s ⟨field, none, none, some ⟨op, .text x⟩⟩

namespace Parser.EndsInKeyword

variable {e : Expression}

theorem of_suffix {t : List Char} (h : p.EndsInKeyword t e) (ht : t <:+ s) : p.EndsInKeyword s e := by
  cases h with
  | presence hname hend => exact .presence hname (hend.of_suffix ht)
  | comparison hname hword hfield hx hne hblank hend =>
    exact .comparison hname hword hfield hx hne hblank (hend.of_suffix ht)

theorem of_sameEnd (h : p.EndsInKeyword s' e) (hs : SameEnd s s') : p.EndsInKeyword s e := by
  cases h with
  | presence hname hend => exact .presence hname (hend.of_sameEnd hs)
  | comparison hname hword hfield hx hne hblank hend =>
    exact .comparison hname hword hfield hx hne hblank (hend.of_sameEnd hs)

end Parser.EndsInKeyword

/-- **A text that does not end in a keyword,** if some expressions are what it says. -/
def Parser.EndsPlainly (p : Parser) (s : List Char) (leaves : List Expression) : Prop :=
  ∀ e ∈ leaves.getLast?, ¬ p.EndsInKeyword s e

namespace Parser.EndsPlainly

theorem right {before after : List Expression} (h : p.EndsPlainly s (before ++ after)) :
    p.EndsPlainly s after := by
  intro e he
  refine h e ?_
  rw [List.getLast?_append, Option.mem_def.1 he]
  rfl

theorem of_suffix {t : List Char} {leaves : List Expression} (h : p.EndsPlainly s leaves)
    (ht : t <:+ s) : p.EndsPlainly t leaves :=
  fun e he hkeyword => h e he (hkeyword.of_suffix ht)

theorem of_sameEnd {leaves : List Expression} (h : p.EndsPlainly s leaves) (hs : SameEnd s s') :
    p.EndsPlainly s' leaves :=
  fun e he hkeyword => h e he (hkeyword.of_sameEnd hs)

end Parser.EndsPlainly

/-! ### Negations -/

/-- **Where an expression stands that is no negation,** there is no negation in the other text. -/
theorem negation?_none_sameEnd (hp : p.SolidNames) {rest : List Char} {e : Expression}
    (hneg : negation? s = none) (he : p.expression s = .ok (e, rest)) (hrest : Continues rest)
    (hlast : trimStart rest = [] → ¬ p.EndsInKeyword s e) (hs : SameEnd s s') :
    negation? s' = none := by
  have hno : ∀ t, negation? s ≠ some t := by simp [hneg]
  cases hneg' : negation? s' with
  | none => rfl
  | some t =>
    exfalso
    by_cases ht : t = []
    · rcases negation?_eq_some_iff.1 hneg' with ⟨w, b, u, rfl, hw, hb, -⟩ | ⟨u, rfl, hne, -⟩
      · have hinner : ∀ c ∈ w, isBlank c = false := fun c hc =>
          not_blank_of_isFieldChar (isFieldChar_of_spelled_not hw c hc)
        rcases hs.symm.word hinner hb with hword | ⟨b', u', hword, hb'⟩
        · -- the whole text is the word, a presence test of a field with this name
          rw [hword, ← List.append_nil w] at he
          have hcall : p.callAt? (w ++ []) = none := by
            refine callAt?_of_no_paren fun hmem => ?_
            rw [List.append_nil] at hmem
            exact absurd (isFieldChar_of_spelled_not hw '(' hmem) (by decide)
          obtain ⟨hname, hslice, hfunction, hcomparison⟩ :=
            expression_at_not hp hw (stops_nil _) hcall he (Or.inr hrest)
          obtain ⟨hnone, rfl⟩ : none = e.comparison ∧ [] = rest := by
            simpa [comparisonAt, operatorAt?, blanks?] using hcomparison
          obtain ⟨field, slice, function, comparison⟩ := e
          obtain rfl : slice = none := hslice
          obtain rfl : function = none := hfunction
          obtain rfl : none = comparison := hnone
          obtain rfl : field.toList = w := hname
          refine hlast rfl (.presence hw ⟨[], ?_⟩)
          rw [hword]
          exact SameEnd.refl _
        · exact hno _ (negation?_eq_some_iff.2 (Or.inl ⟨w, b', u', hword, hw, hb', rfl⟩))
      · obtain ⟨u', rfl, hrel⟩ := SameEnd.cut (v := []) (by decide) hs.symm
        exact hno _ (negation?_eq_some_iff.2 (Or.inr ⟨u', rfl, ne_equal_sameEnd hrel hne, rfl⟩))
    · obtain ⟨t', hsome, -⟩ := negation?_sameEnd hneg' ht hs.symm
      exact hno t' hsome

/-! ### The operand of a negation that is the name of a function

The name of a function may start like a negation, with an exclamation mark or with `not` and a blank.  Where
such a function is called, the text behind this is read as an operand first.  It goes on with the call, so
that it cannot be a blank at the end of the text that decides whether it is one. -/

/-- What is left behind a field in front of a call does not dangle. -/
theorem not_dangling_called (hp : p.SolidNames) {m y r rest : List Char} {f : Function}
    {e : Expression} {name : String} (hcalled : p.callBody f y = .ok (e, rest))
    (hfield : p.field (m ++ '(' :: y) = .ok (name, r)) (hno : operatorAt? r = none) :
    ¬ Dangling r := by
  intro hdangling
  have hclose : ')' ∉ r := not_mem_of_dangling (by decide) (by decide) hdangling
  obtain ⟨field, s₁, slice, s₂, v, c, h₁, h₂, hv, h₃, -⟩ := Parser.callBody_eq_ok hcalled
  obtain ⟨before, hbefore⟩ : ')' :: v <:+ m ++ '(' :: y := by
    have htail : ')' :: v <:+ s₂ := hv ▸ trimStart_suffix s₂
    exact (((htail.trans (sliceAt_suffix h₂)).trans (Parser.field_suffix h₁)).trans
      (trimStart_suffix y)).trans ((List.suffix_cons '(' y).trans (List.suffix_append m _))
  obtain ⟨⟨op, literal⟩, hop⟩ : ∃ answer, operatorAt? v = some answer := by
    cases hop : operatorAt? v with
    | some answer => exact ⟨answer, rfl⟩
    | none => simp [comparisonAt, hop] at h₃
  have htext := append_of_field hfield
  rw [← hbefore] at htext
  -- the field ends behind the closing parenthesis, and a blank follows there
  rcases List.append_eq_append_iff.1 htext with ⟨more, hname, hrest⟩ | ⟨more, -, hrest⟩
  · cases more with
    | nil => exact hclose (by rw [List.nil_append] at hrest; simp [← hrest])
    | cons d more =>
      rw [List.cons_append] at hrest
      obtain ⟨rfl, rfl⟩ := List.cons.inj hrest
      cases more with
      | nil =>
        rw [List.nil_append, hno] at hop
        simp at hop
      | cons b more =>
        have hb : isBlank b = true := by
          obtain ⟨x, hx, -⟩ := Option.bind_eq_some_iff.1 hop
          rw [List.cons_append] at hx
          simp only [blanks?, Option.ite_none_right_eq_some] at hx
          exact hx.1
        have hsolid := not_blank_of_isSolid (solid_of_field hp hfield).2 b (by simp [hname])
        rw [hb] at hsolid
        exact Bool.noConfusion hsolid
  · exact hclose (by simp [hrest])

/-- **Filters in parentheses,** in texts with less than `n` characters, that are the same up to blanks at the
end. -/
def Parser.InnerSameEnd (p : Parser) (n : Nat) : Prop :=
  ∀ {s s' rest after : List Char} {x : Node}, s.length < n → s'.length < n → SameEnd s s' →
    p.Reads s (.chain x) rest → trimStart rest = ')' :: after →
    ∃ rest', p.Reads s' (.chain x) rest' ∧ SameEnd rest rest'

/-- Parentheses around a filter that is one in both texts. -/
theorem parenthesised_sameEnd {t t' rest rest' after : List Char} {x : Node}
    (hclose : ∀ u, trimStart t ≠ ')' :: u) (hafter : trimStart rest = ')' :: after)
    (hs : SameEnd t t') (hx : p.Reads (trimStart t') (.chain x) rest') (hrest : SameEnd rest rest') :
    ∃ after', p.Reads ('(' :: t') (.operand x) after' ∧ SameEnd after after' := by
  obtain ⟨after', hafter', hrel⟩ := sameEnd_alike.close (hafter ▸ hrest.trim)
  refine ⟨after', .parenthesised (fun u hu => ?_) hx hafter', hrel⟩
  obtain ⟨u', hu', -⟩ := sameEnd_alike.close (hu ▸ hs.symm.trim)
  exact hclose u' hu'

/-- A negation in front of a parenthesis is one of the text in front of it, whatever stands behind it. -/
theorem negation?_in_front_of_paren {m y t : List Char} (h : negation? (m ++ '(' :: y) = some t) :
    ∃ m', t = m' ++ '(' :: y ∧ m'.length < m.length ∧
      ∀ y', negation? (m ++ '(' :: y') = some (m' ++ '(' :: y') := by
  have hparen : ∀ y, negation? (m ++ '(' :: y) = (negation? m).map (· ++ '(' :: y) := fun y =>
    negation?_append_cons (by decide) (by decide) (by decide) (by decide) m y
  rw [hparen] at h
  obtain ⟨m', hm, rfl⟩ := Option.map_eq_some_iff.1 h
  exact ⟨m', rfl, (negation?_properEnd hm).2, fun y' => by rw [hparen, hm]; rfl⟩

/-- **An operand that goes on with a call** is one in both texts.  It may be another operand, because a
function whose name starts like a negation may be called. -/
theorem operand_of_called (hp : p.SolidNames) {n : Nat} (hinner : p.InnerSameEnd n)
    {m y y' r rest : List Char} {f : Function} {e : Expression} {x : Node}
    (hcalled : p.callBody f y = .ok (e, rest)) (hy : SameEnd y y')
    (hn : (m ++ '(' :: y).length ≤ n) (hn' : (m ++ '(' :: y').length ≤ n)
    (hx : p.Reads (m ++ '(' :: y) (.operand x) r) :
    ∃ x' r', p.Reads (m ++ '(' :: y') (.operand x') r' := by
  have hs : SameEnd (m ++ '(' :: y) (m ++ '(' :: y') := (SameEnd.cons '(' hy).prepend m
  have hexpression : ∀ {e' r}, p.expression (m ++ '(' :: y) = .ok (e', r) →
      ∃ r', p.expression (m ++ '(' :: y') = .ok (e', r') := by
    intro e' r he
    obtain ⟨r', hr', -⟩ := expression_sameEnd hp he
      (fun hc => not_dangling_called hp hcalled (field_of_presence he hc)) hs
    exact ⟨r', hr'⟩
  generalize htext : m ++ '(' :: y = s at hx
  cases hx with
  | negated hneg hx =>
    subst htext
    obtain ⟨m', rfl, hlen, hneg'⟩ := negation?_in_front_of_paren hneg
    simp only [List.length_append, List.length_cons] at hn hn'
    obtain ⟨x', r', hx'⟩ := operand_of_called hp hinner hcalled hy
      (by simp only [List.length_append, List.length_cons]; omega)
      (by simp only [List.length_append, List.length_cons]; omega) hx
    exact ⟨_, r', .negated (hneg' y') hx'⟩
  | namedNot hneg hfault he hc =>
    subst htext
    obtain ⟨m', rfl, -, hneg'⟩ := negation?_in_front_of_paren hneg
    obtain ⟨r', he'⟩ := hexpression he
    cases hother : p.unary (m' ++ '(' :: y') with
    | ok answer => exact ⟨_, _, .negated (hneg' y') (unary_eq_ok_iff.1 hother)⟩
    | error fault => exact ⟨_, r', .namedNot (hneg' y') hother he' hc⟩
  | @parenthesised t rest after x hclose hx hafter =>
    rw [htext] at hs hn
    obtain ⟨t', ht', hrel⟩ := SameEnd.cut (v := []) (by decide) hs
    rw [ht'] at hn' ⊢
    have hlen := (trimStart_suffix t).length_le
    have hlen' := (trimStart_suffix t').length_le
    simp only [List.nil_append, List.length_cons] at hn hn'
    obtain ⟨rest', hx', hrest⟩ := hinner (by omega) (by omega) hrel.trim hx hafter
    obtain ⟨after', hx'', -⟩ := parenthesised_sameEnd hclose hafter hrel hx' hrest
    exact ⟨x, after', hx''⟩
  | expression hneg hparen he =>
    subst htext
    obtain ⟨r', he'⟩ := hexpression he
    refine ⟨_, r', .expression ?_ (fun t ht => ?_) he'⟩
    · cases hneg' : negation? (m ++ '(' :: y') with
      | none => rfl
      | some t' =>
        obtain ⟨m', -, -, hneg''⟩ := negation?_in_front_of_paren hneg'
        rw [hneg'' y] at hneg
        simp at hneg
    · obtain ⟨t', ht', -⟩ := SameEnd.cut (v := []) (by decide) (ht ▸ hs.symm)
      exact hparen t' ht'
termination_by m.length

/-- The operand of a negation stays unread where it is the name of a function. -/
theorem namedNot_of_called (hp : p.SolidNames) {n : Nat} (hinner : p.InnerSameEnd n)
    (hn : s.length ≤ n) (hn' : s'.length ≤ n) {t y rest : List Char} {fault : ParseStop} {f : Function}
    {e : Expression} (hneg : negation? s = some t) (hfault : p.unary t = .error fault)
    (hcall : p.callAt? s = some (f, y)) (he : p.expression s = .ok (e, rest))
    (hc : e.comparison.isSome) (hs : SameEnd s s') :
    ∃ t' fault', negation? s' = some t' ∧ p.unary t' = .error fault' := by
  obtain ⟨m, hname, rfl⟩ := negation?_of_called hneg hcall
  obtain ⟨y', hcall', hy⟩ := (sameEnd_alike.callAt? hp.namesAlike hs).some_of_some hcall
  obtain ⟨t', hneg', -⟩ := negation?_sameEnd hneg (by simp) hs
  obtain ⟨m', hname', rfl⟩ := negation?_of_called hneg' hcall'
  obtain rfl : m = m' := Option.some.inj (hname.symm.trans hname')
  obtain ⟨rest', he', -⟩ := expression_sameEnd hp he (fun hnone => by simp [hnone] at hc) hs
  have hbody : p.callBody f y' = .ok (e, rest') := by
    unfold Parser.expression at he'
    rwa [hcall'] at he'
  have hlen := (negation?_properEnd hneg).2
  have hlen' := (negation?_properEnd hneg').2
  cases hother : p.unary (m ++ '(' :: y') with
  | error fault' => exact ⟨m ++ '(' :: y', fault', hneg', hother⟩
  | ok answer =>
    obtain ⟨x, r, hx⟩ := operand_of_called hp hinner hbody hy.symm (by omega) (by omega)
      (unary_eq_ok_iff.1 hother)
    rw [unary_eq_ok_iff.2 hx] at hfault
    simp at hfault

/-! ### The operand of a negation that is the name of a field -/

/-- A spelling of an operator is read as this operator. -/
theorem Operator.ofText?_spelled {word : String} {op : Operator}
    (hmem : (word, op) ∈ Operator.spellings) {w : List Char}
    (hw : equalCaseless word.toList w = true) : Operator.ofText? (String.ofList w) = some op := by
  show (Operator.spellings.find? fun x =>
    equalCaseless x.1.toList (String.ofList w).toList).map (·.2) = some op
  rw [String.toList_ofList]
  cases hfind : Operator.spellings.find? fun x => equalCaseless x.1.toList w with
  | none => exact absurd hw (List.find?_eq_none.1 hfind _ hmem)
  | some answer =>
    have hspelled := List.find?_some hfind
    have hsame : equalCaseless answer.1.toList word.toList = true :=
      equalCaseless_iff.2 ((equalCaseless_iff.1 hspelled).trans (equalCaseless_iff.1 hw).symm)
    exact congrArg some (operators_unique _ (List.mem_of_find?_eq_some hfind) _ hmem hsame)

/-- **A literal that dangles.**  A word with a blank behind it is the name of a field, and what is left
behind it would be an operator if a blank followed.  Then it is the text of an operator, and the end. -/
theorem literal_of_dangling (hp : p.SolidNames) {w y y' r rest : List Char} {b : Char} {e : Expression}
    {literal : Literal} (hw : ∀ c ∈ w, isBlank c = false) (hb : isBlank b = true)
    (hread : Literal.read (trimStart (b :: y)) = .ok (literal, rest)) (hy : SameEnd y y')
    (he : p.expression (w ++ b :: y') = .ok (e, r)) (hc : e.comparison = none) (hr : Dangling r) :
    trimStart rest = [] ∧ p.field w = .ok (String.ofList w, []) ∧
      ∃ x blank, literal = .text x ∧ (Operator.ofText? x).isSome ∧ blank ≠ [] ∧
        (∀ c ∈ blank, isBlank c = true) ∧ SameEnd (w ++ b :: y) (w ++ blank ++ x.toList) := by
  obtain ⟨s, op, hs, hop⟩ := hr
  obtain ⟨x, hx, hkeyword⟩ := Option.bind_eq_some_iff.1 hop
  obtain ⟨word, w', u, hmem, hw', rfl, hread', hu⟩ := read_keyword bareWords_operators hkeyword
  have hblank : AtBlank s := by
    cases s with
    | nil => exact stops_nil _
    | cons d s =>
      simp only [blanks?, Option.ite_none_right_eq_some] at hx
      exact atBlank_cons hx.1 s
  have hfield := field_of_presence he hc
  obtain ⟨hname, rfl⟩ := field_in_front_of_blank hp hw hb hfield (hs.symm.atBlank hblank)
  have hrel : SameEnd (w' ++ u) (trimStart (b :: y)) :=
    trimStart_of_blanks? hx ▸ (hs.symm.trans (.cons b hy.symm)).trim
  obtain ⟨rest', hrest', hend⟩ := sameEnd_alike.literal_read hrel hread'
  obtain ⟨rfl, rfl⟩ : .text (String.ofList w') = literal ∧ rest' = rest := by
    rw [hread] at hrest'
    simpa [eq_comm] using hrest'
  have halone := field_alone hfield
  rw [hname, show e.field = String.ofList w by rw [← hname, String.ofList_toList]] at halone
  refine ⟨hend.trimStart_eq_nil hu, halone, String.ofList w', (b :: y).takeWhile isBlank, rfl, ?_, ?_,
    takeWhile_all, ?_⟩
  · rw [Operator.ofText?_spelled hmem hw']
    rfl
  · rw [List.takeWhile_cons_of_pos hb]
    exact List.cons_ne_nil b _
  · have hword : SameEnd (trimStart (b :: y)) w' :=
      hrel.symm.trans (SameEnd.append w' (trimStart_eq_nil_iff.1 hu)).symm
    have htext := hword.prepend ((b :: y).takeWhile isBlank)
    rw [trimStart, List.takeWhile_append_dropWhile] at htext
    rw [String.toList_ofList, List.append_assoc]
    exact htext.prepend w

/-- The operand of a `not` that is the name of a field stays unread.  If it were read in the other text, it
would be the presence test of a field called like the operator behind the `not`, and the literal behind
this operator would dangle. -/
theorem namedNot_of_field (hp : p.SolidNames) {t rest : List Char} {fault : ParseStop} {e : Expression}
    (hneg : negation? s = some t) (hfault : p.unary t = .error fault) (hcall : p.callAt? s = none)
    (he : p.expression s = .ok (e, rest)) (hc : e.comparison.isSome)
    (hlast : trimStart rest = [] → ¬ p.EndsInKeyword s e) (hs : SameEnd s s') :
    ∃ t' fault', negation? s' = some t' ∧ p.unary t' = .error fault' := by
  obtain ⟨hname, hslice, hfunction, op, v, literal, hkeyword, hread, hcomparison⟩ :=
    keyword_of_namedNot hp hneg hcall he hc
  have hv : v ≠ [] := by
    rintro rfl
    exact absurd (Literal.read_properEnd hread).2 (by simp)
  have ht : t ≠ [] := by
    rintro rfl
    exact absurd (keyword?_properEnd hkeyword).2 (by simp)
  obtain ⟨t', hneg', hrel⟩ := negation?_sameEnd hneg ht hs
  obtain ⟨word, w, b, y, hmem, hw, rfl, hb, hbare, rfl⟩ :=
    keyword?_spelled bareWords_operators hkeyword
  obtain ⟨y', rfl, hy⟩ : ∃ y', t' = w ++ b :: y' ∧ SameEnd y y' := by
    have happend : w ++ b :: y = w ++ [b] ++ y := by simp
    rw [happend] at hrel
    rw [trimStart_cons_of_blank hb] at hv
    obtain ⟨y', rfl, hy⟩ := hrel.behind hv
    exact ⟨y', by simp, hy⟩
  obtain ⟨hnone, hno⟩ := negation?_operator hmem hw hb y
  obtain ⟨hnone', hno'⟩ := negation?_operator hmem hw hb y'
  rw [unary_eq_expression hnone hno, map_eq_error] at hfault
  cases hother : p.expression (w ++ b :: y') with
  | error fault' =>
    exact ⟨w ++ b :: y', fault', hneg', by rw [unary_eq_expression hnone' hno', hother]; rfl⟩
  | ok answer =>
    exfalso
    obtain ⟨e', r⟩ := answer
    obtain ⟨hpresence, hdangling⟩ : e'.comparison = none ∧ Dangling r := by
      apply Classical.byContradiction
      intro hnot
      obtain ⟨r', hr', -⟩ := expression_sameEnd hp hother
        (fun hnone _ hdangling => hnot ⟨hnone, hdangling⟩) hrel.symm
      rw [hfault] at hr'
      simp at hr'
    obtain ⟨hend, hfield, x, blank, rfl, hx, hne, hblank, htext⟩ := literal_of_dangling hp
      (fun c hc => not_blank_of_isBareChar (hbare c hc)) hb hread hy hother hpresence hdangling
    refine hlast hend (Parser.EndsInKeyword.of_suffix ?_ (negation?_properEnd hneg).1)
    obtain ⟨field, slice, function, comparison⟩ := e
    obtain rfl : slice = none := hslice
    obtain rfl : function = none := hfunction
    obtain rfl : comparison = some ⟨op, .text x⟩ := hcomparison
    exact .comparison hname (Operator.ofText?_spelled hmem hw)
      (by rw [String.toList_ofList]; exact hfield) hx hne hblank
      ⟨[], by rw [String.toList_ofList]; exact htext⟩

/-- **The operand of a negation that is a name** stays unread. -/
theorem namedNot_sameEnd (hp : p.SolidNames) {n : Nat} (hinner : p.InnerSameEnd n)
    (hn : s.length ≤ n) (hn' : s'.length ≤ n) {t rest : List Char} {fault : ParseStop} {e : Expression}
    (hneg : negation? s = some t) (hfault : p.unary t = .error fault)
    (he : p.expression s = .ok (e, rest)) (hc : e.comparison.isSome)
    (hlast : trimStart rest = [] → ¬ p.EndsInKeyword s e) (hs : SameEnd s s') :
    ∃ t' fault', negation? s' = some t' ∧ p.unary t' = .error fault' := by
  cases hcall : p.callAt? s with
  | none => exact namedNot_of_field hp hneg hfault hcall he hc hlast hs
  | some answer => exact namedNot_of_called hp hinner hn hn' hneg hfault hcall he hc hs

/-! ### Derivations -/

/-- Where a filter ends there is no connective. -/
theorem Ends.no_connective (h : Ends s) : connectiveAt? s = none := by
  cases hc : connectiveAt? s with
  | none => rfl
  | some answer =>
    exfalso
    obtain ⟨c, t⟩ := answer
    obtain ⟨x, hx, hkeyword⟩ := Option.bind_eq_some_iff.1 hc
    obtain ⟨word, w, b, u, hmem, hw, rfl, hb, hbare, -⟩ :=
      keyword?_spelled bareWords_connectives hkeyword
    have htrim := trimStart_of_blanks? hx
    rcases h with hend | ⟨v, hclose⟩
    · rw [hend] at htrim
      simp at htrim
    · rw [hclose] at htrim
      cases w with
      | nil => exact (bareWords_connectives _ hmem).1 (by simpa using equalCaseless_iff.1 hw)
      | cons d w =>
        obtain rfl : ')' = d := (List.cons.inj htrim).1
        exact absurd (hbare ')' List.mem_cons_self) (by decide)

theorem Ends.sameEnd (h : Ends s) (hs : SameEnd s s') : Ends s' := by
  rcases h with hend | ⟨u, hclose⟩
  · exact Or.inl (hs.trimStart_eq_nil hend)
  · obtain ⟨u', hu', -⟩ := sameEnd_alike.close (hclose ▸ hs.trim)
    exact Or.inr ⟨u', hu'⟩

/-- Where only blanks are left there are no connectives and operands. -/
theorem tail_of_blank {t rest : List Char} {links : List (Connective × Node)}
    (h : p.Reads t (.tail links) rest) (ht : trimStart t = []) : links = [] ∧ t = rest := by
  cases h with
  | done _ => exact ⟨rfl, rfl⟩
  | next hc _ _ =>
    rw [Ends.no_connective (Or.inl ht)] at hc
    simp at hc

/-- The operand in front of connectives and operands is the last one if there are none. -/
theorem endsPlainly_first {first : List Expression} {t rest : List Char}
    {links : List (Connective × Node)} (h : p.Reads t (.tail links) rest)
    (hlast : trimStart rest = [] → p.EndsPlainly s (first ++ FilterTree.leaves (flattened links)))
    (ht : trimStart t = []) : p.EndsPlainly s first := by
  obtain ⟨rfl, rfl⟩ := tail_of_blank h ht
  simpa [flattened, FilterTree.leaves] using hlast ht

/-- **One step down:** where filters in parentheses in shorter texts are read in both texts, every derivation
behind which the filter goes on is one of both texts, unless the text ends in a keyword. -/
theorem reads_of_inner (hp : p.SolidNames) {n : Nat} (hinner : p.InnerSameEnd n) {rest : List Char}
    {phrase : Phrase} (h : p.Reads s phrase rest) (hrest : phrase.Followed rest)
    (hlast : trimStart rest = [] → p.EndsPlainly s phrase.leaves) (hs : SameEnd s s')
    (hn : s.length ≤ n) (hn' : s'.length ≤ n) :
    ∃ rest', p.Reads s' phrase rest' ∧ SameEnd rest rest' := by
  induction h generalizing s' with
  | @negated s t rest x hneg hx ih =>
    have ht : t ≠ [] := by
      rintro rfl
      exact operand_ne_nil hp hx
    obtain ⟨t', hneg', hrel⟩ := negation?_sameEnd hneg ht hs
    have hend := negation?_properEnd hneg
    have hend' := negation?_properEnd hneg'
    have hplain : trimStart rest = [] → p.EndsPlainly s x.leaves := by
      simpa [Phrase.leaves, Node.leaves, FilterTree.leaves] using hlast
    obtain ⟨rest', hx', hrel'⟩ := ih hrest (fun hblank => (hplain hblank).of_suffix hend.1) hrel
      (Nat.le_trans hend.1.length_le hn) (Nat.le_trans hend'.1.length_le hn')
    exact ⟨rest', .negated hneg' hx', hrel'⟩
  | @namedNot s t rest fault e hneg hfault he hc =>
    have hplain : trimStart rest = [] → ¬ p.EndsInKeyword s e := fun hend => hlast hend e rfl
    obtain ⟨t', fault', hneg', hfault'⟩ :=
      namedNot_sameEnd hp hinner hn hn' hneg hfault he hc hplain hs
    obtain ⟨rest', he', hrel⟩ := expression_sameEnd hp he (fun _ => not_dangling hrest) hs
    exact ⟨rest', .namedNot hneg' hfault' he' hc, hrel⟩
  | @parenthesised t rest after x hclose hx hafter ih =>
    obtain ⟨t', rfl, hrel⟩ := SameEnd.cut (v := []) (by decide) hs
    have hlen := (trimStart_suffix t).length_le
    have hlen' := (trimStart_suffix t').length_le
    simp only [List.nil_append, List.length_cons] at hn hn'
    obtain ⟨rest', hx', hrel'⟩ := hinner (by omega) (by omega) hrel.trim hx hafter
    exact parenthesised_sameEnd hclose hafter hrel hx' hrel'
  | @expression s rest e hneg hparen he =>
    have hplain : trimStart rest = [] → ¬ p.EndsInKeyword s e := fun hend => hlast hend e rfl
    have hneg' := negation?_none_sameEnd hp hneg he hrest hplain hs
    obtain ⟨rest', he', hrel⟩ := expression_sameEnd hp he (fun _ => not_dangling hrest) hs
    refine ⟨rest', .expression hneg' (fun t ht => ?_) he', hrel⟩
    obtain ⟨t', ht', -⟩ := SameEnd.cut (v := []) (by decide) (ht ▸ hs.symm)
    exact hparen t' ht'
  | @chain s t rest first links hfirst htail ihfirst ihtail =>
    rw [Phrase.leaves, leaves_joined] at hlast
    obtain ⟨t', hfirst', hrel⟩ :=
      ihfirst (continues_of_tail htail hrest) (endsPlainly_first htail hlast) hs hn hn'
    have hend := unary_suffix p _ _ _ (unary_eq_ok_iff.2 hfirst)
    have hend' := unary_suffix p _ _ _ (unary_eq_ok_iff.2 hfirst')
    obtain ⟨rest', htail', hrel'⟩ := ihtail hrest
      (fun hblank => (hlast hblank).right.of_suffix hend) hrel
      (Nat.le_trans hend.length_le hn) (Nat.le_trans hend'.length_le hn')
    exact ⟨rest', .chain hfirst' htail', hrel'⟩
  | @done s hc =>
    exact ⟨s', .done (Ends.no_connective (hrest.sameEnd hs)), hs⟩
  | @next s t u rest c x links hc hx hlinks ihx ihlinks =>
    have ht : t ≠ [] := by
      rintro rfl
      exact operand_ne_nil hp hx
    obtain ⟨t', hc', hrel⟩ := connectiveAt?_sameEnd hc ht hs
    have hend := (connectiveAt?_properEnd hc).1
    have hend' := (connectiveAt?_properEnd hc').1
    have hplain : trimStart rest = [] →
        p.EndsPlainly t (x.leaves ++ FilterTree.leaves (flattened links)) := by
      intro hblank
      have hleaves := (hlast hblank).of_suffix hend
      simpa [Phrase.leaves, flattened, FilterTree.leaves, Node.leaves] using hleaves
    obtain ⟨u', hx', hrel'⟩ :=
      ihx (continues_of_tail hlinks hrest) (endsPlainly_first hlinks hplain) hrel
        (Nat.le_trans hend.length_le hn) (Nat.le_trans hend'.length_le hn')
    have hmore := unary_suffix p _ _ _ (unary_eq_ok_iff.2 hx)
    have hmore' := unary_suffix p _ _ _ (unary_eq_ok_iff.2 hx')
    obtain ⟨rest', hlinks', hrel''⟩ := ihlinks hrest
      (fun hblank => (hplain hblank).right.of_suffix hmore) hrel'
      (Nat.le_trans (hmore.trans hend).length_le hn)
      (Nat.le_trans (hmore'.trans hend').length_le hn')
    exact ⟨rest', .next hc' hx' hlinks', hrel''⟩

theorem innerSameEnd (hp : p.SolidNames) (n : Nat) : p.InnerSameEnd n := by
  induction n with
  | zero => exact fun hlen => absurd hlen (Nat.not_lt_zero _)
  | succ n ih =>
    intro s s' rest after x hlen hlen' hs hx hafter
    refine reads_of_inner hp ih hx (Or.inr ⟨after, hafter⟩) (fun hend => ?_) hs
      (Nat.le_of_lt_succ hlen) (Nat.le_of_lt_succ hlen')
    rw [hend] at hafter
    simp at hafter

/-- **A derivation behind which the filter goes on** is one of both texts, unless the text ends in a
keyword. -/
theorem reads_sameEnd (hp : p.SolidNames) {rest : List Char} {phrase : Phrase}
    (h : p.Reads s phrase rest) (hrest : phrase.Followed rest)
    (hlast : trimStart rest = [] → p.EndsPlainly s phrase.leaves) (hs : SameEnd s s') :
    ∃ rest', p.Reads s' phrase rest' ∧ SameEnd rest rest' :=
  reads_of_inner hp (innerSameEnd hp (s.length + s'.length)) h hrest hlast hs (Nat.le_add_right _ _)
    (Nat.le_add_left _ _)

/-! ### Filters -/

theorem parse_sameEnd (hp : p.SolidNames) {text text' : String} {tree : FilterTree}
    (hlast : p.EndsPlainly (trimStart text.toList) (FilterTree.leaves tree))
    (hs : SameEnd (trimStart text.toList) (trimStart text'.toList)) (h : p.parse text = .ok tree) :
    p.parse text' = .ok tree := by
  rcases parse_eq_ok_iff.1 h with ⟨hblank, rfl⟩ | ⟨hne, x, rest, hx, hrest, rfl⟩
  · rw [hblank] at hs
    have hblank' := hs.trimStart_eq_nil rfl
    have htrim : trimStart (trimStart text'.toList) = trimStart text'.toList :=
      trimStart_of_stops (stops_dropWhile isBlank text'.toList)
    exact parse_eq_ok_iff.2 (Or.inl ⟨htrim.symm.trans hblank', rfl⟩)
  · have hplain : trimStart rest = [] → p.EndsPlainly (trimStart text.toList) x.leaves := fun _ => by
      simpa [FilterTree.leaves] using hlast
    obtain ⟨rest', hx', hrel⟩ := reads_sameEnd hp hx (Or.inl hrest) hplain hs
    refine parse_eq_ok_iff.2 (Or.inr ⟨fun hnil => ?_, x, rest', hx', hrel.trimStart_eq_nil hrest, rfl⟩)
    rw [hnil] at hx'
    exact chain_ne_nil hp hx'

/-- **Blanks in front of a filter** do not matter. -/
theorem parse_blanks_append {before : String} (hbefore : ∀ c ∈ before.toList, isBlank c = true)
    (text : String) (tree : FilterTree) :
    p.parse (before ++ text) = .ok tree ↔ p.parse text = .ok tree := by
  rw [parse_eq_ok_iff, parse_eq_ok_iff, String.toList_append, trimStart_append_blanks hbefore]

/-- **Blanks behind a filter** do not matter, unless the filter ends in a keyword. -/
theorem parse_append_blanks (hp : p.SolidNames) {after : String}
    (hafter : ∀ c ∈ after.toList, isBlank c = true) {text : String} {tree : FilterTree}
    (hlast : p.EndsPlainly text.toList (FilterTree.leaves tree)) :
    p.parse (text ++ after) = .ok tree ↔ p.parse text = .ok tree := by
  have hs : SameEnd (trimStart text.toList) (trimStart (text ++ after).toList) := by
    rw [String.toList_append]
    exact (SameEnd.append text.toList hafter).trim
  have hplain : p.EndsPlainly (trimStart text.toList) (FilterTree.leaves tree) :=
    hlast.of_suffix (trimStart_suffix text.toList)
  exact ⟨parse_sameEnd hp (hplain.of_sameEnd hs) hs.symm, parse_sameEnd hp hplain hs⟩

/-- **Blanks around a filter do not matter,** unless the filter ends in a keyword.  With blanks in front a
text has a tree exactly if it has this tree without them, whatever the names of the parser are and whatever
the text is.  With blanks in front and behind it has a tree exactly if it has this tree without them, if the
names of the parser are solid and the text does not end in a keyword.  It does so if its last word is a
field spelled `not` that the tree asks for its presence.  And it does so if its last two words are
operators, the first of which the parser could read as a field, where the tree compares a field spelled
`not` with the second one. -/
theorem parse_margins (p : Parser) (text : String) (tree : FilterTree) {before after : String}
    (hbefore : ∀ c ∈ before.toList, isBlank c = true)
    (hafter : ∀ c ∈ after.toList, isBlank c = true) :
    (p.parse (before ++ text) = .ok tree ↔ p.parse text = .ok tree) ∧
      (p.SolidNames → p.EndsPlainly text.toList (FilterTree.leaves tree) →
        (p.parse (before ++ text ++ after) = .ok tree ↔ p.parse text = .ok tree)) := by
  refine ⟨parse_blanks_append hbefore text tree, fun hp hlast => ?_⟩
  rw [String.append_assoc, parse_blanks_append hbefore]
  exact parse_append_blanks hp hafter hlast

/-- A listed field called `not`, compared with an operator that is no field, with blanks on both sides. -/
theorem parse_margins_named :
    let p : Parser := { fieldNames := ["not", "a/b"] }
    p.SolidNames ∧ (∀ c ∈ "\t ".toList, isBlank c = true) ∧ (∀ c ∈ " \n".toList, isBlank c = true) ∧
      ∃ tree, p.parse "not a/b or not eq 5" = .ok tree ∧
        p.EndsPlainly "not a/b or not eq 5".toList (FilterTree.leaves tree) ∧
        FilterTree.text tree = "(not a/b) or not == 5" ∧
        p.parse ("\t " ++ "not a/b or not eq 5") = .ok tree ∧
        p.parse ("\t " ++ "not a/b or not eq 5" ++ " \n") = .ok tree := by
  intro p
  have hp : p.SolidNames := by
    refine ⟨fun name hname => ?_, fun name hname => ?_⟩
    · have hcases : name = "not" ∨ name = "a/b" := by simpa [p] using hname
      rcases hcases with rfl | rfl
      · exact ⟨by decide, by decide⟩
      · exact ⟨by decide, by decide⟩
    · have hall : ∀ name ∈ p.functions.names, name.toList.getLast?.all (fun c => !isBlank c) = true :=
        List.all_eq_true.1 (by decide)
      exact fun c hc => by simpa using (Option.all_eq_true _ _).1 (hall name hname) c hc
  have hbefore : ∀ c ∈ "\t ".toList, isBlank c = true := List.all_eq_true.1 (by decide)
  have hafter : ∀ c ∈ " \n".toList, isBlank c = true := List.all_eq_true.1 (by decide)
  have hparse : (p.parse "not a/b or not eq 5").toOption.map (fun tree =>
      (FilterTree.text tree, (FilterTree.leaves tree).getLast?.map (·.comparison))) =
        some ("(not a/b) or not == 5", some (some ⟨.eq, .text "5"⟩)) := by
    decide +kernel
  obtain ⟨tree, htree, h⟩ := Option.map_eq_some_iff.1 hparse
  obtain ⟨htext, hleaves⟩ := Prod.mk.inj h
  have hok := toOption_eq_some.1 htree
  have hlast : p.EndsPlainly "not a/b or not eq 5".toList (FilterTree.leaves tree) := by
    intro e he hkeyword
    rw [Option.mem_def.1 he] at hleaves
    cases hkeyword with
    | presence _ _ => simp at hleaves
    | comparison _ _ _ hx _ _ _ =>
      obtain ⟨-, rfl⟩ : _ ∧ _ = "5" := by simpa using hleaves
      exact absurd hx (by decide)
  obtain ⟨hfront, hboth⟩ := parse_margins p "not a/b or not eq 5" tree hbefore hafter
  exact ⟨hp, hbefore, hafter, tree, hok, hlast, htext, hfront.2 hok, (hboth hp hlast).2 hok⟩

/-- A blank at the end makes a field called `not` a negation of nothing, and an operator of the literal
that a field called `not` is compared with.  It may also belong to the name of a field or of a function,
make an operator of what follows a field with blanks in its name, be what shows that an exclamation mark
starts a name, or stand in front of a field without a name. -/
theorem parse_margins_not_keywords :
    (({} : Parser).parse "not").toOption.isSome = true ∧
    (({} : Parser).parse "not ").toOption.isSome = false ∧
    (({} : Parser).parse "not eq ==").toOption.isSome = false ∧
    (({} : Parser).parse "not eq == ").toOption.isSome = true ∧
    (({ fieldNames := ["a "] } : Parser).parse "a").toOption.isSome = false ∧
    (({ fieldNames := ["a "] } : Parser).parse "a ").toOption.isSome = true ∧
    (({ fieldNames := ["not", "eq x and", "=="] } : Parser).parse
      "not eq x and ==").toOption.isSome = false ∧
    (({ fieldNames := ["not", "eq x and", "=="] } : Parser).parse
      "not eq x and == ").toOption.isSome = true ∧
    (({ fieldNames := ["!not", "eq"] } : Parser).parse "!not eq ==").toOption.isSome = false ∧
    (({ fieldNames := ["!not", "eq"] } : Parser).parse "!not eq == ").toOption.isSome = true ∧
    (({ fieldNames := [""] } : Parser).parse "not").toOption.isSome = false ∧
    (({ fieldNames := [""] } : Parser).parse "not ").toOption.isSome = true ∧
    (({ functions := [("f", lengthOf), ("f(a) == 5 ", lengthOf)] } : Parser).parse
      "f(a) == 5").toOption.isSome = true ∧
    (({ functions := [("f", lengthOf), ("f(a) == 5 ", lengthOf)] } : Parser).parse
      "f(a) == 5 ").toOption.isSome = false := by
  set_option maxRecDepth 4096 in
  exact ⟨rfl, rfl, rfl, rfl, rfl, rfl, rfl, rfl, rfl, rfl, rfl, rfl, rfl, rfl⟩

end DisplayFilter
