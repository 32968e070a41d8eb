import DisplayFilter.Proofs.Tree.Composition

/-!
# Texts that are the same up to blanks at their ends

A reader that stops in front of such blanks does not see how many there are.  A keyword is another
matter: it is a keyword only if a blank follows, so that a blank at the end can make one.  What follows a
keyword decides: if it is not blank, the keyword stands in both texts.

* `SameEnd` — texts that are the same up to blanks at their ends;
* `EndsIn` — a text that ends in another one, up to blanks;
* **`sameEnd_alike`** — such texts are alike, so that names and literals are read alike;
* **`keyword?_sameEnd`**, **`negation?_sameEnd`** — keywords that something follows;
* `Dangling` — what would be an operator with a blank behind it;
* **`comparisonAt_sameEnd`**, **`not_dangling`** — comparisons;
* **`expression_sameEnd`** — expressions.
-/

namespace DisplayFilter

open Text

/-! ### Texts up to blanks at their ends -/

/-- **Texts that are the same up to blanks at their ends.** -/
inductive SameEnd : List Char → List Char → Prop
  | blank {s s' : List Char} : trimStart s = [] → trimStart s' = [] → SameEnd s s'
  | cons (c : Char) {s s' : List Char} : SameEnd s s' → SameEnd (c :: s) (c :: s')

theorem atBlank_of_trimStart {s : List Char} (h : trimStart s = []) : AtBlank s := by
  cases s with
  | nil => exact stops_nil _
  | cons c s => exact atBlank_cons (trimStart_eq_nil_iff.1 h c List.mem_cons_self) s

namespace SameEnd

variable {s s' : List Char}

theorem symm (h : SameEnd s s') : SameEnd s' s := by
  induction h with
  | blank hs hs' => exact .blank hs' hs
  | cons c _ ih => exact .cons c ih

theorem refl (s : List Char) : SameEnd s s := by
  induction s with
  | nil => exact .blank rfl rfl
  | cons c s ih => exact .cons c ih

/-- Blanks behind a text. -/
theorem append (s : List Char) {w : List Char} (hw : ∀ c ∈ w, isBlank c = true) :
    SameEnd s (s ++ w) := by
  induction s with
  | nil => exact .blank rfl (trimStart_eq_nil_iff.2 hw)
  | cons c s ih => exact .cons c ih

theorem trim (h : SameEnd s s') : SameEnd (trimStart s) (trimStart s') := by
  induction h with
  | blank hs hs' =>
    rw [hs, hs']
    exact .blank rfl rfl
  | @cons c s s' h ih =>
    cases hc : isBlank c with
    | true =>
      rw [trimStart_cons_of_blank hc, trimStart_cons_of_blank hc]
      exact ih
    | false =>
      rw [trimStart_cons_of_not_blank hc, trimStart_cons_of_not_blank hc]
      exact .cons c h

theorem trimStart_eq_nil (h : SameEnd s s') (hs : trimStart s = []) : trimStart s' = [] := by
  induction h with
  | blank _ hs' => exact hs'
  | @cons c s s' h ih =>
    have hall := trimStart_eq_nil_iff.1 hs
    rw [trimStart_cons_of_blank (hall c List.mem_cons_self)]
    exact ih (trimStart_eq_nil_iff.2 fun d hd => hall d (List.mem_cons_of_mem _ hd))

theorem trans {s'' : List Char} (h : SameEnd s s') (h' : SameEnd s' s'') : SameEnd s s'' := by
  induction h generalizing s'' with
  | blank hs hs' => exact .blank hs (h'.trimStart_eq_nil hs')
  | @cons c s s' h ih =>
    cases h' with
    | blank hs' hs'' => exact .blank ((SameEnd.cons c h).symm.trimStart_eq_nil hs') hs''
    | cons _ h' => exact .cons c (ih h')

theorem prepend (v : List Char) (h : SameEnd s s') : SameEnd (v ++ s) (v ++ s') := by
  induction v with
  | nil => exact h
  | cons c v ih => exact .cons c ih

/-- Both texts have the same characters that are no blanks. -/
theorem mem {c : Char} (h : SameEnd s s') (hc : isBlank c = false) (hmem : c ∈ s) : c ∈ s' := by
  induction h with
  | blank hs _ =>
    rw [trimStart_eq_nil_iff.1 hs c hmem] at hc
    exact Bool.noConfusion hc
  | cons d _ ih =>
    rcases List.mem_cons.1 hmem with rfl | hmem
    · exact List.mem_cons_self
    · exact List.mem_cons_of_mem d (ih hmem)

/-- A beginning in front of a text that is not blank stands in both texts. -/
theorem behind {v t : List Char} (ht : trimStart t ≠ []) (h : SameEnd (v ++ t) s') :
    ∃ t', s' = v ++ t' ∧ SameEnd t t' := by
  induction v generalizing s' with
  | nil => exact ⟨s', rfl, h⟩
  | cons c v ih =>
    cases h with
    | blank hs _ =>
      have hall := trimStart_eq_nil_iff.1 hs
      exact absurd (trimStart_eq_nil_iff.2 fun d hd => hall d (by simp [hd])) ht
    | cons _ h =>
      obtain ⟨t', rfl, hrel⟩ := ih h
      exact ⟨t', rfl, hrel⟩

/-- A text up to a character that is no blank stands in both texts. -/
theorem cut {v t : List Char} {d : Char} (hd : isBlank d = false) (h : SameEnd (v ++ d :: t) s') :
    ∃ t', s' = v ++ d :: t' ∧ SameEnd t t' := by
  have hne : trimStart (d :: t) ≠ [] := by
    rw [trimStart_cons_of_not_blank hd]
    exact List.cons_ne_nil d t
  obtain ⟨u, rfl, hrel⟩ := h.behind hne
  cases hrel with
  | blank hs _ => exact absurd hs hne
  | @cons _ _ t' hrel => exact ⟨t', rfl, hrel⟩

/-- A text that ends or goes on with a blank does so up to blanks at its end. -/
theorem atBlank (h : SameEnd s s') (hs : AtBlank s) : AtBlank s' := by
  cases h with
  | blank _ hs' => exact atBlank_of_trimStart hs'
  | cons c h => exact stops_cons.2 (stops_cons.1 hs)

end SameEnd

/-- **A text that ends in another one,** up to blanks behind it. -/
def EndsIn (s w : List Char) : Prop :=
  ∃ v, SameEnd s (v ++ w)

theorem EndsIn.of_suffix {s t w : List Char} (h : EndsIn t w) (ht : t <:+ s) : EndsIn s w := by
  obtain ⟨v, hv⟩ := h
  obtain ⟨u, rfl⟩ := ht
  exact ⟨u ++ v, by rw [List.append_assoc]; exact hv.prepend u⟩

theorem EndsIn.of_sameEnd {s s' w : List Char} (h : EndsIn s' w) (hs : SameEnd s s') : EndsIn s w := by
  obtain ⟨v, hv⟩ := h
  exact ⟨v, hs.trans hv⟩

/-- **Blanks at the end of a text** make a text that is alike. -/
theorem sameEnd_alike : Alike isBlank SameEnd where
  not_inner := by
    intro c hc
    simp [isInner, hc]
  step := by
    intro s s' h
    have hstop : ∀ u : List Char, trimStart u = [] → AtStop isBlank u := fun u hu c hc =>
      trimStart_eq_nil_iff.1 hu c (List.mem_of_mem_head? hc)
    cases h with
    | blank hs hs' => exact Or.inr ⟨hstop _ hs, hstop _ hs'⟩
    | @cons c t t' h => exact Or.inl ⟨c, t, t', rfl, rfl, h⟩
  trim := SameEnd.trim
  close := fun h => SameEnd.cut (v := []) (by decide) h
  quote := by
    intro s s' body rest hs h
    obtain ⟨q, hq, hbody, rfl⟩ := quotation_eq_closed_iff.1 h
    have hinner := isInner_of_isQuote hq
    have hblank : isBlank q = false := by
      simpa using (Bool.and_eq_true_iff.1 hinner).1
    obtain ⟨rest', rfl, hrel⟩ := hs.cut hblank
    exact ⟨rest', quotation_eq_closed_iff.2 ⟨q, hq, hbody, rfl⟩, hrel⟩

/-- A word with a blank behind it has one in the other text, too, unless it is the whole text there. -/
theorem SameEnd.word {w u s : List Char} {b : Char} (hw : ∀ c ∈ w, isBlank c = false)
    (hb : isBlank b = true) (h : SameEnd (w ++ b :: u) s) :
    s = w ∨ ∃ b' u', s = w ++ b' :: u' ∧ isBlank b' = true := by
  rcases sameEnd_alike.behind hw h with ⟨x, x', hx, rfl, hrel⟩ | ⟨hstart, -⟩
  · obtain rfl : b :: u = x := List.append_cancel_left hx
    cases x' with
    | nil => exact Or.inl (List.append_nil w)
    | cons b' u' =>
      have hb' : isBlank b' = true := by
        simpa using stops_cons.1 (hrel.atBlank (atBlank_cons hb u))
      exact Or.inr ⟨b', u', rfl, hb'⟩
  · exact absurd (List.prefix_append w (b :: u)) hstart

/-! ### Keywords -/

variable {s s' : List Char}

/-- **A keyword that something follows** stands in both texts. -/
theorem keyword?_sameEnd {α : Type} {words : List (String × α)} (hwords : BareWords words)
    (hunique : ∀ x ∈ words, ∀ y ∈ words,
      equalCaseless x.1.toList y.1.toList = true → x.2 = y.2)
    {a : α} {rest : List Char} (h : keyword? words s = some (a, rest)) (hne : rest ≠ [])
    (hs : SameEnd s s') : ∃ rest', keyword? words s' = some (a, rest') ∧ SameEnd rest rest' := by
  obtain ⟨word, w, b, u, hmem, hw, rfl, hb, -, rfl⟩ := keyword?_spelled hwords h
  have hblank : ∀ c ∈ [b], isBlank c = true := by
    intro c hc
    rw [List.mem_singleton.1 hc]
    exact hb
  rw [trimStart_cons_of_blank hb] at hne ⊢
  have happend : w ++ b :: u = w ++ [b] ++ u := by simp
  rw [happend] at hs
  obtain ⟨u', rfl, hrel⟩ := hs.behind hne
  refine ⟨trimStart u', ?_, hrel.trim⟩
  rw [List.append_assoc]
  exact keyword?_append hwords hunique hmem hw (List.cons_ne_nil b []) hblank u'

/-- A keyword between blanks that something follows stands in both texts. -/
theorem spaced_sameEnd {α : Type} {words : List (String × α)} (hwords : BareWords words)
    (hunique : ∀ x ∈ words, ∀ y ∈ words,
      equalCaseless x.1.toList y.1.toList = true → x.2 = y.2)
    {a : α} {rest : List Char} (h : (blanks? s).bind (keyword? words) = some (a, rest))
    (hne : rest ≠ []) (hs : SameEnd s s') :
    ∃ rest', (blanks? s').bind (keyword? words) = some (a, rest') ∧ SameEnd rest rest' := by
  obtain ⟨x, hx, hkeyword⟩ := Option.bind_eq_some_iff.1 h
  cases s with
  | nil => simp [blanks?] at hx
  | cons b u =>
    simp only [blanks?, Option.ite_none_right_eq_some, Option.some.injEq] at hx
    obtain ⟨hb, rfl⟩ := hx
    have hu : trimStart u ≠ [] := by
      intro hnil
      rw [hnil] at hkeyword
      exact absurd (keyword?_properEnd hkeyword).2 (by simp)
    obtain ⟨u', rfl, hrel⟩ := SameEnd.behind (v := [b]) hu hs
    obtain ⟨rest', hrest', hrel'⟩ := keyword?_sameEnd hwords hunique hkeyword hne hrel.trim
    refine ⟨rest', ?_, hrel'⟩
    rw [List.singleton_append, blanks?_cons_of_isBlank hb]
    exact hrest'

theorem operators_unique : ∀ x ∈ Operator.spellings, ∀ y ∈ Operator.spellings,
    equalCaseless x.1.toList y.1.toList = true → x.2 = y.2 := by
  decide

theorem operatorAt?_sameEnd {op : Operator} {rest : List Char}
    (h : operatorAt? s = some (op, rest)) (hne : rest ≠ []) (hs : SameEnd s s') :
    ∃ rest', operatorAt? s' = some (op, rest') ∧ SameEnd rest rest' :=
  spaced_sameEnd bareWords_operators operators_unique h hne hs

theorem connectiveAt?_sameEnd {c : Connective} {rest : List Char}
    (h : connectiveAt? s = some (c, rest)) (hne : rest ≠ []) (hs : SameEnd s s') :
    ∃ rest', connectiveAt? s' = some (c, rest') ∧ SameEnd rest rest' :=
  spaced_sameEnd bareWords_connectives connectives_unique h hne hs

/-- An exclamation mark that starts `!=` in one text does so in the other one. -/
theorem ne_equal_sameEnd {u u' : List Char} (h : SameEnd u u') (hu : ∀ v, u ≠ '=' :: v) :
    ∀ v, u' ≠ '=' :: v := by
  rintro v rfl
  obtain ⟨v', hv', -⟩ := SameEnd.cut (v := []) (by decide) h.symm
  exact hu v' hv'

/-- **A negation of something** stands in both texts. -/
theorem negation?_sameEnd {t : List Char} (h : negation? s = some t) (ht : t ≠ [])
    (hs : SameEnd s s') : ∃ t', negation? s' = some t' ∧ SameEnd t t' := by
  rcases negation?_eq_some_iff.1 h with ⟨w, b, u, rfl, hw, hb, rfl⟩ | ⟨u, rfl, hne, rfl⟩
  · have happend : w ++ b :: u = w ++ [b] ++ u := by simp
    rw [happend] at hs
    obtain ⟨u', rfl, hrel⟩ := hs.behind ht
    exact ⟨trimStart u', negation?_eq_some_iff.2 (Or.inl ⟨w, b, u', by simp, hw, hb, rfl⟩),
      hrel.trim⟩
  · obtain ⟨u', rfl, hrel⟩ := SameEnd.cut (v := []) (by decide) hs
    exact ⟨trimStart u', negation?_eq_some_iff.2 (Or.inr ⟨u', rfl, ne_equal_sameEnd hrel hne, rfl⟩),
      hrel.trim⟩

/-! ### Comparisons -/

/-- **A dangling text** is an operator behind blanks, if only a blank follows. -/
def Dangling (s : List Char) : Prop :=
  ∃ s' op, SameEnd s s' ∧ operatorAt? s' = some (op, [])

theorem trimStart_of_blanks? {x : List Char} (h : blanks? s = some x) : trimStart s = x := by
  cases s with
  | nil => simp [blanks?] at h
  | cons b u =>
    simp only [blanks?, Option.ite_none_right_eq_some, Option.some.injEq] at h
    rw [trimStart_cons_of_blank h.1, h.2]

theorem comparisonAt_sameEnd {c : Option Comparison} {rest : List Char}
    (h : comparisonAt s = .ok (c, rest))
    (hd : c = none → operatorAt? rest = none → ¬ Dangling rest) (hs : SameEnd s s') :
    ∃ rest', comparisonAt s' = .ok (c, rest') ∧ SameEnd rest rest' := by
  unfold comparisonAt at h
  split at h
  · next hno =>
    obtain ⟨rfl, rfl⟩ : none = c ∧ s = rest := by simpa using h
    have hno' : operatorAt? s' = none := by
      cases hop : operatorAt? s' with
      | none => rfl
      | some answer =>
        obtain ⟨op, v⟩ := answer
        by_cases hv : v = []
        · subst hv
          exact absurd ⟨s', op, hs, hop⟩ (hd rfl hno)
        · obtain ⟨v', hop', -⟩ := operatorAt?_sameEnd hop hv hs.symm
          rw [hno] at hop'
          simp at hop'
    exact ⟨s', by rw [comparisonAt, hno'], hs⟩
  · next op v hop =>
    split at h
    · next literal y hy =>
      obtain ⟨rfl, rfl⟩ : some (Comparison.mk op literal) = c ∧ y = rest := by simpa using h
      have hv : v ≠ [] := by
        rintro rfl
        exact absurd (Literal.read_properEnd hy).2 (by simp)
      obtain ⟨v', hop', hrel⟩ := operatorAt?_sameEnd hop hv hs
      obtain ⟨y', hy', hrel'⟩ := sameEnd_alike.literal_read hrel hy
      exact ⟨y', by rw [comparisonAt, hop']; simp only [hy'], hrel'⟩
    · simp at h

/-- **Where a filter goes on** there is no dangling text: what would be an operator with a blank behind it
has no blank there, so that it is no connective. -/
theorem not_dangling (hrest : Continues s) (hno : operatorAt? s = none) : ¬ Dangling s := by
  rintro ⟨s', op, hs, hop⟩
  obtain ⟨x', hx', hkeyword⟩ := Option.bind_eq_some_iff.1 hop
  obtain ⟨word, w, b, u, hmem, hw, rfl, hb, hbare, -⟩ :=
    keyword?_spelled bareWords_operators hkeyword
  have hne : w ≠ [] := by
    rintro rfl
    exact (bareWords_operators _ hmem).1 (by simpa using equalCaseless_iff.1 hw)
  have hinner : ∀ c ∈ w, isBlank c = false := fun c hc => not_blank_of_isBareChar (hbare c hc)
  have htrim : SameEnd (trimStart s) (w ++ b :: u) := trimStart_of_blanks? hx' ▸ hs.trim
  rcases sameEnd_alike.behind hinner htrim.symm with ⟨t, t', ht, ht', hrel⟩ | ⟨hstart, -⟩
  · obtain rfl : b :: u = t := List.append_cancel_left ht
    obtain ⟨c, more, rfl⟩ := List.exists_cons_of_ne_nil hne
    have hc : isBareChar c = true := hbare c List.mem_cons_self
    rcases hrest with hend | ⟨v, hclose⟩ | hconnective
    · rw [hend] at ht'
      simp at ht'
    · rw [hclose] at ht'
      obtain rfl : ')' = c := (List.cons.inj ht').1
      exact absurd hc (by decide)
    · obtain ⟨⟨k, v⟩, hk⟩ := Option.isSome_iff_exists.1 hconnective
      obtain ⟨x, hx, hkeyword'⟩ := Option.bind_eq_some_iff.1 hk
      obtain ⟨-, w₁, b₁, u₁, -, -, rfl, hb₁, hbare₁, -⟩ :=
        keyword?_spelled bareWords_connectives hkeyword'
      rw [trimStart_of_blanks? hx] at ht'
      -- both spellings are the run in front of the first blank
      have hstop : Stops isBareChar t' := by
        have hblank := hrel.atBlank (atBlank_cons hb u)
        intro d hd
        exact not_isBareChar_of_isBlank (by simpa using hblank d hd)
      have hrun := takeWhile_append_of_stops hbare₁ (s := b₁ :: u₁)
        (stops_cons.2 (not_isBareChar_of_isBlank hb₁))
      rw [ht', takeWhile_append_of_stops hbare hstop] at hrun
      subst hrun
      obtain rfl : b₁ :: u₁ = t' := List.append_cancel_left ht'
      have hblank : ∀ d ∈ [b₁], isBlank d = true := by
        intro d hd
        rw [List.mem_singleton.1 hd]
        exact hb₁
      have hfound := keyword?_append bareWords_operators operators_unique hmem hw
        (List.cons_ne_nil b₁ []) hblank u₁
      rw [List.singleton_append] at hfound
      rw [operatorAt?, hx, Option.bind_some, hfound] at hno
      simp at hno
  · exact absurd (List.prefix_append w (b :: u)) hstart

/-- A text that dangles is made of blanks and one word. -/
theorem not_mem_of_dangling {c : Char} (hblank : isBlank c = false) (hbare : isBareChar c = false)
    (h : Dangling s) : c ∉ s := by
  obtain ⟨s', op, hs, hop⟩ := h
  obtain ⟨x, hx, hkeyword⟩ := Option.bind_eq_some_iff.1 hop
  obtain ⟨-, w, b, u, -, -, rfl, hb, hw, hend⟩ := keyword?_spelled bareWords_operators hkeyword
  intro hmem
  have hmem' : c ∈ s'.takeWhile isBlank ++ trimStart s' := by
    rw [trimStart, List.takeWhile_append_dropWhile]
    exact hs.mem hblank hmem
  rw [trimStart_of_blanks? hx] at hmem'
  rcases List.mem_append.1 hmem' with hmem' | hmem'
  · rw [takeWhile_all c hmem'] at hblank
    exact Bool.noConfusion hblank
  rcases List.mem_append.1 hmem' with hmem' | hmem'
  · rw [hw c hmem'] at hbare
    exact Bool.noConfusion hbare
  · rw [trimStart_eq_nil_iff.1 hend.symm c hmem'] at hblank
    exact Bool.noConfusion hblank

/-! ### Expressions -/

variable {p : Parser}

/-- **A word that does not end in a blank** stands at the start of both texts or of none. -/
theorem startsAlike_of_last {w : List Char} (hw : ∀ c ∈ w.getLast?, isBlank c = false) :
    StartsAlike SameEnd w := by
  have hcut : ∀ {t s' : List Char}, SameEnd (w ++ t) s' → ∃ t', s' = w ++ t' ∧ SameEnd t t' := by
    intro t s' hs
    rcases List.eq_nil_or_concat w with rfl | ⟨v, d, rfl⟩
    · exact ⟨s', rfl, hs⟩
    · simp only [List.concat_eq_append, List.append_assoc, List.singleton_append] at hs ⊢
      exact hs.cut (hw d (by simp))
  intro s s' hs
  by_cases hstart : w <+: s
  · obtain ⟨t, rfl⟩ := hstart
    obtain ⟨t', rfl, hrel⟩ := hcut hs
    exact Or.inl ⟨t, t', rfl, rfl, hrel⟩
  · refine Or.inr ⟨hstart, ?_⟩
    rintro ⟨t', rfl⟩
    obtain ⟨t, rfl, -⟩ := hcut hs.symm
    exact hstart (List.prefix_append w t)

theorem Parser.SolidNames.namesAlike (hp : p.SolidNames) : p.NamesAlike SameEnd where
  fields := fun name hname => startsAlike_of_last fun c hc =>
    not_blank_of_isSolid (hp.fields name hname).2 c (List.mem_of_getLast? hc)
  functions := fun name hname => startsAlike_of_last (hp.functions name hname)

/-- **An expression that is read** is read in both texts, if it has a comparison or what it leaves does
not dangle. -/
theorem expression_sameEnd (hp : p.SolidNames) {rest : List Char} {e : Expression}
    (he : p.expression s = .ok (e, rest))
    (hd : e.comparison = none → operatorAt? rest = none → ¬ Dangling rest) (hs : SameEnd s s') :
    ∃ rest', p.expression s' = .ok (e, rest') ∧ SameEnd rest rest' :=
  sameEnd_alike.expression hp.namesAlike (fun hs hc => comparisonAt_sameEnd hc hd hs) hs he

theorem sliceAt_eq_none {s rest : List Char} (h : sliceAt s = .ok (none, rest)) : rest = s := by
  by_cases hs : ∃ t, s = '[' :: t
  · obtain ⟨t, rfl⟩ := hs
    unfold sliceAt at h
    split at h
    · next answer hanswer =>
      obtain ⟨⟨slice, u⟩, -, hread⟩ := bind_eq_ok.1 hanswer
      obtain rfl : (some slice, u) = answer := by simpa [pure, Except.pure] using hread
      simp at h
    · simp at h
  · exact sliceAt_of_ne (fun t ht => hs ⟨t, ht⟩) h

theorem comparisonAt_eq_none {s rest : List Char} (h : comparisonAt s = .ok (none, rest)) :
    rest = s := by
  unfold comparisonAt at h
  split at h
  · simpa [eq_comm] using h
  · split at h <;> simp at h

/-- **A presence test** is a field and nothing else. -/
theorem field_of_presence {s rest : List Char} {e : Expression} (he : p.expression s = .ok (e, rest))
    (hc : e.comparison = none) : p.field s = .ok (e.field, rest) := by
  rcases Parser.expression_eq_ok he with ⟨f, t, -, he⟩ | ⟨-, -, he⟩
  · obtain ⟨field, s₁, slice, s₂, u, c, -, -, -, -, rfl⟩ := Parser.callBody_eq_ok he
    simp at hc
  · obtain ⟨field, s₁, slice, s₂, c, h₁, h₂, h₃, hslice, rfl⟩ := Parser.fieldExpression_eq_ok he
    obtain rfl : c = none := hc
    obtain rfl : slice = none := by
      cases slice with
      | none => rfl
      | some slice => simpa using hslice rfl
    obtain rfl := sliceAt_eq_none h₂
    obtain rfl := comparisonAt_eq_none h₃
    exact h₁

/-- **A field in front of a blank** is the whole word in front of it, if a blank is left behind it. -/
theorem field_in_front_of_blank (hp : p.SolidNames) {w y rest : List Char} {b : Char} {name : String}
    (hw : ∀ c ∈ w, isBlank c = false) (hb : isBlank b = true)
    (h : p.field (w ++ b :: y) = .ok (name, rest)) (hrest : AtBlank rest) :
    name.toList = w ∧ rest = b :: y := by
  have htext := append_of_field h
  have hsolid := not_blank_of_isSolid (solid_of_field hp h).2
  have hword : ∀ c ∈ w, (fun c => !isBlank c) c = true := fun c hc => by simp [hw c hc]
  have hname : ∀ c ∈ name.toList, (fun c => !isBlank c) c = true := fun c hc => by
    simp [hsolid c hc]
  -- both words are the run in front of the first blank
  have hrun := takeWhile_append_of_stops hword (atBlank_cons hb y)
  rw [htext, takeWhile_append_of_stops hname hrest] at hrun
  rw [← hrun] at htext
  exact ⟨hrun, (List.append_cancel_left htext).symm⟩

end DisplayFilter
