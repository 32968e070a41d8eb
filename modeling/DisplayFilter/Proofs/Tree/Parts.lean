import DisplayFilter.Proofs.Literal.Entries
import DisplayFilter.Proofs.Locality
import DisplayFilter.Proofs.Tree.Names

/-!
# Literals, names and expressions in alike texts

Literals may have any characters between quotes, and a quote that does not close in one text may close
in a text that is alike.  What is read of the first text is read of the second one, but not the other
way round.  Fields and functions are told by their characters or by a list of names; in alike texts they
are the same as long as both texts start with the same names on the list.

* **`Alike.literal_read`** — a literal that is read;
* `StartsAlike`, `Parser.NamesAlike` — a word that alike texts start with or not, and a parser whose names
  are such words;
* **`Alike.field`**, **`Alike.callAt?`** — fields and called functions;
* **`Alike.expression`**, **`Alike.expression_agree`** — an expression that is read, if its comparison
  is, and one that is no call.
-/

namespace DisplayFilter

open Text

variable {stop : Char → Bool} {R : List Char → List Char → Prop} {s s' : List Char}

/-- **A word that texts start with alike:** two alike texts start with it and go on alike, or neither of
them starts with it. -/
def StartsAlike (R : List Char → List Char → Prop) (w : List Char) : Prop :=
  ∀ {s s' : List Char}, R s s' →
    (∃ t t', s = w ++ t ∧ s' = w ++ t' ∧ R t t') ∨ (¬ w <+: s ∧ ¬ w <+: s')

/-! ### Literals -/

theorem quotation_eq_absent_iff : quotation s = .absent ↔ s.head?.any isQuote = false := by
  cases s with
  | nil => simp [quotation]
  | cons q s =>
    show quotation (q :: s) = .absent ↔ isQuote q = false
    cases hq : isQuote q with
    | false => simp [quotation, hq]
    | true =>
      simp only [quotation, hq, if_true, Bool.true_eq_false, iff_false]
      split
      · simp
      · simp

/-- What starts with a number does not start with a quote. -/
theorem quotedItem?_of_numberItem? {rest : List Char} {x : NumberEntry}
    (h : numberItem? s = some (x, rest)) : quotedItem? s = none := by
  cases s with
  | nil => rfl
  | cons c s =>
    by_cases hquote : isQuote c = true
    · simp only [isQuote, Bool.or_eq_true, beq_iff_eq] at hquote
      rcases hquote with rfl | rfl
      · simp [numberItem?, Lexeme.number?, splitSign] at h
      · simp [numberItem?, Lexeme.number?, splitSign] at h
    · simp [quotedItem?, quotation, hquote]

theorem first_of_readEntries {α : Type} {item? : List Char → Option (α × List Char)} {n : Nat}
    {rest : List Char} {xs : List α} (h : readEntries item? n s = some (xs, rest)) :
    ∃ x u, item? (trimStart s) = some (x, u) := by
  cases n with
  | zero => simp [readEntries] at h
  | succ n =>
    obtain ⟨⟨x, u⟩, hu, -⟩ := Option.bind_eq_some_iff.1 h
    exact ⟨x, u, hu⟩

theorem isInner_of_isQuote {c : Char} (h : isQuote c = true) : isInner c = true := by
  simp only [isQuote, Bool.or_eq_true, beq_iff_eq] at h
  rcases h with rfl | rfl
  · decide
  · decide

theorem isInner_of_isWordChar {c : Char} (h : isWordChar c = true) : isInner c = true := by
  simp only [isWordChar, Bool.and_eq_true, Bool.not_eq_true'] at h
  have hclose : c ≠ ')' := by
    rintro rfl
    exact absurd h.2 (by decide)
  simp [isInner, h.1.1, hclose]

namespace Alike

theorem any_quote (h : Alike stop R) (hs : R s s') : s'.head?.any isQuote = s.head?.any isQuote :=
  h.any_head (h.not_stop fun _ hc => isInner_of_isQuote hc) hs

theorem word? (h : Alike stop R) (hs : R s s') : Matched R (Lexeme.word? s) (Lexeme.word? s') := by
  obtain ⟨htake, hdrop⟩ := h.run (h.not_stop fun _ hc => isInner_of_isWordChar hc) hs
  simp only [Lexeme.word?, h.any_quote hs, htake]
  split
  · exact .none
  · exact .some _ hdrop

/-- A list is read in alike texts if its entries are. -/
theorem readEntries_some (h : Alike stop R) {α : Type} {item? : List Char → Option (α × List Char)}
    (hitem : ∀ {s s' x rest}, R s s' → item? s = some (x, rest) →
      ∃ rest', item? s' = some (x, rest') ∧ R rest rest')
    (htakes : TakesSome item?) {n m : Nat} {rest : List Char} {xs : List α} (hm : s'.length < m)
    (hs : R s s') (hread : DisplayFilter.readEntries item? n s = some (xs, rest)) :
    ∃ rest', DisplayFilter.readEntries item? m s' = some (xs, rest') ∧ R rest rest' := by
  induction n generalizing s s' xs m with
  | zero => simp [DisplayFilter.readEntries] at hread
  | succ n ih =>
    obtain ⟨m, rfl⟩ : ∃ k, m = k + 1 := ⟨m - 1, by omega⟩
    obtain ⟨⟨x, u⟩, hu, hread⟩ := Option.bind_eq_some_iff.1 hread
    obtain ⟨u', hu', hrel⟩ := hitem (h.trim hs) hu
    have hlt := (trimStart_properEnd (htakes _ _ _ hu')).2
    have hnext := h.trim hrel
    simp only [DisplayFilter.readEntries, hu', bind, Option.bind_some]
    simp only at hread
    split at hread
    · next v hv =>
      obtain ⟨⟨more, w⟩, hw, hread⟩ := Option.bind_eq_some_iff.1 hread
      obtain ⟨rfl, rfl⟩ : x :: more = xs ∧ w = rest := by simpa using hread
      rcases h.head (d := ',') (by decide) hnext with ⟨t, t', ht, ht', hrest⟩ | ⟨hcomma, -⟩
      · obtain rfl : v = t := (List.cons.inj (hv.symm.trans ht)).2
        have hle := (trimStart_suffix u').length_le
        rw [ht', List.length_cons] at hle
        obtain ⟨w', hw', hrel'⟩ := ih (m := m) (by omega) hrest hw
        exact ⟨w', by simp only [ht', hw', Option.bind_some, pure], hrel'⟩
      · exact absurd hv (hcomma v)
    · next v hv =>
      obtain ⟨rfl, rfl⟩ : [x] = xs ∧ v = rest := by simpa using hread
      rcases h.head (d := '\x7d') (by decide) hnext with ⟨t, t', ht, ht', hrest⟩ | ⟨hbrace, -⟩
      · obtain rfl : v = t := (List.cons.inj (hv.symm.trans ht)).2
        exact ⟨t', by simp only [ht'], hrest⟩
      · exact absurd hv (hbrace v)
    · simp at hread

theorem readListOf?_some (h : Alike stop R) {α : Type} (make : List α → Literal)
    {item? : List Char → Option (α × List Char)}
    (hitem : ∀ {s s' x rest}, R s s' → item? s = some (x, rest) →
      ∃ rest', item? s' = some (x, rest') ∧ R rest rest')
    (htakes : TakesSome item?) {rest : List Char} {literal : Literal} (hs : R s s')
    (hread : DisplayFilter.readListOf? make item? s = some (literal, rest)) :
    ∃ rest', DisplayFilter.readListOf? make item? s' = some (literal, rest') ∧ R rest rest' := by
  obtain ⟨⟨xs, u⟩, hu, hread⟩ := Option.map_eq_some_iff.1 hread
  obtain ⟨rfl, rfl⟩ : make xs = literal ∧ u = rest := by simpa using hread
  obtain ⟨u', hu', hrel⟩ := h.readEntries_some hitem htakes (m := s'.length + 1) (by omega) hs hu
  exact ⟨u', by rw [DisplayFilter.readListOf?, hu']; rfl, hrel⟩

/-- **A list that is read** is read in alike texts, in the first reading that covers it. -/
theorem literal_readBody? (h : Alike stop R) {rest : List Char} {literal : Literal} (hs : R s s')
    (hread : Literal.readBody? s = some (literal, rest)) :
    ∃ rest', Literal.readBody? s' = some (literal, rest') ∧ R rest rest' := by
  have haddresses := h.readListOf? .addresses addressItem?_takesSome h.addressItem? hs
  simp only [Literal.readBody?, Option.or_eq_some_iff] at hread ⊢
  rcases hread with hread | ⟨hno, hread⟩
  · obtain ⟨rest', hrest', hrel⟩ := haddresses.some_of_some hread
    exact ⟨rest', Or.inl hrest', hrel⟩
  · have hno' := haddresses.none_of_none hno
    rcases hread with hread | ⟨-, hread⟩
    · have hquoted : ∀ {s s' x rest}, R s s' → quotedItem? s = some (x, rest) →
          ∃ rest', quotedItem? s' = some (x, rest') ∧ R rest rest' := by
        intro s s' x rest hs hx
        obtain ⟨rest', hrest', hrel⟩ := h.quote hs (quotedItem?_eq_some_iff.1 hx)
        exact ⟨rest', quotedItem?_eq_some_iff.2 hrest', hrel⟩
      obtain ⟨rest', hrest', hrel⟩ :=
        h.readListOf?_some .strings hquoted quotedItem?_takesSome hs hread
      exact ⟨rest', Or.inr ⟨hno', Or.inl hrest'⟩, hrel⟩
    · have hnumbers := h.readListOf? .numbers numberItem?_takesSome h.numberItem? hs
      obtain ⟨rest', hrest', hrel⟩ := hnumbers.some_of_some hread
      -- the first entry is a number there, too, so that there is no list of texts
      obtain ⟨⟨xs, u⟩, hu, -⟩ := Option.map_eq_some_iff.1 hrest'
      obtain ⟨x, v, hx⟩ := first_of_readEntries hu
      exact ⟨rest', Or.inr ⟨hno', Or.inr ⟨readListOf?_none .strings (quotedItem?_of_numberItem? hx),
        hrest'⟩⟩, hrel⟩

/-- **A literal that is read** is read in alike texts. -/
theorem literal_read (h : Alike stop R) {rest : List Char} {literal : Literal} (hs : R s s')
    (hread : Literal.read s = .ok (literal, rest)) :
    ∃ rest', Literal.read s' = .ok (literal, rest') ∧ R rest rest' := by
  rcases Literal.read_eq_ok hread with ⟨body, hq, rfl⟩ | ⟨u, rfl, hbody⟩ | ⟨word, hno, hbrace, hw, rfl⟩
  · obtain ⟨rest', hq', hrel⟩ := h.quote hs hq
    refine ⟨rest', ?_, hrel⟩
    unfold Literal.read
    rw [hq']
  · rcases h.head (d := '\x7b') (by decide) hs with ⟨t, t', ht, rfl, hrel⟩ | ⟨hne, -⟩
    · obtain rfl : u = t := (List.cons.inj ht).2
      obtain ⟨rest', hbody', hrel'⟩ := h.literal_readBody? hrel hbody
      refine ⟨rest', ?_, hrel'⟩
      unfold Literal.read
      rw [show quotation ('\x7b' :: t') = .absent from rfl]
      simp only [Literal.readList, hbody']
    · exact absurd rfl (hne u)
  · obtain ⟨rest', hw', hrel⟩ := (h.word? hs).some_of_some hw
    have hno' : quotation s' = .absent := by
      rw [quotation_eq_absent_iff, h.any_quote hs]
      exact quotation_eq_absent_iff.1 hno
    have hbrace' : ∀ t, s' ≠ '\x7b' :: t := by
      rcases h.head (d := '\x7b') (by decide) hs with ⟨t, t', ht, -, -⟩ | ⟨-, hne⟩
      · exact absurd ht (hbrace t)
      · exact hne
    refine ⟨rest', ?_, hrel⟩
    unfold Literal.read
    rw [hno']
    split
    · next heq => simp at heq
    · next heq => simp at heq
    · split
      · exact absurd rfl (hbrace' _)
      · rw [hw']

/-! ### Names -/

/-- A word that texts do not stop in stands at the start of both of two alike texts or of none. -/
theorem behind (h : Alike stop R) {w : List Char} (hw : ∀ c ∈ w, stop c = false) :
    StartsAlike R w := by
  intro s s' hs
  induction w generalizing s s' with
  | nil => exact Or.inl ⟨s, s', rfl, rfl, hs⟩
  | cons c w ih =>
    rcases h.head_of_not_stop (hw c List.mem_cons_self) hs with ⟨t, t', rfl, rfl, ht⟩ | ⟨hne, hne'⟩
    · rcases ih (fun d hd => hw d (List.mem_cons_of_mem _ hd)) ht with
        ⟨u, u', rfl, rfl, hu⟩ | ⟨hno, hno'⟩
      · exact Or.inl ⟨u, u', rfl, rfl, hu⟩
      · exact Or.inr ⟨fun hp => hno (List.cons_prefix_cons.1 hp).2,
          fun hp => hno' (List.cons_prefix_cons.1 hp).2⟩
    · refine Or.inr ⟨?_, ?_⟩
      · rintro ⟨u, hu⟩
        exact hne (w ++ u) hu.symm
      · rintro ⟨u, hu⟩
        exact hne' (w ++ u) hu.symm

end Alike

theorem longestStart?_alike {words : List String} (hwords : ∀ w ∈ words, StartsAlike R w.toList)
    (hs : R s s') : longestStart? words s' = longestStart? words s := by
  have hfilter : (words.filter fun word => (dropText? word.toList s').isSome) =
      words.filter fun word => (dropText? word.toList s).isSome := by
    apply List.filter_congr
    intro w hw
    rw [Bool.eq_iff_iff, dropText?_isSome_iff, dropText?_isSome_iff]
    rcases hwords w hw hs with ⟨t, t', rfl, rfl, -⟩ | ⟨hno, hno'⟩
    · exact iff_of_true (List.prefix_append _ _) (List.prefix_append _ _)
    · exact iff_of_false hno' hno
  simp only [longestStart?, hfilter]

/-- **A parser whose names** are told alike in alike texts. -/
structure Parser.NamesAlike (p : Parser) (R : List Char → List Char → Prop) : Prop where
  fields : ∀ name ∈ p.fieldNames, StartsAlike R name.toList
  functions : ∀ name ∈ p.functions.names, StartsAlike R name.toList

/-- The code points of blanks, as spans from a first to a last one. -/
def blankSpans : List (Nat × Nat) :=
  [(9, 13), (0x20, 0x20), (0x85, 0x85), (0xA0, 0xA0), (0x1680, 0x1680), (0x2000, 0x200A), (0x2028, 0x2029),
   (0x202F, 0x202F), (0x205F, 0x205F), (0x3000, 0x3000)]

theorem mem_blankSpans {c : Char} (h : isBlank c = true) :
    ∃ span ∈ blankSpans, span.1 ≤ c.toNat ∧ c.toNat ≤ span.2 := by
  simp only [isBlank, Bool.or_eq_true, Bool.and_eq_true, decide_eq_true_eq, beq_iff_eq] at h
  simp only [blankSpans, List.mem_cons, List.not_mem_nil, or_false, exists_eq_or_imp, exists_eq_left]
  omega

/-- Whether no run of a table reaches into some spans. -/
def runsAvoid (runs : List CodeRun) (spans : List (Nat × Nat)) : Bool :=
  runs.all fun r => spans.all fun (first, last) => Nat.blt last r.first || Nat.blt r.last first

theorem not_inRuns_of_avoid {runs : List CodeRun} {spans : List (Nat × Nat)}
    (h : runsAvoid runs spans = true) {c : Char} {span : Nat × Nat} (hspan : span ∈ spans)
    (hfirst : span.1 ≤ c.toNat) (hlast : c.toNat ≤ span.2) : inRuns runs c = false := by
  apply List.any_eq_false.2
  intro r hr
  have hspans := List.all_eq_true.1 (List.all_eq_true.1 h r hr) span hspan
  have happart : span.2 < r.first ∨ r.last < span.1 := by simpa [Nat.blt_eq] using hspans
  simp only [CodeRun.contains, Bool.and_eq_true, decide_eq_true_eq, not_and]
  omega

/-- Neither blanks nor a closing parenthesis are letters or digits. -/
theorem isInner_of_isCallChar {c : Char} (h : isCallChar c = true) : isInner c = true := by
  have hruns : runsAvoid alphabeticRuns blankSpans = true ∧ runsAvoid numericRuns blankSpans = true := by
    decide +kernel
  have hblank : isBlank c = false := by
    cases hb : isBlank c with
    | false => rfl
    | true =>
      obtain ⟨span, hspan, hfirst, hlast⟩ := mem_blankSpans hb
      have hunderscore : c ≠ '_' := by
        rintro rfl
        exact absurd hb (by decide)
      have hno : isCallChar c = false := by
        simp [isCallChar, isAlphanumeric, not_inRuns_of_avoid hruns.1 hspan hfirst hlast,
          not_inRuns_of_avoid hruns.2 hspan hfirst hlast, hunderscore]
      rw [h] at hno
      exact Bool.noConfusion hno
  have hclose : c ≠ ')' := by
    rintro rfl
    exact absurd h (by simp [not_isCallChar])
  simp [isInner, hblank, hclose]

theorem isInner_of_isFieldChar {c : Char} (h : isFieldChar c = true) : isInner c = true := by
  have hclose : c ≠ ')' := by
    rintro rfl
    exact absurd h (by decide)
  simp [isInner, not_blank_of_isFieldChar h, hclose]

namespace Alike

variable {p : Parser}

/-- **Fields** are read alike. -/
theorem field (h : Alike stop R) (hp : p.NamesAlike R) (hs : R s s') :
    Agree R (p.field s) (p.field s') := by
  obtain ⟨htake, hdrop⟩ := h.run (h.not_stop fun _ hc => isInner_of_isFieldChar hc) hs
  unfold Parser.field
  split
  · simp only [anyField, htake]
    split
    · exact .error _ _
    · exact .ok _ hdrop
  · unfold knownField
    rw [longestStart?_alike hp.fields hs]
    cases hname : Text.longestStart? p.fieldNames s with
    | none =>
      simp only [htake]
      split
      · exact .error _ _
      · exact .error _ _
    | some name =>
      obtain ⟨hmem, hprefix, -⟩ := longestStart?_eq_some_iff.1 hname
      rcases hp.fields name hmem hs with ⟨t, t', rfl, rfl, ht⟩ | ⟨hno, -⟩
      · simp only [← String.length_toList, List.drop_left]
        exact .ok _ ht
      · exact absurd hprefix hno

/-- **Called functions** are read alike. -/
theorem callAt? (h : Alike stop R) (hp : p.NamesAlike R) (hs : R s s') :
    Matched R (p.callAt? s) (p.callAt? s') := by
  simp only [Parser.callAt?, FunctionTable.longestAt?, longestStart?_alike hp.functions hs]
  cases hname : Text.longestStart? p.functions.names s with
  | none => exact .none
  | some name =>
    obtain ⟨hmem, hprefix, -⟩ := longestStart?_eq_some_iff.1 hname
    simp only [Option.bind_some, bind]
    cases hget : p.functions.get? name with
    | none => exact .none
    | some f =>
      obtain rfl := get?_name hget
      rcases hp.functions f.name hmem hs with ⟨t, t', rfl, rfl, ht⟩ | ⟨hno, -⟩
      · simp only [Option.bind_some, ← String.length_toList, List.drop_left]
        rcases h.head (d := '(') (by decide) ht with ⟨u, u', rfl, rfl, hu⟩ | ⟨hne, hne'⟩
        · exact .some f hu
        · split
          · exact absurd rfl (hne _)
          · exact .none
      · exact absurd hprefix hno

theorem calledWord? (h : Alike stop R) (hs : R s s') : calledWord? s' = calledWord? s := by
  obtain ⟨htake, hdrop⟩ := h.run (h.not_stop fun _ hc => isInner_of_isCallChar hc) hs
  have hparen : ((s'.dropWhile isCallChar).head? == some '(') =
      ((s.dropWhile isCallChar).head? == some '(') := by
    rcases h.head (d := '(') (by decide) hdrop with ⟨t, t', ht, ht', -⟩ | ⟨hne, hne'⟩
    · rw [ht, ht']
      rfl
    · rw [head?_beq_of_ne hne, head?_beq_of_ne hne']
  simp only [DisplayFilter.calledWord?, htake, hparen]

/-! ### Expressions -/

/-- **An expression that is read** is read in alike texts, if its comparison is, or that it has none. -/
theorem expression (h : Alike stop R) (hp : p.NamesAlike R) {rest : List Char} {e : Expression}
    (hcomparison : ∀ {s s'}, R s s' → comparisonAt s = .ok (e.comparison, rest) →
      ∃ rest', comparisonAt s' = .ok (e.comparison, rest') ∧ R rest rest')
    (hs : R s s') (he : p.expression s = .ok (e, rest)) :
    ∃ rest', p.expression s' = .ok (e, rest') ∧ R rest rest' := by
  unfold Parser.expression
  rw [h.calledWord? hs]
  rcases Parser.expression_eq_ok he with ⟨f, u, hcall, he⟩ | ⟨hcall, hword, he⟩
  · obtain ⟨u', hcall', hu⟩ := (h.callAt? hp hs).some_of_some hcall
    obtain ⟨field, s₁, slice, s₂, v, c, h₁, h₂, hv, h₃, rfl⟩ := Parser.callBody_eq_ok he
    obtain ⟨s₁', h₁', hs₁⟩ := (h.field hp (h.trim hu)).ok_of_ok h₁
    obtain ⟨s₂', h₂', hs₂⟩ := (h.sliceAt hs₁).ok_of_ok h₂
    obtain ⟨v', hv', hrel⟩ := h.close (hv ▸ h.trim hs₂)
    obtain ⟨rest', h₃', hrest⟩ := hcomparison hrel h₃
    refine ⟨rest', ?_, hrest⟩
    rw [hcall']
    simp only [Parser.callBody, h₁', h₂', bind, Except.bind, hv', h₃', pure, Except.pure]
  · have hcall' := (h.callAt? hp hs).none_of_none hcall
    obtain ⟨field, s₁, slice, s₂, c, h₁, h₂, h₃, hc, rfl⟩ := Parser.fieldExpression_eq_ok he
    obtain ⟨s₁', h₁', hs₁⟩ := (h.field hp hs).ok_of_ok h₁
    obtain ⟨s₂', h₂', hs₂⟩ := (h.sliceAt hs₁).ok_of_ok h₂
    obtain ⟨rest', h₃', hrest⟩ := hcomparison hs₂ h₃
    have hcompared : (slice.isSome && c.isNone) = false := by
      cases slice with
      | none => rfl
      | some slice => simpa using hc rfl
    refine ⟨rest', ?_, hrest⟩
    rw [hcall', hword]
    simp only [Parser.fieldExpression, h₁', h₂', bind, Except.bind, h₃', hcompared, pure, Except.pure,
      Bool.false_eq_true, if_false]

/-- **An expression that is no call** is read alike, if the comparison behind its field is. -/
theorem expression_agree (h : Alike stop R) (hp : p.NamesAlike R) (hcall : p.callAt? s = none)
    (hcomparison : ∀ field s₁ slice s₂ s₂', p.field s = .ok (field, s₁) →
      DisplayFilter.sliceAt s₁ = .ok (slice, s₂) → R s₂ s₂' →
      Agree R (comparisonAt s₂) (comparisonAt s₂'))
    (hs : R s s') : Agree R (p.expression s) (p.expression s') := by
  have hcall' : p.callAt? s' = none := (h.callAt? hp hs).none_of_none hcall
  unfold Parser.expression
  rw [hcall, hcall', h.calledWord? hs]
  cases DisplayFilter.calledWord? s with
  | some name => exact .error _ _
  | none =>
    show Agree R (p.fieldExpression s) (p.fieldExpression s')
    refine (h.field hp hs).bind fun field s₁ s₁' h₁ _ hs₁ => ?_
    refine (h.sliceAt hs₁).bind fun slice s₂ s₂' h₂ _ hs₂ => ?_
    refine (hcomparison field s₁ slice s₂ s₂' h₁ h₂ hs₂).bind fun c rest rest' _ _ hrest => ?_
    simp only
    split
    · exact .error _ _
    · exact .ok _ hrest

end Alike

end DisplayFilter
