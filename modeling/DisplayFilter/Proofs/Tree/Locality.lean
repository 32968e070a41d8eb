import DisplayFilter.Proofs.Tree.Derivation
import DisplayFilter.Proofs.Tree.Keywords
import DisplayFilter.Proofs.Tree.Parts
import DisplayFilter.Proofs.Tree.Shape

/-!
# What a filter means does not depend on what follows it

A filter in parentheses is read as it is read alone, whatever stands behind the closing parenthesis.
Its parts are local but for literals: a quote that does not close may close behind the parenthesis.
This only turns a failure into a success, and a failure matters in one place: where the operand of
`not` cannot be read, and a comparison of a field called `not` stands instead.  There the failure is
that of a keyword in the place of an operand, and it does not go away.

* `Closed` — a text, and the same text in front of a closing parenthesis;
* **`closed_alike`** — such texts are alike, so that numbers, addresses, slices, literals and names are
  read alike;
* **`expression_local`**, **`expression_error_local`** — expressions that are read, and expressions that
  are not read;
* **`namedNot_local`** — the operand of a `not` that is the name of a field stays unread;
* **`reads_local`** — derivations.
-/

namespace DisplayFilter

open Text

/-- A text, and the same text with a closing parenthesis and more text behind it. -/
def Closed (t s s' : List Char) : Prop :=
  s' = s ++ ')' :: t

theorem trimStart_close (s t : List Char) : trimStart (s ++ ')' :: t) = trimStart s ++ ')' :: t :=
  trimStart_append_cons (by decide) s t

theorem quotation_append {s body rest : List Char} (h : quotation s = .closed body rest)
    (t : List Char) : quotation (s ++ ')' :: t) = .closed body (rest ++ ')' :: t) := by
  obtain ⟨q, hq, hbody, rfl⟩ := quotation_eq_closed_iff.1 h
  exact quotation_eq_closed_iff.2 ⟨q, hq, hbody, by simp⟩

/-- **A closing parenthesis behind a text** makes a text that is alike. -/
theorem closed_alike (t : List Char) : Alike (· == ')') (Closed t) where
  not_inner := by
    intro c hc
    obtain rfl : c = ')' := by simpa using hc
    decide
  step := by
    rintro s s' rfl
    cases s with
    | nil => exact Or.inr ⟨by simp [AtStop], by simp [AtStop]⟩
    | cons c s => exact Or.inl ⟨c, s, s ++ ')' :: t, rfl, rfl, rfl⟩
  trim := by
    rintro s s' rfl
    exact trimStart_close s t
  close := by
    rintro u s' rfl
    exact ⟨u ++ ')' :: t, rfl, rfl⟩
  quote := by
    rintro s s' body rest rfl h
    exact ⟨rest ++ ')' :: t, quotation_append h t, rfl⟩

theorem Closed.self (t s : List Char) : Closed t s (s ++ ')' :: t) :=
  rfl

/-! ### Words between expressions -/

/-- An answer with a closing parenthesis and more text left over. -/
def followed {α : Type} (t : List Char) (answer : α × List Char) : α × List Char :=
  (answer.1, answer.2 ++ ')' :: t)

/-- **A local reader:** what follows a closing parenthesis behind its text is left over and does not
matter otherwise. -/
def Local {α : Type} (read : List Char → Option (α × List Char)) : Prop :=
  ∀ s t, read (s ++ ')' :: t) = (read s).map (followed t)

theorem blanks?_append_cons {d : Char} (hd : isBlank d = false) (s t : List Char) :
    blanks? (s ++ d :: t) = (blanks? s).map (· ++ d :: t) := by
  cases s with
  | nil => simp [blanks?, hd]
  | cons c s =>
    simp only [List.cons_append, blanks?, trimStart_append_cons hd]
    split <;> rfl

theorem blanks?_local (s t : List Char) :
    blanks? (s ++ ')' :: t) = (blanks? s).map (· ++ ')' :: t) :=
  blanks?_append_cons (by decide) s t

theorem keyword?_local {α : Type} {words : List (String × α)}
    (h : ∀ x ∈ words, ')'.toLower ∉ x.1.toList.map Char.toLower) : Local (keyword? words) := by
  intro s t
  induction words with
  | nil => rfl
  | cons x words ih =>
    obtain ⟨word, meaning⟩ := x
    have hword := dropCaseless?_append_cons (h (word, meaning) List.mem_cons_self) s t
    have hrec := ih fun y hy => h y (List.mem_cons_of_mem _ hy)
    unfold keyword? at hrec ⊢
    simp only [List.findSome?_cons, hword, hrec]
    cases dropCaseless? word.toList s with
    | none => rfl
    | some u =>
      simp only [Option.map_some, Option.bind_some, blanks?_local]
      cases blanks? u with
      | none => rfl
      | some v => rfl

theorem operatorAt?_local : Local operatorAt? := by
  intro s t
  rw [operatorAt?, operatorAt?, blanks?_local]
  cases blanks? s with
  | none => rfl
  | some u => exact keyword?_local (by decide) u t

theorem connectiveAt?_local : Local connectiveAt? := by
  intro s t
  rw [connectiveAt?, connectiveAt?, blanks?_local]
  cases blanks? s with
  | none => rfl
  | some u => exact keyword?_local (by decide) u t

/-- **A negation in front of a character** that belongs to none is one of the text in front of it. -/
theorem negation?_append_cons {d : Char} (hd : isBlank d = false)
    (hword : d.toLower ∉ ['n', 'o', 't'].map Char.toLower) (hmark : d ≠ '!') (hequal : d ≠ '=')
    (s t : List Char) : negation? (s ++ d :: t) = (negation? s).map (· ++ d :: t) := by
  have hspelled : (dropCaseless? ['n', 'o', 't'] (s ++ d :: t)).bind blanks? =
      ((dropCaseless? ['n', 'o', 't'] s).bind blanks?).map (· ++ d :: t) := by
    rw [dropCaseless?_append_cons hword]
    cases dropCaseless? ['n', 'o', 't'] s with
    | none => rfl
    | some u => exact blanks?_append_cons hd u t
  unfold negation?
  rw [hspelled]
  cases (dropCaseless? ['n', 'o', 't'] s).bind blanks? with
  | some rest => rfl
  | none =>
    cases s with
    | nil => simp [hmark]
    | cons c s =>
      by_cases hc : c = '!'
      · subst hc
        cases s with
        | nil => simp [hequal, trimStart_cons_of_not_blank hd]
        | cons e s =>
          by_cases he : e = '='
          · subst he
            rfl
          · have htrim : trimStart (e :: (s ++ d :: t)) = trimStart (e :: s) ++ d :: t :=
              trimStart_append_cons hd (e :: s) t
            simp [he, htrim]
      · simp [hc]

theorem negation?_local (s t : List Char) :
    negation? (s ++ ')' :: t) = (negation? s).map (· ++ ')' :: t) :=
  negation?_append_cons (by decide) (by decide) (by decide) (by decide) s t

/-! ### Expressions -/

variable {p : Parser}

/-- A plain name has no closing parenthesis in it. -/
theorem namesAlike_close (hp : p.PlainNames) (t : List Char) : p.NamesAlike (Closed t) := by
  have hchar : ∀ c, isFieldChar c = true → (c == ')') = false := by
    intro c hc
    have hne : c ≠ ')' := by
      rintro rfl
      exact absurd hc (by decide)
    simpa using hne
  refine ⟨fun name hname => ?_, fun name hname => ?_⟩
  · exact (closed_alike t).behind fun c hc => hchar c ((hp.fields name hname).2 c hc)
  · exact (closed_alike t).behind fun c hc =>
      hchar c (isFieldChar_of_isFunctionChar ((hp.functions name hname).2 c hc))

theorem comparisonAt_local {s rest : List Char} {c : Option Comparison}
    (h : comparisonAt s = .ok (c, rest)) (t : List Char) :
    comparisonAt (s ++ ')' :: t) = .ok (c, rest ++ ')' :: t) := by
  unfold comparisonAt at h ⊢
  rw [operatorAt?_local s t]
  split at h
  · next hno =>
    obtain ⟨rfl, rfl⟩ : none = c ∧ s = rest := by simpa using h
    rw [hno]
    rfl
  · next op u hop =>
    rw [hop]
    split at h
    · next literal v hv =>
      obtain ⟨rfl, rfl⟩ : some (Comparison.mk op literal) = c ∧ v = rest := by simpa using h
      obtain ⟨v', hv', rfl⟩ := (closed_alike t).literal_read (Closed.self t u) hv
      simp only [Option.map_some, followed, hv']
    · simp at h

/-- **An expression that is read** is read the same in front of a closing parenthesis. -/
theorem expression_local (hp : p.PlainNames) {s rest : List Char} {e : Expression}
    (h : p.expression s = .ok (e, rest)) (t : List Char) :
    p.expression (s ++ ')' :: t) = .ok (e, rest ++ ')' :: t) := by
  have hcomparison : ∀ {s s'}, Closed t s s' → comparisonAt s = .ok (e.comparison, rest) →
      ∃ rest', comparisonAt s' = .ok (e.comparison, rest') ∧ Closed t rest rest' := by
    rintro s s' rfl hc
    exact ⟨rest ++ ')' :: t, comparisonAt_local hc t, rfl⟩
  obtain ⟨rest', hrest', rfl⟩ :=
    (closed_alike t).expression (namesAlike_close hp t) hcomparison (Closed.self t s) h
  exact hrest'

/-- **An expression that is not read** stays unread in front of a closing parenthesis, if it is no
call and if this holds of the literal that it may have. -/
theorem expression_error_local (hp : p.PlainNames) {s t : List Char} {fault : ParseStop}
    (hcall : p.callAt? s = none) (h : p.expression s = .error fault)
    (hliteral : ∀ field s₁ slice s₂ op v stop, p.field s = .ok (field, s₁) →
      sliceAt s₁ = .ok (slice, s₂) → operatorAt? s₂ = some (op, v) → Literal.read v = .error stop →
      ∃ stop', Literal.read (v ++ ')' :: t) = .error stop') :
    ∃ fault', p.expression (s ++ ')' :: t) = .error fault' := by
  have hcomparison : ∀ field s₁ slice s₂ s₂', p.field s = .ok (field, s₁) →
      sliceAt s₁ = .ok (slice, s₂) → Closed t s₂ s₂' →
      Agree (Closed t) (comparisonAt s₂) (comparisonAt s₂') := by
    rintro field s₁ slice s₂ s₂' h₁ h₂ rfl
    cases hc : comparisonAt s₂ with
    | ok answer =>
      obtain ⟨c, rest⟩ := answer
      rw [comparisonAt_local hc t]
      exact .ok c rfl
    | error stop =>
      obtain ⟨op, v, stop, hop, hstop, -⟩ := comparisonAt_eq_error hc
      obtain ⟨stop', hstop'⟩ := hliteral field s₁ slice s₂ op v stop h₁ h₂ hop hstop
      unfold comparisonAt
      simp only [operatorAt?_local s₂ t, hop, Option.map_some, followed, hstop']
      exact .error _ _
  exact ((closed_alike t).expression_agree (namesAlike_close hp t) hcall hcomparison
    (Closed.self t s)).error_of_error h

/-- Nothing is read where no name can start. -/
theorem expression_stops (hp : p.PlainNames) {s : List Char} (hs : Stops isFieldChar s)
    (hparen : ∀ t, s ≠ '(' :: t) : ∃ fault, p.expression s = .error fault := by
  have hcall : p.callAt? ([] ++ s) = none := callAt?_field hp (by simp) hs hparen
  have hfield : ∃ fault, p.field s = .error fault := by
    cases hf : p.field s with
    | error fault => exact ⟨fault, rfl⟩
    | ok answer =>
      obtain ⟨name, rest⟩ := answer
      have hnames := names_of_field hp hf
      have hprefix : name.toList <+: [] ++ s := ⟨rest, (append_of_field hf).symm⟩
      have hnil := prefix_of_prefix_append hnames.chars hs hprefix
      exact absurd (List.prefix_nil.1 hnil) hnames.ne_nil
  rw [List.nil_append] at hcall
  unfold Parser.expression
  rw [hcall]
  cases calledWord? s with
  | some name => exact ⟨_, rfl⟩
  | none =>
    obtain ⟨fault, hfault⟩ := hfield
    exact ⟨fault, by simp only [Parser.fieldExpression, hfault, bind, Except.bind]⟩

/-- No field starts at the end of a text and at an exclamation mark. -/
theorem field_unnamed (hp : p.SolidNames) {s : List Char} (hs : s = [] ∨ ∃ u, s = '!' :: u) :
    ∃ fault, p.field s = .error fault := by
  cases hf : p.field s with
  | error fault => exact ⟨fault, rfl⟩
  | ok answer =>
    obtain ⟨name, rest⟩ := answer
    obtain ⟨hne, hsolid⟩ := solid_of_field hp hf
    obtain ⟨c, more, hname⟩ := List.exists_cons_of_ne_nil hne
    have htext := append_of_field hf
    rw [hname, List.cons_append] at htext
    rcases hs with rfl | ⟨u, rfl⟩
    · simp at htext
    · obtain rfl : '!' = c := (List.cons.inj htext).1
      exact absurd hname (ne_mark_of_isSolid hsolid more)

/-- Where no field starts, an expression is a call. -/
theorem called_of_expression {s rest : List Char} {e : Expression} {fault : ParseStop}
    (he : p.expression s = .ok (e, rest)) (hfield : p.field s = .error fault) :
    ∃ f y, p.callAt? s = some (f, y) := by
  rcases Parser.expression_eq_ok he with ⟨f, y, hcall, -⟩ | ⟨-, -, he⟩
  · exact ⟨f, y, hcall⟩
  · simp [Parser.fieldExpression, hfield, bind, Except.bind] at he

/-- What may follow an operand in a filter: the end of the text or of the parentheses, up to blanks,
or a connective. -/
def Continues (rest : List Char) : Prop :=
  trimStart rest = [] ∨ (∃ u, trimStart rest = ')' :: u) ∨ (connectiveAt? rest).isSome

/-- A filter does not go on with the characters of a name. -/
theorem not_continues_field {c : Char} (hc : isFieldChar c = true) (s : List Char) :
    ¬ Continues (c :: s) := by
  have hblank := not_blank_of_isFieldChar hc
  have htrim : trimStart (c :: s) = c :: s := trimStart_cons_of_not_blank hblank s
  rintro (hend | ⟨u, hclose⟩ | hconnective)
  · rw [htrim] at hend
    simp at hend
  · rw [htrim] at hclose
    obtain rfl : c = ')' := (List.cons.inj hclose).1
    exact absurd hc (by decide)
  · simp [connectiveAt?, blanks?, hblank] at hconnective

/-! ### Words with a blank behind them -/

theorem sliceAt_none {s : List Char} (hs : ∀ t, s ≠ '[' :: t) : sliceAt s = .ok (none, s) := by
  have hread : Slice.read s = .ok (none, s) := by
    unfold Slice.read
    split
    · exact absurd rfl (hs _)
    · rfl
  rw [sliceAt, hread]

theorem sliceAt_of_ne {s rest : List Char} {slice : Option Slice} (hs : ∀ t, s ≠ '[' :: t)
    (h : sliceAt s = .ok (slice, rest)) : rest = s := by
  rw [sliceAt_none hs] at h
  obtain ⟨-, rfl⟩ : none = slice ∧ s = rest := by simpa using h
  rfl

/-- The characters of a name are no comparison. -/
theorem operatorAt?_field {c : Char} (hc : isFieldChar c = true) (s : List Char) :
    operatorAt? (c :: s) = none := by
  simp [operatorAt?, blanks?, not_blank_of_isFieldChar hc]

/-- Where a text ends or goes on with a blank. -/
abbrev AtBlank (s : List Char) : Prop :=
  Stops (fun c => !isBlank c) s

theorem atBlank_cons {b : Char} (hb : isBlank b = true) (s : List Char) : AtBlank (b :: s) :=
  stops_cons.2 (by simp [hb])

theorem AtBlank.ne_cons {d : Char} (hd : isBlank d = false) {s : List Char} (h : AtBlank s)
    (t : List Char) : s ≠ d :: t := by
  rintro rfl
  have hstop := stops_cons.1 h
  simp [hd] at hstop

/-- **The field at a word.** Where a text ends or goes on with a blank behind a word, a field is the
whole word or ends in front of a character of the word.  There is no slice in either case. -/
theorem field_of_word (hp : p.SolidNames) {w x : List Char} (hw : ∀ c ∈ w, isFieldChar c = true)
    (hx : AtBlank x) {field : String} {s₁ s₂ : List Char} {slice : Option Slice}
    (hfield : p.field (w ++ x) = .ok (field, s₁)) (hslice : sliceAt s₁ = .ok (slice, s₂)) :
    s₂ = s₁ ∧ slice = none ∧
      (field.toList = w ∧ s₁ = x ∨ ∃ c t, isFieldChar c = true ∧ s₁ = c :: t) := by
  have htext := append_of_field hfield
  obtain ⟨-, hsolid⟩ := solid_of_field hp hfield
  have hchars : ∀ c ∈ field.toList, (fun c => !isBlank c) c = true := by
    intro c hc
    simp [not_blank_of_isSolid hsolid c hc]
  obtain ⟨more, rfl⟩ := prefix_of_prefix_append hchars hx ⟨s₁, htext.symm⟩
  rw [List.append_assoc] at htext
  obtain rfl : more ++ x = s₁ := List.append_cancel_left htext
  cases more with
  | nil =>
    have hbracket : ∀ t, [] ++ x ≠ '[' :: t := hx.ne_cons (by decide)
    rw [sliceAt_none hbracket] at hslice
    obtain ⟨rfl, rfl⟩ : none = slice ∧ [] ++ x = s₂ := by simpa using hslice
    exact ⟨rfl, rfl, Or.inl ⟨(List.append_nil _).symm, rfl⟩⟩
  | cons c more =>
    have hc : isFieldChar c = true := hw c (by simp)
    have hbracket : ∀ t, c :: more ++ x ≠ '[' :: t := by
      intro t ht
      obtain rfl : c = '[' := (List.cons.inj ht).1
      exact absurd hc (by decide)
    rw [sliceAt_none hbracket] at hslice
    obtain ⟨rfl, rfl⟩ : none = slice ∧ c :: more ++ x = s₂ := by simpa using hslice
    exact ⟨rfl, rfl, Or.inr ⟨c, more ++ x, hc, rfl⟩⟩

/-- **The operator behind a word.** Where a text goes on with a blank behind a word, only the whole
word can be a field that an operator follows. -/
theorem operator_behind_word {w u : List Char} {b : Char} (hw : ∀ c ∈ w, isFieldChar c = true)
    (hb : isBlank b = true) (hp : p.SolidNames) {field : String} {s₁ s₂ v : List Char}
    {slice : Option Slice} {op : Operator} (hfield : p.field (w ++ b :: u) = .ok (field, s₁))
    (hslice : sliceAt s₁ = .ok (slice, s₂)) (hop : operatorAt? s₂ = some (op, v)) :
    field.toList = w ∧ keyword? Operator.spellings (trimStart (b :: u)) = some (op, v) := by
  obtain ⟨rfl, -, ⟨hname, rfl⟩ | ⟨c, t, hc, rfl⟩⟩ :=
    field_of_word hp hw (atBlank_cons hb u) hfield hslice
  · refine ⟨hname, ?_⟩
    rw [operatorAt?, blanks?_cons_of_isBlank hb] at hop
    rw [trimStart_cons_of_blank hb]
    exact hop
  · rw [operatorAt?_field hc t] at hop
    simp at hop

/-- Without a parenthesis nothing is called. -/
theorem callAt?_of_no_paren {s : List Char} (hs : '(' ∉ s) : p.callAt? s = none := by
  cases hcall : p.callAt? s with
  | none => rfl
  | some answer =>
    obtain ⟨f, t⟩ := answer
    exact absurd (append_of_callAt? hcall ▸ by simp) hs

theorem isFieldChar_of_spelled_not {w : List Char} (hw : equalCaseless ['n', 'o', 't'] w = true) :
    ∀ c ∈ w, isFieldChar c = true :=
  forall_of_equalCaseless (fun _ => isFieldChar_of_isUpper) (List.all_eq_true.1 (by decide)) hw

/-- **An expression at the word `not`** is about the field `not`, if it is no call, and if it has a
comparison or the filter can go on behind it. -/
theorem expression_at_not (hp : p.SolidNames) {w x rest : List Char} {e : Expression}
    (hw : equalCaseless ['n', 'o', 't'] w = true) (hx : AtBlank x) (hcall : p.callAt? (w ++ x) = none)
    (he : p.expression (w ++ x) = .ok (e, rest)) (hrest : e.comparison.isSome ∨ Continues rest) :
    e.field.toList = w ∧ e.slice = none ∧ e.function = none ∧
      comparisonAt x = .ok (e.comparison, rest) := by
  have hchars := isFieldChar_of_spelled_not hw
  rcases Parser.expression_eq_ok he with ⟨f, y, hcalled, -⟩ | ⟨-, -, he⟩
  · rw [hcall] at hcalled
    simp at hcalled
  · obtain ⟨field, s₁, slice, s₂, c, h₁, h₂, h₃, -, rfl⟩ := Parser.fieldExpression_eq_ok he
    obtain ⟨rfl, rfl, ⟨hname, rfl⟩ | ⟨d, t, hd, rfl⟩⟩ := field_of_word hp hchars hx h₁ h₂
    · exact ⟨hname, rfl, rfl, h₃⟩
    · rw [comparisonAt, operatorAt?_field hd t] at h₃
      obtain ⟨rfl, rfl⟩ : none = c ∧ d :: t = rest := by simpa using h₃
      rcases hrest with hc | hrest
      · simp at hc
      · exact absurd hrest (not_continues_field hd t)

/-- **A negation** is `not` with a blank behind it, or an exclamation mark that does not start `!=`. -/
theorem negation?_eq_some_iff {s t : List Char} :
    negation? s = some t ↔
      (∃ w b u, s = w ++ b :: u ∧ equalCaseless ['n', 'o', 't'] w = true ∧ isBlank b = true ∧
        t = trimStart u) ∨
      ∃ u, s = '!' :: u ∧ (∀ v, u ≠ '=' :: v) ∧ t = trimStart u := by
  have hword : ∀ {r : List Char}, (dropCaseless? ['n', 'o', 't'] s).bind blanks? = some r ↔
      ∃ w b u, s = w ++ b :: u ∧ equalCaseless ['n', 'o', 't'] w = true ∧ isBlank b = true ∧
        r = trimStart u := by
    intro r
    constructor
    · intro h
      obtain ⟨x, hx, hblanks⟩ := Option.bind_eq_some_iff.1 h
      obtain ⟨w, rfl, hw⟩ := dropCaseless?_eq_some_iff.1 hx
      cases x with
      | nil => simp [blanks?] at hblanks
      | cons b u =>
        simp only [blanks?, Option.ite_none_right_eq_some, Option.some.injEq] at hblanks
        exact ⟨w, b, u, rfl, hw, hblanks.1, hblanks.2.symm⟩
    · rintro ⟨w, b, u, rfl, hw, hb, rfl⟩
      rw [dropCaseless?_eq_some_iff.2 ⟨w, rfl, hw⟩]
      exact blanks?_cons_of_isBlank hb u
  have hmark : ∀ u, (dropCaseless? ['n', 'o', 't'] ('!' :: u)).bind blanks? = none := by
    intro u
    rfl
  constructor
  · intro h
    unfold negation? at h
    split at h
    · next r hr =>
      obtain rfl : r = t := by simpa using h
      exact Or.inl (hword.1 hr)
    · split at h
      · simp at h
      · next u hne _ =>
        obtain rfl : trimStart u = t := by simpa using h
        exact Or.inr ⟨u, rfl, fun v hv => hne v (by rw [hv]), rfl⟩
      · simp at h
  · rintro (h | ⟨u, rfl, hne, rfl⟩)
    · unfold negation?
      rw [hword.2 h]
    · unfold negation?
      rw [hmark u]
      simp only

/-- A call that looks like a negation: the name of the function does so itself, and what is negated starts
inside of it. -/
theorem negation?_of_called {s t y : List Char} {f : Function} (hneg : negation? s = some t)
    (hcall : p.callAt? s = some (f, y)) :
    ∃ m, negation? f.name.toList = some m ∧ t = m ++ '(' :: y := by
  rw [append_of_callAt? hcall, negation?_append_cons (by decide) (by decide) (by decide) (by decide)]
    at hneg
  obtain ⟨m, hm, rfl⟩ := Option.map_eq_some_iff.1 hneg
  exact ⟨m, hm, rfl⟩

/-- No plain name looks like a negation, so that no function is called where a negation is. -/
theorem callAt?_of_negation? (hp : p.PlainNames) {s t : List Char} (hneg : negation? s = some t) :
    p.callAt? s = none := by
  cases hcall : p.callAt? s with
  | none => rfl
  | some answer =>
    obtain ⟨f, y⟩ := answer
    obtain ⟨m, hm, -⟩ := negation?_of_called hneg hcall
    have hplain := (hp.functions _ (mem_names_of_get? (callAt?_registered hcall))).2
    rcases negation?_eq_some_iff.1 hm with ⟨w, b, u, hname, -, hb, -⟩ | ⟨u, hname, -, -⟩
    · have hchar := hplain b (by simp [hname])
      rw [not_blank_of_isFieldChar (isFieldChar_of_isFunctionChar hchar)] at hb
      exact Bool.noConfusion hb
    · exact absurd (hplain '!' (by simp [hname])) (by decide)

/-- **A `not` that is not followed by an operand** is the name of a field, and an operator and a literal
stand behind it. -/
theorem keyword_of_namedNot (hp : p.SolidNames) {s t rest : List Char} {e : Expression}
    (hneg : negation? s = some t) (hcall : p.callAt? s = none) (he : p.expression s = .ok (e, rest))
    (hc : e.comparison.isSome) :
    equalCaseless ['n', 'o', 't'] e.field.toList = true ∧ e.slice = none ∧ e.function = none ∧
      ∃ op v literal, keyword? Operator.spellings t = some (op, v) ∧
        Literal.read v = .ok (literal, rest) ∧ e.comparison = some ⟨op, literal⟩ := by
  rcases negation?_eq_some_iff.1 hneg with ⟨w, b, u, rfl, hw, hb, rfl⟩ | ⟨u, rfl, -, -⟩
  · obtain ⟨hname, hslice, hfunction, hcomparison⟩ :=
      expression_at_not hp hw (atBlank_cons hb u) hcall he (Or.inl hc)
    refine ⟨hname.symm ▸ hw, hslice, hfunction, ?_⟩
    unfold comparisonAt at hcomparison
    rw [operatorAt?, blanks?_cons_of_isBlank hb, Option.bind_some] at hcomparison
    split at hcomparison
    · obtain ⟨hnone, -⟩ : none = e.comparison ∧ _ := by simpa using hcomparison
      rw [← hnone] at hc
      simp at hc
    · next op v hop =>
      split at hcomparison
      · next literal y hy =>
        obtain ⟨hsome, rfl⟩ : some (Comparison.mk op literal) = e.comparison ∧ y = rest := by
          simpa using hcomparison
        exact ⟨op, v, literal, hop, hy, hsome.symm⟩
      · simp at hcomparison
  · obtain ⟨fault, hfault⟩ := field_unnamed hp (Or.inr ⟨u, rfl⟩)
    obtain ⟨f, y, hcall'⟩ := called_of_expression he hfault
    rw [hcall] at hcall'
    simp at hcall'

/-- The characters of the operators that have no letters. -/
def isSymbolChar (c : Char) : Bool :=
  c.toLower == c && (c.toNat < 97 || 122 < c.toNat)

theorem eq_of_symbols {word w : List Char} (hsymbol : word.all isSymbolChar = true)
    (hw : equalCaseless word w = true) : w = word := by
  refine eq_of_equalCaseless (fun c hc => ?_) hw
  have hchar := List.all_eq_true.1 hsymbol c hc
  simpa [isSymbolChar] using hchar

theorem operators_symbols_or_letters : ∀ x ∈ Operator.spellings,
    x.1.toList.all isSymbolChar = true ∨ x.1.toList.all (fun c => isFieldChar c.toLower) = true := by
  decide

/-- Where an operator without letters stands, neither a negation nor a name can start. -/
theorem stops_symbol {x : String × Operator} (hx : x ∈ Operator.spellings)
    (hsymbol : x.1.toList.all isSymbolChar = true) (y : List Char) :
    negation? (x.1.toList ++ y) = none ∧ Stops isFieldChar (x.1.toList ++ y) ∧
      ∀ t, x.1.toList ++ y ≠ '(' :: t := by
  simp only [Operator.spellings, List.mem_cons, List.not_mem_nil, or_false] at hx
  rcases hx with rfl | rfl | rfl | rfl | rfl | rfl | rfl | rfl | rfl | rfl | rfl | rfl | rfl | rfl |
    rfl | rfl | rfl | rfl
  all_goals first
    | exact ⟨rfl, stops_cons.2 (by decide), by simp⟩
    | exact absurd hsymbol (by decide)

/-- Where neither a negation nor a parenthesis starts, an operand is an expression. -/
theorem unary_eq_expression {s : List Char} (hneg : negation? s = none)
    (hparen : ∀ t, s ≠ '(' :: t) :
    p.unary s = (p.expression s).map fun (e, rest) => (.leaf e, rest) := by
  rw [unary_eq]
  unfold Parser.operandStep
  rw [hneg]
  split
  · next heq => simp at heq
  · split
    · exact absurd rfl (hparen _)
    · rfl

/-- No literal stands where a filter ends or where a parenthesis closes, and a connective in its
place is one. -/
theorem literal_error_local {rest : List Char} {stop : LiteralStop} (hrest : Continues rest)
    (h : Literal.read (trimStart rest) = .error stop) (t : List Char) :
    ∃ stop', Literal.read (trimStart rest ++ ')' :: t) = .error stop' := by
  rcases hrest with hend | ⟨u, hclose⟩ | hconnective
  · rw [hend]
    exact ⟨_, rfl⟩
  · rw [hclose]
    exact ⟨_, rfl⟩
  · obtain ⟨⟨c, v⟩, hc⟩ := Option.isSome_iff_exists.1 hconnective
    obtain ⟨x, hx, hkeyword⟩ := Option.bind_eq_some_iff.1 hc
    have htrim : trimStart rest = x := by
      cases rest with
      | nil => simp [blanks?] at hx
      | cons b rest =>
        simp only [blanks?, Option.ite_none_right_eq_some, Option.some.injEq] at hx
        rw [trimStart_cons_of_blank hx.1, hx.2]
    obtain ⟨-, w, y, -, -, -, hread, -⟩ := read_keyword bareWords_connectives hkeyword
    rw [htrim, hread] at h
    simp at h

/-- No operand starts with an operator that has no letters. -/
theorem unary_symbol (hp : p.PlainNames) {x : String × Operator} (hx : x ∈ Operator.spellings)
    (hsymbol : x.1.toList.all isSymbolChar = true) (y : List Char) :
    ∃ fault, p.unary (x.1.toList ++ y) = .error fault := by
  obtain ⟨hnone, hstops, hparen⟩ := stops_symbol hx hsymbol y
  obtain ⟨fault, hfault⟩ := expression_stops hp hstops hparen
  exact ⟨fault, by rw [unary_eq_expression hnone hparen, hfault]; rfl⟩

/-- No operator is spelled `not`. -/
theorem not_equalCaseless_operator {x : String × Operator} (hx : x ∈ Operator.spellings)
    {w : List Char} (hw : equalCaseless x.1.toList w = true) :
    equalCaseless ['n', 'o', 't'] w = false := by
  cases hspelled : equalCaseless ['n', 'o', 't'] w with
  | false => rfl
  | true =>
    have hsame : equalCaseless ['n', 'o', 't'] x.1.toList = true :=
      equalCaseless_iff.2 ((equalCaseless_iff.1 hspelled).trans (equalCaseless_iff.1 hw).symm)
    have hno : ∀ x ∈ Operator.spellings, equalCaseless ['n', 'o', 't'] x.1.toList = false := by
      decide
    rw [hno _ hx] at hsame
    exact Bool.noConfusion hsame

/-- A name is no parenthesis. -/
theorem name_ne_paren {w : List Char} (hne : w ≠ []) (hw : ∀ c ∈ w, isFieldChar c = true)
    (s t : List Char) : w ++ s ≠ '(' :: t := by
  intro heq
  obtain ⟨c, more, rfl⟩ := List.exists_cons_of_ne_nil hne
  obtain rfl : c = '(' := (List.cons.inj heq).1
  exact absurd (hw '(' List.mem_cons_self) (by decide)

/-- **Where an operator stands** with a blank behind it, neither a negation nor a parenthesis does. -/
theorem negation?_operator {x : String × Operator} (hx : x ∈ Operator.spellings) {w : List Char}
    (hw : equalCaseless x.1.toList w = true) {b : Char} (hb : isBlank b = true) (y : List Char) :
    negation? (w ++ b :: y) = none ∧ ∀ t, w ++ b :: y ≠ '(' :: t := by
  rcases operators_symbols_or_letters _ hx with hsymbol | hletters
  · obtain rfl : w = x.1.toList := eq_of_symbols hsymbol hw
    obtain ⟨hnone, -, hparen⟩ := stops_symbol hx hsymbol (b :: y)
    exact ⟨hnone, hparen⟩
  · have hfield : ∀ c ∈ w, isFieldChar c = true :=
      forall_of_equalCaseless (fun _ => isFieldChar_of_isUpper) (List.all_eq_true.1 hletters) hw
    have hne : w ≠ [] := by
      rintro rfl
      exact (bareWords_operators _ hx).1 (by simpa using equalCaseless_iff.1 hw)
    have hstop : Stops isFieldChar (b :: y) := stops_cons.2 (not_isFieldChar_of_isBlank hb)
    exact ⟨negation?_name hne hfield hstop (Or.inl (not_equalCaseless_operator hx hw)),
      name_ne_paren hne hfield (b :: y)⟩

/-- **The operand of a `not` that is the name of a field stays unread** in front of a closing
parenthesis. An operator stands in its place, and either no name can start there, or it is a field
that an operator without a literal follows. -/
theorem namedNot_local (hp : p.PlainNames) {s t rest : List Char} {fault : ParseStop}
    {e : Expression} (hneg : negation? s = some t) (hfault : p.unary t = .error fault)
    (he : p.expression s = .ok (e, rest)) (hc : e.comparison.isSome) (hrest : Continues rest)
    (u : List Char) : ∃ fault', p.unary (t ++ ')' :: u) = .error fault' := by
  obtain ⟨-, -, -, op, v, literal, hkeyword, hread, -⟩ :=
    keyword_of_namedNot hp.solid hneg (callAt?_of_negation? hp hneg) he hc
  obtain ⟨word, w, b, y, hmem, hw, rfl, hb, hbare, rfl⟩ :=
    keyword?_spelled bareWords_operators hkeyword
  rcases operators_symbols_or_letters _ hmem with hsymbol | hletters
  · obtain rfl : w = word.toList := eq_of_symbols hsymbol hw
    rw [List.append_assoc]
    exact unary_symbol hp hmem hsymbol _
  · have hfield : ∀ c ∈ w, isFieldChar c = true :=
      forall_of_equalCaseless (fun _ => isFieldChar_of_isUpper) (List.all_eq_true.1 hletters) hw
    have hstop : Stops isFieldChar (b :: y) := stops_cons.2 (not_isFieldChar_of_isBlank hb)
    obtain ⟨hnone, hno⟩ := negation?_operator hmem hw hb y
    have hblank : ∀ t, b :: y ≠ '(' :: t := by
      intro t ht
      obtain rfl : b = '(' := (List.cons.inj ht).1
      exact absurd hb (by decide)
    have hcall := callAt?_field hp hfield hstop hblank
    rw [unary_eq_expression hnone hno, map_eq_error] at hfault
    obtain ⟨fault', hfault'⟩ := expression_error_local hp (t := u) hcall hfault (by
      intro field s₁ slice s₂ op' v' stop h₁ h₂ hop hstop'
      obtain ⟨-, hkeyword'⟩ := operator_behind_word hfield hb hp.solid h₁ h₂ hop
      -- the literal that was read is the keyword, and the text behind it is what was left
      obtain ⟨-, w', z, -, -, -, hread', rfl⟩ := read_keyword bareWords_operators hkeyword'
      obtain ⟨-, rfl⟩ : .text (String.ofList w') = literal ∧ z = rest := by
        rw [hread] at hread'
        simpa [eq_comm] using hread'
      exact literal_error_local hrest hstop' u)
    obtain ⟨hnone', hno'⟩ := negation?_operator hmem hw hb (y ++ ')' :: u)
    rw [List.append_assoc, List.cons_append] at hfault' ⊢
    rw [unary_eq_expression hnone' hno', hfault']
    exact ⟨fault', rfl⟩

/-! ### Derivations -/

/-- What may follow a whole filter, up to blanks: the end of the text or a closing parenthesis. -/
def Ends (rest : List Char) : Prop :=
  trimStart rest = [] ∨ ∃ u, trimStart rest = ')' :: u

theorem Ends.continues {rest : List Char} (h : Ends rest) : Continues rest :=
  h.imp_right Or.inl

/-- What a derivation leaves, so that the filter around it can go on. -/
def Phrase.Followed : Phrase → List Char → Prop
  | .operand _, rest => Continues rest
  | .chain _, rest => Ends rest
  | .tail _, rest => Ends rest

/-- An operand in front of connectives and operands that end is followed by what may follow one. -/
theorem continues_of_tail {s rest : List Char} {links : List (Connective × Node)}
    (h : p.Reads s (.tail links) rest) (hrest : Ends rest) : Continues s := by
  cases h with
  | done _ => exact hrest.continues
  | next hc _ _ => exact Or.inr (Or.inr (by rw [hc]; rfl))

/-- An operand is read from some text. -/
theorem operand_ne_nil (hp : p.SolidNames) {rest : List Char} {x : Node} :
    ¬ p.Reads [] (.operand x) rest := by
  intro h
  cases h with
  | negated hneg _ => simp [negation?, dropCaseless?] at hneg
  | namedNot hneg _ _ _ => simp [negation?, dropCaseless?] at hneg
  | expression _ _ he =>
    obtain ⟨fault, hfault⟩ := field_unnamed hp (Or.inl rfl)
    obtain ⟨f, y, hcall⟩ := called_of_expression he hfault
    simpa using append_of_callAt? hcall

theorem chain_ne_nil (hp : p.SolidNames) {rest : List Char} {x : Node} :
    ¬ p.Reads [] (.chain x) rest := by
  intro h
  cases h with
  | chain hfirst _ => exact operand_ne_nil hp hfirst

/-- **What a filter means does not depend on what follows it** behind a closing parenthesis. -/
theorem reads_local (hp : p.PlainNames) {s rest : List Char} {phrase : Phrase}
    (h : p.Reads s phrase rest) (hrest : phrase.Followed rest) (u : List Char) :
    p.Reads (s ++ ')' :: u) phrase (rest ++ ')' :: u) := by
  induction h with
  | @negated s t rest x hneg _ ih =>
    refine .negated ?_ (ih hrest)
    rw [negation?_local, hneg]
    rfl
  | @namedNot s t rest fault e hneg hfault he hc =>
    obtain ⟨fault', hfault'⟩ := namedNot_local hp hneg hfault he hc hrest u
    refine .namedNot ?_ hfault' (expression_local hp he u) hc
    rw [negation?_local, hneg]
    rfl
  | @parenthesised t rest after x hclose hx hafter ih =>
    have htrim : trimStart (t ++ ')' :: u) = trimStart t ++ ')' :: u :=
      trimStart_close t u
    rw [List.cons_append]
    refine .parenthesised (fun v hv => ?_) (htrim.symm ▸ ih (Or.inr ⟨after, hafter⟩)) ?_
    · rw [htrim] at hv
      cases ht : trimStart t with
      | nil =>
        rw [ht] at hx
        exact chain_ne_nil hp.solid hx
      | cons c w =>
        rw [ht] at hv
        obtain rfl : c = ')' := (List.cons.inj hv).1
        exact hclose w ht
    · rw [trimStart_close, hafter, List.cons_append]
  | @expression s rest e hneg hparen he =>
    refine .expression ?_ (fun t ht => ?_) (expression_local hp he u)
    · rw [negation?_local, hneg]
      rfl
    · cases s with
      | nil => simp at ht
      | cons c w =>
        obtain rfl : c = '(' := (List.cons.inj ht).1
        exact hparen w rfl
  | chain _ htail ihfirst ihtail =>
    exact .chain (ihfirst (continues_of_tail htail hrest)) (ihtail hrest)
  | @done s hc =>
    refine .done ?_
    rw [connectiveAt?_local, hc]
    rfl
  | @next s t v rest c x links hc _ hlinks ihx ihlinks =>
    refine .next ?_ (ihx (continues_of_tail hlinks hrest)) (ihlinks hrest)
    rw [connectiveAt?_local, hc]
    rfl

end DisplayFilter
