import DisplayFilter.Proofs.Literal.WrittenForm
import DisplayFilter.Proofs.Slice.WrittenForm
import DisplayFilter.Proofs.Tree.Names
import DisplayFilter.Proofs.Tree.Shape

/-!
# Written filters

The canonical text of a filter reads as the filter.  Each part is followed by one of few characters,
and none of them goes on with the part: a blank in front of a connective or of an operator, a closing
parenthesis or the end of the text.

* `Expression.Writable` — the leaves that have a text, `EndsOperand` — what may follow an operand;
* **`expression_chars`** — the text of an expression reads as the expression;
* **`readsBack_operand`** — the text of an operand reads as the operand;
* **`parse_text`** — the text of a filter reads as the filter.
-/

namespace DisplayFilter

open Text

/-! ### Expressions -/

/-- Whether no number in the literal of an expression is infinite. -/
def Expression.isFinite (e : Expression) : Bool :=
  e.comparison.all (·.literal.isFinite)

/-- Whether the field of an expression is spelled `not` in any case of letters. -/
def Expression.isNamedNot (e : Expression) : Bool :=
  equalCaseless ['n', 'o', 't'] e.field.toList

/-- **An expression that can be written.** -/
structure Expression.Writable (p : Parser) (e : Expression) : Prop where
  licensed : e.Licensed p
  named : p.Names e.field
  slice : ∀ slice, e.slice = some slice → slice.Writable
  literal : ∀ c, e.comparison = some c → c.literal.Writable

/-- What may follow an operand: the end of the text, a closing parenthesis or a connective. -/
inductive EndsOperand : List Char → Prop
  | nil : EndsOperand []
  | close (t : List Char) : EndsOperand (')' :: t)
  | connective (c : Connective) (hc : c ≠ .not) (t : List Char) :
      EndsOperand (' ' :: (c.word.toList ++ ' ' :: t))

theorem EndsOperand.stops_word {tail : List Char} (h : EndsOperand tail) :
    Stops isWordChar tail := by
  cases h with
  | nil => exact stops_nil _
  | close t => exact stops_cons.2 (by decide)
  | connective c hc t => exact stops_cons.2 (by decide)

/-- No operator follows an operand. -/
theorem EndsOperand.operatorAt? {tail : List Char} (h : EndsOperand tail) :
    operatorAt? tail = none := by
  cases h with
  | nil => rfl
  | close t => rfl
  | connective c hc t =>
    cases c with
    | not => exact absurd rfl hc
    | and => rfl
    | or => rfl
    | xor => rfl

theorem operatorAt?_symbol (op : Operator) (t : List Char) :
    operatorAt? (' ' :: (op.symbol.toList ++ ' ' :: t)) = some (op, trimStart t) := by
  cases op <;> rfl

theorem endsName_cons {c : Char} (h : c = ' ' ∨ c = ')' ∨ c = '[') (t : List Char) :
    EndsName (c :: t) := by
  rcases h with rfl | rfl | rfl
  · exact ⟨stops_cons.2 (by decide), stops_cons.2 (not_isCallChar (by simp)), by simp⟩
  · exact ⟨stops_cons.2 (by decide), stops_cons.2 (not_isCallChar (by simp)), by simp⟩
  · exact ⟨stops_cons.2 (by decide), stops_cons.2 (not_isCallChar (by simp)), by simp⟩

theorem EndsOperand.endsName {tail : List Char} (h : EndsOperand tail) : EndsName tail := by
  cases h with
  | nil => exact ⟨stops_nil _, stops_nil _, by simp⟩
  | close t => exact endsName_cons (Or.inr (Or.inl rfl)) t
  | connective c hc t => exact endsName_cons (Or.inl rfl) _

/-- A literal is not written with a blank in front. -/
theorem literal_stops_blank {literal : Literal} (h : literal.Writable) (tail : List Char) :
    Stops isBlank (literal.chars ++ tail) := by
  have hbraced : ∀ entries, Stops isBlank (braced entries ++ tail) := fun entries =>
    stops_cons.2 (by decide)
  cases literal with
  | text s =>
    simp only [Literal.chars, quoted]
    split
    · next hbare =>
      simp only [isBare, Bool.and_eq_true, Bool.not_eq_true', List.all_eq_true,
        List.isEmpty_eq_false_iff] at hbare
      obtain ⟨c, more, hs⟩ := List.exists_cons_of_ne_nil hbare.1.1
      have hc : isWordChar c = true := hbare.2 c (hs ▸ List.mem_cons_self)
      rw [hs, List.cons_append, stops_cons]
      simp only [isWordChar, Bool.and_eq_true, Bool.not_eq_true'] at hc
      exact hc.1.1
    · obtain ⟨q, t, hq, hquote⟩ := enclosed_cons s.toList
      rw [hq, List.cons_append, stops_cons]
      exact not_blank_of_isQuote hquote
  | strings items => exact hbraced _
  | numbers items => exact hbraced _
  | addresses items => exact hbraced _

/-- The characters of a comparison with a blank in front, none without a comparison. -/
def comparisonChars : Option Comparison → List Char
  | none => []
  | some c => ' ' :: (c.operator.symbol.toList ++ ' ' :: c.literal.chars)

theorem Expression.chars_eq (e : Expression) :
    e.chars = e.subject ++ comparisonChars e.comparison := by
  unfold Expression.chars comparisonChars
  cases e.comparison with
  | none => simp
  | some c => simp

/-- **A comparison reads as it was written.** -/
theorem comparisonAt_chars {c : Option Comparison} (h : ∀ x, c = some x → x.literal.Writable)
    {tail : List Char} (htail : EndsOperand tail) :
    comparisonAt (comparisonChars c ++ tail) = .ok (c, tail) := by
  cases c with
  | none =>
    rw [comparisonChars, List.nil_append, comparisonAt, htail.operatorAt?]
  | some c =>
    have hc := h c rfl
    have htext : comparisonChars (some c) ++ tail =
        ' ' :: (c.operator.symbol.toList ++ ' ' :: (c.literal.chars ++ tail)) := by
      simp [comparisonChars]
    rw [htext, comparisonAt, operatorAt?_symbol, trimStart_of_stops (literal_stops_blank hc tail)]
    simp only [Literal.read_chars hc htail.stops_word]

theorem comparisonChars_endsName (c : Option Comparison) {tail : List Char}
    (htail : EndsOperand tail) : EndsName (comparisonChars c ++ tail) := by
  cases c with
  | none => exact htail.endsName
  | some c => exact endsName_cons (Or.inl rfl) _

/-- The characters of a slice, none without a slice. -/
def sliceChars (slice : Option Slice) : List Char :=
  (slice.map Slice.chars).getD []

/-- **A slice reads as it was written,** also if there is none. -/
theorem sliceAt_chars {slice : Option Slice} (h : ∀ x, slice = some x → x.Writable)
    {tail : List Char} (htail : ∀ t, tail ≠ '[' :: t) :
    sliceAt (sliceChars slice ++ tail) = .ok (slice, tail) := by
  cases slice with
  | none =>
    show sliceAt tail = _
    have hread : Slice.read tail = .ok (none, tail) := by
      unfold Slice.read
      split
      · next t => exact absurd rfl (htail t)
      · rfl
    simp only [sliceAt, hread]
  | some slice =>
    show sliceAt (Slice.chars slice ++ tail) = _
    simp only [sliceAt, Slice.read_chars (h slice rfl) tail]

theorem sliceChars_endsName (slice : Option Slice) {tail : List Char} (htail : EndsName tail) :
    EndsName (sliceChars slice ++ tail) := by
  cases slice with
  | none => exact htail
  | some slice => exact endsName_cons (Or.inr (Or.inr rfl)) _

theorem comparisonChars_ne_bracket (c : Option Comparison) {tail : List Char}
    (htail : EndsOperand tail) (t : List Char) : comparisonChars c ++ tail ≠ '[' :: t := by
  cases c with
  | none =>
    cases htail with
    | nil => simp [comparisonChars]
    | close t => simp [comparisonChars]
    | connective c hc t => simp [comparisonChars]
  | some c => simp [comparisonChars]

theorem field_chars_append (field : String) (slice : Option Slice) (c : Option Comparison)
    (tail : List Char) :
    (Expression.mk field slice none c).chars ++ tail =
      field.toList ++ (sliceChars slice ++ (comparisonChars c ++ tail)) := by
  rw [Expression.chars_eq]
  simp [Expression.subject, sliceChars]

theorem call_chars_append (field : String) (slice : Option Slice) (f : Function)
    (c : Option Comparison) (tail : List Char) :
    (Expression.mk field slice (some f) c).chars ++ tail = f.name.toList ++
      '(' :: (field.toList ++ (sliceChars slice ++ ')' :: (comparisonChars c ++ tail))) := by
  rw [Expression.chars_eq]
  simp [Expression.subject, sliceChars]

variable {p : Parser}

/-- **A field expression reads as it was written.** -/
theorem fieldExpression_chars (hp : p.PlainNames) {e : Expression} (h : e.Writable p)
    (hfunction : e.function = none) {tail : List Char} (htail : EndsOperand tail) :
    p.fieldExpression (e.chars ++ tail) = .ok (e, tail) := by
  obtain ⟨field, slice, function, comparison⟩ := e
  simp only at hfunction
  subst hfunction
  have hends := sliceChars_endsName slice (comparisonChars_endsName comparison htail)
  have hcompared : (slice.isSome && comparison.isNone) = false := by
    have hlicensed := h.licensed.compared
    cases slice with
    | none => rfl
    | some slice =>
      cases comparison with
      | none => simp at hlicensed
      | some c => rfl
  rw [field_chars_append]
  simp only [Parser.fieldExpression, field_append hp h.named hends.1,
    sliceAt_chars h.slice (comparisonChars_ne_bracket comparison htail),
    comparisonAt_chars h.literal htail, bind, Except.bind, hcompared, pure, Except.pure,
    Bool.false_eq_true, if_false]

/-- **A comparison of a function reads as it was written.** -/
theorem callBody_chars (hp : p.PlainNames) {field : String} {slice : Option Slice} {f : Function}
    {c : Comparison} (h : (Expression.mk field slice (some f) (some c)).Writable p)
    {tail : List Char} (htail : EndsOperand tail) :
    p.callBody f (field.toList ++ (sliceChars slice ++ ')' :: (comparisonChars (some c) ++ tail))) =
      .ok (⟨field, slice, some f, some c⟩, tail) := by
  have hends := sliceChars_endsName slice
    (endsName_cons (Or.inr (Or.inl rfl)) (comparisonChars (some c) ++ tail))
  have hhead : Stops isBlank
      (field.toList ++ (sliceChars slice ++ ')' :: (comparisonChars (some c) ++ tail))) := by
    obtain ⟨d, more, hd⟩ := List.exists_cons_of_ne_nil h.named.ne_nil
    rw [hd, List.cons_append, stops_cons]
    exact not_blank_of_isFieldChar (h.named.chars d (hd ▸ List.mem_cons_self))
  have hslice : sliceAt (sliceChars slice ++ ')' :: (comparisonChars (some c) ++ tail)) =
      .ok (slice, ')' :: (comparisonChars (some c) ++ tail)) :=
    sliceAt_chars h.slice (by simp)
  simp only [Parser.callBody, trimStart_of_stops hhead, field_append hp h.named hends.1,
    hslice, bind, Except.bind]
  rw [trimStart_cons_of_not_blank (by decide)]
  simp only [comparisonAt_chars h.literal htail, pure, Except.pure]

/-- **An expression reads as it was written.** -/
theorem expression_chars (hp : p.PlainNames) {e : Expression} (h : e.Writable p)
    {tail : List Char} (htail : EndsOperand tail) :
    p.expression (e.chars ++ tail) = .ok (e, tail) := by
  obtain ⟨field, slice, function, comparison⟩ := e
  unfold Parser.expression
  cases function with
  | none =>
    have hends := sliceChars_endsName slice (comparisonChars_endsName comparison htail)
    have hcall := callAt?_field hp h.named.chars hends.1 hends.2.2
    have hword := calledWord?_field h.named.chars hends
    rw [← field_chars_append] at hcall hword
    rw [hcall, hword]
    exact fieldExpression_chars hp h rfl htail
  | some f =>
    cases comparison with
    | none => exact absurd (h.licensed.compared (Or.inr rfl)) (by simp)
    | some c =>
      rw [call_chars_append, callAt?_append hp (h.licensed.registered f rfl)]
      exact callBody_chars hp h htail

theorem function_name (hp : p.PlainNames) {e : Expression} (h : e.Writable p) {f : Function}
    (hf : e.function = some f) :
    f.name.toList ≠ [] ∧ ∀ c ∈ f.name.toList, isFieldChar c = true := by
  have hname := hp.functions f.name (mem_names_of_get? (h.licensed.registered f hf))
  exact ⟨hname.1, fun c hc => isFieldChar_of_isFunctionChar (hname.2 c hc)⟩

/-- An expression starts with a character of a name. -/
theorem expression_chars_cons (hp : p.PlainNames) {e : Expression} (h : e.Writable p) :
    ∃ c s, e.chars = c :: s ∧ isFieldChar c = true := by
  have hcons : ∀ name rest : List Char, name ≠ [] → (∀ c ∈ name, isFieldChar c = true) →
      ∃ c s, name ++ rest = c :: s ∧ isFieldChar c = true := by
    intro name rest hne hall
    obtain ⟨c, more, rfl⟩ := List.exists_cons_of_ne_nil hne
    exact ⟨c, more ++ rest, rfl, hall c List.mem_cons_self⟩
  obtain ⟨field, slice, function, comparison⟩ := e
  cases function with
  | none =>
    rw [← List.append_nil (Expression.chars _), field_chars_append]
    exact hcons _ _ h.named.ne_nil h.named.chars
  | some f =>
    obtain ⟨hne, hall⟩ := function_name hp h rfl
    rw [← List.append_nil (Expression.chars _), call_chars_append]
    exact hcons _ _ hne hall

/-- An expression is no negation unless its field is spelled `not`. -/
theorem negation?_expression (hp : p.PlainNames) {e : Expression} (h : e.Writable p)
    (hnot : e.isNamedNot = false) {tail : List Char} (htail : EndsOperand tail) :
    negation? (e.chars ++ tail) = none := by
  obtain ⟨field, slice, function, comparison⟩ := e
  cases function with
  | none =>
    have hends := sliceChars_endsName slice (comparisonChars_endsName comparison htail)
    rw [field_chars_append]
    exact negation?_name h.named.ne_nil h.named.chars hends.1 (Or.inl hnot)
  | some f =>
    obtain ⟨hne, hall⟩ := function_name hp h rfl
    rw [call_chars_append]
    exact negation?_name hne hall (stops_cons.2 (by decide)) (Or.inr (stops_cons.2 (by decide)))

/-! ### Operands -/

/-- **The text of an operand reads as the operand** in front of anything that may follow it, and
starts with neither a blank nor a closing parenthesis. -/
structure Node.ReadsBack (p : Parser) (x : Node) : Prop where
  head : ∃ c s, x.chars = c :: s ∧ isBlank c = false ∧ c ≠ ')'
  reads : ∀ tail, EndsOperand tail → p.Reads (x.chars ++ tail) (.operand x) tail

theorem Node.ReadsBack.trimStart {x : Node} (h : x.ReadsBack p) (tail : List Char) :
    trimStart (x.chars ++ tail) = x.chars ++ tail := by
  obtain ⟨c, s, hs, hblank, -⟩ := h.head
  rw [hs, List.cons_append]
  exact trimStart_cons_of_not_blank hblank _

theorem readsBack_leaf (hp : p.PlainNames) {e : Expression} (h : e.Writable p)
    (hnot : e.isNamedNot = false) : (Node.leaf e).ReadsBack p := by
  obtain ⟨c, s, hs, hc⟩ := expression_chars_cons hp h
  refine ⟨⟨c, s, hs, not_blank_of_isFieldChar hc, ?_⟩, fun tail htail => ?_⟩
  · rintro rfl
    exact absurd hc (by decide)
  · refine .expression (negation?_expression hp h hnot htail) (fun t ht => ?_)
      (expression_chars hp h htail)
    rw [show (Node.leaf e).chars = c :: s from hs] at ht
    obtain rfl : c = '(' := (List.cons.inj ht).1
    exact absurd hc (by decide)

/-- What may follow a whole filter: the end of the text or a closing parenthesis. -/
def Closes (tail : List Char) : Prop :=
  tail = [] ∨ ∃ t, tail = ')' :: t

theorem Closes.endsOperand {tail : List Char} (h : Closes tail) : EndsOperand tail := by
  rcases h with rfl | ⟨t, rfl⟩
  · exact .nil
  · exact .close t

theorem Closes.connectiveAt? {tail : List Char} (h : Closes tail) : connectiveAt? tail = none := by
  rcases h with rfl | ⟨t, rfl⟩
  · rfl
  · rfl

theorem connectiveAt?_word {c : Connective} (hc : c ≠ .not) (t : List Char) :
    connectiveAt? (' ' :: (c.word.toList ++ ' ' :: t)) = some (c, trimStart t) := by
  cases c with
  | not => exact absurd rfl hc
  | and => rfl
  | or => rfl
  | xor => rfl

/-- **The connectives and operands behind a first operand** read as they were written. -/
theorem reads_links {links : List (Connective × Node)} (hnot : ∀ link ∈ links, link.1 ≠ .not)
    (h : ∀ link ∈ links, link.2.ReadsBack p) {tail : List Char} (htail : Closes tail) :
    p.Reads (FilterTree.followers (flattened links) ++ tail) (.tail links) tail ∧
      EndsOperand (FilterTree.followers (flattened links) ++ tail) := by
  induction links with
  | nil => exact ⟨.done htail.connectiveAt?, htail.endsOperand⟩
  | cons link links ih =>
    obtain ⟨c, x⟩ := link
    obtain ⟨hlinks, hends⟩ := ih (fun link hlink => hnot link (List.mem_cons_of_mem _ hlink))
      fun link hlink => h link (List.mem_cons_of_mem _ hlink)
    have hc : c ≠ .not := hnot (c, x) List.mem_cons_self
    have hx : x.ReadsBack p := h (c, x) List.mem_cons_self
    have htext : FilterTree.followers (flattened ((c, x) :: links)) ++ tail =
        ' ' :: (c.word.toList ++ ' ' ::
          (x.chars ++ (FilterTree.followers (flattened links) ++ tail))) := by
      simp [flattened, FilterTree.followers, Node.chars]
    rw [htext]
    refine ⟨.next (connectiveAt?_word hc _) ?_ hlinks, .connective c hc _⟩
    rw [hx.trimStart]
    exact hx.reads _ hends

/-- A negated operand reads as it was written, without its parentheses. -/
theorem reads_negated {x : Node} (h : x.ReadsBack p) {tail : List Char} (htail : Closes tail) :
    p.Reads (FilterTree.sequence [.connective .not, x] ++ tail)
      (.chain (.group [.connective .not, x])) tail := by
  have htext : FilterTree.sequence [.connective .not, x] ++ tail =
      'n' :: 'o' :: 't' :: ' ' :: (x.chars ++ tail) := by
    simp [FilterTree.sequence, FilterTree.followers, Node.chars, Connective.word]
  have hneg : negation? ('n' :: 'o' :: 't' :: ' ' :: (x.chars ++ tail)) =
      some (trimStart (x.chars ++ tail)) := rfl
  rw [htext]
  refine Parser.Reads.alone (.negated hneg ?_) htail.connectiveAt?
  rw [h.trimStart]
  exact h.reads tail htail.endsOperand

/-- Operands with connectives between them read as they were written, without their parentheses. -/
theorem reads_joined {first : Node} {links : List (Connective × Node)} (hne : links ≠ [])
    (hfirst : first.ReadsBack p) (hnot : ∀ link ∈ links, link.1 ≠ .not)
    (hlinks : ∀ link ∈ links, link.2.ReadsBack p) {tail : List Char} (htail : Closes tail) :
    p.Reads (FilterTree.sequence (first :: flattened links) ++ tail)
      (.chain (.group (first :: flattened links))) tail := by
  obtain ⟨hreads, hends⟩ := reads_links hnot hlinks htail
  have hjoined : joined first links = .group (first :: flattened links) := by
    cases links with
    | nil => exact absurd rfl hne
    | cons link links => rfl
  rw [FilterTree.sequence, List.append_assoc, ← hjoined]
  exact .chain (hfirst.reads _ hends) hreads

/-- **A group reads as it was written** if its nodes read so without the parentheses. -/
theorem readsBack_group {nodes : List Node}
    (hhead : ∃ c s, FilterTree.sequence nodes = c :: s ∧ isBlank c = false ∧ c ≠ ')')
    (h : ∀ tail, Closes tail →
      p.Reads (FilterTree.sequence nodes ++ tail) (.chain (.group nodes)) tail) :
    (Node.group nodes).ReadsBack p := by
  obtain ⟨c, s, hs, hblank, hclose⟩ := hhead
  refine ⟨⟨'(', _, rfl, by decide, by decide⟩, fun tail _ => ?_⟩
  have htext : (Node.group nodes).chars ++ tail =
      '(' :: (FilterTree.sequence nodes ++ ')' :: tail) := by
    simp [Node.chars]
  have htrim : trimStart (FilterTree.sequence nodes ++ ')' :: tail) =
      FilterTree.sequence nodes ++ ')' :: tail := by
    rw [hs, List.cons_append]
    exact trimStart_cons_of_not_blank hblank _
  rw [htext]
  refine .parenthesised (fun u hu => ?_) (htrim.symm ▸ h (')' :: tail) (Or.inr ⟨tail, rfl⟩))
    (trimStart_cons_of_not_blank (by decide) tail)
  rw [htrim, hs] at hu
  exact hclose (List.cons.inj hu).1

theorem leaves_of_link {links : List (Connective × Node)} {link : Connective × Node}
    (h : link ∈ links) {e : Expression} (he : e ∈ link.2.leaves) :
    e ∈ FilterTree.leaves (flattened links) := by
  induction links with
  | nil => simp at h
  | cons other links ih =>
    simp only [flattened, FilterTree.leaves, Node.leaves, List.nil_append, List.mem_append]
    rcases List.mem_cons.1 h with rfl | h
    · exact Or.inl he
    · exact Or.inr (ih h)

/-- **Operands read as they were written.** -/
theorem readsBack_operand (hp : p.PlainNames) {x : Node} (hx : x.Operand)
    (hleaves : ∀ e ∈ x.leaves, e.Writable p ∧ e.isNamedNot = false) : x.ReadsBack p := by
  induction hx with
  | leaf e =>
    obtain ⟨hwritable, hnot⟩ := hleaves e (by simp [Node.leaves])
    exact readsBack_leaf hp hwritable hnot
  | @negated x _ ih =>
    have hx := ih fun e he => hleaves e (by simpa [Node.leaves, FilterTree.leaves] using he)
    exact readsBack_group ⟨'n', _, rfl, by decide, by decide⟩ fun tail htail =>
      reads_negated hx htail
  | @joined first links hne _ hnot _ ihfirst ihlinks =>
    simp only [Node.leaves, FilterTree.leaves, List.mem_append] at hleaves
    have hfirst := ihfirst fun e he => hleaves e (Or.inl he)
    have hlinks := fun link hlink => ihlinks link hlink fun e he =>
      hleaves e (Or.inr (leaves_of_link hlink he))
    obtain ⟨c, s, hs, hblank, hclose⟩ := hfirst.head
    refine readsBack_group ⟨c, s ++ FilterTree.followers (flattened links), ?_, hblank, hclose⟩
      fun tail htail => reads_joined hne hfirst hnot hlinks htail
    rw [FilterTree.sequence, hs, List.cons_append]

/-! ### Filters -/

/-- **The text of an expression parses to the expression,** unless it starts with a negation. -/
theorem parse_expression (hp : p.PlainNames) {e : Expression} (h : e.Writable p)
    (hnegation : negation? e.chars = none) : p.parse e.text = .ok [.leaf e] := by
  obtain ⟨c, s, hs, hc⟩ := expression_chars_cons hp h
  have htrim : trimStart e.text.toList = e.chars := by
    rw [Expression.text, String.toList_ofList, hs]
    exact trimStart_cons_of_not_blank (not_blank_of_isFieldChar hc) s
  have hread : p.Reads (e.chars ++ []) (.operand (.leaf e)) [] := by
    refine .expression (by rw [List.append_nil, hnegation]) (fun t ht => ?_)
      (expression_chars hp h .nil)
    rw [hs] at ht
    obtain rfl : c = '(' := (List.cons.inj ht).1
    exact absurd hc (by decide)
  rw [List.append_nil] at hread
  rw [parse_eq_ok_iff, htrim]
  exact Or.inr ⟨by simp [hs], _, [], hread.alone rfl, rfl, rfl⟩

/-- **A filter of one root reads as it was written,** and its text has no blank in front. -/
theorem reads_root (hp : p.PlainNames) {x : Node} (hx : x.Operand)
    (hleaves : ∀ e ∈ x.leaves, e.Writable p ∧ e.isNamedNot = false) :
    (∃ c s, FilterTree.chars [x] = c :: s ∧ isBlank c = false) ∧
      p.Reads (FilterTree.chars [x]) (.chain x) [] := by
  have hend : Closes [] := Or.inl rfl
  cases hx with
  | leaf e =>
    have hback := readsBack_operand hp (.leaf e) hleaves
    have htext : FilterTree.chars [.leaf e] = (Node.leaf e).chars ++ [] := by
      simp [FilterTree.chars, FilterTree.sequence, FilterTree.followers]
    obtain ⟨c, s, hs, hblank, -⟩ := hback.head
    rw [htext]
    exact ⟨⟨c, s, by rw [hs, List.append_nil], hblank⟩,
      (hback.reads [] .nil).alone rfl⟩
  | @negated x hx =>
    have hback := readsBack_operand hp hx fun e he =>
      hleaves e (by simpa [Node.leaves, FilterTree.leaves] using he)
    refine ⟨⟨'n', _, rfl, by decide⟩, ?_⟩
    rw [← List.append_nil (FilterTree.chars _)]
    exact reads_negated hback hend
  | @joined first links hne hfirst hnot hlinks =>
    simp only [Node.leaves, FilterTree.leaves, List.mem_append] at hleaves
    have hbackfirst := readsBack_operand hp hfirst fun e he => hleaves e (Or.inl he)
    have hback := fun link hlink => readsBack_operand hp (hlinks link hlink) fun e he =>
      hleaves e (Or.inr (leaves_of_link hlink he))
    obtain ⟨c, s, hs, hblank, -⟩ := hbackfirst.head
    refine ⟨⟨c, s ++ FilterTree.followers (flattened links), ?_, hblank⟩, ?_⟩
    · rw [FilterTree.chars, FilterTree.sequence, hs, List.cons_append]
    · rw [← List.append_nil (FilterTree.chars _)]
      exact reads_joined hne hbackfirst hnot hback hend

theorem writable_of_expression (hp : p.PlainNames) {s rest : List Char} {e : Expression}
    (h : p.expression s = .ok (e, rest)) (hfinite : e.isFinite = true) : e.Writable p := by
  have hlicensed := expression_licensed h
  have hliteral : ∀ {t rest : List Char} {c : Option Comparison},
      comparisonAt t = .ok (c, rest) → (∀ x, c = some x → x.literal.isFinite = true) →
      ∀ x, c = some x → x.literal.Writable := by
    intro t rest c hc hfin x hx
    subst hx
    unfold comparisonAt at hc
    split at hc
    · simp at hc
    · split at hc
      · next literal u hu =>
        obtain ⟨rfl, -⟩ : Comparison.mk _ literal = x ∧ _ := by simpa using hc
        exact Literal.writable_of_read hu (hfin _ rfl)
      · simp at hc
  have hslice : ∀ {t rest : List Char} {slice : Option Slice}, sliceAt t = .ok (slice, rest) →
      ∀ x, slice = some x → x.Writable := by
    intro t rest slice hs x hx
    subst hx
    unfold sliceAt at hs
    split at hs
    · next answer hanswer =>
      obtain rfl : answer = (some x, rest) := by simpa using hs
      exact writable_of_read hanswer
    · simp at hs
  rcases Parser.expression_eq_ok h with ⟨f, t, -, h⟩ | ⟨-, -, h⟩
  · obtain ⟨field, s₁, slice, s₂, u, c, h₁, h₂, -, h₃, rfl⟩ := Parser.callBody_eq_ok h
    refine ⟨hlicensed, names_of_field hp h₁, hslice h₂, hliteral h₃ fun x hx => ?_⟩
    obtain rfl := Option.some.inj hx
    simpa [Expression.isFinite] using hfinite
  · obtain ⟨field, s₁, slice, s₂, c, h₁, h₂, h₃, -, rfl⟩ := Parser.fieldExpression_eq_ok h
    refine ⟨hlicensed, names_of_field hp h₁, hslice h₂, hliteral h₃ fun x hx => ?_⟩
    subst hx
    simpa [Expression.isFinite] using hfinite

theorem writable_of_parse (hp : p.PlainNames) {text : String} {tree : FilterTree}
    (h : p.parse text = .ok tree) :
    ∀ e ∈ FilterTree.leaves tree, e.isFinite = true → e.Writable p := by
  rcases parse_eq_ok_iff.1 h with ⟨-, rfl⟩ | ⟨-, x, rest, hx, -, rfl⟩
  · simp [FilterTree.leaves]
  · have hleaves := forall_leaves_of_reads (P := fun e => e.isFinite = true → e.Writable p)
      (fun s e rest he hfinite => writable_of_expression hp he hfinite) hx
    simpa [FilterTree.leaves, Phrase.leaves] using hleaves

/-- **Canonical texts.**  The text of a filter that parses reads as the same filter, if no field is
spelled `not` and no number in a list is infinite. -/
theorem parse_text (hp : p.PlainNames) {text : String} {tree : FilterTree}
    (h : p.parse text = .ok tree)
    (hnot : ∀ e ∈ FilterTree.leaves tree, e.isNamedNot = false)
    (hfinite : ∀ e ∈ FilterTree.leaves tree, e.isFinite = true) :
    p.parse (FilterTree.text tree) = .ok tree := by
  have hwritable := writable_of_parse hp h
  rw [parse_eq_ok_iff]
  rcases (parse_shaped h).1 with rfl | ⟨root, rfl, hroot⟩
  · exact Or.inl ⟨rfl, rfl⟩
  · have hleaves : ∀ e ∈ root.leaves, e.Writable p ∧ e.isNamedNot = false := by
      intro e he
      have hmem : e ∈ FilterTree.leaves [root] := by simpa [FilterTree.leaves] using he
      exact ⟨hwritable e hmem (hfinite e hmem), hnot e hmem⟩
    obtain ⟨⟨c, s, hs, hblank⟩, hreads⟩ := reads_root hp hroot hleaves
    have htrim : trimStart (FilterTree.text [root]).toList = FilterTree.chars [root] := by
      rw [FilterTree.text, String.toList_ofList, hs]
      exact trimStart_cons_of_not_blank hblank s
    refine Or.inr ⟨?_, root, [], htrim.symm ▸ hreads, rfl, rfl⟩
    rw [htrim, hs]
    simp

/-- A filter with a slice, a function, both kinds of quotes and lists of numbers and addresses. -/
theorem parse_text_lists :
    ∃ tree, ({} : Parser).parse
      "!(a[1-2] IN \x7b1 .. 2.50,-0\x7d || len(b) >= '\"x\"') ^ c In \x7b10.1.2.3/8,6.*.7.8,9\x7d" =
        .ok tree ∧
      FilterTree.text tree =
      "(not (a[0:2] in \x7b1..2.5, -0\x7d or len(b) >= '\"x\"')) xor c in \x7b10.*.*.*, 6.*.7.8,9\x7d" ∧
      ({} : Parser).parse (FilterTree.text tree) = .ok tree := by
  have hparse : (({} : Parser).parse
      "!(a[1-2] IN \x7b1 .. 2.50,-0\x7d || len(b) >= '\"x\"') ^ c In \x7b10.1.2.3/8,6.*.7.8,9\x7d"
      ).toOption.map (fun tree => (FilterTree.text tree,
        (FilterTree.leaves tree).all fun e => !e.isNamedNot && e.isFinite)) = some
      ("(not (a[0:2] in \x7b1..2.5, -0\x7d or len(b) >= '\"x\"')) xor c in \x7b10.*.*.*, 6.*.7.8,9\x7d",
        true) := by
    decide +kernel
  obtain ⟨tree, htree, h⟩ := Option.map_eq_some_iff.1 hparse
  obtain ⟨htext, hleaves⟩ := Prod.mk.inj h
  simp only [List.all_eq_true, Bool.and_eq_true, Bool.not_eq_true'] at hleaves
  have hok := toOption_eq_some.1 htree
  exact ⟨tree, hok, htext, parse_text plainNames_standard hok (fun e he => (hleaves e he).1)
    fun e he => (hleaves e he).2⟩

end DisplayFilter
