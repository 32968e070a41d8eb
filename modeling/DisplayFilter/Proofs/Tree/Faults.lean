import DisplayFilter.Proofs.Cursor.Boundaries
import DisplayFilter.Proofs.Literal.WrittenForm
import DisplayFilter.Proofs.Tree.Derivation

/-!
# Where faults come from

A parser that fails does so in an expression, which may stand anywhere in the text, or between expressions.
Faults of literals are those of expressions, so that what is said about reading a literal can be said about
whole filters.

* `Parser.FaultIn` — the faults of a text, by the places that they come from;
* **`operand_faultIn`**, **`parse_eq_error`** — a parser gives no other faults;
* **`Literal.read_mismatchedQuotes_iff`** — which literals have mismatched quotes;
* `ClosesLater` — a quote in a list that is closed and still said to be mismatched;
* **`parse_mismatchedQuotes`** — what mismatched quotes in a filter are, `parse_matchedQuotes` — a filter
  without them that is said to have them.
-/

namespace DisplayFilter

open Text

/-! ### Faults and their places -/

/-- **The faults of a text:** those of the expressions that may stand in it, and those of the grammar around
expressions. -/
inductive Parser.FaultIn (p : Parser) (text : List Char) : ParseStop → Prop
  | expression {s : List Char} {fault : ParseStop} :
      s <:+ text → p.expression s = .error fault → p.FaultIn text fault
  | emptyParentheses {place : List Char} :
      place <:+ text → p.FaultIn text (.emptyParentheses place)
  | expectedClosing {place : List Char} :
      place <:+ text → p.FaultIn text (.expectedClosing place)
  | unexpected {place : List Char} :
      place <:+ text → p.FaultIn text (.unexpected (String.ofList place) place)

variable {p : Parser}

/-- A fault of an end piece is one of the text. -/
theorem Parser.FaultIn.of_suffix {s text : List Char} {fault : ParseStop} (h : p.FaultIn s fault)
    (hs : s <:+ text) : p.FaultIn text fault := by
  cases h with
  | expression hplace hfault => exact .expression (hplace.trans hs) hfault
  | emptyParentheses hplace => exact .emptyParentheses (hplace.trans hs)
  | expectedClosing hplace => exact .expectedClosing (hplace.trans hs)
  | unexpected hplace => exact .unexpected (hplace.trans hs)

/-- A reader of operands that gives the faults of its text. -/
def Parser.FaultsIn (p : Parser) (f : List Char → Except ParseStop (Node × List Char)) : Prop :=
  ∀ s fault, f s = .error fault → p.FaultIn s fault

section Levels

variable {f : List Char → Except ParseStop (Node × List Char)} {s : List Char} {fault : ParseStop}

theorem chainTail_faultIn (hends : LeavesEnds f) (hf : p.FaultsIn f) {fuel : Nat}
    (h : chainTail f fuel s = .error fault) : p.FaultIn s fault := by
  induction fuel generalizing s with
  | zero => simp [chainTail] at h
  | succ fuel ih =>
    unfold chainTail at h
    split at h
    · simp at h
    · next c t hc =>
      have ht : t <:+ s := (connectiveAt?_properEnd hc).1
      rcases bind_eq_error.1 h with hx | ⟨⟨x, u⟩, hx, h⟩
      · exact (hf t fault hx).of_suffix ht
      · have hmore : chainTail f fuel u = .error fault := by
          simpa [bind_eq_error, pure, Except.pure] using h
        exact (ih hmore).of_suffix ((hends _ _ _ hx).trans ht)

theorem chain_faultIn (hends : LeavesEnds f) (hf : p.FaultsIn f) (h : chain f s = .error fault) :
    p.FaultIn s fault := by
  rcases bind_eq_error.1 h with hx | ⟨⟨x, u⟩, hx, h⟩
  · exact hf s fault hx
  · have hmore : chainTail f u.length u = .error fault := by
      simpa [bind_eq_error, pure, Except.pure] using h
    exact (chainTail_faultIn hends hf hmore).of_suffix (hends _ _ _ hx)

/-- One level of nesting gives the faults of its text, if the level below does. -/
theorem operandStep_faultIn (hends : LeavesEnds f) (hf : p.FaultsIn f)
    (h : p.operandStep f s = .error fault) : p.FaultIn s fault := by
  unfold Parser.operandStep at h
  split at h
  · next t ht =>
    split at h
    · simp at h
    · next inner hinner =>
      -- whatever the expression is, the fault is that of the negated operand
      have hfault : inner = fault := by
        split at h
        · split at h
          · simp at h
          · exact Except.error.inj h
        · exact Except.error.inj h
      subst hfault
      exact (hf t inner hinner).of_suffix (negation?_properEnd ht).1
  · split at h
    · next t _ =>
      have ht : trimStart t <:+ '(' :: t :=
        (trimStart_suffix t).trans (List.suffix_cons '(' t)
      split at h
      · next u hu =>
        obtain rfl := Except.error.inj h
        exact .emptyParentheses (hu ▸ ht)
      · rcases bind_eq_error.1 h with hx | ⟨⟨x, rest⟩, hx, h⟩
        · exact (chain_faultIn hends hf hx).of_suffix ht
        · simp only at h
          split at h
          · simp at h
          · obtain rfl := Except.error.inj h
            exact .expectedClosing
              (((trimStart_suffix rest).trans (chain_suffix hends hx)).trans ht)
    · exact .expression List.suffix_rfl (map_eq_error.1 h)

end Levels

/-- **An operand gives the faults of its text.** -/
theorem operand_faultIn (p : Parser) (depth : Nat) : p.FaultsIn (p.operand depth) := by
  induction depth with
  | zero => exact fun s fault h => .expression List.suffix_rfl (map_eq_error.1 h)
  | succ depth ih =>
    exact fun s fault h => operandStep_faultIn (operand_suffix p depth) ih (operand_succ p depth s ▸ h)

theorem parseChars_faultIn {s : List Char} {fault : ParseStop} (h : p.parseChars s = .error fault) :
    p.FaultIn s fault := by
  have hends := operand_suffix p s.length
  rcases bind_eq_error.1 h with hchain | ⟨⟨root, rest⟩, hchain, h⟩
  · exact chain_faultIn hends (operand_faultIn p s.length) hchain
  · simp only at h
    split at h
    · simp [pure, Except.pure] at h
    · obtain rfl := Except.error.inj h
      exact .unexpected ((trimStart_suffix rest).trans (chain_suffix hends hchain))

/-- **An error** names the filter and a fault of the filter, with its positions. -/
theorem parse_eq_error {text : String} {e : ParseError} (h : p.parse text = .error e) :
    ∃ fault, p.FaultIn text.toList fault ∧
      e = ⟨text, fault.mapPlace (bytePosition text.toList)⟩ := by
  unfold Parser.parse at h
  simp only at h
  split at h
  · simp at h
  · obtain ⟨fault, hfault, rfl⟩ := mapError_eq_error.1 h
    exact ⟨fault, (parseChars_faultIn hfault).of_suffix (trimStart_suffix _), rfl⟩

/-! ### Faults of literals -/

theorem field_ne_literal {s : List Char} {fault : LiteralFault (List Char)} :
    p.field s ≠ .error (.literal fault) := by
  intro h
  unfold Parser.field at h
  split at h
  · simp only [anyField] at h
    split at h
    · simp at h
    · simp at h
  · unfold knownField at h
    split at h
    · simp at h
    · simp only at h
      split at h
      · simp at h
      · simp at h

theorem sliceAt_ne_literal {s : List Char} {fault : LiteralFault (List Char)} :
    sliceAt s ≠ .error (.literal fault) := by
  intro h
  unfold sliceAt at h
  split at h
  · simp at h
  · simp at h

/-- A literal that cannot be read at an end piece of a text, with its fault. -/
def LiteralFaultIn (text : List Char) (fault : LiteralFault (List Char)) : Prop :=
  ∃ v stop, v <:+ text ∧ Literal.read v = .error stop ∧ stop.cause = fault

section Literals

variable {s t : List Char} {fault : LiteralFault (List Char)}

theorem LiteralFaultIn.of_suffix (h : LiteralFaultIn s fault) (hs : s <:+ t) :
    LiteralFaultIn t fault := by
  obtain ⟨v, stop, hv, hread, hcause⟩ := h
  exact ⟨v, stop, hv.trans hs, hread, hcause⟩

theorem comparisonAt_literal (h : comparisonAt s = .error (.literal fault)) :
    LiteralFaultIn s fault := by
  obtain ⟨op, v, stop, hop, hread, hfault⟩ := comparisonAt_eq_error h
  exact ⟨v, stop, (operatorAt?_properEnd hop).1, hread, (ParseFault.literal.inj hfault).symm⟩

theorem callBody_literal {f : Function} (h : p.callBody f s = .error (.literal fault)) :
    LiteralFaultIn s fault := by
  rcases bind_eq_error.1 h with hfield | ⟨⟨field, s₁⟩, hfield, h⟩
  · exact absurd hfield field_ne_literal
  rcases bind_eq_error.1 h with hslice | ⟨⟨slice, s₂⟩, hslice, h⟩
  · exact absurd hslice sliceAt_ne_literal
  have hs₂ : s₂ <:+ s :=
    (sliceAt_suffix hslice).trans ((Parser.field_suffix hfield).trans (trimStart_suffix s))
  simp only at h
  split at h
  · next u hu =>
    have hend : u <:+ s := (hu ▸ List.suffix_cons ')' u : u <:+ trimStart s₂).trans
      ((trimStart_suffix s₂).trans hs₂)
    rcases bind_eq_error.1 h with hc | ⟨⟨c, rest⟩, -, h⟩
    · exact (comparisonAt_literal hc).of_suffix hend
    · cases c with
      | none => simp at h
      | some c => simp [pure, Except.pure] at h
  · simp at h

theorem fieldExpression_literal (h : p.fieldExpression s = .error (.literal fault)) :
    LiteralFaultIn s fault := by
  rcases bind_eq_error.1 h with hfield | ⟨⟨field, s₁⟩, hfield, h⟩
  · exact absurd hfield field_ne_literal
  rcases bind_eq_error.1 h with hslice | ⟨⟨slice, s₂⟩, hslice, h⟩
  · exact absurd hslice sliceAt_ne_literal
  rcases bind_eq_error.1 h with hc | ⟨⟨c, rest⟩, -, h⟩
  · exact (comparisonAt_literal hc).of_suffix
      ((sliceAt_suffix hslice).trans (Parser.field_suffix hfield))
  · simp only at h
    split at h
    · simp at h
    · simp [pure, Except.pure] at h

/-- **A fault of a literal** in an expression is one of reading a literal in it. -/
theorem expression_literal (h : p.expression s = .error (.literal fault)) :
    LiteralFaultIn s fault := by
  unfold Parser.expression at h
  split at h
  · next f t hcall => exact (callBody_literal h).of_suffix (Parser.callAt?_suffix hcall)
  · split at h
    · simp at h
    · exact fieldExpression_literal h

/-- **A fault of a literal** in a text is one of reading a literal at an end piece. -/
theorem Parser.FaultIn.literal (h : p.FaultIn s (.literal fault)) : LiteralFaultIn s fault := by
  cases h with
  | expression hs hfault => exact (expression_literal hfault).of_suffix hs

end Literals

/-! ### Mismatched quotes -/

/-- A piece that starts with a quote is no address, and is taken for a bad one if it has two points. -/
theorem addressFault?_quote {q : Char} (hq : isQuote q = true) (piece : List Char) :
    addressFault? (q :: piece) = none ↔ (q :: piece).count '.' < 2 := by
  have hread : ∃ stop, Ipv4Range.read (q :: piece) = .error stop := by
    cases hr : Ipv4Range.read (q :: piece) with
    | error stop => exact ⟨stop, rfl⟩
    | ok answer =>
      have hitem := addressItem?_quote hq piece
      simp [addressItem?, hr, Except.toOption] at hitem
  obtain ⟨stop, hstop⟩ := hread
  unfold addressFault?
  split
  · next hpoints =>
    rw [hstop]
    exact iff_of_false (by simp) (by omega)
  · next hpoints => exact iff_of_true rfl (by omega)

theorem isPieceChar_of_isQuote {q : Char} (h : isQuote q = true) : isPieceChar q = true := by
  simp only [isQuote, Bool.or_eq_true, beq_iff_eq] at h
  rcases h with rfl | rfl
  · decide
  · decide

/-- **What looks like mismatched quotes** in a list that cannot be read: a first piece, up to a blank, a comma
or a closing brace, that opens a quote and does not close it, and is not taken for an address. -/
def MismatchedPiece (s : List Char) : Prop :=
  ∃ q body, isQuote q = true ∧ s = q :: body ∧ q ∉ body.takeWhile isPieceChar ∧
    (s.takeWhile isPieceChar).count '.' < 2

theorem mismatchedPiece_iff {s : List Char} :
    MismatchedPiece s ↔ quotation (s.takeWhile isPieceChar) = .unclosed ∧
      addressFault? (s.takeWhile isPieceChar) = none := by
  rw [quotation_eq_unclosed_iff]
  constructor
  · rintro ⟨q, body, hq, rfl, hbody, hpoints⟩
    rw [List.takeWhile_cons_of_pos (isPieceChar_of_isQuote hq)] at hpoints ⊢
    exact ⟨⟨q, _, hq, hbody, rfl⟩, (addressFault?_quote hq _).2 hpoints⟩
  · rintro ⟨⟨q, body, hq, hbody, hpiece⟩, haddress⟩
    cases s with
    | nil => simp at hpiece
    | cons c s =>
      cases hc : isPieceChar c with
      | false => simp [hc] at hpiece
      | true =>
        rw [List.takeWhile_cons_of_pos hc] at hpiece
        obtain ⟨rfl, rfl⟩ := List.cons.inj hpiece
        rw [List.takeWhile_cons_of_pos hc] at haddress
        refine ⟨c, s, hq, rfl, hbody, ?_⟩
        rw [List.takeWhile_cons_of_pos hc]
        exact (addressFault?_quote hq _).1 haddress

theorem readList_mismatchedQuotes_iff {start s place : List Char} :
    (∃ rest, Literal.readList start s = .error ⟨.mismatchedQuotes place, rest⟩) ↔
      Literal.readBody? s = none ∧ place = trimStart s ∧ MismatchedPiece place := by
  have hfault : Literal.listFault start ((trimStart s).takeWhile isPieceChar) (trimStart s) =
      .mismatchedQuotes place ↔ place = trimStart s ∧ MismatchedPiece (trimStart s) := by
    rw [mismatchedPiece_iff]
    unfold Literal.listFault
    cases haddress : addressFault? ((trimStart s).takeWhile isPieceChar) with
    | some reason => simp
    | none =>
      simp only [and_true]
      split
      · next hquote => simp [hquote, eq_comm]
      · next hquote => simp [hquote]
  unfold Literal.readList
  cases hbody : Literal.readBody? s with
  | some answer => simp
  | none =>
    simp only [Except.error.injEq, Stop.mk.injEq, hfault, exists_and_left, exists_eq', and_true,
      true_and]
    exact and_congr_right fun hplace => by rw [hplace]

/-- **Literals with mismatched quotes:** a quote that opens and does not come again, or a list that cannot be
read and the first piece of which looks like one. -/
theorem Literal.read_mismatchedQuotes_iff {s place : List Char} :
    (∃ rest, Literal.read s = .error ⟨.mismatchedQuotes place, rest⟩) ↔
      (place = s ∧ quotation s = .unclosed) ∨
      ∃ t, s = '\x7b' :: t ∧ Literal.readBody? t = none ∧ place = trimStart t ∧
        MismatchedPiece place := by
  have hbrace : ∀ t, quotation ('\x7b' :: t) = .absent := fun _ => rfl
  by_cases hlist : ∃ t, s = '\x7b' :: t
  · obtain ⟨t, rfl⟩ := hlist
    have hread : Literal.read ('\x7b' :: t) = Literal.readList ('\x7b' :: t) t := rfl
    rw [hread, readList_mismatchedQuotes_iff, hbrace]
    simp
  · have hno : ∀ t, s ≠ '\x7b' :: t := fun t ht => hlist ⟨t, ht⟩
    unfold Literal.read
    cases hs : quotation s with
    | closed body rest => simp [hno]
    | unclosed => simp [hno, eq_comm]
    | absent =>
      cases hword : Lexeme.word? s with
      | some answer => simp [hno]
      | none => simp [hno]

/-- **A quote that is closed** and still said to be mismatched.  It opens the first entry of a list that cannot
be read, and the same quote comes again, but behind the piece up to a blank, a comma or a closing brace,
which is all that is looked at; with two points in it the piece would be a bad address. -/
structure ClosesLater (before : List Char) (q : Char) (after : List Char) : Prop where
  again : q ∈ after
  late : q ∉ after.takeWhile isPieceChar
  points : ((q :: after).takeWhile isPieceChar).count '.' < 2
  opens : ∃ front blanks, before = front ++ '\x7b' :: blanks ∧
    (∀ c ∈ blanks, isBlank c = true) ∧ Literal.readBody? (blanks ++ q :: after) = none

theorem mapPlace_eq_mismatchedQuotes {f : List Char → Nat} {fault : ParseStop} {position : Nat} :
    fault.mapPlace f = .literal (.mismatchedQuotes position) ↔
      ∃ place, fault = .literal (.mismatchedQuotes place) ∧ f place = position := by
  cases fault with
  | literal fault =>
    cases fault with
    | mismatchedQuotes place => simp [ParseFault.mapPlace, LiteralFault.mapPlace]
    | _ => simp [ParseFault.mapPlace, LiteralFault.mapPlace]
  | _ => simp [ParseFault.mapPlace]

/-- A quote with which a first piece is mismatched is the first character of the list behind blanks; it is
closed later if it comes again. -/
theorem MismatchedPiece.place {t : List Char} (h : MismatchedPiece (trimStart t))
    (hbody : Literal.readBody? t = none) (front : List Char) :
    ∃ before q after, front ++ '\x7b' :: t = before ++ q :: after ∧ trimStart t = q :: after ∧
      isQuote q = true ∧ (q ∉ after ∨ ClosesLater before q after) := by
  obtain ⟨q, after, hq, hplace, hlate, hpoints⟩ := h
  have ht : t = t.takeWhile isBlank ++ q :: after := by
    rw [← hplace]
    exact List.takeWhile_append_dropWhile.symm
  refine ⟨front ++ '\x7b' :: t.takeWhile isBlank, q, after, ?_, hplace, hq, ?_⟩
  · rw [List.append_assoc, List.cons_append, ← ht]
  · by_cases hagain : q ∈ after
    · exact Or.inr ⟨hagain, hlate, hplace ▸ hpoints, front, _, rfl, takeWhile_all, ht ▸ hbody⟩
    · exact Or.inl hagain

/-- **Mismatched quotes** are said to be where a quote stands.  Either the same quote does not come again, or it
opens the first entry of a list that cannot be read and is closed behind the first piece. -/
theorem parse_mismatchedQuotes {text filter : String} {position : Nat}
    (h : p.parse text = .error ⟨filter, .literal (.mismatchedQuotes position)⟩) :
    filter = text ∧ ∃ before q after, text.toList = before ++ q :: after ∧
      utf8Size before = position ∧ isQuote q = true ∧ (q ∉ after ∨ ClosesLater before q after) := by
  obtain ⟨fault, hfault, he⟩ := parse_eq_error h
  obtain ⟨hfilter, hplace⟩ := ParseError.mk.inj he
  refine ⟨hfilter, ?_⟩
  obtain ⟨place, rfl, hposition⟩ := mapPlace_eq_mismatchedQuotes.1 hplace.symm
  obtain ⟨v, stop, ⟨front, hfront⟩, hread, hcause⟩ := hfault.literal
  have hread : ∃ rest, Literal.read v = .error ⟨.mismatchedQuotes place, rest⟩ :=
    ⟨stop.rest, by rw [hread, ← hcause]⟩
  rw [← hfront] at hposition ⊢
  rcases Literal.read_mismatchedQuotes_iff.1 hread with ⟨rfl, hquote⟩ | ⟨t, rfl, hbody, rfl, hpiece⟩
  · obtain ⟨q, after, hq, hafter, rfl⟩ := quotation_eq_unclosed_iff.1 hquote
    exact ⟨front, q, after, rfl, by rw [← hposition, bytePosition_of_append], hq, Or.inl hafter⟩
  · obtain ⟨before, q, after, htext, hplace, hq, hlate⟩ := hpiece.place hbody front
    refine ⟨before, q, after, htext, ?_, hq, hlate⟩
    rw [← hposition, htext, hplace, bytePosition_of_append]

/-- A quote that stays open behind a text of more bytes than characters, in a negated operand. -/
theorem parse_mismatchedQuotes_open :
    ({} : Parser).parse "a == 'é' and not b == \"x'" =
        .error ⟨"a == 'é' and not b == \"x'", .literal (.mismatchedQuotes 23)⟩ ∧
      ∃ before q after, "a == 'é' and not b == \"x'".toList = before ++ q :: after ∧
        utf8Size before = 23 ∧ isQuote q = true ∧ (q ∉ after ∨ ClosesLater before q after) := by
  have hparse : ({} : Parser).parse "a == 'é' and not b == \"x'" =
      .error ⟨"a == 'é' and not b == \"x'", .literal (.mismatchedQuotes 23)⟩ := by
    set_option maxRecDepth 4096 in rfl
  exact ⟨hparse, (parse_mismatchedQuotes hparse).2⟩

/-- **Quotes that match** are said to be mismatched: the list has a text in quotes with a blank in it, and
another entry is what cannot be read.  The quote at the position comes again. -/
theorem parse_matchedQuotes :
    ({} : Parser).parse "f in \x7b\"a b\", 5\x7d" =
        .error ⟨"f in \x7b\"a b\", 5\x7d", .literal (.mismatchedQuotes 6)⟩ ∧
      ¬ ∃ before q after, "f in \x7b\"a b\", 5\x7d".toList = before ++ q :: after ∧
        utf8Size before = 6 ∧ isQuote q = true ∧ q ∉ after := by
  constructor
  · set_option maxRecDepth 4096 in rfl
  · rintro ⟨before, q, after, htext, hsize, -, hafter⟩
    have hdrop : dropBytes? 6 "f in \x7b\"a b\", 5\x7d".toList = some (q :: after) := by
      rw [htext, ← hsize]
      exact dropBytes?_append before (q :: after)
    have hrest : dropBytes? 6 "f in \x7b\"a b\", 5\x7d".toList =
        some ('"' :: "a b\", 5\x7d".toList) := rfl
    obtain ⟨rfl, rfl⟩ := List.cons.inj (Option.some.inj (hrest.symm.trans hdrop))
    exact hafter (by decide)

end DisplayFilter
