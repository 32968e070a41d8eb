import DisplayFilter.Proofs.Cursor.Literals
import DisplayFilter.Proofs.Cursor.Slices
import DisplayFilter.Proofs.Tree.Names

/-!
# The grammar with a cursor

Filters are read with one cursor for the whole text.  It goes back where a word turns out to be no operator,
no negation or no function, and where the operand of what looks like a negation cannot be read.

* `Scan.spaced` — an operator or a connective between blanks, `Scan.negation` — a negation;
* `Scan.field`, `Scan.expression` — a field, and a comparison or a presence test;
* `Scan.chain`, `Scan.operand`, `Scan.filter` — operands with connectives, one operand, a whole filter;
* **`tracks_expression`**, **`tracks_operand`**, **`tracks_filter`** — they do what the parser does.
-/

namespace DisplayFilter

open Text

namespace Scan

variable {ε α : Type}

/-! ### Words -/

/-- A word in any case of letters with blanks behind it.  If the blanks are missing, the cursor stays behind
the word. -/
def eatWord (word : List Char) : Scan ε Bool := do
  if (← eatCaseless word) then eatBlanks
  else pure false

/-- **The first of some words** that comes next: what it stands for. -/
def keyword : List (String × α) → Scan ε (Option α)
  | [] => pure none
  | (word, meaning) :: words => do
    let start ← position
    if (← eatWord word.toList) then pure (some meaning)
    else do
      reset start
      keyword words

/-- **A word between blanks:** an operator or a connective. -/
def spaced (words : List (String × α)) : Scan ε (Option α) := do
  let start ← position
  if (← eatBlanks) then do
    match ← keyword words with
    | some meaning => pure (some meaning)
    | none => do
      reset start
      pure none
  else do
    reset start
    pure none

/-- One character forwards. -/
def bump : Scan ε Unit := do
  match ← peek with
  | some c => advance c.utf8Size
  | none => pure ()

/-- **A negation.** -/
def negation : Scan ε Bool := do
  let start ← position
  if (← eatWord ['n', 'o', 't']) then pure true
  else do
    reset start
    let next ← peek
    let unequal := (dropText? ['!', '='] (← rest)).isSome
    if next = some '!' ∧ unequal = false then do
      bump
      let _ ← skipBlanks
      pure true
    else pure false

/-! ### Fields, slices and comparisons -/

/-- A field of any name. -/
def anyField : Scan (ParseFault Nat) String := do
  let word ← takeWhile isFieldChar
  if word.isEmpty then faultHere .expectedField
  else pure (String.ofList word)

/-- A field out of a list of names. -/
def knownField (names : List String) : Scan (ParseFault Nat) String := do
  let s ← rest
  match longestStart? names s with
  | some name => do
    let _ ← eat name.toList
    pure name
  | none =>
    if (s.takeWhile isFieldChar).isEmpty then faultHere .expectedField
    else fault (.unknownField (String.ofList (s.takeWhile isFieldChar)))

/-- **A field.** -/
def field (p : Parser) : Scan (ParseFault Nat) String :=
  if p.fieldNames.isEmpty then anyField else knownField p.fieldNames

/-- A slice, if there is one. -/
def sliceAt : Scan (ParseFault Nat) (Option Slice) :=
  mapFault .slice slice

/-- **The right half of a comparison,** if an operator follows. -/
def comparison : Scan (ParseFault Nat) (Option Comparison) := do
  match ← spaced Operator.spellings with
  | none => pure none
  | some operator => return some ⟨operator, ← mapFault .literal literal⟩

/-! ### Expressions -/

/-- The function that is called here; the text is cut behind its name. -/
def callee (p : Parser) : Scan ε (Option Function) := do
  let s ← rest
  match p.functions.longestAt? s with
  | none => pure none
  | some f => do
    let behind ← textFrom s (utf8Size f.name.toList)
    pure (if behind.head? = some '(' then some f else none)

/-- A word in front of a parenthesis, without a step forwards. -/
def calledWord : Scan ε (Option String) := do
  let start ← position
  let word ← takeWhile isCallChar
  let next ← peek
  reset start
  pure (if !word.isEmpty && next == some '(' then some (String.ofList word) else none)

/-- A comparison of a function of a field. -/
def call (p : Parser) (f : Function) : Scan (ParseFault Nat) Expression := do
  let _ ← eat f.name.toList
  let _ ← eat ['(']
  let _ ← skipBlanks
  let name ← field p
  let slice ← sliceAt
  let _ ← skipBlanks
  if (← eat [')']) then do
    match ← comparison with
    | some c => pure ⟨name, slice, some f, some c⟩
    | none => faultHere (.functionAlone f.name)
  else faultHere .expectedArgumentEnd

/-- A field that is compared, or asked for its presence. -/
def fieldExpression (p : Parser) : Scan (ParseFault Nat) Expression := do
  let name ← field p
  let slice ← sliceAt
  let comparison ← comparison
  if slice.isSome && comparison.isNone then faultHere .sliceAlone
  else pure ⟨name, slice, none, comparison⟩

/-- **An expression.** -/
def expression (p : Parser) : Scan (ParseFault Nat) Expression := do
  match ← callee p with
  | some f => call p f
  | none =>
    match ← calledWord with
    | some name => fault (.unknownFunction name)
    | none => fieldExpression p

/-! ### Operands -/

/-- The connectives and operands behind the first operand, `fuel` of them at most. -/
def chainTail (operand : Scan (ParseFault Nat) Node) : Nat → Scan (ParseFault Nat) (List Node)
  | 0 => fail .unfinished
  | fuel + 1 => do
    match ← spaced Connective.spellings with
    | none => pure []
    | some c => do
      let x ← operand
      let more ← chainTail operand fuel
      pure (.connective c :: x :: more)

/-- **Operands with connectives between them.** -/
def chain (operand : Scan (ParseFault Nat) Node) : Scan (ParseFault Nat) Node := do
  let first ← operand
  let more ← chainTail operand ((← rest).length + 1)
  pure (if more.isEmpty then first else .group (first :: more))

/-- An operand that is not negated. -/
def atom (p : Parser) (operand : Scan (ParseFault Nat) Node) : Scan (ParseFault Nat) Node := do
  if (← eat ['(']) then do
    let _ ← skipBlanks
    if (← peek) = some ')' then faultHere .emptyParentheses
    else do
      let x ← chain operand
      let _ ← skipBlanks
      if (← eat [')']) then pure x
      else faultHere .expectedClosing
  else return .leaf (← expression p)

/-- **One level of nesting:** an operand whose inner operands are read by `inner`. -/
def operandStep (p : Parser) (inner : Scan (ParseFault Nat) Node) : Scan (ParseFault Nat) Node := do
  let start ← position
  if (← negation) then do
    match ← attempt inner with
    | .ok x => pure (.group [.connective .not, x])
    | .error e => do
      reset start
      match ← attempt (expression p) with
      | .ok named => if named.comparison.isSome then pure (.leaf named) else fault e
      | .error _ => fault e
  else atom p inner

/-- **One operand,** with `depth` levels of nesting at most. -/
def operand (p : Parser) : Nat → Scan (ParseFault Nat) Node
  | 0 => fail .unfinished
  | depth + 1 => operandStep p (operand p depth)

/-- Whether the cursor is at the end. -/
def atEnd : Scan ε Bool := do
  let src ← source
  return decide (utf8Size src ≤ (← position))

/-- **A filter** that is not blank. -/
def filter (p : Parser) : Scan (ParseFault Nat) FilterTree := do
  let _ ← skipBlanks
  let depth := (← source).length + 1
  let root ← chain (operand p depth)
  let _ ← skipBlanks
  if (← atEnd) then pure [root]
  else do
    let s ← rest
    faultHere (.unexpected (String.ofList s))

end Scan

/-! ### Words -/

section Words

variable {ε ε' α : Type} {reported : ε' → ε → Prop} {src s t : List Char}

/-- After a word with blanks behind it; if the blanks are missing, the cursor may stay behind the word. -/
theorem tracks_eatWord_bind {word : List Char} {f : Bool → Scan ε α} {y : Except ε' (α × List Char)}
    (hs : s <:+ src)
    (hnone : (dropCaseless? word s).bind blanks? = none → ∀ place,
      Tracks reported src (f false) place y)
    (hsome : ∀ t, (dropCaseless? word s).bind blanks? = some t → t <:+ src →
      Tracks reported src (f true) (bytePosition src t) y) :
    Tracks reported src (Scan.eatWord word >>= f) (bytePosition src s) y := by
  have heat := @tracks_eatCaseless ε ε' reported src s word hs
  cases hword : dropCaseless? word s with
  | none =>
    rw [hword] at heat hnone
    have hfalse := heat.step_false (g := pure false) (f := Scan.eatBlanks) (tracks_pure hs false)
    exact hfalse.step (hnone rfl _)
  | some u =>
    rw [hword] at heat hnone hsome
    have hblanks := heat.step_true (g := pure false) (tracks_eatBlanks heat.suffix)
    refine hblanks.bind_eaten ?_ ?_
    · intro h _
      exact hnone h _
    · intro t h ht
      exact hsome t h ht

theorem tracks_keyword (words : List (String × α)) (hs : s <:+ src) :
    Tracks reported src (Scan.keyword words : Scan ε (Option α)) (bytePosition src s)
      (.ok (tried (keyword? words s) s)) := by
  induction words with
  | nil => exact tracks_pure hs none
  | cons first words ih =>
    obtain ⟨word, meaning⟩ := first
    refine (tracks_position hs).step ?_
    simp only [keyword?, List.findSome?_cons]
    refine tracks_eatWord_bind hs ?_ ?_
    · intro hnone place
      rw [hnone]
      exact (tracks_reset hs).step ih
    · intro t hword ht
      rw [hword]
      exact tracks_pure ht (some meaning)

/-- **A word between blanks.** -/
theorem tracks_spaced (words : List (String × α)) (hs : s <:+ src) :
    Tracks reported src (Scan.spaced words : Scan ε (Option α)) (bytePosition src s)
      (.ok (tried ((blanks? s).bind (keyword? words)) s)) := by
  refine (tracks_position hs).step ?_
  refine (tracks_eatBlanks hs).bind_eaten ?_ ?_
  · intro hnone _
    rw [hnone]
    exact (tracks_reset hs).step (tracks_pure hs none)
  · intro t hblanks ht
    rw [hblanks, Option.bind_some]
    refine (tracks_keyword words ht).bind_tried ?_ ?_
    · intro hnone _
      rw [hnone]
      exact (tracks_reset hs).step (tracks_pure hs none)
    · intro meaning u hmeaning hu
      rw [hmeaning]
      exact tracks_pure hu (some meaning)

theorem tracks_bump {c : Char} (h : c :: t <:+ src) :
    Tracks reported src (Scan.bump : Scan ε Unit) (bytePosition src (c :: t)) (.ok ((), t)) :=
  (tracks_peek h).step (@tracks_advance ε ε' reported src t [c] h)

/-- **Negations.** -/
theorem tracks_negation (hs : s <:+ src) :
    Tracks reported src (Scan.negation : Scan ε Bool) (bytePosition src s)
      (.ok (eaten (negation? s) s)) := by
  refine (tracks_position hs).step ?_
  unfold negation?
  refine tracks_eatWord_bind hs ?_ ?_
  · intro hnone place
    rw [hnone]
    refine (tracks_reset hs).step ?_
    refine (tracks_peek hs).step ?_
    refine (tracks_rest hs).step ?_
    show Tracks _ src (if s.head? = some '!' ∧ (dropText? ['!', '='] s).isSome = false then _ else _) _ _
    by_cases hmark : s.head? = some '!' ∧ (dropText? ['!', '='] s).isSome = false
    · rw [if_pos hmark]
      simp only
      split
      · nomatch hmark.2
      · next t _ =>
        have ht : t <:+ src := (List.suffix_cons '!' t).trans hs
        refine (tracks_bump hs).step ?_
        exact (tracks_skipBlanks ht).step (tracks_pure ((trimStart_suffix t).trans ht) true)
      · next hother =>
        obtain ⟨t, ht⟩ := List.head?_eq_some_iff.1 hmark.1
        exact (hother t ht).elim
    · rw [if_neg hmark]
      simp only
      split
      · exact tracks_pure hs false
      · next t hequal =>
        refine (hmark ⟨rfl, ?_⟩).elim
        rw [Option.isSome_eq_false_iff, Option.isNone_iff_eq_none]
        refine Option.eq_none_iff_forall_ne_some.2 fun u hu => ?_
        exact hequal u (List.cons.inj (eq_append_of_dropText? hu)).2
      · exact tracks_pure hs false
  · intro t hnot ht
    rw [hnot]
    exact tracks_pure ht true

end Words

/-! ### Fields, slices and comparisons -/

section Fields

variable {src s : List Char}

theorem tracks_anyField (hs : s <:+ src) :
    Tracks (ParseFault.Reports src) src Scan.anyField (bytePosition src s) (anyField s) := by
  refine (tracks_takeWhile hs isFieldChar).step ?_
  simp only [anyField]
  by_cases hempty : (s.takeWhile isFieldChar).isEmpty = true
  · rw [if_pos hempty, if_pos hempty, dropWhile_of_isEmpty hempty]
    exact tracks_faultHere hs ⟨rfl, isBoundary_bytePosition hs⟩
  · rw [if_neg hempty, if_neg hempty]
    exact tracks_pure ((List.dropWhile_suffix isFieldChar).trans hs) _

theorem tracks_knownField (names : List String) (hs : s <:+ src) :
    Tracks (ParseFault.Reports src) src (Scan.knownField names) (bytePosition src s)
      (knownField names s) := by
  refine (tracks_rest hs).step ?_
  unfold knownField
  cases hknown : longestStart? names s with
  | some name =>
    obtain ⟨t, rfl⟩ := (longestStart?_eq_some_iff.1 hknown).2.1
    have heat := @tracks_eat (ParseFault Nat) ParseStop (ParseFault.Reports src) src _ name.toList hs
    have ht : t <:+ src := (List.suffix_append name.toList t).trans hs
    rw [dropText?_append] at heat
    simp only
    rw [← String.length_toList, List.drop_left]
    exact heat.step (tracks_pure ht name)
  | none =>
    simp only
    by_cases hempty : (s.takeWhile isFieldChar).isEmpty = true
    · rw [if_pos hempty, if_pos hempty]
      exact tracks_faultHere hs ⟨rfl, isBoundary_bytePosition hs⟩
    · rw [if_neg hempty, if_neg hempty]
      exact tracks_fault ⟨rfl, trivial⟩

/-- **Fields.** -/
theorem tracks_field (p : Parser) (hs : s <:+ src) :
    Tracks (ParseFault.Reports src) src (Scan.field p) (bytePosition src s) (p.field s) := by
  unfold Scan.field Parser.field
  split
  · exact tracks_anyField hs
  · exact tracks_knownField p.fieldNames hs

theorem tracks_sliceAt (hs : s <:+ src) :
    Tracks (ParseFault.Reports src) src Scan.sliceAt (bytePosition src s) (sliceAt s) := by
  have hslice : Tracks (ParseFault.Reports src) src Scan.sliceAt (bytePosition src s)
      ((Slice.read s).mapError fun stop => .slice stop.cause) :=
    (tracks_slice hs).mapFault fun _ _ he => ⟨congrArg ParseFault.slice he.1, he.2⟩
  unfold sliceAt
  cases hread : Slice.read s with
  | ok answer =>
    rw [hread] at hslice
    exact hslice
  | error stop =>
    rw [hread] at hslice
    exact hslice

/-- **The right half of a comparison.** -/
theorem tracks_comparison (hs : s <:+ src) :
    Tracks (ParseFault.Reports src) src Scan.comparison (bytePosition src s) (comparisonAt s) := by
  refine (tracks_spaced Operator.spellings hs).bind_tried ?_ ?_
  · intro hnone _
    rw [comparisonAt, operatorAt?, hnone]
    exact tracks_pure hs none
  · intro operator t hoperator ht
    have hliteral : Tracks (ParseFault.Reports src) src (Scan.mapFault .literal Scan.literal)
        (bytePosition src t) ((Literal.read t).mapError fun stop => .literal stop.cause) :=
      (tracks_literal ht).mapFault fun _ _ he => ⟨congrArg ParseFault.literal he.1, he.2⟩
    rw [comparisonAt, operatorAt?, hoperator]
    simp only
    cases hread : Literal.read t with
    | ok answer =>
      obtain ⟨literal, rest⟩ := answer
      rw [hread] at hliteral
      exact hliteral.step (tracks_pure hliteral.suffix _)
    | error stop =>
      rw [hread] at hliteral
      exact hliteral.stop

end Fields

/-! ### Expressions -/

section Expressions

variable {ε ε' : Type} {reported : ε' → ε → Prop} {src s t : List Char}

theorem tracks_callee (p : Parser) (hs : s <:+ src) :
    Tracks reported src (Scan.callee p : Scan ε (Option Function)) (bytePosition src s)
      (.ok ((p.callAt? s).map Prod.fst, s)) := by
  refine (tracks_rest hs).step ?_
  unfold Parser.callAt?
  cases hlongest : p.functions.longestAt? s with
  | none => exact tracks_pure hs none
  | some f =>
    obtain ⟨u, rfl⟩ := append_of_longestAt? hlongest
    refine (tracks_textFrom hs (dropBytes?_append f.name.toList u)).step ?_
    simp only [Option.bind_some, bind, ← String.length_toList, List.drop_left]
    by_cases hopen : u.head? = some '('
    · obtain ⟨t, rfl⟩ := List.head?_eq_some_iff.1 hopen
      rw [if_pos hopen]
      exact tracks_pure hs (some f)
    · rw [if_neg hopen]
      split
      · exact (hopen rfl).elim
      · exact tracks_pure hs none

theorem tracks_calledWord (hs : s <:+ src) :
    Tracks reported src (Scan.calledWord : Scan ε (Option String)) (bytePosition src s)
      (.ok (calledWord? s, s)) := by
  have hbehind := (List.dropWhile_suffix isCallChar).trans hs
  refine (tracks_position hs).step ?_
  refine (tracks_takeWhile hs isCallChar).step ?_
  refine (tracks_peek hbehind).step ?_
  exact (tracks_reset hs).step (tracks_pure hs _)

theorem tracks_call (p : Parser) {f : Function} (hs : s <:+ src) (hcall : p.callAt? s = some (f, t)) :
    Tracks (ParseFault.Reports src) src (Scan.call p f) (bytePosition src s) (p.callBody f t) := by
  have hname := append_of_callAt? hcall
  subst hname
  have hopen : '(' :: t <:+ src := (List.suffix_append f.name.toList _).trans hs
  have ht : t <:+ src := (List.suffix_cons '(' t).trans hopen
  have htrim : trimStart t <:+ src := (trimStart_suffix t).trans ht
  have heat := @tracks_eat (ParseFault Nat) ParseStop (ParseFault.Reports src) src _ f.name.toList hs
  rw [dropText?_append] at heat
  refine heat.step ?_
  refine (tracks_eat_cons hopen).step ?_
  refine (tracks_skipBlanks ht).step ?_
  refine (tracks_field p htrim).bind ?_
  intro name u hu _
  refine (tracks_sliceAt hu).bind ?_
  intro slice v hv _
  have hblanks : trimStart v <:+ src := (trimStart_suffix v).trans hv
  refine (tracks_skipBlanks hv).step ?_
  simp only
  split
  · next w hw =>
    rw [hw] at hblanks ⊢
    have hclose : w <:+ src := (List.suffix_cons ')' w).trans hblanks
    refine (tracks_eat_cons hblanks).step ?_
    refine (tracks_comparison hclose).bind ?_
    intro comparison rest hrest _
    cases comparison with
    | some c => exact tracks_pure hrest _
    | none => exact tracks_faultHere hrest ⟨rfl, isBoundary_bytePosition hrest⟩
  · next hclose =>
    refine (tracks_eat_of_ne hblanks hclose).step ?_
    exact tracks_faultHere hblanks ⟨rfl, isBoundary_bytePosition hblanks⟩

theorem tracks_fieldExpression (p : Parser) (hs : s <:+ src) :
    Tracks (ParseFault.Reports src) src (Scan.fieldExpression p) (bytePosition src s)
      (p.fieldExpression s) := by
  refine (tracks_field p hs).bind ?_
  intro name u hu _
  refine (tracks_sliceAt hu).bind ?_
  intro slice v hv _
  refine (tracks_comparison hv).bind ?_
  intro comparison rest hrest _
  simp only
  by_cases halone : (slice.isSome && comparison.isNone) = true
  · rw [if_pos halone, if_pos halone]
    exact tracks_faultHere hrest ⟨rfl, isBoundary_bytePosition hrest⟩
  · rw [if_neg halone, if_neg halone]
    exact tracks_pure hrest _

/-- **Expressions.** -/
theorem tracks_expression (p : Parser) (hs : s <:+ src) :
    Tracks (ParseFault.Reports src) src (Scan.expression p) (bytePosition src s)
      (p.expression s) := by
  refine (tracks_callee p hs).step ?_
  unfold Parser.expression
  cases hcall : p.callAt? s with
  | some answer =>
    obtain ⟨f, t⟩ := answer
    exact tracks_call p hs hcall
  | none =>
    refine (tracks_calledWord hs).step ?_
    cases calledWord? s with
    | some name => exact tracks_fault ⟨rfl, trivial⟩
    | none => exact tracks_fieldExpression p hs

end Expressions

/-! ### Operands -/

section Operands

variable {ε ε' : Type} {reported : ε' → ε → Prop} {p : Parser} {src s : List Char} {n : Nat}
  {operand : Scan (ParseFault Nat) Node} {f : List Char → Except ParseStop (Node × List Char)}

/-- A cursor that reads operands the way a reader does, where less than `n` characters are left. -/
def TracksOperands (src : List Char) (n : Nat) (operand : Scan (ParseFault Nat) Node)
    (f : List Char → Except ParseStop (Node × List Char)) : Prop :=
  ∀ s, s <:+ src → s.length < n →
    Tracks (ParseFault.Reports src) src operand (bytePosition src s) (f s)

theorem tracks_chainTail (hoperand : TracksOperands src n operand f) (hends : LeavesEnds f)
    {fuel : Nat} (hs : s <:+ src) (hn : s.length < n) (hfuel : s.length ≤ fuel) :
    Tracks (ParseFault.Reports src) src (Scan.chainTail operand (fuel + 1)) (bytePosition src s)
      (chainTail f fuel s) := by
  induction fuel generalizing s with
  | zero =>
    obtain rfl : s = [] := List.eq_nil_of_length_eq_zero (Nat.le_zero.1 hfuel)
    have hspaced := @tracks_spaced (ParseFault Nat) ParseStop _ (ParseFault.Reports src) src []
      Connective.spellings hs
    exact hspaced.step (tracks_pure hs [])
  | succ fuel ih =>
    refine (tracks_spaced Connective.spellings hs).bind_tried ?_ ?_
    · intro hnone _
      rw [chainTail, connectiveAt?, hnone]
      exact tracks_pure hs []
    · intro c t hconnective ht
      have hshort := (connectiveAt?_properEnd hconnective).2
      rw [chainTail, connectiveAt?, hconnective]
      refine (hoperand t ht (by omega)).bind ?_
      intro x u hu hx
      have hlength := (hends t x u hx).length_le
      refine (ih hu (by omega) (by omega)).bind ?_
      intro more rest hrest _
      exact tracks_pure hrest _

/-- **Chains.** -/
theorem tracks_chain (hoperand : TracksOperands src n operand f) (hends : LeavesEnds f)
    (hs : s <:+ src) (hn : s.length < n) :
    Tracks (ParseFault.Reports src) src (Scan.chain operand) (bytePosition src s) (chain f s) := by
  refine (hoperand s hs hn).bind ?_
  intro first t ht hfirst
  have hlength := (hends s first t hfirst).length_le
  refine (tracks_rest ht).step ?_
  refine (tracks_chainTail hoperand hends ht (by omega) (Nat.le_refl _)).bind ?_
  intro more rest hrest _
  exact tracks_pure hrest _

/-- Operands in parentheses, behind the opening one. -/
def parenthesised (f : List Char → Except ParseStop (Node × List Char)) (t : List Char) :
    Except ParseStop (Node × List Char) :=
  match trimStart t with
  | ')' :: u => .error (.emptyParentheses (')' :: u))
  | u => do
    let (x, rest) ← chain f u
    match trimStart rest with
    | ')' :: rest => .ok (x, rest)
    | rest => .error (.expectedClosing rest)

theorem tracks_parenthesised {t : List Char} (hoperand : TracksOperands src n operand f)
    (hends : LeavesEnds f) (hs : '(' :: t <:+ src) (hn : t.length < n) :
    Tracks (ParseFault.Reports src) src (Scan.atom p operand) (bytePosition src ('(' :: t))
      (parenthesised f t) := by
  have ht : t <:+ src := (List.suffix_cons '(' t).trans hs
  have htrim : trimStart t <:+ src := (trimStart_suffix t).trans ht
  have hlength := (trimStart_suffix t).length_le
  refine (tracks_eat_cons hs).step ?_
  refine (tracks_skipBlanks ht).step ?_
  refine (tracks_peek htrim).step ?_
  show Tracks _ src (if (trimStart t).head? = some ')' then _ else _) _ _
  by_cases hempty : (trimStart t).head? = some ')'
  · obtain ⟨u, hu⟩ := List.head?_eq_some_iff.1 hempty
    rw [if_pos hempty, parenthesised]
    rw [hu] at htrim ⊢
    exact tracks_faultHere htrim ⟨rfl, isBoundary_bytePosition htrim⟩
  · rw [if_neg hempty]
    unfold parenthesised
    split
    · next u hu =>
      rw [hu] at hempty
      exact (hempty rfl).elim
    · refine (tracks_chain hoperand hends htrim (by omega)).bind ?_
      intro x rest hrest _
      have hclose : trimStart rest <:+ src := (trimStart_suffix rest).trans hrest
      refine (tracks_skipBlanks hrest).step ?_
      simp only
      split
      · next u hu =>
        rw [hu] at hclose ⊢
        exact (tracks_eat_cons hclose).step (tracks_pure ((List.suffix_cons ')' u).trans hclose) x)
      · next hother =>
        refine (tracks_eat_of_ne hclose hother).step ?_
        exact tracks_faultHere hclose ⟨rfl, isBoundary_bytePosition hclose⟩

/-- **One level of nesting** takes a character. -/
theorem tracks_operandStep (hoperand : TracksOperands src n operand f) (hends : LeavesEnds f)
    (hs : s <:+ src) (hn : s.length < n + 1) :
    Tracks (ParseFault.Reports src) src (Scan.operandStep p operand) (bytePosition src s)
      (p.operandStep f s) := by
  have hexpression := tracks_expression p hs
  refine (tracks_position hs).step ?_
  refine (tracks_negation hs).bind_eaten ?_ ?_
  · intro hnone _
    unfold Parser.operandStep
    rw [hnone]
    simp only [Bool.false_eq_true, if_false]
    split
    · next t _ =>
      rw [List.length_cons] at hn
      exact tracks_parenthesised hoperand hends hs (by omega)
    · next hopen =>
      refine (tracks_eat_of_ne hs hopen).step_false ?_
      cases hread : p.expression s with
      | ok answer =>
        obtain ⟨e, rest⟩ := answer
        rw [hread] at hexpression
        exact hexpression.step (tracks_pure hexpression.suffix _)
      | error fault =>
        rw [hread] at hexpression
        exact hexpression.stop
  · intro t hnegated ht
    have hshort := (negation?_properEnd hnegated).2
    unfold Parser.operandStep
    rw [hnegated]
    simp only [if_true]
    refine (hoperand t ht (by omega)).attempt ?_ ?_
    · intro x u hx hu
      rw [hx]
      exact tracks_pure hu _
    · intro fault e after hfault he
      rw [hfault]
      -- the cursor goes back, for a field that is called `not`
      refine (tracks_reset hs).step ?_
      refine hexpression.attempt ?_ ?_
      · intro named u hnamed hu
        rw [hnamed]
        simp only
        by_cases hcompared : named.comparison.isSome = true
        · rw [if_pos hcompared, if_pos hcompared]
          exact tracks_pure hu _
        · rw [if_neg hcompared, if_neg hcompared]
          exact tracks_fault he
      · intro _ _ _ hno _
        rw [hno]
        exact tracks_fault he

/-- **Operands.**  The levels do not run out. -/
theorem tracks_operand (p : Parser) (src : List Char) (depth : Nat) :
    TracksOperands src depth (Scan.operand p depth) p.unary := by
  induction depth with
  | zero =>
    intro s _ hlength
    exact absurd hlength (Nat.not_lt_zero _)
  | succ depth ih =>
    intro s hs hlength
    rw [unary_eq]
    exact tracks_operandStep ih (unary_suffix p) hs hlength

theorem tracks_atEnd (hs : s <:+ src) :
    Tracks reported src (Scan.atEnd : Scan ε Bool) (bytePosition src s) (.ok (s.isEmpty, s)) := by
  have hend : decide (utf8Size src ≤ bytePosition src s) = s.isEmpty := by
    obtain ⟨front, rfl⟩ := hs
    rw [bytePosition_of_append, utf8Size_append]
    cases s with
    | nil => simp
    | cons c s =>
      have hpos := c.utf8Size_pos
      rw [List.isEmpty_cons, utf8Size_cons, decide_eq_false_iff_not]
      omega
  refine (tracks_source hs).step ?_
  refine (tracks_position hs).step ?_
  exact hend ▸ tracks_pure hs _

/-- **Filters.** -/
theorem tracks_filter (p : Parser) (src : List Char) :
    Tracks (ParseFault.Reports src) src (Scan.filter p) (bytePosition src src)
      ((p.parseChars (trimStart src)).map fun tree => (tree, [])) := by
  have htrim : trimStart src <:+ src := trimStart_suffix src
  have hlength := htrim.length_le
  have hchain := tracks_chain (tracks_operand p src (src.length + 1)) (unary_suffix p) htrim (by omega)
  refine (tracks_skipBlanks List.suffix_rfl).step ?_
  refine (tracks_source htrim).step ?_
  rw [parseChars_eq]
  cases hread : chain p.unary (trimStart src) with
  | error fault =>
    rw [hread] at hchain
    exact hchain.stop
  | ok answer =>
    obtain ⟨root, rest⟩ := answer
    rw [hread] at hchain
    have hbehind : trimStart rest <:+ src := (trimStart_suffix rest).trans hchain.suffix
    refine hchain.step ?_
    refine (tracks_skipBlanks hchain.suffix).step ?_
    have hend := @tracks_atEnd (ParseFault Nat) ParseStop (ParseFault.Reports src) src _ hbehind
    show Tracks (ParseFault.Reports src) src _ _ (Except.map _ (wholeFilter root rest))
    unfold wholeFilter
    cases htail : trimStart rest with
    | nil =>
      rw [htail] at hend hbehind
      exact hend.step_true (tracks_pure hbehind [root])
    | cons c tail =>
      rw [htail] at hend hbehind
      refine hend.step_false ?_
      refine (tracks_rest hbehind).step ?_
      exact tracks_faultHere hbehind ⟨rfl, isBoundary_bytePosition hbehind⟩

end Operands

end DisplayFilter
