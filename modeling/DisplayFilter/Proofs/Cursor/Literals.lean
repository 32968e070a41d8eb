import DisplayFilter.Proofs.Cursor.Ranges

/-!
# Literals with a cursor

A list is read in three ways, one after the other from the same position.  If none of them covers it, its
first piece tells why, and that piece is read as a text of its own: positions in it count from its start.

* `Scan.delimited`, `Scan.firstOf` — the entries of a list, and the first way that comes to its end;
* `Scan.listFault` — what is wrong with a list; the position of its first piece is a difference;
* `Scan.literal` — a literal;
* **`tracks_literal`** — it does what the reader of literals does.
-/

namespace DisplayFilter

open Text

namespace Scan

variable {ε α : Type}

/-- **The entries of a list** and the closing brace, `fuel` entries at most. -/
def delimited (item : Scan Unit α) : Nat → Scan Unit (List α)
  | 0 => fail .unfinished
  | fuel + 1 => do
    let _ ← skipBlanks
    let x ← item
    let _ ← skipBlanks
    if (← eat [',']) then return x :: (← delimited item fuel)
    else do
      if (← eat ['\x7d']) then pure [x]
      else fault ()

/-- A range of addresses. -/
def rangeItem : Scan Unit Ipv4Range :=
  mapFault (fun _ => ()) range

/-- A text in quotes. -/
def quotedItem : Scan Unit String := do
  match ← quoted with
  | .text body => pure (String.ofList body)
  | _ => fault ()

/-- The sign of an interval. -/
def rangeSign : Scan ε Bool := do
  if (← eat ['.', '.']) then pure true
  else eat ['-']

/-- The upper end of an interval, or nothing and no step forwards. -/
def upperEnd : Scan ε (Option Binary64) := do
  let start ← position
  let _ ← skipBlanks
  if (← rangeSign) then do
    let _ ← skipBlanks
    match ← number with
    | some high => pure (some high)
    | none => do
      reset start
      pure none
  else do
    reset start
    pure none

/-- **A number or an interval of numbers.** -/
def numberItem : Scan Unit NumberEntry := do
  match ← number with
  | none => fault ()
  | some low =>
    match ← upperEnd with
    | some high => pure (.range low high)
    | none => pure (.single low)

/-- The whole list, all entries of one kind. -/
def listOf (make : List α → Literal) (item : Scan Unit α) : Scan Unit Literal := do
  return make (← delimited item ((← rest).length + 1))

/-- **The first of some ways** that comes to its end, each from the same position. -/
def firstOf (start : Nat) : List (Scan Unit α) → Scan ε (Option α)
  | [] => do
    reset start
    pure none
  | x :: more => do
    reset start
    match ← attempt x with
    | .ok a => pure (some a)
    | .error _ => firstOf start more

/-- What is wrong with a piece that has two points, read as a text of its own. -/
def addressFault (piece : List Char) : Scan ε (Option (RangeFault Nat)) :=
  if 2 ≤ piece.count '.' then do
    match ← within piece range with
    | .ok _ => pure none
    | .error e => pure (some e)
  else pure none

/-- Whether a quote opens in a piece and does not close, read as a text of its own. -/
def unclosed (piece : List Char) : Scan ε Bool :=
  if piece.head?.any isQuote then do
    match ← within piece (quoted (ε := Unit)) with
    | .ok found => pure (decide (found = .unclosed))
    | .error _ => pure false
  else pure false

/-- **What is wrong with a list** that starts at `start`, from behind its opening brace. -/
def listFault (start : Nat) : Scan (LiteralFault Nat) Literal := do
  let _ ← skipBlanks
  let piece ← takeWhile isPieceChar
  match ← addressFault piece with
  | some reason => fault (.invalidAddress (String.ofList piece) reason)
  | none => do
    if (← unclosed piece) then
      fault (.mismatchedQuotes (← difference (← position) (utf8Size piece)))
    else fault (.invalidList start)

/-- **A list.** -/
def list : Scan (LiteralFault Nat) Literal := do
  let start ← position
  let _ ← eat ['\x7b']
  let body ← position
  let ways := [listOf .addresses rangeItem, listOf .strings quotedItem, listOf .numbers numberItem]
  match ← firstOf body ways with
  | some literal => pure literal
  | none => listFault start

/-- **A literal.** -/
def literal : Scan (LiteralFault Nat) Literal := do
  let start ← position
  match ← quoted with
  | .text body => pure (.text (String.ofList body))
  | .unclosed => fault (.mismatchedQuotes start)
  | .absent => do
    if (← peek) = some '\x7b' then list
    else do
      match ← word with
      | some word => pure (.text (String.ofList word))
      | none => fault (.expectedValue start)

end Scan

/-! ### Entries -/

/-- A reader without a fault as one with a fault that says nothing. -/
def found {α : Type} : Option α → Except Unit α
  | some a => .ok a
  | none => .error ()

theorem found_bind {α β : Type} (o : Option α) (g : α → Option β) :
    found (o >>= g) = found o >>= fun a => found (g a) := by
  cases o with
  | none => rfl
  | some a => rfl

theorem found_toOption {ε α : Type} (x : Except ε α) : found x.toOption = x.mapError fun _ => () := by
  cases x with
  | error e => rfl
  | ok a => rfl

section Entries

variable {ε ε' α : Type} {reported : ε' → ε → Prop} {src s t : List Char} {place : Nat}

/-- A cursor that reads items the way a reader does. -/
def TracksItems (src : List Char) (item : Scan Unit α)
    (item? : List Char → Option (α × List Char)) : Prop :=
  ∀ s, s <:+ src → Tracks Eq src item (bytePosition src s) (found (item? s))

theorem tracks_delimited {item : Scan Unit α} {item? : List Char → Option (α × List Char)}
    (hitem : TracksItems src item item?) (htakes : TakesSome item?) {fuel : Nat} (hs : s <:+ src)
    (hfuel : s.length < fuel) :
    Tracks Eq src (Scan.delimited item fuel) (bytePosition src s)
      (found (readEntries item? fuel s)) := by
  induction fuel generalizing s with
  | zero => exact absurd hfuel (Nat.not_lt_zero _)
  | succ fuel ih =>
    have htrim : trimStart s <:+ src := (trimStart_suffix s).trans hs
    refine (tracks_skipBlanks hs).step ?_
    rw [readEntries, found_bind]
    refine (hitem _ htrim).bind ?_
    intro x rest hrest hx
    have hitem? : item? (trimStart s) = some (x, rest) := by
      cases hread : item? (trimStart s) with
      | none =>
        rw [hread] at hx
        cases hx
      | some answer =>
        rw [hread] at hx
        rw [Except.ok.inj hx]
    have hbehind : trimStart rest <:+ src := (trimStart_suffix rest).trans hrest
    have hshort := (trimStart_properEnd (htakes _ _ _ hitem?)).2
    have hblanks := (trimStart_suffix rest).length_le
    refine (tracks_skipBlanks hrest).step ?_
    simp only
    split
    · next t ht =>
      rw [ht] at hbehind hblanks ⊢
      have hcomma : t <:+ src := (List.suffix_cons ',' t).trans hbehind
      refine (tracks_eat_cons hbehind).step ?_
      have hlength : t.length < fuel := by
        rw [List.length_cons] at hblanks
        omega
      rw [found_bind]
      refine (ih hcomma hlength).bind ?_
      intro more u hu _
      exact tracks_pure hu _
    · next t ht =>
      rw [ht] at hbehind ⊢
      have hclose : t <:+ src := (List.suffix_cons '\x7d' t).trans hbehind
      refine (tracks_eat_of_ne hbehind (by simp)).step ?_
      exact (tracks_eat_cons hbehind).step (tracks_pure hclose _)
    · next hcomma hclose =>
      refine (tracks_eat_of_ne hbehind hcomma).step ?_
      exact (tracks_eat_of_ne hbehind hclose).step (tracks_fault rfl)

theorem tracks_rangeItem : TracksItems src Scan.rangeItem addressItem? := by
  intro s hs
  rw [addressItem?, found_toOption]
  exact (tracks_range hs).mapFault fun _ _ _ => rfl

theorem tracks_quotedItem : TracksItems src Scan.quotedItem quotedItem? := by
  intro s hs
  refine tracks_quoted_bind hs ?_ ?_ ?_
  · intro habsent
    rw [quotedItem?, habsent]
    exact tracks_fault rfl
  · intro hunclosed
    rw [quotedItem?, hunclosed]
    exact tracks_fault rfl
  · intro body rest hclosed hrest
    rw [quotedItem?, hclosed]
    exact tracks_pure hrest _

theorem tracks_rangeSign (hs : s <:+ src) :
    Tracks reported src (Scan.rangeSign : Scan ε Bool) (bytePosition src s)
      (.ok (eaten (dropRangeSign? s) s)) := by
  have heat := @tracks_eat ε ε' reported src s ['.', '.'] hs
  unfold dropRangeSign?
  split
  · next t =>
    have ht : t <:+ src := (List.suffix_append ['.', '.'] t).trans hs
    have hdrop : dropText? ['.', '.'] ('.' :: '.' :: t) = some t := dropText?_append ['.', '.'] t
    rw [hdrop] at heat
    exact heat.step (tracks_pure ht true)
  · next t =>
    refine heat.step ?_
    exact tracks_eat_cons hs
  · next hpoints hdash =>
    have hdrop : dropText? ['.', '.'] s = none :=
      Option.eq_none_iff_forall_ne_some.2 fun t ht => hpoints t (eq_append_of_dropText? ht)
    rw [hdrop] at heat
    exact heat.step (tracks_eat_of_ne hs hdash)

theorem tracks_upperEnd (hs : s <:+ src) :
    Tracks reported src (Scan.upperEnd : Scan ε (Option Binary64)) (bytePosition src s)
      (.ok (tried (upperEnd? s) s)) := by
  have htrim : trimStart s <:+ src := (trimStart_suffix s).trans hs
  refine (tracks_position hs).step ?_
  refine (tracks_skipBlanks hs).step ?_
  refine (tracks_rangeSign htrim).bind_eaten ?_ ?_
  · intro hnone _
    rw [upperEnd?, hnone]
    exact (tracks_reset hs).step (tracks_pure hs none)
  · intro t hsign ht
    have hblanks : trimStart t <:+ src := (trimStart_suffix t).trans ht
    have hupper : upperEnd? s = Lexeme.number? (trimStart t) := by
      rw [upperEnd?, hsign]
      rfl
    rw [hupper]
    refine (tracks_skipBlanks ht).step ?_
    refine (tracks_number hblanks).bind_tried ?_ ?_
    · intro hnone _
      rw [hnone]
      exact (tracks_reset hs).step (tracks_pure hs none)
    · intro high rest hhigh hrest
      rw [hhigh]
      exact tracks_pure hrest (some high)

theorem tracks_numberItem : TracksItems src Scan.numberItem numberItem? := by
  intro s hs
  refine (tracks_number hs).bind_tried ?_ ?_
  · intro hnone _
    rw [numberItem?, hnone]
    exact tracks_fault rfl
  · intro low rest hlow hrest
    rw [numberItem?, hlow]
    simp only [bind, Option.bind_some]
    refine (tracks_upperEnd hrest).bind_tried ?_ ?_
    · intro hnone _
      rw [hnone]
      exact tracks_pure hrest _
    · intro high u hhigh hu
      rw [hhigh]
      exact tracks_pure hu _

end Entries

/-! ### Lists -/

section Lists

variable {ε ε' α : Type} {reported : ε' → ε → Prop} {src s : List Char} {place : Nat}

theorem tracks_listOf (make : List α → Literal) {item : Scan Unit α}
    {item? : List Char → Option (α × List Char)} (hitem : TracksItems src item item?)
    (htakes : TakesSome item?) (hs : s <:+ src) :
    Tracks Eq src (Scan.listOf make item) (bytePosition src s)
      (found (readListOf? make item? s)) := by
  have hdelimited := tracks_delimited hitem htakes hs (Nat.lt_succ_self s.length)
  refine (tracks_rest hs).step ?_
  unfold readListOf?
  cases hentries : readEntries item? (s.length + 1) s with
  | none =>
    rw [hentries] at hdelimited
    exact hdelimited.stop
  | some answer =>
    obtain ⟨xs, rest⟩ := answer
    rw [hentries] at hdelimited
    exact hdelimited.step (tracks_pure hdelimited.suffix _)

theorem tracks_firstOf_nil (hs : s <:+ src) :
    Tracks reported src (Scan.firstOf (bytePosition src s) [] : Scan ε (Option α)) place
      (.ok (tried none s)) :=
  (tracks_reset hs).step (tracks_pure hs none)

theorem tracks_firstOf_cons {x : Scan Unit α} {more : List (Scan Unit α)}
    {o o' : Option (α × List Char)} (hs : s <:+ src)
    (hx : Tracks Eq src x (bytePosition src s) (found o))
    (hmore : ∀ place, Tracks reported src (Scan.firstOf (bytePosition src s) more : Scan ε (Option α))
      place (.ok (tried o' s))) :
    Tracks reported src (Scan.firstOf (bytePosition src s) (x :: more) : Scan ε (Option α)) place
      (.ok (tried (o.or o') s)) := by
  refine (tracks_reset hs).step ?_
  refine hx.attempt ?_ ?_
  · intro a t ho ht
    cases o with
    | none => nomatch ho
    | some answer =>
      obtain rfl : answer = (a, t) := Except.ok.inj ho
      exact tracks_pure ht (some a)
  · intro e' e after ho _
    cases o with
    | none => exact hmore after
    | some answer => nomatch ho

theorem tracks_addressFault (hs : s <:+ src) (piece : List Char) :
    Tracks reported src (Scan.addressFault piece : Scan ε (Option (RangeFault Nat)))
      (bytePosition src s) (.ok (addressFault? piece, s)) := by
  unfold Scan.addressFault addressFault?
  by_cases hpoints : 2 ≤ piece.count '.'
  · rw [if_pos hpoints, if_pos hpoints]
    refine (@tracks_range piece piece List.suffix_rfl).within ?_ ?_
    · intro r t hr
      rw [hr]
      exact tracks_pure hs none
    · intro stop e hstop he
      rw [hstop, he.1]
      exact tracks_pure hs (some _)
  · rw [if_neg hpoints, if_neg hpoints]
    exact tracks_pure hs none

/-- The reason for a bad address has positions of the piece that it is about. -/
theorem onBoundaries_of_addressFault? {piece : List Char} {reason : RangeFault Nat}
    (h : addressFault? piece = some reason) : reason.OnBoundaries piece := by
  have hrange := @tracks_range piece piece List.suffix_rfl
  simp only [addressFault?, Option.ite_none_right_eq_some] at h
  obtain ⟨-, h⟩ := h
  cases hread : Ipv4Range.read piece with
  | ok answer =>
    rw [hread] at h
    nomatch h
  | error stop =>
    rw [hread] at h hrange
    obtain rfl := Option.some.inj h
    cases hrange with
    | error he hrun => exact he.1 ▸ he.2

theorem quotedAt_eq_unclosed_iff {s : List Char} :
    (quotedAt s).1 = .unclosed ↔ quotation s = .unclosed := by
  unfold quotedAt
  cases quotation s with
  | absent => simp
  | unclosed => simp
  | closed body rest => simp

theorem quotation_of_not_quote {s : List Char} (h : ¬ s.head?.any isQuote = true) :
    quotation s = .absent := by
  cases s with
  | nil => rfl
  | cons q s =>
    have hq : ¬ isQuote q = true := h
    rw [quotation, if_neg hq]

theorem tracks_unclosed (hs : s <:+ src) (piece : List Char) :
    Tracks reported src (Scan.unclosed piece : Scan ε Bool) (bytePosition src s)
      (.ok (decide (quotation piece = .unclosed), s)) := by
  unfold Scan.unclosed
  by_cases hquote : piece.head?.any isQuote = true
  · rw [if_pos hquote]
    have hquoted := @tracks_quoted Unit Unit Eq piece piece List.suffix_rfl
    refine hquoted.within ?_ ?_
    · intro found t hfound
      have hfirst : (quotedAt piece).1 = found := by rw [Except.ok.inj hfound]
      have hsame : decide (found = .unclosed) = decide (quotation piece = .unclosed) :=
        decide_eq_decide.2 (hfirst ▸ quotedAt_eq_unclosed_iff)
      rw [← hsame]
      exact tracks_pure hs _
    · intro e' e he _
      nomatch he
  · rw [if_neg hquote, quotation_of_not_quote hquote]
    exact tracks_pure hs false

/-- **What is wrong with a list.** -/
theorem tracks_listFault {start : List Char} (hs : s <:+ src) (hstart : start <:+ src)
    {rest : List Char} :
    Tracks (LiteralFault.Reports src) src (Scan.listFault (bytePosition src start))
      (bytePosition src s)
      (.error ⟨Literal.listFault start ((trimStart s).takeWhile isPieceChar) (trimStart s), rest⟩) := by
  have htrim : trimStart s <:+ src := (trimStart_suffix s).trans hs
  have hbehind := (List.dropWhile_suffix isPieceChar).trans htrim
  have hpiece := @List.takeWhile_append_dropWhile _ isPieceChar (trimStart s)
  have hmove := @bytePosition_append src ((trimStart s).takeWhile isPieceChar)
    ((trimStart s).dropWhile isPieceChar) (hpiece.symm ▸ htrim)
  rw [hpiece] at hmove
  refine (tracks_skipBlanks hs).step ?_
  refine (tracks_takeWhile htrim isPieceChar).step ?_
  refine (tracks_addressFault hbehind _).step ?_
  unfold Literal.listFault
  cases haddress : addressFault? ((trimStart s).takeWhile isPieceChar) with
  | some reason =>
    refine tracks_fault ⟨rfl, ?_, ?_⟩
    · rw [String.toList_ofList]
      exact (List.takeWhile_prefix isPieceChar).isInfix.trans htrim.isInfix
    · rw [String.toList_ofList]
      exact onBoundaries_of_addressFault? haddress
  | none =>
    refine (tracks_unclosed hbehind _).step ?_
    by_cases hopen : quotation ((trimStart s).takeWhile isPieceChar) = .unclosed
    · rw [decide_eq_true hopen]
      simp only [if_pos hopen]
      have hdifference : Tracks (LiteralFault.Reports src) src
          (Scan.difference (bytePosition src ((trimStart s).dropWhile isPieceChar))
            (utf8Size ((trimStart s).takeWhile isPieceChar)) : Scan (LiteralFault Nat) Nat)
          (bytePosition src ((trimStart s).dropWhile isPieceChar))
          (.ok (bytePosition src (trimStart s), (trimStart s).dropWhile isPieceChar)) := by
        rw [Scan.difference, if_pos (by omega), hmove, Nat.add_sub_cancel]
        exact hmove ▸ tracks_pure hbehind _
      refine (tracks_position hbehind).step ?_
      exact hdifference.step (tracks_fault ⟨rfl, isBoundary_bytePosition htrim⟩)
    · rw [decide_eq_false hopen]
      simp only [if_neg hopen]
      exact tracks_fault ⟨rfl, isBoundary_bytePosition hstart⟩

/-- **Lists.** -/
theorem tracks_list {t : List Char} (hs : '\x7b' :: t <:+ src) :
    Tracks (LiteralFault.Reports src) src Scan.list (bytePosition src ('\x7b' :: t))
      (Literal.readList ('\x7b' :: t) t) := by
  have ht : t <:+ src := (List.suffix_cons _ t).trans hs
  refine (tracks_position hs).step ?_
  refine (tracks_eat_cons hs).step ?_
  refine (tracks_position ht).step ?_
  have hranges := tracks_listOf Literal.addresses tracks_rangeItem addressItem?_takesSome ht
  have hquoted := tracks_listOf Literal.strings tracks_quotedItem quotedItem?_takesSome ht
  have hnumbers := tracks_listOf Literal.numbers tracks_numberItem numberItem?_takesSome ht
  have hways := @tracks_firstOf_cons (LiteralFault Nat) LiteralStop _ (LiteralFault.Reports src) src t
    (bytePosition src t) _ _ _ _ ht hranges fun _ =>
      tracks_firstOf_cons ht hquoted fun _ =>
        tracks_firstOf_cons ht hnumbers fun _ => tracks_firstOf_nil ht
  rw [Option.or_none] at hways
  unfold Literal.readList
  change Tracks _ src _ _ (.ok (tried (Literal.readBody? t) t)) at hways
  refine hways.bind_tried ?_ ?_
  · intro hnone _
    rw [hnone]
    exact tracks_listFault ht hs
  · intro literal rest hliteral hrest
    rw [hliteral]
    exact tracks_pure hrest literal

/-- **Literals.** -/
theorem tracks_literal (hs : s <:+ src) :
    Tracks (LiteralFault.Reports src) src Scan.literal (bytePosition src s) (Literal.read s) := by
  refine (tracks_position hs).step ?_
  unfold Literal.read
  refine tracks_quoted_bind hs ?_ ?_ ?_
  · intro habsent
    rw [habsent]
    refine (tracks_peek hs).step ?_
    by_cases hbrace : s.head? = some '\x7b'
    · obtain ⟨t, rfl⟩ := List.head?_eq_some_iff.1 hbrace
      rw [if_pos hbrace]
      exact tracks_list hs
    · rw [if_neg hbrace]
      simp only
      split
      · next t => exact absurd rfl hbrace
      · refine (tracks_word hs).bind_tried ?_ ?_
        · intro hnone _
          rw [hnone]
          exact tracks_fault ⟨rfl, isBoundary_bytePosition hs⟩
        · intro w rest hw hrest
          rw [hw]
          exact tracks_pure hrest _
  · intro hunclosed
    rw [hunclosed]
    exact tracks_fault ⟨rfl, isBoundary_bytePosition hs⟩
  · intro body rest hclosed hrest
    rw [hclosed]
    exact tracks_pure hrest _

end Lists

end DisplayFilter
