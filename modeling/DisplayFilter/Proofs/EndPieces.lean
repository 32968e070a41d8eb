import DisplayFilter.Proofs.Text.Runs
import DisplayFilter.Tree.Parser

/-!
# What readers leave

Every reader takes a beginning of its text and leaves an end piece of it.  All but the readers of
optional parts take a character at least, which is why nesting and repetition end.

* `ProperEnd` — an end piece of a text that is shorter than the text;
* **`read_properEnd`** lemmas for numbers, addresses, literals and the parts of slices;
* **`expression_suffix`** — what an expression leaves, **`negation?_properEnd`** and
  **`connectiveAt?_properEnd`** — what the words between expressions leave.
-/

namespace DisplayFilter

/-! ### Outcomes -/

/-- A step after a step gives a result where both do. -/
theorem bind_eq_ok {ε α β : Type} {x : Except ε α} {f : α → Except ε β} {b : β} :
    (x >>= f) = .ok b ↔ ∃ a, x = .ok a ∧ f a = .ok b := by
  cases x with
  | error e => simp [bind, Except.bind]
  | ok a => simp [bind, Except.bind]

theorem map_eq_ok {ε α β : Type} {x : Except ε α} {f : α → β} {b : β} :
    x.map f = .ok b ↔ ∃ a, x = .ok a ∧ f a = b := by
  cases x with
  | error e => simp [Except.map]
  | ok a => simp [Except.map]

theorem bind_eq_error {ε α β : Type} {x : Except ε α} {f : α → Except ε β} {e : ε} :
    (x >>= f) = .error e ↔ x = .error e ∨ ∃ a, x = .ok a ∧ f a = .error e := by
  cases x with
  | error e => simp [bind, Except.bind]
  | ok a => simp [bind, Except.bind]

theorem map_eq_error {ε α β : Type} {x : Except ε α} {f : α → β} {e : ε} :
    x.map f = .error e ↔ x = .error e := by
  cases x with
  | error e => simp [Except.map]
  | ok a => simp [Except.map]

@[simp] theorem mapError_ok {ε ε' α : Type} (f : ε → ε') (a : α) :
    (Except.ok a : Except ε α).mapError f = .ok a := rfl

@[simp] theorem mapError_error {ε ε' α : Type} (f : ε → ε') (e : ε) :
    (Except.error e : Except ε α).mapError f = .error (f e) := rfl

theorem mapError_eq_error {ε ε' α : Type} {x : Except ε α} {f : ε → ε'} {e : ε'} :
    x.mapError f = .error e ↔ ∃ e', x = .error e' ∧ f e' = e := by
  cases x with
  | error e => simp
  | ok a => simp

/-- **Steps along a list** all give results where each of them does. -/
theorem mapM_eq_ok {ε α β : Type} {f : α → Except ε β} {l : List α} {r : List β} :
    l.mapM f = .ok r ↔ l.map f = r.map .ok := by
  induction l generalizing r with
  | nil => cases r <;> simp [pure, Except.pure]
  | cons a l ih =>
    rw [List.mapM_cons, bind_eq_ok]
    simp only [bind_eq_ok, ih, pure, Except.pure, Except.ok.injEq]
    cases r with
    | nil => simp
    | cons b r => simp

/-- **The first step that fails** decides the error of steps along a list. -/
theorem mapM_eq_error {ε α β : Type} {f : α → Except ε β} {l : List α} {e : ε} :
    l.mapM f = .error e ↔ ∃ front a behind, l = front ++ a :: behind ∧
      (∀ x ∈ front, ∃ y, f x = .ok y) ∧ f a = .error e := by
  induction l with
  | nil => simp [pure, Except.pure]
  | cons a l ih =>
    rw [List.mapM_cons, bind_eq_error]
    constructor
    · rintro (ha | ⟨b, hb, hmore⟩)
      · exact ⟨[], a, l, rfl, by simp, ha⟩
      · have hl : l.mapM f = .error e := by
          simpa [bind_eq_error, pure, Except.pure] using hmore
        obtain ⟨front, x, behind, rfl, hfront, hx⟩ := ih.1 hl
        exact ⟨a :: front, x, behind, rfl, List.forall_mem_cons.2 ⟨⟨b, hb⟩, hfront⟩, hx⟩
    · rintro ⟨_ | ⟨c, front⟩, x, behind, hsplit, hfront, hx⟩
      · obtain ⟨rfl, -⟩ := List.cons.inj hsplit
        exact Or.inl hx
      · obtain ⟨rfl, hl⟩ := List.cons.inj hsplit
        obtain ⟨⟨b, hb⟩, hfront⟩ := List.forall_mem_cons.1 hfront
        exact Or.inr ⟨b, hb, bind_eq_error.2 (Or.inl (ih.2 ⟨front, x, behind, hl, hfront, hx⟩))⟩

/-- **Two kinds of steps along a list** agree up to the names of their errors, if each step does that is
got to. -/
theorem mapM_mapError {ε ε' α β : Type} {f : α → Except ε β} {f' : α → Except ε' β} {g : ε → ε'}
    {l : List α} (h : ∀ front a behind, l = front ++ a :: behind →
      (∀ x ∈ front, ∃ y, f x = .ok y) → f' a = (f a).mapError g) :
    l.mapM f' = (l.mapM f).mapError g := by
  induction l with
  | nil => rfl
  | cons a l ih =>
    rw [List.mapM_cons, List.mapM_cons, h [] a l rfl (by simp)]
    cases ha : f a with
    | error e => rfl
    | ok b =>
      have hmore := ih fun front x behind hsplit hfront =>
        h (a :: front) x behind (by rw [hsplit]; rfl) (List.forall_mem_cons.2 ⟨⟨b, ha⟩, hfront⟩)
      simp only [mapError_ok, bind, Except.bind, hmore]
      cases l.mapM f with
      | error e => rfl
      | ok r => rfl

theorem toOption_eq_some {ε α : Type} {x : Except ε α} {a : α} :
    x.toOption = some a ↔ x = .ok a := by
  cases x <;> simp [Except.toOption]

/-! ### End pieces -/

/-- An end piece of a text that is shorter than the text. -/
def ProperEnd (rest s : List Char) : Prop :=
  rest <:+ s ∧ rest.length < s.length

theorem properEnd_cons (c : Char) (s : List Char) : ProperEnd s (c :: s) :=
  ⟨List.suffix_cons c s, by simp⟩

theorem ProperEnd.of_suffix {rest t s : List Char} (h : ProperEnd rest t) (hs : t <:+ s) :
    ProperEnd rest s :=
  ⟨h.1.trans hs, Nat.lt_of_lt_of_le h.2 hs.length_le⟩

theorem ProperEnd.after_suffix {rest t s : List Char} (h : ProperEnd t s) (hr : rest <:+ t) :
    ProperEnd rest s :=
  ⟨hr.trans h.1, Nat.lt_of_le_of_lt hr.length_le h.2⟩

theorem ProperEnd.trans {rest t s : List Char} (h : ProperEnd rest t) (hs : ProperEnd t s) :
    ProperEnd rest s :=
  h.of_suffix hs.1

/-- A run that is not empty leaves a shorter text. -/
theorem dropWhile_properEnd {p : Char → Bool} {s : List Char} (h : (s.takeWhile p).isEmpty = false) :
    ProperEnd (s.dropWhile p) s := by
  refine ⟨List.dropWhile_suffix p, ?_⟩
  have hlen : (s.takeWhile p).length + (s.dropWhile p).length = s.length := by
    rw [← List.length_append, List.takeWhile_append_dropWhile]
  have hpos : 0 < (s.takeWhile p).length :=
    List.length_pos_iff.2 (by simpa using h)
  omega

theorem trimStart_properEnd {rest s : List Char} (h : ProperEnd rest (Text.trimStart s)) :
    ProperEnd rest s :=
  h.of_suffix (Text.trimStart_suffix s)

/-! ### Lexemes -/

theorem blanks?_properEnd {s rest : List Char} (h : blanks? s = some rest) : ProperEnd rest s := by
  cases s with
  | nil => simp [blanks?] at h
  | cons c s =>
    simp only [blanks?, Option.ite_none_right_eq_some, Option.some.injEq] at h
    rw [← h.2]
    exact (properEnd_cons c s).after_suffix (Text.trimStart_suffix s)

theorem splitSign_suffix (s : List Char) : (splitSign s).2 <:+ s := by
  unfold splitSign
  split
  · exact List.suffix_cons _ _
  · exact List.suffix_cons _ _
  · exact List.suffix_rfl

theorem integer?_properEnd {s rest : List Char} {n : Int64}
    (h : Lexeme.integer? s = some (n, rest)) : ProperEnd rest s := by
  simp only [Lexeme.integer?, Option.ite_none_left_eq_some, Option.map_eq_some_iff,
    Prod.mk.injEq] at h
  obtain ⟨hdigits, _, -, -, rfl⟩ := h
  exact (dropWhile_properEnd (by simpa using hdigits)).of_suffix (splitSign_suffix s)

theorem fraction_suffix (s : List Char) : (Lexeme.fraction s).2 <:+ s := by
  unfold Lexeme.fraction
  split
  · split
    · exact List.suffix_rfl
    · exact (List.dropWhile_suffix _).trans (List.suffix_cons _ _)
  · exact List.suffix_rfl

theorem number?_properEnd {s rest : List Char} {x : Binary64}
    (h : Lexeme.number? s = some (x, rest)) : ProperEnd rest s := by
  simp only [Lexeme.number?, Option.ite_none_left_eq_some, Option.some.injEq, Prod.mk.injEq] at h
  obtain ⟨hdigits, -, rfl⟩ := h
  exact ((dropWhile_properEnd (by simpa using hdigits)).after_suffix (fraction_suffix _)).of_suffix
    (splitSign_suffix s)

/-- What `splitOnce` finds: the first character of the class, with the text around it. -/
theorem splitOnce_eq_some_iff {p : Char → Bool} {s a b : List Char} :
    Text.splitOnce p s = some (a, b) ↔
      ∃ c, p c = true ∧ (∀ d ∈ a, p d = false) ∧ s = a ++ c :: b := by
  induction s generalizing a with
  | nil => simp [Text.splitOnce]
  | cons d s ih =>
    unfold Text.splitOnce
    by_cases hd : p d = true
    · rw [if_pos hd]
      constructor
      · intro h
        obtain ⟨rfl, rfl⟩ : [] = a ∧ s = b := by simpa using h
        exact ⟨d, hd, by simp, rfl⟩
      · rintro ⟨c, hc, ha, hs⟩
        cases a with
        | nil => simpa using (List.cons.inj hs).2
        | cons e a =>
          obtain ⟨rfl, -⟩ := List.cons.inj hs
          simp [ha d] at hd
    · rw [if_neg hd]
      simp only [Option.map_eq_some_iff, Prod.exists, Prod.mk.injEq]
      constructor
      · rintro ⟨a', b', h, rfl, rfl⟩
        obtain ⟨c, hc, ha, rfl⟩ := ih.1 h
        exact ⟨c, hc, by simpa [hd] using ha, rfl⟩
      · rintro ⟨c, hc, ha, hs⟩
        cases a with
        | nil =>
          obtain ⟨rfl, -⟩ := List.cons.inj hs
          exact absurd hc hd
        | cons e a =>
          have htail : s = a ++ c :: b := (List.cons.inj hs).2
          obtain rfl : d = e := (List.cons.inj hs).1
          exact ⟨a, b, ih.2 ⟨c, hc, fun x hx => ha x (List.mem_cons_of_mem _ hx), htail⟩, rfl, rfl⟩

/-- `splitOnce` finds nothing exactly where no character is in the class. -/
theorem splitOnce_eq_none_iff {p : Char → Bool} {s : List Char} :
    Text.splitOnce p s = none ↔ ∀ c ∈ s, p c = false := by
  induction s with
  | nil => simp [Text.splitOnce]
  | cons d s ih =>
    rw [Text.splitOnce, List.forall_mem_cons]
    by_cases hd : p d = true
    · simp [hd]
    · simp [hd, ih]

theorem quotation_eq_closed_iff {s body rest : List Char} :
    quotation s = .closed body rest ↔
      ∃ q, isQuote q = true ∧ q ∉ body ∧ s = q :: body ++ q :: rest := by
  cases s with
  | nil => simp [quotation]
  | cons q s =>
    by_cases hq : isQuote q = true
    · simp only [quotation, hq, if_true]
      constructor
      · intro h
        split at h
        · next a b hab =>
          obtain ⟨rfl, rfl⟩ : a = body ∧ b = rest := by simpa using h
          obtain ⟨c, hc, ha, rfl⟩ := splitOnce_eq_some_iff.1 hab
          obtain rfl : c = q := by simpa using hc
          exact ⟨c, hq, fun hmem => by simpa using ha c hmem, rfl⟩
        · simp at h
      · rintro ⟨r, -, hbody, hs⟩
        obtain ⟨rfl, hs⟩ : q = r ∧ s = body ++ r :: rest := List.cons.inj hs
        rw [hs]
        have hsplit : Text.splitOnce (· == q) (body ++ q :: rest) = some (body, rest) := by
          refine splitOnce_eq_some_iff.2 ⟨q, by simp, fun d hd => ?_, rfl⟩
          simpa using fun hdq : d = q => hbody (hdq ▸ hd)
        rw [hsplit]
    · simp only [quotation, hq, if_false, reduceCtorEq, false_iff, Bool.false_eq_true]
      rintro ⟨r, hr, -, hs⟩
      exact hq ((List.cons.inj hs).1 ▸ hr)

/-- **A quote that stays open:** the same quote does not come again. -/
theorem quotation_eq_unclosed_iff {s : List Char} :
    quotation s = .unclosed ↔ ∃ q body, isQuote q = true ∧ q ∉ body ∧ s = q :: body := by
  cases s with
  | nil => simp [quotation]
  | cons q s =>
    have hsplit : Text.splitOnce (· == q) s = none ↔ q ∉ s := by
      rw [splitOnce_eq_none_iff]
      constructor
      · intro h hq
        simpa using h q hq
      · intro h c hc
        exact beq_eq_false_iff_ne.2 fun heq => h (heq ▸ hc)
    by_cases hq : isQuote q = true
    · rw [quotation, if_pos hq]
      constructor
      · intro h
        split at h
        · simp at h
        · next hnone => exact ⟨q, s, hq, hsplit.1 hnone, rfl⟩
      · rintro ⟨r, body, -, hbody, hs⟩
        obtain ⟨rfl, rfl⟩ := List.cons.inj hs
        rw [hsplit.2 hbody]
    · rw [quotation, if_neg hq]
      constructor
      · intro h
        simp at h
      · rintro ⟨r, body, hr, -, hs⟩
        exact absurd ((List.cons.inj hs).1 ▸ hr) hq

theorem quotation_properEnd {s body rest : List Char} (h : quotation s = .closed body rest) :
    ProperEnd rest s := by
  obtain ⟨q, -, -, rfl⟩ := quotation_eq_closed_iff.1 h
  exact (properEnd_cons q rest).of_suffix (List.suffix_append _ _)

theorem word?_properEnd {s word rest : List Char} (h : Lexeme.word? s = some (word, rest)) :
    ProperEnd rest s := by
  simp only [Lexeme.word?, Option.ite_none_left_eq_some, Option.some.injEq, Prod.mk.injEq,
    Bool.or_eq_true, not_or, Bool.not_eq_true] at h
  obtain ⟨⟨-, hword⟩, -, rfl⟩ := h
  exact dropWhile_properEnd hword

/-! ### Slices -/

theorem readBound_properEnd {fault : List Char → SliceFault (List Char)} {s rest : List Char}
    {n : Int64} (h : readBound fault s = .ok (n, rest)) : ProperEnd rest s := by
  unfold readBound at h
  split at h
  · next answer hanswer =>
    obtain rfl : answer = (n, rest) := by simpa using h
    exact integer?_properEnd hanswer
  · simp at h

theorem readFrom_suffix {start : Int64} {s rest : List Char} {entry : SliceEntry}
    (h : SliceEntry.readFrom start s = .ok (entry, rest)) : rest <:+ s := by
  unfold SliceEntry.readFrom at h
  split at h
  · next t ht =>
    have hend : ProperEnd t s := trimStart_properEnd (ht ▸ properEnd_cons ':' t)
    split at h
    · next stop u hu =>
      obtain ⟨-, rfl⟩ : _ ∧ u = rest := by simpa using h
      exact ((trimStart_properEnd (integer?_properEnd hu)).trans hend).1
    · obtain ⟨-, rfl⟩ : _ ∧ t = rest := by simpa using h
      exact hend.1
  · next t ht =>
    have hend : ProperEnd t s := trimStart_properEnd (ht ▸ properEnd_cons '-' t)
    obtain ⟨⟨stop, u⟩, hu, h⟩ := bind_eq_ok.1 h
    obtain ⟨-, rfl⟩ : _ ∧ u = rest := by simpa [pure, Except.pure] using h
    exact ((trimStart_properEnd (readBound_properEnd hu)).trans hend).1
  · obtain ⟨-, rfl⟩ : _ ∧ s = rest := by simpa using h
    exact List.suffix_rfl

theorem SliceEntry.read_properEnd {s rest : List Char} {entry : SliceEntry}
    (h : SliceEntry.read s = .ok (entry, rest)) : ProperEnd rest s := by
  unfold SliceEntry.read at h
  split at h
  · next t =>
    obtain ⟨⟨stop, u⟩, hu, h⟩ := bind_eq_ok.1 h
    obtain ⟨-, rfl⟩ : _ ∧ u = rest := by simpa [pure, Except.pure] using h
    exact (trimStart_properEnd (readBound_properEnd hu)).trans (properEnd_cons ':' t)
  · obtain ⟨⟨start, u⟩, hu, h⟩ := bind_eq_ok.1 h
    exact (readBound_properEnd hu).after_suffix (readFrom_suffix h)

theorem Slice.readEntries_properEnd {fuel : Nat} {s rest : List Char} {slice : Slice}
    (h : Slice.readEntries fuel s = .ok (slice, rest)) : ProperEnd rest s := by
  induction fuel generalizing s slice with
  | zero => simp [Slice.readEntries] at h
  | succ fuel ih =>
    obtain ⟨⟨entry, u⟩, hu, h⟩ := bind_eq_ok.1 h
    have hend := trimStart_properEnd (SliceEntry.read_properEnd hu)
    simp only at h
    split at h
    · next t ht =>
      obtain ⟨⟨more, v⟩, hv, h⟩ := bind_eq_ok.1 h
      obtain ⟨-, rfl⟩ : _ ∧ v = rest := by simpa [pure, Except.pure] using h
      exact ((ih hv).trans (trimStart_properEnd (ht ▸ properEnd_cons ',' t))).trans hend
    · next t ht =>
      obtain ⟨-, rfl⟩ : _ ∧ t = rest := by simpa using h
      exact (trimStart_properEnd (ht ▸ properEnd_cons ']' t)).trans hend
    · simp at h

theorem Slice.read_suffix {s rest : List Char} {slice : Option Slice}
    (h : Slice.read s = .ok (slice, rest)) : rest <:+ s := by
  unfold Slice.read at h
  split at h
  · next t =>
    obtain ⟨⟨entries, u⟩, hu, h⟩ := bind_eq_ok.1 h
    obtain ⟨-, rfl⟩ : _ ∧ u = rest := by simpa [pure, Except.pure] using h
    exact ((Slice.readEntries_properEnd hu).trans (properEnd_cons '[' t)).1
  · obtain ⟨-, rfl⟩ : _ ∧ _ = rest := by simpa using h
    exact List.suffix_rfl

/-! ### Address ranges -/

theorem readOctet_properEnd {s rest : List Char} {octet : UInt8}
    (h : readOctet s = .ok (octet, rest)) : ProperEnd rest s := by
  simp only [readOctet] at h
  split at h
  · simp at h
  · next hdigits =>
    split at h
    · simp at h
    · obtain ⟨-, rfl⟩ : _ ∧ _ = rest := by simpa using h
      exact dropWhile_properEnd (by simpa using hdigits)

theorem OctetInterval.read_properEnd {s rest : List Char} {x : OctetInterval}
    (h : OctetInterval.read s = .ok (x, rest)) : ProperEnd rest s := by
  unfold OctetInterval.read at h
  split at h
  · next t =>
    obtain ⟨-, rfl⟩ : _ ∧ t = rest := by simpa using h
    exact properEnd_cons '*' t
  · obtain ⟨⟨low, u⟩, hu, h⟩ := bind_eq_ok.1 h
    have hend := readOctet_properEnd hu
    simp only at h
    split at h
    · next t =>
      split at h
      · next high v hv =>
        split at h
        · obtain ⟨-, rfl⟩ : _ ∧ v = rest := by simpa using h
          exact ((readOctet_properEnd hv).trans (properEnd_cons '-' t)).trans hend
        · simp at h
      · obtain ⟨-, rfl⟩ : _ ∧ _ = rest := by simpa using h
        exact hend
    · obtain ⟨-, rfl⟩ : _ ∧ u = rest := by simpa using h
      exact hend

theorem OctetSet.readUpTo_properEnd {last : Bool} {fuel : Nat} {s rest : List Char}
    {set : OctetSet} (h : OctetSet.readUpTo last fuel s = .ok (set, rest)) : ProperEnd rest s := by
  induction fuel generalizing s set with
  | zero => simp [OctetSet.readUpTo] at h
  | succ fuel ih =>
    obtain ⟨⟨x, u⟩, hu, h⟩ := bind_eq_ok.1 h
    have hend := OctetInterval.read_properEnd hu
    simp only at h
    split at h
    · next t =>
      split at h
      · obtain ⟨-, rfl⟩ : _ ∧ _ = rest := by simpa using h
        exact hend
      · obtain ⟨⟨more, v⟩, hv, h⟩ := bind_eq_ok.1 h
        obtain ⟨-, rfl⟩ : _ ∧ v = rest := by simpa [pure, Except.pure] using h
        exact ((ih hv).trans (properEnd_cons ',' t)).trans hend
    · obtain ⟨-, rfl⟩ : _ ∧ u = rest := by simpa using h
      exact hend

theorem OctetSet.readNext_properEnd {start s rest : List Char} {last : Bool} {set : OctetSet}
    (h : OctetSet.readNext start last s = .ok (set, rest)) : ProperEnd rest s := by
  unfold OctetSet.readNext at h
  split at h
  · next t => exact (OctetSet.readUpTo_properEnd h).trans (properEnd_cons '.' t)
  · simp at h

theorem Ipv4Range.readOctets_properEnd {s rest : List Char} {r : Ipv4Range}
    (h : Ipv4Range.readOctets s = .ok (r, rest)) : ProperEnd rest s := by
  obtain ⟨⟨first, s₁⟩, h₁, h⟩ := bind_eq_ok.1 h
  obtain ⟨⟨second, s₂⟩, h₂, h⟩ := bind_eq_ok.1 h
  obtain ⟨⟨third, s₃⟩, h₃, h⟩ := bind_eq_ok.1 h
  obtain ⟨⟨fourth, s₄⟩, h₄, h⟩ := bind_eq_ok.1 h
  obtain ⟨-, rfl⟩ : _ ∧ s₄ = rest := by simpa [pure, Except.pure] using h
  exact (((OctetSet.readNext_properEnd h₄).trans (OctetSet.readNext_properEnd h₃)).trans
    (OctetSet.readNext_properEnd h₂)).trans (OctetSet.readUpTo_properEnd h₁)

theorem Ipv4Range.read_properEnd {s rest : List Char} {r : Ipv4Range}
    (h : Ipv4Range.read s = .ok (r, rest)) : ProperEnd rest s := by
  obtain ⟨⟨r', u⟩, hu, h⟩ := bind_eq_ok.1 h
  have hend := Ipv4Range.readOctets_properEnd hu
  simp only at h
  split at h
  · next t =>
    split at h
    · simp at h
    · next length v hv =>
      split at h
      · simp at h
      · split at h
        · simp at h
        · obtain ⟨-, rfl⟩ : _ ∧ v = rest := by simpa using h
          exact ((integer?_properEnd hv).trans (properEnd_cons '/' t)).trans hend
  · obtain ⟨-, rfl⟩ : _ ∧ u = rest := by simpa using h
    exact hend

/-! ### Literals -/

/-- A reader of entries that takes a character at least whenever it reads. -/
def TakesSome {α : Type} (item? : List Char → Option (α × List Char)) : Prop :=
  ∀ s x rest, item? s = some (x, rest) → ProperEnd rest s

theorem readEntries_properEnd {α : Type} {item? : List Char → Option (α × List Char)}
    (hitem : TakesSome item?) {fuel : Nat} {s rest : List Char} {xs : List α}
    (h : readEntries item? fuel s = some (xs, rest)) : ProperEnd rest s := by
  induction fuel generalizing s xs with
  | zero => simp [readEntries] at h
  | succ fuel ih =>
    obtain ⟨⟨x, u⟩, hu, h⟩ := Option.bind_eq_some_iff.1 h
    have hend := trimStart_properEnd (hitem _ _ _ hu)
    simp only at h
    split at h
    · next t ht =>
      obtain ⟨⟨more, v⟩, hv, h⟩ := Option.bind_eq_some_iff.1 h
      obtain ⟨-, rfl⟩ : _ ∧ v = rest := by simpa using h
      exact ((ih hv).trans (trimStart_properEnd (ht ▸ properEnd_cons ',' t))).trans hend
    · next t ht =>
      obtain ⟨-, rfl⟩ : _ ∧ t = rest := by simpa using h
      exact (trimStart_properEnd (ht ▸ properEnd_cons '\x7d' t)).trans hend
    · simp at h

theorem addressItem?_takesSome : TakesSome addressItem? := fun _ _ _ h =>
  Ipv4Range.read_properEnd (toOption_eq_some.1 h)

theorem quotedItem?_eq_some_iff {s rest : List Char} {x : String} :
    quotedItem? s = some (x, rest) ↔ quotation s = .closed x.toList rest := by
  unfold quotedItem?
  split
  · next body rest' hbody =>
    rw [hbody]
    simp only [Option.some.injEq, Prod.mk.injEq, Quotation.closed.injEq]
    rw [← String.toList_inj, String.toList_ofList]
  · next hno =>
    constructor
    · simp
    · intro h
      exact absurd h (hno _ _)

theorem quotedItem?_takesSome : TakesSome quotedItem? := fun _ _ _ h =>
  quotation_properEnd (quotedItem?_eq_some_iff.1 h)

theorem dropRangeSign?_properEnd {s rest : List Char} (h : dropRangeSign? s = some rest) :
    ProperEnd rest s := by
  unfold dropRangeSign? at h
  split at h
  · next t =>
    obtain rfl : t = rest := by simpa using h
    exact (properEnd_cons '.' t).trans (properEnd_cons '.' _)
  · next t =>
    obtain rfl : t = rest := by simpa using h
    exact properEnd_cons '-' t
  · simp at h

theorem upperEnd?_properEnd {s rest : List Char} {x : Binary64} (h : upperEnd? s = some (x, rest)) :
    ProperEnd rest s := by
  obtain ⟨t, ht, h⟩ := Option.bind_eq_some_iff.1 h
  exact (trimStart_properEnd (number?_properEnd h)).trans
    (trimStart_properEnd (dropRangeSign?_properEnd ht))

theorem numberItem?_takesSome : TakesSome numberItem? := by
  intro s x rest h
  obtain ⟨⟨low, u⟩, hu, h⟩ := Option.bind_eq_some_iff.1 h
  have hend := number?_properEnd hu
  simp only at h
  split at h
  · next high v hv =>
    obtain ⟨-, rfl⟩ : _ ∧ v = rest := by simpa using h
    exact (upperEnd?_properEnd hv).trans hend
  · obtain ⟨-, rfl⟩ : _ ∧ u = rest := by simpa using h
    exact hend

theorem readListOf?_properEnd {α : Type} {make : List α → Literal}
    {item? : List Char → Option (α × List Char)} (hitem : TakesSome item?) {s rest : List Char}
    {literal : Literal} (h : readListOf? make item? s = some (literal, rest)) :
    ProperEnd rest s := by
  obtain ⟨⟨xs, u⟩, hu, h⟩ := Option.map_eq_some_iff.1 h
  obtain ⟨-, rfl⟩ : _ ∧ u = rest := by simpa using h
  exact readEntries_properEnd hitem hu

theorem Literal.readBody?_properEnd {s rest : List Char} {literal : Literal}
    (h : Literal.readBody? s = some (literal, rest)) : ProperEnd rest s := by
  simp only [Literal.readBody?, Option.or_eq_some_iff] at h
  rcases h with h | ⟨-, h | ⟨-, h⟩⟩
  · exact readListOf?_properEnd addressItem?_takesSome h
  · exact readListOf?_properEnd quotedItem?_takesSome h
  · exact readListOf?_properEnd numberItem?_takesSome h

/-- **A literal that reads** is a text in quotes, a list or an unquoted word. -/
theorem Literal.read_eq_ok {s rest : List Char} {literal : Literal}
    (h : Literal.read s = .ok (literal, rest)) :
    (∃ body, quotation s = .closed body rest ∧ literal = .text (String.ofList body)) ∨
    (∃ t, s = '\x7b' :: t ∧ Literal.readBody? t = some (literal, rest)) ∨
    (∃ word, quotation s = .absent ∧ (∀ t, s ≠ '\x7b' :: t) ∧
      Lexeme.word? s = some (word, rest) ∧ literal = .text (String.ofList word)) := by
  unfold Literal.read at h
  split at h
  · next body u hu =>
    obtain ⟨rfl, rfl⟩ : _ = literal ∧ u = rest := by simpa using h
    exact Or.inl ⟨body, hu, rfl⟩
  · simp at h
  · next habsent =>
    split at h
    · next t =>
      unfold Literal.readList at h
      split at h
      · next answer hanswer =>
        obtain rfl : answer = (literal, rest) := by simpa using h
        exact Or.inr (Or.inl ⟨t, rfl, hanswer⟩)
      · simp at h
    · next hbrace =>
      split at h
      · next word u hu =>
        obtain ⟨rfl, rfl⟩ : _ = literal ∧ u = rest := by simpa using h
        exact Or.inr (Or.inr ⟨word, habsent, hbrace, hu, rfl⟩)
      · simp at h

theorem Literal.read_properEnd {s rest : List Char} {literal : Literal}
    (h : Literal.read s = .ok (literal, rest)) : ProperEnd rest s := by
  rcases Literal.read_eq_ok h with ⟨body, hq, -⟩ | ⟨t, rfl, hbody⟩ | ⟨word, -, -, hw, -⟩
  · exact quotation_properEnd hq
  · exact (Literal.readBody?_properEnd hbody).trans (properEnd_cons _ t)
  · exact word?_properEnd hw

/-! ### Expressions -/

theorem Parser.field_suffix {p : Parser} {s rest : List Char} {name : String}
    (h : p.field s = .ok (name, rest)) : rest <:+ s := by
  unfold Parser.field at h
  split at h
  · simp only [anyField] at h
    split at h
    · simp at h
    · obtain ⟨-, rfl⟩ : _ ∧ _ = rest := by simpa using h
      exact List.dropWhile_suffix _
  · unfold knownField at h
    split at h
    · obtain ⟨-, rfl⟩ : _ ∧ _ = rest := by simpa using h
      exact List.drop_suffix _ _
    · simp only at h
      split at h <;> simp at h

theorem sliceAt_suffix {s rest : List Char} {slice : Option Slice}
    (h : sliceAt s = .ok (slice, rest)) : rest <:+ s := by
  unfold sliceAt at h
  split at h
  · next answer hanswer =>
    obtain rfl : answer = (slice, rest) := by simpa using h
    exact Slice.read_suffix hanswer
  · simp at h

/-- A keyword that is found is one of the words, with blanks behind it. -/
theorem keyword?_eq_some {α : Type} {words : List (String × α)} {s rest : List Char} {a : α}
    (h : keyword? words s = some (a, rest)) :
    ∃ word, (word, a) ∈ words ∧ ∃ t, Text.dropCaseless? word.toList s = some t ∧
      blanks? t = some rest := by
  obtain ⟨⟨word, a'⟩, hmem, h⟩ := List.exists_of_findSome?_eq_some h
  obtain ⟨u, hu, h⟩ := Option.map_eq_some_iff.1 h
  obtain ⟨rfl, rfl⟩ : a' = a ∧ u = rest := by simpa using h
  obtain ⟨t, ht, hb⟩ := Option.bind_eq_some_iff.1 hu
  exact ⟨word, hmem, t, ht, hb⟩

theorem keyword?_properEnd {α : Type} {words : List (String × α)} {s rest : List Char} {a : α}
    (h : keyword? words s = some (a, rest)) : ProperEnd rest s := by
  obtain ⟨word, -, t, ht, hb⟩ := keyword?_eq_some h
  exact (blanks?_properEnd hb).of_suffix (Text.dropCaseless?_suffix ht)

theorem operatorAt?_properEnd {s rest : List Char} {op : Operator}
    (h : operatorAt? s = some (op, rest)) : ProperEnd rest s := by
  obtain ⟨t, ht, h⟩ := Option.bind_eq_some_iff.1 h
  exact (keyword?_properEnd h).trans (blanks?_properEnd ht)

theorem connectiveAt?_properEnd {s rest : List Char} {c : Connective}
    (h : connectiveAt? s = some (c, rest)) : ProperEnd rest s := by
  obtain ⟨t, ht, h⟩ := Option.bind_eq_some_iff.1 h
  exact (keyword?_properEnd h).trans (blanks?_properEnd ht)

theorem negation?_properEnd {s rest : List Char} (h : negation? s = some rest) :
    ProperEnd rest s := by
  unfold negation? at h
  split at h
  · next u hu =>
    obtain rfl : u = rest := by simpa using h
    obtain ⟨t, ht, hb⟩ := Option.bind_eq_some_iff.1 hu
    exact (blanks?_properEnd hb).of_suffix (Text.dropCaseless?_suffix ht)
  · split at h
    · simp at h
    · next t _ _ =>
      obtain rfl : Text.trimStart t = rest := by simpa using h
      exact (properEnd_cons '!' t).after_suffix (Text.trimStart_suffix t)
    · simp at h

theorem comparisonAt_suffix {s rest : List Char} {c : Option Comparison}
    (h : comparisonAt s = .ok (c, rest)) : rest <:+ s := by
  unfold comparisonAt at h
  split at h
  · obtain ⟨-, rfl⟩ : _ ∧ s = rest := by simpa using h
    exact List.suffix_rfl
  · next op t ht =>
    split at h
    · next literal u hu =>
      obtain ⟨-, rfl⟩ : _ ∧ u = rest := by simpa using h
      exact ((Literal.read_properEnd hu).trans (operatorAt?_properEnd ht)).1
    · simp at h

/-- A comparison that is not read has an operator and no literal, the fault of which it gives. -/
theorem comparisonAt_eq_error {s : List Char} {fault : ParseFault (List Char)}
    (h : comparisonAt s = .error fault) : ∃ op v stop, operatorAt? s = some (op, v) ∧
      Literal.read v = .error stop ∧ fault = .literal stop.cause := by
  unfold comparisonAt at h
  split at h
  · simp at h
  · next op v hop =>
    split at h
    · simp at h
    · next stop hstop => exact ⟨op, v, stop, hop, hstop, (Except.error.inj h).symm⟩

theorem Parser.callAt?_suffix {p : Parser} {s rest : List Char} {f : Function}
    (h : p.callAt? s = some (f, rest)) : rest <:+ s := by
  obtain ⟨g, -, h⟩ := Option.bind_eq_some_iff.1 h
  split at h
  · next t ht =>
    obtain ⟨-, rfl⟩ : _ ∧ t = rest := by simpa using h
    exact (List.suffix_cons _ _).trans (ht ▸ List.drop_suffix _ s)
  · simp at h

/-- **A comparison of a function** has a field, an optional slice, a closing parenthesis and a
comparison behind it. -/
theorem Parser.callBody_eq_ok {p : Parser} {f : Function} {s rest : List Char} {e : Expression}
    (h : p.callBody f s = .ok (e, rest)) :
    ∃ field s₁ slice s₂ t c, p.field (Text.trimStart s) = .ok (field, s₁) ∧
      sliceAt s₁ = .ok (slice, s₂) ∧ Text.trimStart s₂ = ')' :: t ∧
      comparisonAt t = .ok (some c, rest) ∧ e = ⟨field, slice, some f, some c⟩ := by
  obtain ⟨⟨field, s₁⟩, h₁, h⟩ := bind_eq_ok.1 h
  obtain ⟨⟨slice, s₂⟩, h₂, h⟩ := bind_eq_ok.1 h
  simp only at h
  split at h
  · next t ht =>
    obtain ⟨⟨c, u⟩, hu, h⟩ := bind_eq_ok.1 h
    cases c with
    | none => simp at h
    | some c =>
      obtain ⟨rfl, rfl⟩ : _ = e ∧ u = rest := by simpa [pure, Except.pure] using h
      exact ⟨field, s₁, slice, s₂, t, c, h₁, h₂, ht, hu, rfl⟩
  · simp at h

/-- **A field expression** has a field, an optional slice and an optional comparison, which a slice
needs. -/
theorem Parser.fieldExpression_eq_ok {p : Parser} {s rest : List Char} {e : Expression}
    (h : p.fieldExpression s = .ok (e, rest)) :
    ∃ field s₁ slice s₂ c, p.field s = .ok (field, s₁) ∧ sliceAt s₁ = .ok (slice, s₂) ∧
      comparisonAt s₂ = .ok (c, rest) ∧ (slice.isSome → c.isSome) ∧
      e = ⟨field, slice, none, c⟩ := by
  obtain ⟨⟨field, s₁⟩, h₁, h⟩ := bind_eq_ok.1 h
  obtain ⟨⟨slice, s₂⟩, h₂, h⟩ := bind_eq_ok.1 h
  obtain ⟨⟨c, u⟩, h₃, h⟩ := bind_eq_ok.1 h
  simp only at h
  split at h
  · simp at h
  · next hslice =>
    obtain ⟨rfl, rfl⟩ : _ = e ∧ u = rest := by simpa [pure, Except.pure] using h
    refine ⟨field, s₁, slice, s₂, c, h₁, h₂, h₃, fun hs => ?_, rfl⟩
    cases c with
    | none => simp [hs] at hslice
    | some c => rfl

/-- **An expression** is a comparison of a function or a field expression. -/
theorem Parser.expression_eq_ok {p : Parser} {s rest : List Char} {e : Expression}
    (h : p.expression s = .ok (e, rest)) :
    (∃ f t, p.callAt? s = some (f, t) ∧ p.callBody f t = .ok (e, rest)) ∨
      (p.callAt? s = none ∧ calledWord? s = none ∧ p.fieldExpression s = .ok (e, rest)) := by
  unfold Parser.expression at h
  split at h
  · next f t hcall => exact Or.inl ⟨f, t, hcall, h⟩
  · next hcall =>
    split at h
    · simp at h
    · next hword => exact Or.inr ⟨hcall, hword, h⟩

theorem Parser.expression_suffix {p : Parser} {s rest : List Char} {e : Expression}
    (h : p.expression s = .ok (e, rest)) : rest <:+ s := by
  rcases Parser.expression_eq_ok h with ⟨f, t, hcall, h⟩ | ⟨-, -, h⟩
  · obtain ⟨field, s₁, slice, s₂, u, c, h₁, h₂, hu, h₃, -⟩ := Parser.callBody_eq_ok h
    have htail : rest <:+ Text.trimStart s₂ :=
      (comparisonAt_suffix h₃).trans (hu ▸ List.suffix_cons ')' u)
    exact (((htail.trans (Text.trimStart_suffix s₂)).trans (sliceAt_suffix h₂)).trans
      ((Parser.field_suffix h₁).trans (Text.trimStart_suffix t))).trans
      (Parser.callAt?_suffix hcall)
  · obtain ⟨field, s₁, slice, s₂, c, h₁, h₂, h₃, -, -⟩ := Parser.fieldExpression_eq_ok h
    exact ((comparisonAt_suffix h₃).trans (sliceAt_suffix h₂)).trans (Parser.field_suffix h₁)

end DisplayFilter
