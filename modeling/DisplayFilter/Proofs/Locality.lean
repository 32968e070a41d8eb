import DisplayFilter.Proofs.EndPieces

/-!
# Texts that differ where no reader looks

A reader takes a text from its start and stops at the first character that it cannot use.  No number,
address or word has a blank or a closing parenthesis in it.  Two texts that are the same up to such a
character are read alike, whatever follows it in each of them: what is read is the same, and what is
left over is again the same up to there.

* `Alike` — a relation between texts that differ only behind such a character;
* `Matched`, `Agree` — outcomes that agree, with alike texts left over;
* **`Alike.head`**, **`Alike.run`** — first characters and runs of alike texts;
* **`Alike.number?`**, **`Alike.addressItem?`**, **`Alike.sliceAt`** — numbers, ranges of addresses and
  slices are read alike;
* **`Alike.readEntries`** — lists of entries that are read alike.

Each lemma is named after the reader that it is about.
-/

namespace DisplayFilter

open Text

/-- A character that numbers, addresses and words may have: no blank and no closing parenthesis. -/
def isInner (c : Char) : Bool :=
  !isBlank c && c != ')'

/-- Whether a text is at its end or goes on with a character of the class `stop`. -/
def AtStop (stop : Char → Bool) (s : List Char) : Prop :=
  ∀ c ∈ s.head?, stop c = true

/-- **Alike texts** start with the same characters until both are at their end or at a character of the
class `stop`, which is not inside of words.  What is left of alike texts behind a first character, or
behind blanks, is alike.  A closing parenthesis and a text in quotes at the start of the first text
stand at the start of the second one, too. -/
structure Alike (stop : Char → Bool) (R : List Char → List Char → Prop) : Prop where
  not_inner : ∀ c, stop c = true → isInner c = false
  step : ∀ {s s'}, R s s' →
    (∃ c t t', s = c :: t ∧ s' = c :: t' ∧ R t t') ∨ (AtStop stop s ∧ AtStop stop s')
  trim : ∀ {s s'}, R s s' → R (trimStart s) (trimStart s')
  close : ∀ {t s'}, R (')' :: t) s' → ∃ t', s' = ')' :: t' ∧ R t t'
  quote : ∀ {s s' body rest}, R s s' → quotation s = .closed body rest →
    ∃ rest', quotation s' = .closed body rest' ∧ R rest rest'

/-- **Matched outcomes:** both readers find nothing, or both find the same and leave alike texts. -/
inductive Matched {α : Type} (R : List Char → List Char → Prop) :
    Option (α × List Char) → Option (α × List Char) → Prop
  | none : Matched R none none
  | some (a : α) {rest rest' : List Char} (h : R rest rest') :
      Matched R (some (a, rest)) (some (a, rest'))

/-- **Outcomes that agree:** both readers fail, or both give the same and leave alike texts. -/
inductive Agree {ε α : Type} (R : List Char → List Char → Prop) :
    Except ε (α × List Char) → Except ε (α × List Char) → Prop
  | ok (a : α) {rest rest' : List Char} (h : R rest rest') : Agree R (.ok (a, rest)) (.ok (a, rest'))
  | error (e e' : ε) : Agree R (.error e) (.error e')

variable {stop : Char → Bool} {R : List Char → List Char → Prop} {s s' : List Char}

/-- Steps behind outcomes that agree. -/
theorem Agree.bind {ε α β : Type} {x y : Except ε (α × List Char)}
    {f g : α × List Char → Except ε (β × List Char)} (h : Agree R x y)
    (hfg : ∀ a rest rest', x = .ok (a, rest) → y = .ok (a, rest') → R rest rest' →
      Agree R (f (a, rest)) (g (a, rest'))) :
    Agree R (x >>= f) (y >>= g) := by
  cases h with
  | ok a h => exact hfg a _ _ rfl rfl h
  | error e e' => exact .error e e'

theorem Agree.ok_of_ok {ε α : Type} {x y : Except ε (α × List Char)} {a : α} {rest : List Char}
    (h : Agree R x y) (hx : x = .ok (a, rest)) : ∃ rest', y = .ok (a, rest') ∧ R rest rest' := by
  cases h with
  | @ok b u u' hu =>
    obtain ⟨rfl, rfl⟩ : b = a ∧ u = rest := by simpa using hx
    exact ⟨u', rfl, hu⟩
  | error e e' => simp at hx

theorem Agree.error_of_error {ε α : Type} {x y : Except ε (α × List Char)} {e : ε}
    (h : Agree R x y) (hx : x = .error e) : ∃ e', y = .error e' := by
  cases h with
  | ok b hu => simp at hx
  | error e e' => exact ⟨e', rfl⟩

theorem Agree.toOption {ε α : Type} {x y : Except ε (α × List Char)} (h : Agree R x y) :
    Matched R x.toOption y.toOption := by
  cases h with
  | ok a h => exact .some a h
  | error e e' => exact .none

theorem Matched.some_of_some {α : Type} {x y : Option (α × List Char)} {a : α} {rest : List Char}
    (h : Matched R x y) (hx : x = Option.some (a, rest)) :
    ∃ rest', y = Option.some (a, rest') ∧ R rest rest' := by
  cases h with
  | none => simp at hx
  | @some b u u' hu =>
    obtain ⟨rfl, rfl⟩ : b = a ∧ u = rest := by simpa using hx
    exact ⟨u', rfl, hu⟩

theorem Matched.none_of_none {α : Type} {x y : Option (α × List Char)} (h : Matched R x y)
    (hx : x = Option.none) : y = Option.none := by
  cases h with
  | none => rfl
  | some a h => simp at hx

/-! ### First characters and runs -/

theorem AtStop.stops {q : Char → Bool} (h : AtStop stop s) (hq : ∀ c, stop c = true → q c = false) :
    Stops q s :=
  fun c hc => hq c (h c hc)

/-- A text that does not start with a character has another one in front, or none. -/
theorem head?_beq_of_ne {d : Char} (h : ∀ t, s ≠ d :: t) : (s.head? == some d) = false := by
  cases s with
  | nil => rfl
  | cons c s =>
    have hc : c ≠ d := fun heq => h s (heq ▸ rfl)
    simpa using hc

theorem isInner_of_isDigit {c : Char} (h : c.isDigit = true) : isInner c = true := by
  have hdigit : 48 ≤ c.toNat ∧ c.toNat ≤ 57 := Char.isDigit_iff_toNat.1 h
  have hblank : isBlank c = false := by
    simp only [isBlank]
    grind
  have hclose : c ≠ ')' := by
    rintro rfl
    exact absurd h (by decide)
  simp [isInner, hblank, hclose]

namespace Alike

/-- Alike texts both start with a character that texts do not stop at, or none of them does. -/
theorem head_of_not_stop (h : Alike stop R) {d : Char} (hd : stop d = false) (hs : R s s') :
    (∃ t t', s = d :: t ∧ s' = d :: t' ∧ R t t') ∨ ((∀ t, s ≠ d :: t) ∧ ∀ t, s' ≠ d :: t) := by
  have hne : ∀ u : List Char, AtStop stop u → ∀ t, u ≠ d :: t := by
    rintro u hu t rfl
    have hstop : stop d = true := hu d rfl
    rw [hd] at hstop
    exact Bool.noConfusion hstop
  rcases h.step hs with ⟨c, t, t', rfl, rfl, ht⟩ | ⟨hstop, hstop'⟩
  · by_cases hc : c = d
    · subst hc
      exact Or.inl ⟨t, t', rfl, rfl, ht⟩
    · exact Or.inr ⟨fun u hu => hc (List.cons.inj hu).1, fun u hu => hc (List.cons.inj hu).1⟩
  · exact Or.inr ⟨hne s hstop, hne s' hstop'⟩

/-- A class of characters inside of words does not go on where texts stop. -/
theorem not_stop (h : Alike stop R) {q : Char → Bool} (hq : ∀ c, q c = true → isInner c = true) :
    ∀ c, stop c = true → q c = false := by
  intro c hc
  cases hqc : q c with
  | false => rfl
  | true =>
    have hinner := hq c hqc
    rw [h.not_inner c hc] at hinner
    exact Bool.noConfusion hinner

/-- **First characters.** Alike texts both start with a character inside of words, or none of them
does. -/
theorem head (h : Alike stop R) {d : Char} (hd : isInner d = true) (hs : R s s') :
    (∃ t t', s = d :: t ∧ s' = d :: t' ∧ R t t') ∨ ((∀ t, s ≠ d :: t) ∧ ∀ t, s' ≠ d :: t) := by
  refine h.head_of_not_stop ?_ hs
  cases hstop : stop d with
  | false => rfl
  | true =>
    rw [h.not_inner d hstop] at hd
    exact Bool.noConfusion hd

/-- **Runs.** Alike texts start with the same run of characters inside of words, and what follows the
run is alike. -/
theorem run (h : Alike stop R) {q : Char → Bool} (hq : ∀ c, stop c = true → q c = false)
    (hs : R s s') : s'.takeWhile q = s.takeWhile q ∧ R (s.dropWhile q) (s'.dropWhile q) := by
  induction s generalizing s' with
  | nil =>
    rcases h.step hs with ⟨c, t, t', hnil, -, -⟩ | ⟨-, hstop⟩
    · simp at hnil
    · rw [takeWhile_of_stops (hstop.stops hq), dropWhile_of_stops (hstop.stops hq)]
      exact ⟨rfl, hs⟩
  | cons c s ih =>
    rcases h.step hs with ⟨d, t, t', hcons, rfl, ht⟩ | ⟨hstop, hstop'⟩
    · obtain ⟨rfl, rfl⟩ := List.cons.inj hcons
      cases hc : q c with
      | true =>
        obtain ⟨htake, hdrop⟩ := ih ht
        rw [List.takeWhile_cons_of_pos hc, List.takeWhile_cons_of_pos hc, htake,
          List.dropWhile_cons_of_pos hc, List.dropWhile_cons_of_pos hc]
        exact ⟨rfl, hdrop⟩
      | false =>
        have hneg : ¬ q c = true := by simp [hc]
        rw [List.takeWhile_cons_of_neg hneg, List.takeWhile_cons_of_neg hneg,
          List.dropWhile_cons_of_neg hneg, List.dropWhile_cons_of_neg hneg]
        exact ⟨rfl, hs⟩
    · rw [takeWhile_of_stops (hstop.stops hq), dropWhile_of_stops (hstop.stops hq),
        takeWhile_of_stops (hstop'.stops hq), dropWhile_of_stops (hstop'.stops hq)]
      exact ⟨rfl, hs⟩

theorem digits (h : Alike stop R) (hs : R s s') :
    s'.takeWhile Char.isDigit = s.takeWhile Char.isDigit ∧
      R (s.dropWhile Char.isDigit) (s'.dropWhile Char.isDigit) :=
  h.run (h.not_stop fun _ hc => isInner_of_isDigit hc) hs

/-- Whether alike texts start with a character of a class inside of words. -/
theorem any_head (h : Alike stop R) {q : Char → Bool} (hq : ∀ c, stop c = true → q c = false)
    (hs : R s s') : s'.head?.any q = s.head?.any q := by
  have hnone : ∀ u : List Char, AtStop stop u → u.head?.any q = false := by
    intro u hu
    cases u with
    | nil => rfl
    | cons c u => exact hq c (hu c rfl)
  rcases h.step hs with ⟨c, t, t', rfl, rfl, -⟩ | ⟨hstop, hstop'⟩
  · rfl
  · rw [hnone s hstop, hnone s' hstop']

/-! ### Numbers -/

theorem splitSign (h : Alike stop R) (hs : R s s') :
    (splitSign s').1 = (splitSign s).1 ∧ R (splitSign s).2 (splitSign s').2 := by
  have hne : ∀ u : List Char, (∀ t, u ≠ '-' :: t) → (∀ t, u ≠ '+' :: t) →
      DisplayFilter.splitSign u = (false, u) := by
    intro u hminus hplus
    unfold DisplayFilter.splitSign
    split
    · exact absurd rfl (hminus _)
    · exact absurd rfl (hplus _)
    · rfl
  rcases h.head (d := '-') (by decide) hs with ⟨t, t', rfl, rfl, ht⟩ | ⟨hminus, hminus'⟩
  · exact ⟨rfl, ht⟩
  · rcases h.head (d := '+') (by decide) hs with ⟨t, t', rfl, rfl, ht⟩ | ⟨hplus, hplus'⟩
    · exact ⟨rfl, ht⟩
    · rw [hne s hminus hplus, hne s' hminus' hplus']
      exact ⟨rfl, hs⟩

theorem integer? (h : Alike stop R) (hs : R s s') :
    Matched R (Lexeme.integer? s) (Lexeme.integer? s') := by
  obtain ⟨hsign, hbody⟩ := h.splitSign hs
  obtain ⟨htake, hdrop⟩ := h.digits hbody
  simp only [Lexeme.integer?, hsign, htake]
  split
  · exact .none
  · cases Lexeme.signedValue? (DisplayFilter.splitSign s).1 _ with
    | none => exact .none
    | some n => exact .some n hdrop

theorem fraction (h : Alike stop R) (hs : R s s') :
    (Lexeme.fraction s').1 = (Lexeme.fraction s).1 ∧
      R (Lexeme.fraction s).2 (Lexeme.fraction s').2 := by
  have hne : ∀ u : List Char, (∀ t, u ≠ '.' :: t) → Lexeme.fraction u = ([], u) := by
    intro u hpoint
    unfold Lexeme.fraction
    split
    · exact absurd rfl (hpoint _)
    · rfl
  rcases h.head (d := '.') (by decide) hs with ⟨t, t', rfl, rfl, ht⟩ | ⟨hpoint, hpoint'⟩
  · obtain ⟨htake, hdrop⟩ := h.digits ht
    simp only [Lexeme.fraction, htake]
    split
    · exact ⟨rfl, hs⟩
    · exact ⟨rfl, hdrop⟩
  · rw [hne s hpoint, hne s' hpoint']
    exact ⟨rfl, hs⟩

theorem number? (h : Alike stop R) (hs : R s s') :
    Matched R (Lexeme.number? s) (Lexeme.number? s') := by
  obtain ⟨hsign, hbody⟩ := h.splitSign hs
  obtain ⟨htake, hdrop⟩ := h.digits hbody
  obtain ⟨hplaces, hrest⟩ := h.fraction hdrop
  simp only [Lexeme.number?, hsign, htake, hplaces]
  split
  · exact .none
  · exact .some _ hrest

theorem dropRangeSign? (h : Alike stop R) (hs : R s s') :
    Option.Rel R (dropRangeSign? s) (dropRangeSign? s') := by
  have hpoint : ∀ u : List Char, (∀ t, u ≠ '.' :: t) → DisplayFilter.dropRangeSign? ('.' :: u) = none := by
    intro u hu
    unfold DisplayFilter.dropRangeSign?
    split
    · next t heq => exact absurd (List.cons.inj heq).2 (hu t)
    · next heq => exact absurd (List.cons.inj heq).1 (by decide)
    · rfl
  have hne : ∀ u : List Char, (∀ t, u ≠ '.' :: t) → (∀ t, u ≠ '-' :: t) →
      DisplayFilter.dropRangeSign? u = none := by
    intro u hu hdash
    unfold DisplayFilter.dropRangeSign?
    split
    · exact absurd rfl (hu _)
    · exact absurd rfl (hdash _)
    · rfl
  rcases h.head (d := '.') (by decide) hs with ⟨t, t', rfl, rfl, ht⟩ | ⟨hs₁, hs₁'⟩
  · rcases h.head (d := '.') (by decide) ht with ⟨u, u', rfl, rfl, hu⟩ | ⟨ht₁, ht₁'⟩
    · exact .some hu
    · rw [hpoint t ht₁, hpoint t' ht₁']
      exact .none
  · rcases h.head (d := '-') (by decide) hs with ⟨t, t', rfl, rfl, ht⟩ | ⟨hs₂, hs₂'⟩
    · exact .some ht
    · rw [hne s hs₁ hs₂, hne s' hs₁' hs₂']
      exact .none

theorem upperEnd? (h : Alike stop R) (hs : R s s') :
    Matched R (upperEnd? s) (upperEnd? s') := by
  have hsign := h.dropRangeSign? (h.trim hs)
  unfold DisplayFilter.upperEnd?
  generalize DisplayFilter.dropRangeSign? (trimStart s) = x at hsign ⊢
  generalize DisplayFilter.dropRangeSign? (trimStart s') = y at hsign ⊢
  cases hsign with
  | none => exact .none
  | some ht => exact h.number? (h.trim ht)

theorem numberItem? (h : Alike stop R) (hs : R s s') :
    Matched R (numberItem? s) (numberItem? s') := by
  have hlow := h.number? hs
  unfold DisplayFilter.numberItem?
  generalize Lexeme.number? s = x at hlow ⊢
  generalize Lexeme.number? s' = y at hlow ⊢
  cases hlow with
  | none => exact .none
  | @some low t t' ht =>
    have hupper := h.upperEnd? ht
    simp only [bind, Option.bind_some]
    generalize DisplayFilter.upperEnd? t = x at hupper ⊢
    generalize DisplayFilter.upperEnd? t' = y at hupper ⊢
    cases hupper with
    | none => exact .some _ ht
    | some high hrest => exact .some _ hrest

/-! ### Addresses -/

theorem readOctet (h : Alike stop R) (hs : R s s') : Agree R (readOctet s) (readOctet s') := by
  obtain ⟨htake, hdrop⟩ := h.digits hs
  simp only [DisplayFilter.readOctet, htake]
  split
  · exact .error _ _
  · split
    · exact .error _ _
    · exact .ok _ hdrop

end Alike

/-- What follows the lower end of an interval: a dash and the upper end, or nothing of the two. -/
def OctetInterval.readFrom (low : UInt8) (s : List Char) :
    Except RangeStop (OctetInterval × List Char) :=
  match s with
  | '-' :: t =>
    match readOctet t with
    | .ok (high, t) =>
      if low ≤ high then .ok (⟨low, high⟩, t) else .error ⟨.emptyInterval low high, t⟩
    | .error _ => .ok (.single low, s)
  | _ => .ok (.single low, s)

/-- An interval that does not start with an asterisk starts with an octet. -/
theorem OctetInterval.read_of_ne (hs : ∀ t, s ≠ '*' :: t) :
    OctetInterval.read s =
      (DisplayFilter.readOctet s >>= fun answer => OctetInterval.readFrom answer.1 answer.2) := by
  unfold OctetInterval.read
  split
  · exact absurd rfl (hs _)
  · rfl

namespace Alike

theorem interval_readFrom (h : Alike stop R) (low : UInt8) (hs : R s s') :
    Agree R (OctetInterval.readFrom low s) (OctetInterval.readFrom low s') := by
  have hne : ∀ u : List Char, (∀ t, u ≠ '-' :: t) →
      OctetInterval.readFrom low u = .ok (.single low, u) := by
    intro u hdash
    unfold OctetInterval.readFrom
    split
    · exact absurd rfl (hdash _)
    · rfl
  rcases h.head (d := '-') (by decide) hs with ⟨t, t', rfl, rfl, ht⟩ | ⟨hdash, hdash'⟩
  · have hoctet := h.readOctet ht
    simp only [OctetInterval.readFrom]
    generalize DisplayFilter.readOctet t = x at hoctet ⊢
    generalize DisplayFilter.readOctet t' = y at hoctet ⊢
    cases hoctet with
    | ok high hrest =>
      simp only
      split
      · exact .ok _ hrest
      · exact .error _ _
    | error e e' => exact .ok _ hs
  · rw [hne s hdash, hne s' hdash']
    exact .ok _ hs

theorem interval_read (h : Alike stop R) (hs : R s s') :
    Agree R (OctetInterval.read s) (OctetInterval.read s') := by
  rcases h.head (d := '*') (by decide) hs with ⟨t, t', rfl, rfl, ht⟩ | ⟨hstar, hstar'⟩
  · exact .ok _ ht
  · rw [OctetInterval.read_of_ne hstar, OctetInterval.read_of_ne hstar']
    exact (h.readOctet hs).bind fun low _ _ _ _ hrest => h.interval_readFrom low hrest

theorem startsAddress (h : Alike stop R) (hs : R s s') : startsAddress s' = startsAddress s := by
  have hdigit := h.any_head (h.not_stop fun _ hc => isInner_of_isDigit hc) (h.trim hs)
  have hdrop := (h.digits (h.trim hs)).2
  have hpoint : (((trimStart s').dropWhile Char.isDigit).head? == some '.') =
      (((trimStart s).dropWhile Char.isDigit).head? == some '.') := by
    rcases h.head (d := '.') (by decide) hdrop with ⟨t, t', ht, ht', -⟩ | ⟨hne, hne'⟩
    · rw [ht, ht']
      rfl
    · rw [head?_beq_of_ne hne, head?_beq_of_ne hne']
  simp only [DisplayFilter.startsAddress, hdigit, hpoint]

theorem startsInterval (h : Alike stop R) (hs : R s s') : startsInterval s' = startsInterval s := by
  refine h.any_head (h.not_stop fun c hc => ?_) hs
  rcases Bool.or_eq_true_iff.1 hc with hdigit | hstar
  · exact isInner_of_isDigit hdigit
  · obtain rfl : c = '*' := by simpa using hstar
    decide

theorem set_readUpTo (h : Alike stop R) (last : Bool) {n m : Nat} (hn : s.length < n)
    (hm : s'.length < m) (hs : R s s') :
    Agree R (OctetSet.readUpTo last n s) (OctetSet.readUpTo last m s') := by
  induction n generalizing s s' m with
  | zero => omega
  | succ n ih =>
    obtain ⟨m, rfl⟩ : ∃ k, m = k + 1 := ⟨m - 1, by omega⟩
    unfold OctetSet.readUpTo
    refine (h.interval_read hs).bind fun x rest rest' hx hx' hrest => ?_
    have hlt := (OctetInterval.read_properEnd hx).2
    have hlt' := (OctetInterval.read_properEnd hx').2
    rcases h.head (d := ',') (by decide) hrest with ⟨t, t', rfl, rfl, ht⟩ | ⟨hcomma, hcomma'⟩
    · rw [List.length_cons] at hlt hlt'
      simp only [h.startsAddress ht, h.startsInterval ht]
      split
      · exact .ok _ hrest
      · exact (ih (by omega) (by omega) ht).bind fun more v v' _ _ hv => .ok _ hv
    · simp only
      exact .ok _ hrest

theorem set_readNext (h : Alike stop R) (start start' : List Char) (last : Bool) (hs : R s s') :
    Agree R (OctetSet.readNext start last s) (OctetSet.readNext start' last s') := by
  rcases h.head (d := '.') (by decide) hs with ⟨t, t', rfl, rfl, ht⟩ | ⟨hpoint, hpoint'⟩
  · exact h.set_readUpTo last (by omega) (by omega) ht
  · unfold OctetSet.readNext
    split
    · exact absurd rfl (hpoint _)
    · exact .error _ _

theorem readOctets (h : Alike stop R) (hs : R s s') :
    Agree R (Ipv4Range.readOctets s) (Ipv4Range.readOctets s') := by
  unfold Ipv4Range.readOctets
  refine (h.set_readUpTo false (by omega) (by omega) hs).bind fun first _ _ _ _ h₁ => ?_
  refine (h.set_readNext _ _ false h₁).bind fun second _ _ _ _ h₂ => ?_
  refine (h.set_readNext _ _ false h₂).bind fun third _ _ _ _ h₃ => ?_
  exact (h.set_readNext _ _ true h₃).bind fun fourth _ _ _ _ h₄ => .ok _ h₄

theorem range_read (h : Alike stop R) (hs : R s s') :
    Agree R (Ipv4Range.read s) (Ipv4Range.read s') := by
  unfold Ipv4Range.read
  refine (h.readOctets hs).bind fun r rest rest' _ _ hrest => ?_
  rcases h.head (d := '/') (by decide) hrest with ⟨t, t', rfl, rfl, ht⟩ | ⟨hslash, hslash'⟩
  · have hlength := h.integer? ht
    simp only
    generalize Lexeme.integer? t = x at hlength ⊢
    generalize Lexeme.integer? t' = y at hlength ⊢
    cases hlength with
    | none => exact .error _ _
    | some length hv =>
      simp only
      split
      · exact .error _ _
      · split
        · exact .error _ _
        · exact .ok _ hv
  · simp only
    exact .ok _ hrest

theorem addressItem? (h : Alike stop R) (hs : R s s') :
    Matched R (addressItem? s) (addressItem? s') :=
  (h.range_read hs).toOption

/-! ### Lists -/

/-- **A list of entries that are read alike** is read alike, whatever fuel there is as long as it
suffices. -/
theorem readEntries (h : Alike stop R) {α : Type} {item? : List Char → Option (α × List Char)}
    (htakes : TakesSome item?) (hitem : ∀ {s s'}, R s s' → Matched R (item? s) (item? s'))
    {n m : Nat} (hn : s.length < n) (hm : s'.length < m) (hs : R s s') :
    Matched R (readEntries item? n s) (readEntries item? m s') := by
  induction n generalizing s s' m with
  | zero => omega
  | succ n ih =>
    obtain ⟨m, rfl⟩ : ∃ k, m = k + 1 := ⟨m - 1, by omega⟩
    have hx := hitem (h.trim hs)
    have hend := fun x rest (hr : item? (trimStart s) = some (x, rest)) =>
      trimStart_properEnd (htakes _ _ _ hr)
    have hend' := fun x rest (hr : item? (trimStart s') = some (x, rest)) =>
      trimStart_properEnd (htakes _ _ _ hr)
    simp only [DisplayFilter.readEntries, bind]
    generalize item? (trimStart s) = x at hx hend ⊢
    generalize item? (trimStart s') = y at hx hend' ⊢
    cases hx with
    | none => exact .none
    | @some x rest rest' hrest =>
      have hlt := (hend x rest rfl).2
      have hlt' := (hend' x rest' rfl).2
      have hle := (trimStart_suffix rest).length_le
      have hle' := (trimStart_suffix rest').length_le
      have hnext := h.trim hrest
      simp only [Option.bind_some]
      rcases h.head (d := ',') (by decide) hnext with ⟨t, t', ht, ht', hrest⟩ | ⟨hcomma, hcomma'⟩
      · rw [ht, List.length_cons] at hle
        rw [ht', List.length_cons] at hle'
        have hrec := ih (m := m) (by omega) (by omega) hrest
        simp only [ht, ht']
        generalize DisplayFilter.readEntries item? n t = x at hrec ⊢
        generalize DisplayFilter.readEntries item? m t' = y at hrec ⊢
        cases hrec with
        | none => exact .none
        | some more hv => exact .some _ hv
      · rcases h.head (d := '\x7d') (by decide) hnext with ⟨t, t', ht, ht', hrest⟩ | ⟨hbrace, hbrace'⟩
        · simp only [ht, ht']
          exact .some _ hrest
        · split
          · next heq => exact absurd heq (hcomma _)
          · next heq => exact absurd heq (hbrace _)
          · exact .none

theorem readListOf? (h : Alike stop R) {α : Type} (make : List α → Literal)
    {item? : List Char → Option (α × List Char)} (htakes : TakesSome item?)
    (hitem : ∀ {s s'}, R s s' → Matched R (item? s) (item? s')) (hs : R s s') :
    Matched R (readListOf? make item? s) (readListOf? make item? s') := by
  have hlist := h.readEntries htakes hitem (n := s.length + 1) (m := s'.length + 1) (by omega)
    (by omega) hs
  unfold DisplayFilter.readListOf?
  generalize DisplayFilter.readEntries item? (s.length + 1) s = x at hlist ⊢
  generalize DisplayFilter.readEntries item? (s'.length + 1) s' = y at hlist ⊢
  cases hlist with
  | none => exact .none
  | some xs hrest => exact .some _ hrest

/-! ### Slices -/

theorem readBound (h : Alike stop R) (fault : List Char → SliceFault (List Char)) (hs : R s s') :
    Agree R (readBound fault s) (readBound fault s') := by
  have hinteger := h.integer? hs
  unfold DisplayFilter.readBound
  generalize Lexeme.integer? s = x at hinteger ⊢
  generalize Lexeme.integer? s' = y at hinteger ⊢
  cases hinteger with
  | none => exact .error _ _
  | some n hrest => exact .ok _ hrest

theorem entry_readFrom (h : Alike stop R) (start : Int64) (hs : R s s') :
    Agree R (SliceEntry.readFrom start s) (SliceEntry.readFrom start s') := by
  have htrim := h.trim hs
  rcases h.head (d := ':') (by decide) htrim with ⟨t, t', ht, ht', hrest⟩ | ⟨hcolon, hcolon'⟩
  · have hinteger := h.integer? (h.trim hrest)
    simp only [SliceEntry.readFrom, ht, ht']
    generalize Lexeme.integer? (trimStart t) = x at hinteger ⊢
    generalize Lexeme.integer? (trimStart t') = y at hinteger ⊢
    cases hinteger with
    | none => exact .ok _ hrest
    | some n hv => exact .ok _ hv
  · rcases h.head (d := '-') (by decide) htrim with ⟨t, t', ht, ht', hrest⟩ | ⟨hdash, hdash'⟩
    · simp only [SliceEntry.readFrom, ht, ht']
      exact (h.readBound _ (h.trim hrest)).bind fun stop _ _ _ _ hv => .ok _ hv
    · unfold SliceEntry.readFrom
      split
      · next heq => exact absurd heq (hcolon _)
      · next heq => exact absurd heq (hdash _)
      · exact .ok _ hs

theorem entry_read (h : Alike stop R) (hs : R s s') :
    Agree R (SliceEntry.read s) (SliceEntry.read s') := by
  rcases h.head (d := ':') (by decide) hs with ⟨t, t', rfl, rfl, ht⟩ | ⟨hcolon, hcolon'⟩
  · exact (h.readBound _ (h.trim ht)).bind fun stop _ _ _ _ hv => .ok _ hv
  · unfold SliceEntry.read
    split
    · exact absurd rfl (hcolon _)
    · exact (h.readBound _ hs).bind fun start _ _ _ _ hv => h.entry_readFrom start hv

theorem slice_readEntries (h : Alike stop R) {n m : Nat} (hn : s.length < n) (hm : s'.length < m)
    (hs : R s s') : Agree R (Slice.readEntries n s) (Slice.readEntries m s') := by
  induction n generalizing s s' m with
  | zero => omega
  | succ n ih =>
    obtain ⟨m, rfl⟩ : ∃ k, m = k + 1 := ⟨m - 1, by omega⟩
    simp only [Slice.readEntries]
    refine (h.entry_read (h.trim hs)).bind fun entry rest rest' hentry hentry' hrest => ?_
    have hlt := (trimStart_properEnd (SliceEntry.read_properEnd hentry)).2
    have hlt' := (trimStart_properEnd (SliceEntry.read_properEnd hentry')).2
    have hle := (trimStart_suffix rest).length_le
    have hle' := (trimStart_suffix rest').length_le
    have hnext := h.trim hrest
    rcases h.head (d := ',') (by decide) hnext with ⟨t, t', ht, ht', hrest⟩ | ⟨hcomma, hcomma'⟩
    · rw [ht, List.length_cons] at hle
      rw [ht', List.length_cons] at hle'
      simp only [ht, ht']
      exact (ih (m := m) (by omega) (by omega) hrest).bind fun more _ _ _ _ hv => .ok _ hv
    · rcases h.head (d := ']') (by decide) hnext with ⟨t, t', ht, ht', hrest⟩ | ⟨hbracket, hbracket'⟩
      · simp only [ht, ht']
        exact .ok _ hrest
      · split
        · next heq => exact absurd heq (hcomma _)
        · next heq => exact absurd heq (hbracket _)
        · exact .error _ _

/-- **Slices** are read alike. -/
theorem slice_read (h : Alike stop R) (hs : R s s') : Agree R (Slice.read s) (Slice.read s') := by
  rcases h.head (d := '[') (by decide) hs with ⟨t, t', rfl, rfl, ht⟩ | ⟨hbracket, hbracket'⟩
  · exact (h.slice_readEntries (by omega) (by omega) ht).bind fun slice _ _ _ _ hv => .ok _ hv
  · unfold Slice.read
    split
    · exact absurd rfl (hbracket _)
    · exact .ok _ hs

theorem sliceAt (h : Alike stop R) (hs : R s s') : Agree R (sliceAt s) (sliceAt s') := by
  have hread := h.slice_read hs
  unfold DisplayFilter.sliceAt
  generalize Slice.read s = x at hread ⊢
  generalize Slice.read s' = y at hread ⊢
  cases hread with
  | ok slice hrest => exact .ok _ hrest
  | error e e' => exact .error _ _

end Alike

end DisplayFilter
