import DisplayFilter.Proofs.EndPieces

/-!
# Derivations of filters

The parser counts the levels of nesting that it may still open.  Every level takes a character, so
that a count as large as the text never runs out: the count can be left away, and what remains is
a grammar.  A derivation of this grammar is what later proofs go through by induction.

* `Parser.operandStep` — one level of nesting, with the level below as an argument;
* **`operand_eq_unary`** — a large enough count does not matter;
* **`unary_eq`** — an operand in terms of shorter operands, without a count;
* `Parser.Reads` — the derivations;
* **`unary_eq_ok_iff`**, **`chain_eq_ok_iff`**, **`parse_eq_ok_iff`** — the parser accepts what has a
  derivation.
-/

namespace DisplayFilter

/-! ### One level of nesting -/

/-- Why a filter text cannot be read, with the place as the text left to read. -/
abbrev ParseStop := ParseFault (List Char)

/-- One level of nesting: an operand whose inner operands are read by `inner`. -/
def Parser.operandStep (p : Parser) (inner : List Char → Except ParseStop (Node × List Char))
    (s : List Char) : Except ParseStop (Node × List Char) :=
  match negation? s with
  | some t =>
    match inner t with
    | .ok (x, rest) => .ok (.group [.connective .not, x], rest)
    | .error fault =>
      match p.expression s with
      | .ok (e, rest) => if e.comparison.isSome then .ok (.leaf e, rest) else .error fault
      | .error _ => .error fault
  | none =>
    match s with
    | '(' :: t =>
      match Text.trimStart t with
      | ')' :: u => .error (.emptyParentheses (')' :: u))
      | u => do
        let (x, rest) ← chain inner u
        match Text.trimStart rest with
        | ')' :: rest => .ok (x, rest)
        | rest => .error (.expectedClosing rest)
    | _ => (p.expression s).map fun (e, rest) => (.leaf e, rest)

theorem operand_succ (p : Parser) (depth : Nat) (s : List Char) :
    p.operand (depth + 1) s = p.operandStep (p.operand depth) s := rfl

/-- A reader of operands leaves end pieces. -/
def LeavesEnds (operand : List Char → Except ParseStop (Node × List Char)) : Prop :=
  ∀ s x rest, operand s = .ok (x, rest) → rest <:+ s

variable {f g : List Char → Except ParseStop (Node × List Char)}

theorem chainTail_suffix (hf : LeavesEnds f) {fuel : Nat} {s rest : List Char} {nodes : List Node}
    (h : chainTail f fuel s = .ok (nodes, rest)) : rest <:+ s := by
  induction fuel generalizing s nodes with
  | zero =>
    obtain ⟨-, rfl⟩ : _ ∧ s = rest := by simpa [chainTail] using h
    exact List.suffix_rfl
  | succ fuel ih =>
    unfold chainTail at h
    split at h
    · obtain ⟨-, rfl⟩ : _ ∧ s = rest := by simpa using h
      exact List.suffix_rfl
    · next c t hc =>
      obtain ⟨⟨x, u⟩, hu, h⟩ := bind_eq_ok.1 h
      obtain ⟨⟨more, v⟩, hv, h⟩ := bind_eq_ok.1 h
      obtain ⟨-, rfl⟩ : _ ∧ v = rest := by simpa [pure, Except.pure] using h
      exact ((ih hv).trans (hf _ _ _ hu)).trans (connectiveAt?_properEnd hc).1

theorem chain_suffix (hf : LeavesEnds f) {s rest : List Char} {x : Node}
    (h : chain f s = .ok (x, rest)) : rest <:+ s := by
  obtain ⟨⟨first, u⟩, hu, h⟩ := bind_eq_ok.1 h
  obtain ⟨⟨more, v⟩, hv, h⟩ := bind_eq_ok.1 h
  obtain ⟨-, rfl⟩ : _ ∧ v = rest := by simpa [pure, Except.pure] using h
  exact (chainTail_suffix hf hv).trans (hf _ _ _ hu)

theorem operandStep_suffix {p : Parser} (hf : LeavesEnds f) {s rest : List Char} {x : Node}
    (h : p.operandStep f s = .ok (x, rest)) : rest <:+ s := by
  unfold Parser.operandStep at h
  split at h
  · next t ht =>
    split at h
    · next y u hu =>
      obtain ⟨-, rfl⟩ : _ ∧ u = rest := by simpa using h
      exact (hf _ _ _ hu).trans (negation?_properEnd ht).1
    · split at h
      · next e u hu =>
        split at h
        · obtain ⟨-, rfl⟩ : _ ∧ u = rest := by simpa using h
          exact Parser.expression_suffix hu
        · simp at h
      · simp at h
  · split at h
    · next t _ =>
      split at h
      · simp at h
      · obtain ⟨⟨y, u⟩, hu, h⟩ := bind_eq_ok.1 h
        simp only at h
        split at h
        · next v hv =>
          obtain ⟨-, rfl⟩ : _ ∧ v = rest := by simpa using h
          have hend : ProperEnd v u := trimStart_properEnd (hv ▸ properEnd_cons ')' v)
          exact ((hend.1.trans (chain_suffix hf hu)).trans (Text.trimStart_suffix t)).trans
            (List.suffix_cons '(' t)
        · simp at h
    · obtain ⟨⟨e, u⟩, hu, h⟩ := map_eq_ok.1 h
      obtain ⟨-, rfl⟩ : _ ∧ u = rest := by simpa using h
      exact Parser.expression_suffix hu

theorem operand_suffix (p : Parser) (depth : Nat) : LeavesEnds (p.operand depth) := by
  induction depth with
  | zero =>
    intro s x rest h
    obtain ⟨⟨e, u⟩, hu, h⟩ := map_eq_ok.1 h
    obtain ⟨-, rfl⟩ : _ ∧ u = rest := by simpa using h
    exact Parser.expression_suffix hu
  | succ depth ih => exact fun s x rest h => operandStep_suffix ih (operand_succ p depth s ▸ h)

/-! ### The count does not matter -/

theorem chainTail_congr (hf : LeavesEnds f) {n : Nat} (hfg : ∀ t, t.length ≤ n → f t = g t)
    {fuel : Nat} {s : List Char} (hs : s.length ≤ n) :
    chainTail f fuel s = chainTail g fuel s := by
  induction fuel generalizing s with
  | zero => rfl
  | succ fuel ih =>
    unfold chainTail
    split
    · rfl
    · next c t hc =>
      have ht : t.length ≤ n := Nat.le_trans (connectiveAt?_properEnd hc).1.length_le hs
      rw [← hfg t ht]
      cases hx : f t with
      | error fault => rfl
      | ok answer =>
        obtain ⟨x, u⟩ := answer
        have hu : u.length ≤ n := Nat.le_trans (hf _ _ _ hx).length_le ht
        simp only [bind, Except.bind, ih hu]

theorem chain_congr (hf : LeavesEnds f) {n : Nat} (hfg : ∀ t, t.length ≤ n → f t = g t)
    {s : List Char} (hs : s.length ≤ n) : chain f s = chain g s := by
  unfold chain
  rw [← hfg s hs]
  cases hx : f s with
  | error fault => rfl
  | ok answer =>
    obtain ⟨x, u⟩ := answer
    have hu : u.length ≤ n := Nat.le_trans (hf _ _ _ hx).length_le hs
    simp only [bind, Except.bind, chainTail_congr hf hfg hu]

theorem operandStep_congr (p : Parser) (hf : LeavesEnds f) {s : List Char}
    (hfg : ∀ t, t.length < s.length → f t = g t) : p.operandStep f s = p.operandStep g s := by
  unfold Parser.operandStep
  split
  · next t ht => rw [hfg t (negation?_properEnd ht).2]
  · split
    · next t _ =>
      have hlen : (Text.trimStart t).length ≤ t.length := (Text.trimStart_suffix t).length_le
      have hinner : ∀ u, u.length ≤ t.length → f u = g u := fun u hu =>
        hfg u (Nat.lt_succ_of_le hu)
      split
      · rfl
      · rw [chain_congr hf hinner hlen]
    · rfl

theorem operand_congr (p : Parser) {a b : Nat} {s : List Char} (ha : s.length ≤ a)
    (hb : s.length ≤ b) : p.operand a s = p.operand b s := by
  induction a generalizing b s with
  | zero =>
    obtain rfl : s = [] := List.eq_nil_of_length_eq_zero (by omega)
    cases b with
    | zero => rfl
    | succ b => rfl
  | succ a ih =>
    cases s with
    | nil =>
      cases b with
      | zero => rfl
      | succ b => rfl
    | cons c s =>
      cases b with
      | zero => simp at hb
      | succ b =>
        rw [operand_succ, operand_succ]
        apply operandStep_congr p (operand_suffix p a)
        intro t ht
        exact ih (by simp at ha ht; omega) (by simp at hb ht; omega)

/-- **An operand**, with a count that suffices for every text. -/
def Parser.unary (p : Parser) (s : List Char) : Except ParseStop (Node × List Char) :=
  p.operand s.length s

/-- **A large enough count does not matter.** -/
theorem operand_eq_unary (p : Parser) {depth : Nat} {s : List Char} (h : s.length ≤ depth) :
    p.operand depth s = p.unary s :=
  operand_congr p h (Nat.le_refl _)

theorem unary_suffix (p : Parser) : LeavesEnds p.unary :=
  fun s _ _ h => operand_suffix p s.length s _ _ h

/-- **An operand in terms of shorter operands.** -/
theorem unary_eq (p : Parser) (s : List Char) : p.unary s = p.operandStep p.unary s := by
  have hstep : p.unary s = p.operand (s.length + 1) s := (operand_eq_unary p (by omega)).symm
  rw [hstep, operand_succ]
  apply operandStep_congr p (operand_suffix p s.length)
  intro t ht
  exact operand_eq_unary p (by omega)

/-! ### Derivations -/

/-- The connectives and operands behind a first operand, in the order in which they are written. -/
def flattened : List (Connective × Node) → List Node
  | [] => []
  | (c, x) :: links => .connective c :: x :: flattened links

/-- A chain of operands as a node: a single operand stays as it is. -/
def joined (first : Node) : List (Connective × Node) → Node
  | [] => first
  | links => .group (first :: flattened links)

/-- What a derivation reads: an operand, operands with connectives between them, or the connectives
and operands behind a first operand. -/
inductive Phrase where
  | operand (x : Node)
  | chain (x : Node)
  | tail (links : List (Connective × Node))

/-- **Derivations.** `p.Reads s phrase rest` says that the grammar reads `phrase` at the start of
`s` and leaves `rest`. -/
inductive Parser.Reads (p : Parser) : List Char → Phrase → List Char → Prop
  | negated {s t rest : List Char} {x : Node} :
      negation? s = some t → p.Reads t (.operand x) rest →
      p.Reads s (.operand (.group [.connective .not, x])) rest
  /-- What looks like a negation of something that cannot be read is a field called `not`. -/
  | namedNot {s t rest : List Char} {fault : ParseStop} {e : Expression} :
      negation? s = some t → p.unary t = .error fault → p.expression s = .ok (e, rest) →
      e.comparison.isSome → p.Reads s (.operand (.leaf e)) rest
  | parenthesised {t rest after : List Char} {x : Node} :
      (∀ u, Text.trimStart t ≠ ')' :: u) → p.Reads (Text.trimStart t) (.chain x) rest →
      Text.trimStart rest = ')' :: after → p.Reads ('(' :: t) (.operand x) after
  | expression {s rest : List Char} {e : Expression} :
      negation? s = none → (∀ t, s ≠ '(' :: t) → p.expression s = .ok (e, rest) →
      p.Reads s (.operand (.leaf e)) rest
  | chain {s t rest : List Char} {first : Node} {links : List (Connective × Node)} :
      p.Reads s (.operand first) t → p.Reads t (.tail links) rest →
      p.Reads s (.chain (joined first links)) rest
  | done {s : List Char} : connectiveAt? s = none → p.Reads s (.tail []) s
  | next {s t u rest : List Char} {c : Connective} {x : Node}
      {links : List (Connective × Node)} :
      connectiveAt? s = some (c, t) → p.Reads t (.operand x) u → p.Reads u (.tail links) rest →
      p.Reads s (.tail ((c, x) :: links)) rest

/-- A single operand, with no connective behind it, is a chain. -/
theorem Parser.Reads.alone {p : Parser} {s rest : List Char} {x : Node}
    (h : p.Reads s (.operand x) rest) (hrest : connectiveAt? rest = none) :
    p.Reads s (.chain x) rest := by
  have hchain : p.Reads s (.chain (joined x [])) rest := .chain h (.done hrest)
  exact hchain

/-! ### The parser accepts what has a derivation -/

variable {p : Parser}

theorem chainTail_reads {n : Nat}
    (hunary : ∀ t x rest, t.length ≤ n → p.unary t = .ok (x, rest) →
      p.Reads t (.operand x) rest)
    {fuel : Nat} {s rest : List Char} {nodes : List Node} (hs : s.length ≤ n)
    (hfuel : s.length ≤ fuel) (h : chainTail p.unary fuel s = .ok (nodes, rest)) :
    ∃ links, nodes = flattened links ∧ p.Reads s (.tail links) rest := by
  induction fuel generalizing s nodes with
  | zero =>
    obtain rfl : s = [] := List.eq_nil_of_length_eq_zero (by omega)
    obtain ⟨rfl, rfl⟩ : [] = nodes ∧ [] = rest := by simpa [chainTail] using h
    exact ⟨[], rfl, .done rfl⟩
  | succ fuel ih =>
    unfold chainTail at h
    split at h
    · next hc =>
      obtain ⟨rfl, rfl⟩ : [] = nodes ∧ s = rest := by simpa using h
      exact ⟨[], rfl, .done hc⟩
    · next c t hc =>
      obtain ⟨⟨x, u⟩, hu, h⟩ := bind_eq_ok.1 h
      obtain ⟨⟨more, v⟩, hv, h⟩ := bind_eq_ok.1 h
      obtain ⟨rfl, rfl⟩ : .connective c :: x :: more = nodes ∧ v = rest := by
        simpa [pure, Except.pure] using h
      have hend : ProperEnd u s := (connectiveAt?_properEnd hc).after_suffix (unary_suffix p _ _ _ hu)
      have hlen := hend.2
      obtain ⟨links, rfl, hlinks⟩ := ih (by omega) (by omega) hv
      have ht := (connectiveAt?_properEnd hc).2
      exact ⟨(c, x) :: links, rfl, .next hc (hunary t x u (by omega) hu) hlinks⟩

theorem chain_reads {n : Nat}
    (hunary : ∀ t x rest, t.length ≤ n → p.unary t = .ok (x, rest) →
      p.Reads t (.operand x) rest)
    {s rest : List Char} {x : Node} (hs : s.length ≤ n) (h : chain p.unary s = .ok (x, rest)) :
    p.Reads s (.chain x) rest := by
  obtain ⟨⟨first, u⟩, hu, h⟩ := bind_eq_ok.1 h
  obtain ⟨⟨more, v⟩, hv, h⟩ := bind_eq_ok.1 h
  have hlen : u.length ≤ n := Nat.le_trans (unary_suffix p _ _ _ hu).length_le hs
  obtain ⟨links, rfl, hlinks⟩ := chainTail_reads hunary hlen (Nat.le_refl _) hv
  obtain ⟨rfl, rfl⟩ : joined first links = x ∧ v = rest := by
    cases links with
    | nil => simpa [pure, Except.pure, flattened, joined] using h
    | cons link links => simpa [pure, Except.pure, flattened, joined] using h
  exact .chain (hunary s first u hs hu) hlinks

theorem operandStep_reads {n : Nat}
    (hunary : ∀ t x rest, t.length < n → p.unary t = .ok (x, rest) →
      p.Reads t (.operand x) rest)
    {s rest : List Char} {x : Node} (hs : s.length ≤ n)
    (h : p.operandStep p.unary s = .ok (x, rest)) : p.Reads s (.operand x) rest := by
  unfold Parser.operandStep at h
  split at h
  · next t ht =>
    split at h
    · next y u hu =>
      obtain ⟨rfl, rfl⟩ : .group [.connective .not, y] = x ∧ u = rest := by simpa using h
      have hlen := (negation?_properEnd ht).2
      exact .negated ht (hunary t y u (by omega) hu)
    · next fault hfault =>
      split at h
      · next e u hu =>
        split at h
        · next he =>
          obtain ⟨rfl, rfl⟩ : .leaf e = x ∧ u = rest := by simpa using h
          exact .namedNot ht hfault hu he
        · simp at h
      · simp at h
  · next hneg =>
    split at h
    · next t =>
      split at h
      · simp at h
      · next hclose =>
        obtain ⟨⟨y, u⟩, hu, h⟩ := bind_eq_ok.1 h
        simp only at h
        split at h
        · next v hv =>
          obtain ⟨rfl, rfl⟩ : y = x ∧ v = rest := by simpa using h
          have hlen := (Text.trimStart_suffix t).length_le
          have hinner : p.Reads (Text.trimStart t) (.chain y) u :=
            chain_reads (n := t.length)
              (fun w z r hw => hunary w z r (by simp at hs; omega)) hlen hu
          exact .parenthesised hclose hinner hv
        · simp at h
    · next hopen =>
      obtain ⟨⟨e, u⟩, hu, h⟩ := map_eq_ok.1 h
      obtain ⟨rfl, rfl⟩ : .leaf e = x ∧ u = rest := by simpa using h
      exact .expression hneg hopen hu

theorem unary_reads {n : Nat} {s rest : List Char} {x : Node} (hs : s.length ≤ n)
    (h : p.unary s = .ok (x, rest)) : p.Reads s (.operand x) rest := by
  induction n generalizing s x rest with
  | zero => exact operandStep_reads (n := 0) (fun _ _ _ ht => by omega) hs (unary_eq p s ▸ h)
  | succ n ih =>
    exact operandStep_reads (fun t y r ht hy => ih (by omega) hy) hs (unary_eq p s ▸ h)

/-- What the parser makes of a text from which `phrase` can be derived. -/
def Parser.Accepts (p : Parser) (s : List Char) : Phrase → List Char → Prop
  | .operand x, rest => p.unary s = .ok (x, rest)
  | .chain x, rest => chain p.unary s = .ok (x, rest)
  | .tail links, rest =>
    ∀ fuel, s.length ≤ fuel → chainTail p.unary fuel s = .ok (flattened links, rest)

theorem accepts_of_reads {s rest : List Char} {phrase : Phrase} (h : p.Reads s phrase rest) :
    p.Accepts s phrase rest := by
  induction h with
  | @negated s t rest x hneg _ ih =>
    show p.unary s = _
    rw [unary_eq]
    unfold Parser.operandStep
    rw [hneg]
    simp only [show p.unary t = _ from ih]
  | @namedNot s t rest fault e hneg hfault he hc =>
    show p.unary s = _
    rw [unary_eq]
    unfold Parser.operandStep
    rw [hneg]
    simp only [hfault, he, hc, if_true]
  | @parenthesised t rest after x hclose _ hafter ih =>
    show p.unary ('(' :: t) = _
    rw [unary_eq]
    unfold Parser.operandStep
    rw [show negation? ('(' :: t) = none from rfl]
    simp only
    rw [show chain p.unary (Text.trimStart t) = _ from ih]
    simp only [bind, Except.bind, hafter]
  | @expression s rest e hneg hopen he =>
    show p.unary s = _
    rw [unary_eq]
    unfold Parser.operandStep
    rw [hneg]
    simp only
    rw [he]
    rfl
  | @chain s t rest first links _ _ ihfirst ihtail =>
    show DisplayFilter.chain p.unary s = _
    rw [DisplayFilter.chain, show p.unary s = _ from ihfirst]
    simp only [bind, Except.bind, ihtail t.length (Nat.le_refl _)]
    cases links with
    | nil => rfl
    | cons link links => rfl
  | done hc =>
    intro fuel _
    cases fuel with
    | zero => rfl
    | succ fuel => simp [chainTail, hc, flattened]
  | @next s t u rest c x links hc hx hlinks ihx ihlinks =>
    intro fuel hfuel
    have hlt := (connectiveAt?_properEnd hc).2
    have hu : u.length ≤ t.length := (unary_suffix p _ _ _ ihx).length_le
    cases fuel with
    | zero => omega
    | succ fuel =>
      rw [chainTail, hc]
      simp only [show p.unary t = _ from ihx, bind, Except.bind, ihlinks fuel (by omega),
        flattened, pure, Except.pure]

/-- **An operand is read exactly where it can be derived.** -/
theorem unary_eq_ok_iff {s rest : List Char} {x : Node} :
    p.unary s = .ok (x, rest) ↔ p.Reads s (.operand x) rest :=
  ⟨unary_reads (Nat.le_refl _), fun h => accepts_of_reads h⟩

/-- **A chain is read exactly where it can be derived.** -/
theorem chain_eq_ok_iff {s rest : List Char} {x : Node} :
    chain p.unary s = .ok (x, rest) ↔ p.Reads s (.chain x) rest :=
  ⟨chain_reads (fun _ _ _ _ h => unary_eq_ok_iff.1 h) (Nat.le_refl _),
    fun h => accepts_of_reads h⟩

/-- The tree of a filter with one root, behind which blanks may stand. -/
def wholeFilter (root : Node) (rest : List Char) : Except ParseStop FilterTree :=
  match Text.trimStart rest with
  | [] => pure [root]
  | rest => .error (.unexpected (String.ofList rest) rest)

theorem parseChars_eq (p : Parser) (s : List Char) :
    p.parseChars s = chain p.unary s >>= fun answer => wholeFilter answer.1 answer.2 := by
  rw [Parser.parseChars, chain_congr (operand_suffix p s.length)
    (fun _ ht => operand_eq_unary p ht) (Nat.le_refl _)]
  rfl

theorem parseChars_eq_ok_iff {s : List Char} {tree : FilterTree} :
    p.parseChars s = .ok tree ↔
      ∃ x rest, p.Reads s (.chain x) rest ∧ Text.trimStart rest = [] ∧ tree = [x] := by
  rw [parseChars_eq, bind_eq_ok]
  constructor
  · rintro ⟨⟨x, rest⟩, hx, h⟩
    unfold wholeFilter at h
    split at h
    · next hrest =>
      obtain rfl : [x] = tree := by simpa [pure, Except.pure] using h
      exact ⟨x, rest, chain_eq_ok_iff.1 hx, hrest, rfl⟩
    · simp at h
  · rintro ⟨x, rest, hx, hrest, rfl⟩
    refine ⟨(x, rest), chain_eq_ok_iff.2 hx, ?_⟩
    simp [wholeFilter, hrest, pure, Except.pure]

/-- **Parsing.** A blank text has the empty tree; every other tree has one root, which a chain
derives from the whole text up to blanks at its ends. -/
theorem parse_eq_ok_iff {text : String} {tree : FilterTree} :
    p.parse text = .ok tree ↔
      (Text.trimStart text.toList = [] ∧ tree = []) ∨
      (Text.trimStart text.toList ≠ [] ∧ ∃ x rest,
        p.Reads (Text.trimStart text.toList) (.chain x) rest ∧ Text.trimStart rest = [] ∧
          tree = [x]) := by
  unfold Parser.parse
  by_cases hblank : Text.trimStart text.toList = []
  · simp only [hblank, List.isEmpty_nil, if_true, Except.ok.injEq, true_and, ne_eq,
      not_true_eq_false, false_and, or_false]
    exact eq_comm
  · simp only [List.isEmpty_iff, hblank, if_false, false_and, false_or, ne_eq, not_false_eq_true,
      true_and]
    rw [← parseChars_eq_ok_iff]
    cases p.parseChars (Text.trimStart text.toList) with
    | error fault => simp
    | ok t => simp

end DisplayFilter
