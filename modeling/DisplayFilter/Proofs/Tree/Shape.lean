import DisplayFilter.Filter
import DisplayFilter.Proofs.Tree.Derivation
import DisplayFilter.Proofs.Tree.Names

/-!
# The shape of parsed filters

Reducing a tree fails on a row that is not made of operands with connectives between them.  Such a
tree can be put together by hand, but the parser makes none, so that a filter that parses fails only
on what a record holds.

* `Node.Operand` — the nodes that the grammar has for operands;
* `Expression.Licensed` — a comparison where one is needed, a field and a function that the parser
  knows;
* **`fold_tokens`** — a row of truth values with connectives between them can be folded;
* **`parse_reducible`** — what parses has this shape, and no record makes it a malformed tree.
-/

namespace DisplayFilter

/-! ### Operands -/

/-- **Operands.** A leaf, a negated operand, or a group of two or more operands with connectives
between them, none of which is `not`. -/
inductive Node.Operand : Node → Prop
  | leaf (e : Expression) : Operand (.leaf e)
  | negated {x : Node} : Operand x → Operand (.group [.connective .not, x])
  | joined {first : Node} {links : List (Connective × Node)} : links ≠ [] → Operand first →
      (∀ link ∈ links, link.1 ≠ .not) → (∀ link ∈ links, Operand link.2) →
      Operand (.group (first :: flattened links))

/-- The shape of what a derivation reads. -/
def Phrase.Shaped : Phrase → Prop
  | .operand x => x.Operand
  | .chain x => x.Operand
  | .tail links => (∀ link ∈ links, link.1 ≠ .not) ∧ ∀ link ∈ links, link.2.Operand

theorem operand_joined {first : Node} {links : List (Connective × Node)} (hfirst : first.Operand)
    (hlinks : Phrase.Shaped (.tail links)) : (joined first links).Operand := by
  cases links with
  | nil => exact hfirst
  | cons link links => exact .joined (by simp) hfirst hlinks.1 hlinks.2

/-- `not` is no spelling of a connective between two operands. -/
theorem connectiveAt?_ne_not {s rest : List Char} {c : Connective}
    (h : connectiveAt? s = some (c, rest)) : c ≠ .not := by
  obtain ⟨t, -, h⟩ := Option.bind_eq_some_iff.1 h
  obtain ⟨word, hmem, -⟩ := keyword?_eq_some h
  rintro rfl
  simp [Connective.spellings] at hmem

theorem shaped_of_reads {p : Parser} {s rest : List Char} {phrase : Phrase}
    (h : p.Reads s phrase rest) : phrase.Shaped := by
  induction h with
  | negated _ _ ih => exact .negated ih
  | namedNot _ _ _ _ => exact .leaf _
  | parenthesised _ _ _ ih => exact ih
  | expression _ _ _ => exact .leaf _
  | chain _ _ ihfirst ihtail => exact operand_joined ihfirst ihtail
  | done _ => exact ⟨by simp, by simp⟩
  | next hc _ _ ihx ihlinks =>
    refine ⟨fun link hlink => ?_, fun link hlink => ?_⟩
    · rcases List.mem_cons.1 hlink with rfl | hlink
      · exact connectiveAt?_ne_not hc
      · exact ihlinks.1 link hlink
    · rcases List.mem_cons.1 hlink with rfl | hlink
      · exact ihx
      · exact ihlinks.2 link hlink

/-! ### Leaves -/

/-- The expressions of what a derivation reads. -/
def Phrase.leaves : Phrase → List Expression
  | .operand x => x.leaves
  | .chain x => x.leaves
  | .tail links => FilterTree.leaves (flattened links)

theorem leaves_joined (first : Node) (links : List (Connective × Node)) :
    (joined first links).leaves = first.leaves ++ FilterTree.leaves (flattened links) := by
  cases links with
  | nil => simp [joined, flattened, FilterTree.leaves]
  | cons link links => rfl

/-- **Every leaf is an expression that was read.** -/
theorem forall_leaves_of_reads {p : Parser} {P : Expression → Prop}
    (hP : ∀ s e rest, p.expression s = .ok (e, rest) → P e) {s rest : List Char} {phrase : Phrase}
    (h : p.Reads s phrase rest) : ∀ e ∈ phrase.leaves, P e := by
  induction h with
  | negated _ _ ih =>
    simpa [Phrase.leaves, Node.leaves, FilterTree.leaves] using ih
  | namedNot _ _ he _ => simpa [Phrase.leaves, Node.leaves] using hP _ _ _ he
  | parenthesised _ _ _ ih => exact ih
  | expression _ _ he => simpa [Phrase.leaves, Node.leaves] using hP _ _ _ he
  | chain _ _ ihfirst ihtail =>
    intro e he
    rw [Phrase.leaves, leaves_joined, List.mem_append] at he
    exact he.elim (ihfirst e) (ihtail e)
  | done _ => simp [Phrase.leaves, flattened, FilterTree.leaves]
  | next _ _ _ ihx ihlinks =>
    intro e he
    simp only [Phrase.leaves, flattened, FilterTree.leaves, Node.leaves, List.nil_append,
      List.mem_append] at he
    exact he.elim (ihx e) (ihlinks e)

/-- **What the parser vouches for** in an expression: a slice or a function stands in a comparison, the
field is on the list of fields if there is one, and the function is the one registered under its
name. -/
structure Expression.Licensed (p : Parser) (e : Expression) : Prop where
  compared : e.slice.isSome ∨ e.function.isSome → e.comparison.isSome
  listed : p.fieldNames ≠ [] → e.field ∈ p.fieldNames
  registered : ∀ f, e.function = some f → p.functions.get? f.name = some f

theorem field_listed {p : Parser} {s rest : List Char} {name : String}
    (h : p.field s = .ok (name, rest)) (hp : p.fieldNames ≠ []) : name ∈ p.fieldNames := by
  unfold Parser.field at h
  rw [if_neg (by simpa using hp)] at h
  unfold knownField at h
  split at h
  · next known hknown =>
    obtain ⟨rfl, -⟩ : known = name ∧ _ := by simpa using h
    exact (Text.longestStart?_eq_some_iff.1 hknown).1
  · simp only at h
    split at h <;> simp at h

theorem callAt?_registered {p : Parser} {s rest : List Char} {f : Function}
    (h : p.callAt? s = some (f, rest)) : p.functions.get? f.name = some f := by
  obtain ⟨g, hg, h⟩ := Option.bind_eq_some_iff.1 h
  split at h
  · obtain ⟨rfl, -⟩ : g = f ∧ _ := by simpa using h
    obtain ⟨name, -, hname⟩ := Option.bind_eq_some_iff.1 hg
    rw [get?_name hname, hname]
  · simp at h

theorem expression_licensed {p : Parser} {s rest : List Char} {e : Expression}
    (h : p.expression s = .ok (e, rest)) : e.Licensed p := by
  rcases Parser.expression_eq_ok h with ⟨f, t, hcall, h⟩ | ⟨-, -, h⟩
  · obtain ⟨field, s₁, slice, s₂, u, c, h₁, -, -, -, rfl⟩ := Parser.callBody_eq_ok h
    refine ⟨fun _ => rfl, field_listed h₁, fun g hg => ?_⟩
    obtain rfl : f = g := by simpa using hg
    exact callAt?_registered hcall
  · obtain ⟨field, s₁, slice, s₂, c, h₁, -, -, hslice, rfl⟩ := Parser.fieldExpression_eq_ok h
    exact ⟨fun hs => hslice (by simpa using hs), field_listed h₁, by simp⟩

/-! ### Folding rows of operands -/

/-- A row of truth values, a connective in front of each. -/
def tokens : List (Connective × Bool) → List Token
  | [] => []
  | (c, b) :: links => .connective c :: .value b :: tokens links

theorem length_tokens (links : List (Connective × Bool)) :
    (tokens links).length = 2 * links.length := by
  induction links with
  | nil => rfl
  | cons link links ih => simp only [tokens, List.length_cons, ih]; omega

/-- A level of folding that takes operands joined by the connectives of `cs`, and stops in front of
any other one. -/
def Joins (next : List Token → Except TreeFault (Bool × List Token)) (cs : List Connective) : Prop :=
  ∀ b links, ∃ v more, next (.value b :: tokens links) = .ok (v, tokens more) ∧ more <:+ links ∧
    ∀ link ∈ more.head?, link.1 ∉ cs

theorem foldOperand_joins : Joins foldOperand [] :=
  fun b links => ⟨b, links, rfl, List.suffix_rfl, by simp⟩

variable {next : List Token → Except TreeFault (Bool × List Token)} {cs : List Connective}

theorem foldFrom_tokens (hnext : Joins next cs) (c : Connective) (op : Bool → Bool → Bool)
    {fuel : Nat} (acc : Bool) {links : List (Connective × Bool)}
    (hfuel : (tokens links).length ≤ fuel) (hlinks : ∀ link ∈ links.head?, link.1 ∉ cs) :
    ∃ v more, foldFrom c op next fuel acc (tokens links) = .ok (v, tokens more) ∧
      more <:+ links ∧ ∀ link ∈ more.head?, link.1 ∉ c :: cs := by
  induction fuel generalizing acc links with
  | zero =>
    obtain rfl : links = [] := by
      rw [length_tokens] at hfuel
      exact List.eq_nil_of_length_eq_zero (by omega)
    exact ⟨acc, [], rfl, List.suffix_rfl, by simp⟩
  | succ fuel ih =>
    cases links with
    | nil => exact ⟨acc, [], rfl, List.suffix_rfl, by simp⟩
    | cons link links =>
      obtain ⟨d, b⟩ := link
      by_cases hd : d = c
      · obtain ⟨w, left, hw, hsuffix, hhead⟩ := hnext b links
        have hlen := hsuffix.length_le
        have hleft : (tokens left).length ≤ fuel := by
          rw [length_tokens] at hfuel ⊢
          simp at hfuel
          omega
        obtain ⟨v, more, hv, hmore, hmorehead⟩ := ih (op acc w) hleft hhead
        refine ⟨v, more, ?_, (hmore.trans hsuffix).trans (List.suffix_cons _ _), hmorehead⟩
        simp only [tokens, foldFrom, hd, if_true, hw, bind, Except.bind, hv]
      · refine ⟨acc, (d, b) :: links, ?_, List.suffix_rfl, ?_⟩
        · simp only [tokens, foldFrom, hd, if_false]
        · have hcs := hlinks (d, b) (by simp)
          simpa using ⟨hd, hcs⟩

/-- **One more connective** is joined by the level above. -/
theorem foldLevel_joins (hnext : Joins next cs) (c : Connective) (op : Bool → Bool → Bool) :
    Joins (foldLevel c op next) (c :: cs) := by
  intro b links
  obtain ⟨w, left, hw, hsuffix, hhead⟩ := hnext b links
  obtain ⟨v, more, hv, hmore, hmorehead⟩ :=
    foldFrom_tokens hnext c op w (Nat.le_refl _) hhead
  refine ⟨v, more, ?_, hmore.trans hsuffix, hmorehead⟩
  simp only [foldLevel, hw, bind, Except.bind, hv]

/-- **A row of truth values** with `and`, `or` and `xor` between them can be folded. -/
theorem fold_tokens (b : Bool) {links : List (Connective × Bool)}
    (hlinks : ∀ link ∈ links, link.1 ≠ .not) :
    ∃ v, fold (.value b :: tokens links) = .ok v := by
  have hor : Joins foldOr [.or, .and, .xor] :=
    foldLevel_joins (foldLevel_joins (foldLevel_joins foldOperand_joins .xor Bool.xor) .and
      Bool.and) .or Bool.or
  obtain ⟨v, more, hv, hsuffix, hhead⟩ := hor b links
  have hmore : more = [] := by
    cases more with
    | nil => rfl
    | cons link more =>
      -- every connective but `not` is joined on some level
      have hne := hlinks link (hsuffix.mem List.mem_cons_self)
      have hnot := hhead link rfl
      obtain ⟨c, w⟩ := link
      cases c with
      | not => exact absurd rfl hne
      | and => simp at hnot
      | or => simp at hnot
      | xor => simp at hnot
  subst hmore
  exact ⟨v, by simp only [fold, hv, bind, Except.bind, tokens, pure, Except.pure]⟩

/-! ### Reducing operands -/

/-- A result that is a value or a failure on the record's own data. -/
def Answers {α : Type} (good : α → Prop) (result : Except EvaluationError α) : Prop :=
  (∃ a, result = .ok a ∧ good a) ∨ ∃ e, result = .error e ∧ e.isStructural = false

/-- A truth value as a part of a row. -/
def IsValue (token : Token) : Prop :=
  ∃ b, token = .value b

variable {leaf : Expression → Except EvaluationError Bool}

theorem reduceNodes_cons (n : Node) (nodes : List Node) :
    (reduceNodes leaf (n :: nodes)).result =
      (n.reduce leaf).result.bind fun token =>
        (reduceNodes leaf nodes).result.map (token :: ·) := by
  rw [reduceNodes]
  cases h : (n.reduce leaf).result with
  | error e => rfl
  | ok token => rfl

theorem reduce_group (nodes : List Node) :
    ((Node.group nodes).reduce leaf).result =
      ((reduceNodes leaf nodes).result.bind fun row =>
        (fold row).mapError .malformedTree).map .value := rfl

/-- The row of the operands behind a first one, each with its connective. -/
theorem reduceNodes_flattened {links : List (Connective × Node)}
    (h : ∀ link ∈ links, Answers IsValue (link.2.reduce leaf).result) :
    Answers (fun row => ∃ bits, row = tokens bits ∧ bits.map (·.1) = links.map (·.1))
      (reduceNodes leaf (flattened links)).result := by
  induction links with
  | nil => exact Or.inl ⟨[], rfl, [], rfl, rfl⟩
  | cons link links ih =>
    obtain ⟨c, x⟩ := link
    have hx := h (c, x) List.mem_cons_self
    have hlinks := ih fun link hlink => h link (List.mem_cons_of_mem _ hlink)
    rw [flattened, reduceNodes_cons, reduceNodes_cons]
    rcases hx with ⟨token, htoken, b, rfl⟩ | ⟨e, he, hstruct⟩
    · rcases hlinks with ⟨row, hrow, bits, rfl, hbits⟩ | ⟨e, he, hstruct⟩
      · refine Or.inl ⟨tokens ((c, b) :: bits), ?_, (c, b) :: bits, rfl, by simp [hbits]⟩
        simp only [htoken, hrow, Node.reduce, Except.bind, Except.map, tokens]
      · exact Or.inr ⟨e, by simp only [htoken, he, Node.reduce, Except.bind, Except.map], hstruct⟩
    · exact Or.inr ⟨e, by simp only [he, Node.reduce, Except.bind, Except.map], hstruct⟩

/-- **Operands reduce to truth values** unless a leaf fails. -/
theorem reduce_operand (hleaf : ∀ e fault, leaf e = .error fault → fault.isStructural = false)
    {x : Node} (h : x.Operand) : Answers IsValue (x.reduce leaf).result := by
  induction h with
  | leaf e =>
    cases he : leaf e with
    | error fault =>
      exact Or.inr ⟨fault, by simp only [Node.reduce, he, Except.map], hleaf e fault he⟩
    | ok b => exact Or.inl ⟨.value b, by simp only [Node.reduce, he, Except.map], b, rfl⟩
  | @negated x _ ih =>
    rw [reduce_group, reduceNodes_cons, reduceNodes_cons]
    rcases ih with ⟨token, htoken, b, rfl⟩ | ⟨e, he, hstruct⟩
    · refine Or.inl ⟨.value !b, ?_, !b, rfl⟩
      rw [htoken]
      rfl
    · exact Or.inr ⟨e, by rw [he]; rfl, hstruct⟩
  | @joined first links _ _ hnot _ ihfirst ihlinks =>
    rw [reduce_group, reduceNodes_cons]
    rcases ihfirst with ⟨token, htoken, b, rfl⟩ | ⟨e, he, hstruct⟩
    · rcases reduceNodes_flattened ihlinks with ⟨row, hrow, bits, rfl, hbits⟩ | ⟨e, he, hstruct⟩
      · have hbitsnot : ∀ bit ∈ bits, bit.1 ≠ .not := by
          intro bit hbit
          have hmem : bit.1 ∈ links.map (·.1) := hbits ▸ List.mem_map_of_mem hbit
          obtain ⟨link, hlink, heq⟩ := List.mem_map.1 hmem
          exact heq ▸ hnot link hlink
        obtain ⟨v, hv⟩ := fold_tokens b hbitsnot
        refine Or.inl ⟨.value v, ?_, v, rfl⟩
        simp only [htoken, hrow, Except.bind, Except.map, hv, mapError_ok]
      · exact Or.inr ⟨e, by simp only [htoken, he, Except.bind, Except.map], hstruct⟩
    · exact Or.inr ⟨e, by rw [he]; rfl, hstruct⟩

/-- A tree with one root reduces to the truth value of its root. -/
theorem reduce_singleton {x : Node} (h : Answers IsValue (x.reduce leaf).result) :
    (reduce leaf [x]).result.map .value = (x.reduce leaf).result ∧
      Answers (fun _ => True) (reduce leaf [x]).result := by
  have hresult : (reduce leaf [x]).result = ((x.reduce leaf).result.bind fun token =>
      (reduceNodes leaf []).result.map (token :: ·)).bind fun row =>
        (fold row).mapError .malformedTree := by
    rw [← reduceNodes_cons]
    rfl
  rcases h with ⟨token, htoken, b, rfl⟩ | ⟨e, he, hstruct⟩
  · rw [hresult, htoken]
    exact ⟨rfl, Or.inl ⟨b, rfl, trivial⟩⟩
  · rw [hresult, he]
    exact ⟨rfl, Or.inr ⟨e, rfl, hstruct⟩⟩

/-- **A tree of one leaf** answers what its leaf does. -/
theorem satisfies_leaf {f : Filter} {e : Expression} {record : Record} {b : Bool}
    (h : f.leaf record e = .ok b) : f.satisfies [.leaf e] record = .ok b := by
  have hreduce : ((Node.leaf e).reduce (f.leaf record)).result = .ok (.value b) := by
    simp only [Node.reduce, h, Except.map]
  have hroot := (reduce_singleton (Or.inl ⟨.value b, hreduce, b, rfl⟩)).1
  rw [hreduce] at hroot
  obtain ⟨a, ha, hvalue⟩ := map_eq_ok.1 hroot
  obtain rfl : a = b := by simpa using hvalue
  exact ha

theorem sliced_not_structural {f : Filter} {e : Expression} {record : Record}
    {fault : EvaluationError} (h : f.sliced e record = .error fault) :
    fault.isStructural = false := by
  unfold Filter.sliced at h
  split at h
  · simp at h
  · obtain ⟨error, -, rfl⟩ := mapError_eq_error.1 h
    rfl

/-- **A leaf fails on the record's data only:** on a slice or on a function. -/
theorem leaf_not_structural {f : Filter} {record : Record} {e : Expression}
    {fault : EvaluationError} (h : f.leaf record e = .error fault) :
    fault.isStructural = false := by
  rcases bind_eq_error.1 (map_eq_error.1 h) with h | ⟨v, -, h⟩
  · exact sliced_not_structural h
  · split at h
    · simp [pure, Except.pure] at h
    · obtain ⟨message, -, rfl⟩ := mapError_eq_error.1 h
      rfl

/-! ### What parses can be reduced -/

theorem trimStart_eq_nil_iff {s : List Char} :
    Text.trimStart s = [] ↔ ∀ c ∈ s, Text.isBlank c = true := by
  constructor
  · intro h c hc
    have hs : s.takeWhile Text.isBlank = s := by
      have happend := List.takeWhile_append_dropWhile (p := Text.isBlank) (l := s)
      rwa [show s.dropWhile Text.isBlank = [] from h, List.append_nil] at happend
    exact Text.takeWhile_all c (hs ▸ hc)
  · intro h
    simpa using Text.trimStart_append_blanks h []

/-- The tree of a text is empty, or its root is an operand with licensed leaves. -/
theorem parse_shaped {p : Parser} {text : String} {tree : FilterTree}
    (h : p.parse text = .ok tree) :
    (tree = [] ∨ ∃ root, tree = [root] ∧ root.Operand) ∧
      ∀ e ∈ FilterTree.leaves tree, e.Licensed p := by
  rcases parse_eq_ok_iff.1 h with ⟨-, rfl⟩ | ⟨-, x, rest, hx, -, rfl⟩
  · exact ⟨Or.inl rfl, by simp [FilterTree.leaves]⟩
  · refine ⟨Or.inr ⟨x, rfl, shaped_of_reads hx⟩, ?_⟩
    have hleaves := forall_leaves_of_reads (fun s e rest he => expression_licensed he) hx
    simpa [FilterTree.leaves, Phrase.leaves] using hleaves

/-- An operand is never a malformed tree, whatever its leaves give. -/
theorem satisfies_answers (f : Filter) (record : Record) {root : Node} (h : root.Operand) :
    Answers (fun _ => True) (f.satisfies [root] record) := by
  have hroot : Answers IsValue (root.reduce (f.leaf record)).result :=
    reduce_operand (fun _ _ => leaf_not_structural) h
  exact (reduce_singleton hroot).2

/-- **Whatever parses can be reduced.**  A text has the empty tree exactly if it is blank.  Any other
tree has one root, an operand: each of its groups is a negated operand, or operands with connectives
other than `not` between them.  Its leaves, in which an operator and its literal are one comparison,
compare what they slice or pass through a function, and name fields and functions of the parser.  No
record, slicers, comparators or function results make it a malformed tree. -/
theorem parse_reducible {p : Parser} {text : String} {tree : FilterTree}
    (h : p.parse text = .ok tree) :
    (tree = [] ↔ ∀ c ∈ text.toList, Text.isBlank c = true) ∧
    (tree = [] ∨ ∃ root, tree = [root] ∧ root.Operand) ∧
    (∀ e ∈ FilterTree.leaves tree, e.Licensed p) ∧
    ∀ (f : Filter) (record : Record) (fault : TreeFault),
      f.satisfies tree record ≠ .error (.malformedTree fault) := by
  obtain ⟨hshape, hleaves⟩ := parse_shaped h
  refine ⟨?_, hshape, hleaves, ?_⟩
  · rw [← trimStart_eq_nil_iff]
    rcases parse_eq_ok_iff.1 h with ⟨hblank, rfl⟩ | ⟨hblank, x, rest, -, -, rfl⟩
    · simp [hblank]
    · simp [hblank]
  · intro f record fault hfault
    rcases hshape with rfl | ⟨root, rfl, hroot⟩
    · simp [Filter.satisfies, Filter.inspect] at hfault
    · rcases satisfies_answers f record hroot with ⟨b, hb, -⟩ | ⟨e, he, hstruct⟩
      · simp [hb] at hfault
      · obtain rfl : e = .malformedTree fault := by simpa [he] using hfault
        simp [EvaluationError.isStructural] at hstruct

/-- A filter with a negation, a function of a slice and two levels of connectives. -/
theorem parse_reducible_nested :
    ∃ tree, ({} : Parser).parse "not len(a[0]) == 2 and (b or c)" = .ok tree ∧
      FilterTree.text tree = "(not len(a[0]) == 2) and (b or c)" ∧ tree ≠ [] ∧
      ∀ (f : Filter) (record : Record) (fault : TreeFault),
        f.satisfies tree record ≠ .error (.malformedTree fault) := by
  have hparse : (({} : Parser).parse "not len(a[0]) == 2 and (b or c)").toOption.map
      FilterTree.text = some "(not len(a[0]) == 2) and (b or c)" := by
    decide +kernel
  obtain ⟨tree, htree, htext⟩ := Option.map_eq_some_iff.1 hparse
  have h := toOption_eq_some.1 htree
  refine ⟨tree, h, htext, ?_, (parse_reducible h).2.2.2⟩
  rintro rfl
  exact absurd htext (by decide)

end DisplayFilter
