import DisplayFilter.Proofs.Tree.Folding
import Mathlib.Data.List.Forall2

/-!
# Precedence

A sequence of nodes has the truth value of the same sequence with parentheses around everything:
`not` binds tightest, then `xor`, then `and`, then `or`, and each groups to the left.

* `OperandForm`, `ChainForm` — operands with connectives between them;
* `Formula` — a sequence with parentheses around everything, `Formula.node` — its tree;
* `Bracketed` — the formula of a sequence, **`Bracketed.unique`** — there is one at most,
  **`exists_bracketed`** — and there is one for operands with connectives between them;
* `Node.Becomes` — the part of a row that a node becomes;
* **`fold_bracketed`** — folding gives the truth value of the formula;
* **`fits_iff`** — which rows can be folded is a matter of form.
-/

namespace DisplayFilter

/-! ### Forms -/

/-- **Operands:** a leaf or a group behind any number of negations. -/
def OperandForm (nodes : List Node) : Prop :=
  ∃ n atom, (∀ c, atom ≠ Node.connective c) ∧
    nodes = List.replicate n (.connective .not) ++ [atom]

/-- Operands with a connective in front of each. -/
def linked : List (Joiner × List Node) → List Node
  | [] => []
  | (c, operand) :: links => .connective c.connective :: (operand ++ linked links)

/-- **Chains:** operands with connectives between them. -/
def ChainForm (nodes : List Node) : Prop :=
  ∃ first links, OperandForm first ∧ (∀ link ∈ links, OperandForm link.2) ∧
    nodes = first ++ linked links

theorem OperandForm.negated {nodes : List Node} (h : OperandForm nodes) :
    OperandForm (.connective .not :: nodes) := by
  obtain ⟨n, atom, hatom, rfl⟩ := h
  exact ⟨n + 1, atom, hatom, rfl⟩

theorem ChainForm.negated {nodes : List Node} (h : ChainForm nodes) :
    ChainForm (.connective .not :: nodes) := by
  obtain ⟨first, links, hfirst, hlinks, rfl⟩ := h
  exact ⟨.connective .not :: first, links, hfirst.negated, hlinks, rfl⟩

/-! ### Formulas -/

/-- **A formula:** a sequence of nodes with parentheses around everything. -/
inductive Formula where
  | leaf (e : Expression)
  | not (x : Formula)
  | join (c : Joiner) (x y : Formula)

namespace Formula

/-- The truth value of a formula. -/
def value (truth : Expression → Bool) : Formula → Bool
  | leaf e => truth e
  | not x => !x.value truth
  | join c x y => c.apply (x.value truth) (y.value truth)

/-- The expressions of a formula from left to right. -/
def leaves : Formula → List Expression
  | leaf e => [e]
  | not x => x.leaves
  | join _ x y => x.leaves ++ y.leaves

/-- **The tree of a formula,** where each group holds a single negation or connective. -/
def node : Formula → Node
  | leaf e => .leaf e
  | not x => .group [.connective .not, x.node]
  | join c x y => .group [x.node, .connective c.connective, y.node]

end Formula

/-- **The formula of a sequence of nodes** on a level of connectives.  What stands on the left of a
connective is on its level, what stands on its right is tighter. -/
inductive Bracketed : Option Joiner → List Node → Formula → Prop
  | leaf (e : Expression) : Bracketed none [.leaf e] (.leaf e)
  | group {nodes : List Node} {x : Formula} : Bracketed (some .or) nodes x →
      Bracketed none [.group nodes] x
  | not {nodes : List Node} {x : Formula} : Bracketed none nodes x →
      Bracketed none (.connective .not :: nodes) (.not x)
  | alone (c : Joiner) {nodes : List Node} {x : Formula} : Bracketed c.tighter nodes x →
      Bracketed (some c) nodes x
  | join (c : Joiner) {left right : List Node} {x y : Formula} : Bracketed (some c) left x →
      Bracketed c.tighter right y →
      Bracketed (some c) (left ++ .connective c.connective :: right) (.join c x y)

section Bracketed

variable {l : Option Joiner} {nodes : List Node} {x y : Formula}

/-- A formula has the leaves of its sequence. -/
theorem Bracketed.leaves_eq (h : Bracketed l nodes x) : x.leaves = FilterTree.leaves nodes := by
  have happend : ∀ left right : List Node,
      FilterTree.leaves (left ++ right) = FilterTree.leaves left ++ FilterTree.leaves right := by
    intro left right
    induction left with
    | nil => rfl
    | cons n left ih => simp only [List.cons_append, FilterTree.leaves, ih, List.append_assoc]
  induction h with
  | leaf e => rfl
  | group _ ih => simpa [FilterTree.leaves, Node.leaves] using ih
  | not _ ih => simpa [FilterTree.leaves, Node.leaves, Formula.leaves] using ih
  | alone _ _ ih => exact ih
  | join c _ _ ihx ihy =>
    simp only [Formula.leaves, happend, FilterTree.leaves, Node.leaves, List.nil_append, ihx, ihy]

/-- The connectives outside of parentheses are those of the level. -/
theorem Bracketed.mem_upTo (h : Bracketed l nodes x) {c : Joiner}
    (hc : .connective c.connective ∈ nodes) : c ∈ Joiner.upTo l := by
  induction h with
  | leaf e => simp at hc
  | group _ _ => simp at hc
  | not _ ih =>
    rcases List.mem_cons.1 hc with hc | hc
    · exact absurd (Node.connective.inj hc) c.connective_ne_not
    · exact ih hc
  | alone d _ ih =>
    rw [Joiner.upTo_some]
    exact List.mem_cons_of_mem _ (ih hc)
  | join d _ _ ihleft ihright =>
    rcases List.mem_append.1 hc with hc | hc
    · exact ihleft hc
    · rw [Joiner.upTo_some]
      rcases List.mem_cons.1 hc with hc | hc
      · exact List.mem_cons.2 (Or.inl (Joiner.connective_inj (Node.connective.inj hc)))
      · exact List.mem_cons_of_mem _ (ihright hc)

/-- What a level of a connective consists of. -/
theorem Bracketed.some_cases {c : Joiner} (h : Bracketed (some c) nodes x) :
    (Bracketed c.tighter nodes x ∧ .connective c.connective ∉ nodes) ∨
      ∃ left right y z, nodes = left ++ .connective c.connective :: right ∧ x = .join c y z ∧
        Bracketed (some c) left y ∧ Bracketed c.tighter right z ∧
        .connective c.connective ∉ right := by
  have hnot : ∀ {nodes x}, Bracketed c.tighter nodes x → .connective c.connective ∉ nodes :=
    fun h hmem => c.not_mem_upTo_tighter (h.mem_upTo hmem)
  cases h with
  | alone _ h => exact Or.inl ⟨h, hnot h⟩
  | join _ hx hy => exact Or.inr ⟨_, _, _, _, rfl, rfl, hx, hy, hnot hy⟩

/-- A list is cut in one way only in front of the last place of an element. -/
theorem append_cons_inj {α : Type} {a : α} {left right left' right' : List α}
    (h : left ++ a :: right = left' ++ a :: right') (hright : a ∉ right) (hright' : a ∉ right') :
    left = left' ∧ right = right' := by
  rcases List.append_eq_append_iff.1 h with ⟨m, rfl, hm⟩ | ⟨m, rfl, hm⟩
  · cases m with
    | nil => exact ⟨(List.append_nil _).symm, (List.cons.inj hm).2⟩
    | cons b m => exact absurd ((List.cons.inj hm).2 ▸ by simp) hright
  · cases m with
    | nil => exact ⟨List.append_nil _, (List.cons.inj hm).2.symm⟩
    | cons b m => exact absurd ((List.cons.inj hm).2 ▸ by simp) hright'

/-- **A sequence has one formula at most.** -/
theorem Bracketed.unique (hx : Bracketed l nodes x) (hy : Bracketed l nodes y) : x = y := by
  induction hx generalizing y with
  | leaf e => cases hy with | leaf _ => rfl
  | group _ ih => cases hy with | group h => exact ih h
  | not _ ih => cases hy with | not h => rw [ih h]
  | @alone c nodes x hx ih =>
    rcases hy.some_cases with ⟨h, -⟩ | ⟨left, right, u, v, rfl, rfl, hleft, hright, -⟩
    · exact ih h
    · exact absurd (hx.mem_upTo (List.mem_append_right _ List.mem_cons_self)) c.not_mem_upTo_tighter
  | @join c left right x z hx hz ihx ihz =>
    rcases hy.some_cases with ⟨-, h⟩ | ⟨left', right', u, v, hcut, rfl, hleft, hright, hnot⟩
    · exact absurd (List.mem_append_right _ List.mem_cons_self) h
    · have hnot' : Node.connective c.connective ∉ right :=
        fun hmem => c.not_mem_upTo_tighter (hz.mem_upTo hmem)
      obtain ⟨rfl, rfl⟩ := append_cons_inj hcut hnot' hnot
      rw [ihx hleft, ihz hright]

/-- An operand is on every level. -/
theorem Bracketed.of_operand (h : Bracketed none nodes x) : Bracketed l nodes x :=
  forall_levels (P := fun l => Bracketed l nodes x) h (fun c hc => .alone c hc) l

/-- **One more operand** behind a sequence goes to the level of its connective. -/
theorem Bracketed.extend (hx : Bracketed l nodes x) {operand : List Node}
    (hy : Bracketed none operand y) {c : Joiner} (hc : c ∈ Joiner.upTo l) :
    ∃ z, Bracketed l (nodes ++ .connective c.connective :: operand) z := by
  induction hx with
  | leaf _ => exact absurd hc List.not_mem_nil
  | group _ _ => exact absurd hc List.not_mem_nil
  | not _ _ => exact absurd hc List.not_mem_nil
  | @alone d nodes x hx ih =>
    rw [Joiner.upTo_some] at hc
    rcases List.mem_cons.1 hc with rfl | hc
    · exact ⟨_, .join c (.alone c hx) hy.of_operand⟩
    · obtain ⟨z, hz⟩ := ih hc
      exact ⟨z, .alone d hz⟩
  | @join d left right x u hleft hright _ ih =>
    rw [Joiner.upTo_some] at hc
    rcases List.mem_cons.1 hc with rfl | hc
    · exact ⟨_, .join c (.join c hleft hright) hy.of_operand⟩
    · obtain ⟨z, hz⟩ := ih hc
      refine ⟨.join d x z, ?_⟩
      rw [List.append_assoc, List.cons_append]
      exact .join d hleft hz

end Bracketed

/-- A connective is no operand. -/
theorem Bracketed.ne_connective {n : Node} {x : Formula} (h : Bracketed none [n] x)
    (c : Connective) : n ≠ .connective c := by
  rintro rfl
  cases h with
  | not h => cases h

/-- The formula of an operand whose leaf or group has one. -/
theorem OperandForm.bracketed {nodes : List Node} (h : OperandForm nodes)
    (hatoms : ∀ n ∈ nodes, (∀ c, n ≠ .connective c) → ∃ x, Bracketed none [n] x) :
    ∃ x, Bracketed none nodes x := by
  obtain ⟨n, atom, hatom, rfl⟩ := h
  obtain ⟨x, hx⟩ := hatoms atom (by simp) hatom
  induction n with
  | zero => exact ⟨x, hx⟩
  | succ n ih =>
    obtain ⟨y, hy⟩ := ih fun m hm => hatoms m (List.mem_cons_of_mem _ hm)
    exact ⟨.not y, .not hy⟩

theorem mem_linked {links : List (Joiner × List Node)} {link : Joiner × List Node} {n : Node}
    (hlink : link ∈ links) (hn : n ∈ link.2) : n ∈ linked links := by
  induction links with
  | nil => exact absurd hlink List.not_mem_nil
  | cons first links ih =>
    refine List.mem_cons_of_mem _ (List.mem_append.2 ?_)
    rcases List.mem_cons.1 hlink with rfl | hlink
    · exact Or.inl hn
    · exact Or.inr (ih hlink)

/-- Operands are appended one by one to what stands in front of them. -/
theorem Bracketed.append_linked {links : List (Joiner × List Node)} {nodes : List Node}
    {x : Formula} (hx : Bracketed (some .or) nodes x)
    (hlinks : ∀ link ∈ links, ∃ y, Bracketed none link.2 y) :
    ∃ z, Bracketed (some .or) (nodes ++ linked links) z := by
  induction links generalizing nodes x with
  | nil => exact ⟨x, by simpa [linked] using hx⟩
  | cons link links ih =>
    obtain ⟨y, hy⟩ := hlinks link List.mem_cons_self
    obtain ⟨z, hz⟩ := hx.extend hy (Joiner.mem_upTo_or link.1)
    obtain ⟨u, hu⟩ := ih hz fun link hlink => hlinks link (List.mem_cons_of_mem _ hlink)
    exact ⟨u, by simpa [linked] using hu⟩

/-- **Operands with connectives between them have a formula** if their leaves and groups do. -/
theorem exists_bracketed {nodes : List Node} (h : ChainForm nodes)
    (hatoms : ∀ n ∈ nodes, (∀ c, n ≠ .connective c) → ∃ x, Bracketed none [n] x) :
    ∃ x, Bracketed (some .or) nodes x := by
  obtain ⟨first, links, hfirst, hlinks, rfl⟩ := h
  obtain ⟨x, hx⟩ := hfirst.bracketed fun n hn => hatoms n (List.mem_append_left _ hn)
  refine Bracketed.append_linked hx.of_operand fun link hlink => ?_
  exact (hlinks link hlink).bracketed fun n hn =>
    hatoms n (List.mem_append_right _ (mem_linked hlink hn))

/-! ### Rows -/

variable {truth : Expression → Bool}

/-- **The part of a row that a node becomes:** the truth value of its formula. -/
inductive Node.Becomes (truth : Expression → Bool) : Node → Token → Prop
  | operand {n : Node} {x : Formula} : Bracketed none [n] x →
      Becomes truth n (.value (x.value truth))
  | connective (c : Connective) : Becomes truth (.connective c) (.connective c)

theorem Node.Becomes.value {n : Node} {token : Token} (h : n.Becomes truth token) {x : Formula}
    (hx : Bracketed none [n] x) : token = .value (x.value truth) := by
  cases h with
  | operand hy => rw [hx.unique hy]
  | connective c => exact absurd rfl (hx.ne_connective c)

theorem Node.Becomes.connective_eq {c : Connective} {token : Token}
    (h : (Node.connective c).Becomes truth token) : token = .connective c := by
  cases h with
  | operand hy => exact absurd rfl (hy.ne_connective c)
  | connective c => rfl

theorem Node.Becomes.unique {n : Node} {token token' : Token} (h : n.Becomes truth token)
    (h' : n.Becomes truth token') : token = token' := by
  cases h with
  | operand hx => exact (h'.value hx).symm
  | connective c => exact h'.connective_eq.symm

/-- The rows of joined sequences. -/
theorem exists_of_forall₂_append {left right : List Node} {row : List Token}
    (h : List.Forall₂ (Node.Becomes truth) (left ++ right) row) :
    ∃ rowLeft rowRight, row = rowLeft ++ rowRight ∧
      List.Forall₂ (Node.Becomes truth) left rowLeft ∧
      List.Forall₂ (Node.Becomes truth) right rowRight := by
  induction left generalizing row with
  | nil => exact ⟨[], row, rfl, .nil, h⟩
  | cons n left ih =>
    cases h with
    | @cons _ token _ row htoken h =>
      obtain ⟨rowLeft, rowRight, rfl, hleft, hright⟩ := ih h
      exact ⟨token :: rowLeft, rowRight, rfl, .cons htoken hleft, hright⟩

theorem exists_becomes {nodes : List Node} {row : List Token}
    (h : List.Forall₂ (Node.Becomes truth) nodes row) {n : Node} (hn : n ∈ nodes) :
    ∃ token, n.Becomes truth token := by
  induction h with
  | nil => exact absurd hn List.not_mem_nil
  | cons htoken _ ih =>
    rcases List.mem_cons.1 hn with rfl | hn
    · exact ⟨_, htoken⟩
    · exact ih hn

/-- **A level takes a sequence of that level and goes on behind it** with the truth value of the
formula. -/
theorem foldAt_bracketed {l : Option Joiner} {nodes : List Node} {x : Formula}
    (h : Bracketed l nodes x) {row rest : List Token}
    (hrow : List.Forall₂ (Node.Becomes truth) nodes row)
    (hends : ∀ c, l = some c → RowEnds c.tighter rest) :
    foldAt l (row ++ rest) = resume l (x.value truth) rest := by
  induction h generalizing row rest with
  | leaf e =>
    obtain ⟨token, _, htoken, hnil, rfl⟩ := List.forall₂_cons_left_iff.1 hrow
    obtain rfl := List.forall₂_nil_left_iff.1 hnil
    rw [htoken.value (.leaf e)]
    rfl
  | group h _ =>
    obtain ⟨token, _, htoken, hnil, rfl⟩ := List.forall₂_cons_left_iff.1 hrow
    obtain rfl := List.forall₂_nil_left_iff.1 hnil
    rw [htoken.value (.group h)]
    rfl
  | not _ ih =>
    obtain ⟨token, row, htoken, hmore, rfl⟩ := List.forall₂_cons_left_iff.1 hrow
    have hoperand : foldOperand (row ++ rest) = .ok (_, rest) := ih hmore (by simp)
    rw [htoken.connective_eq]
    simp only [foldAt, List.cons_append, foldOperand, hoperand, Formula.value, resume]
  | @alone c nodes x _ ih =>
    have hends := hends c rfl
    have htighter : foldAt c.tighter (row ++ rest) = .ok (x.value truth, rest) := by
      rw [ih hrow fun d hd => ?_, resume_of_ends hends]
      exact (rowEnds_some.1 (hd ▸ hends)).2
    exact foldAt_of_tighter htighter
  | @join c left right x y _ _ ihleft ihright =>
    have hends := hends c rfl
    obtain ⟨rowLeft, _, rfl, hleft, hbehind⟩ := exists_of_forall₂_append hrow
    obtain ⟨token, rowRight, htoken, hright, rfl⟩ := List.forall₂_cons_left_iff.1 hbehind
    have hoperand : foldAt c.tighter (rowRight ++ rest) = .ok (y.value truth, rest) := by
      rw [ihright hright fun d hd => ?_, resume_of_ends hends]
      exact (rowEnds_some.1 (hd ▸ hends)).2
    rw [htoken.connective_eq, List.append_assoc, List.cons_append,
      ihleft hleft (fun d hd => ?_), resume_joiner hoperand]
    · rfl
    · obtain rfl : c = d := Option.some.inj hd
      exact rowEnds_tighter c _

/-- **Folding gives the truth value of the formula.** -/
theorem fold_bracketed {nodes : List Node} {x : Formula} (h : Bracketed (some .or) nodes x)
    {row : List Token} (hrow : List.Forall₂ (Node.Becomes truth) nodes row) :
    fold row = .ok (x.value truth) := by
  have hall : foldAt (some .or) (row ++ []) = resume (some .or) (x.value truth) [] :=
    foldAt_bracketed h hrow fun c _ => rowEnds_nil _
  rw [List.append_nil, resume_of_ends (rowEnds_nil _)] at hall
  exact fold_of_foldAt hall

/-- **A row that fits is that of operands with connectives between them.** -/
theorem chainForm_of_fits {nodes : List Node} {row : List Token}
    (hrow : List.Forall₂ (Node.Becomes truth) nodes row) :
    (operandFault row = none → ChainForm nodes) ∧
      (connectiveFault row = none →
        ∃ links, (∀ link ∈ links, OperandForm link.2) ∧ nodes = linked links) := by
  induction hrow with
  | nil => exact ⟨fun h => by simp [operandFault] at h, fun _ => ⟨[], by simp, rfl⟩⟩
  | @cons n token nodes row htoken _ ih =>
    obtain ⟨ihoperand, ihconnective⟩ := ih
    cases htoken with
    | operand hx =>
      refine ⟨fun h => ?_, fun h => by simp [connectiveFault] at h⟩
      obtain ⟨links, hlinks, rfl⟩ := ihconnective h
      exact ⟨[n], links, ⟨0, n, hx.ne_connective, rfl⟩, hlinks, rfl⟩
    | connective c =>
      by_cases hc : c = .not
      · subst hc
        exact ⟨fun h => (ihoperand h).negated, fun h => by simp [connectiveFault] at h⟩
      · obtain ⟨d, rfl⟩ := Joiner.exists_connective hc
        refine ⟨fun h => by simp [operandFault_joiner] at h, fun h => ?_⟩
        rw [connectiveFault_joiner] at h
        obtain ⟨first, links, hfirst, hlinks, rfl⟩ := ihoperand h
        exact ⟨(d, first) :: links, List.forall_mem_cons.2 ⟨hfirst, hlinks⟩, rfl⟩

/-- A sequence of operands that have become truth values has a formula. -/
theorem bracketed_of_row {nodes : List Node} {row : List Token}
    (hrow : List.Forall₂ (Node.Becomes truth) nodes row) (h : ChainForm nodes) :
    ∃ x, Bracketed (some .or) nodes x := by
  refine exists_bracketed h fun n hn hne => ?_
  obtain ⟨token, htoken⟩ := exists_becomes hrow hn
  cases htoken with
  | operand hx => exact ⟨_, hx⟩
  | connective c => exact absurd rfl (hne c)

/-- **The form of a sequence decides whether its row fits,** whatever the truth values are. -/
theorem fits_iff {nodes : List Node} {row : List Token}
    (hrow : List.Forall₂ (Node.Becomes truth) nodes row) :
    operandFault row = none ↔ ChainForm nodes := by
  refine ⟨(chainForm_of_fits hrow).1, fun h => ?_⟩
  obtain ⟨x, hx⟩ := bracketed_of_row hrow h
  exact fold_ok_iff.1 ⟨_, fold_bracketed hx hrow⟩

end DisplayFilter
