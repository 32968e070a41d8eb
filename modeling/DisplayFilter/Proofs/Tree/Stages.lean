import DisplayFilter.Proofs.Tree.Precedence

/-!
# The order of evaluation

Leaves are evaluated from left to right, and a group is folded behind its last member.  The first of
these that fails ends all: its error is the result, and no later leaf is evaluated.

* `Stage` — a leaf or a group, `Node.stages` — those of a tree in the order of their evaluation;
* `Stage.Passes`, `Stage.Fails` — what a stage comes to, `Breaks` — the first one that fails;
* **`Node.reduce_follows`**, **`reduceNodes_follows`** — a reduction goes through the stages;
* **`reduce_precedence`** — what reducing evaluates, when it fails, and what it gives.
-/

namespace DisplayFilter

/-! ### Stages -/

/-- **A stage of an evaluation:** a leaf, or a group, which is folded. -/
inductive Stage where
  | leaf (e : Expression)
  | group (nodes : List Node)

/-- The leaf that a stage evaluates. -/
def Stage.leaf? : Stage → Option Expression
  | leaf e => some e
  | group _ => none

/-- The leaves that some stages evaluate. -/
def Stage.leaves (stages : List Stage) : List Expression :=
  stages.filterMap Stage.leaf?

mutual

/-- **The stages of a node in order.**  A group comes behind its last member. -/
def Node.stages : Node → List Stage
  | .leaf e => [.leaf e]
  | .group nodes => FilterTree.stages nodes ++ [.group nodes]
  | .connective _ => []
termination_by structural n => n

/-- The stages of some nodes in order. -/
def FilterTree.stages : List Node → List Stage
  | [] => []
  | n :: nodes => n.stages ++ FilterTree.stages nodes
termination_by structural nodes => nodes

end

mutual

theorem Node.leaves_stages : (n : Node) → Stage.leaves n.stages = n.leaves
  | .leaf e => rfl
  | .group nodes => by
    rw [Node.stages, Node.leaves, ← FilterTree.leaves_stages nodes]
    simp [Stage.leaves, Stage.leaf?]
  | .connective c => rfl
termination_by structural n => n

theorem FilterTree.leaves_stages :
    (nodes : List Node) → Stage.leaves (FilterTree.stages nodes) = FilterTree.leaves nodes
  | [] => rfl
  | n :: nodes => by
    rw [FilterTree.stages, FilterTree.leaves, ← Node.leaves_stages n,
      ← FilterTree.leaves_stages nodes]
    simp [Stage.leaves]
termination_by structural nodes => nodes

end

/-- The truth value of a leaf that does not fail. -/
def holds (leaf : Expression → Except EvaluationError Bool) (e : Expression) : Bool :=
  match leaf e with
  | .ok b => b
  | .error _ => false

variable {leaf : Expression → Except EvaluationError Bool}

/-- **A stage passes** if its leaf gives a truth value, or its group is made of operands with
connectives between them. -/
def Stage.Passes (leaf : Expression → Except EvaluationError Bool) : Stage → Prop
  | .leaf e => ∃ b, leaf e = .ok b
  | .group nodes => ChainForm nodes

/-- **The error of a stage:** that of its leaf, or the fault of the first part of its row that does
not fit. -/
def Stage.Fails (leaf : Expression → Except EvaluationError Bool) :
    Stage → EvaluationError → Prop
  | .leaf e, cause => leaf e = .error cause
  | .group nodes, cause => ∃ row fault, List.Forall₂ (Node.Becomes (holds leaf)) nodes row ∧
      operandFault row = some fault ∧ cause = .malformedTree fault

/-- **Stages break** at the first one that fails, and the leaves up to it have been evaluated. -/
def Breaks (leaf : Expression → Except EvaluationError Bool) (stages : List Stage)
    (visited : List Expression) (cause : EvaluationError) : Prop :=
  ∃ before s after, stages = before ++ s :: after ∧ (∀ t ∈ before, t.Passes leaf) ∧
    s.Fails leaf cause ∧ visited = Stage.leaves (before ++ [s])

theorem Stage.Passes.not_fails {s : Stage} (h : s.Passes leaf) {cause : EvaluationError} :
    ¬s.Fails leaf cause := by
  cases s with
  | leaf e =>
    obtain ⟨b, hb⟩ := h
    intro hfail
    simp [Stage.Fails, hb] at hfail
  | group nodes =>
    rintro ⟨row, fault, hrow, hfault, -⟩
    rw [(fits_iff hrow).2 h] at hfault
    simp at hfault

theorem Stage.Fails.unique {s : Stage} {cause cause' : EvaluationError} (h : s.Fails leaf cause)
    (h' : s.Fails leaf cause') : cause = cause' := by
  cases s with
  | leaf e => exact Except.error.inj (h.symm.trans h')
  | group nodes =>
    obtain ⟨row, fault, hrow, hfault, rfl⟩ := h
    obtain ⟨row', fault', hrow', hfault', rfl⟩ := h'
    obtain rfl : row = row' :=
      List.right_unique_forall₂' (fun _ _ _ h h' => h.unique h') hrow hrow'
    rw [Option.some.inj (hfault.symm.trans hfault')]

section Breaks

variable {stages more : List Stage} {visited : List Expression} {cause : EvaluationError}

theorem Breaks.append (h : Breaks leaf stages visited cause) (more : List Stage) :
    Breaks leaf (stages ++ more) visited cause := by
  obtain ⟨before, s, after, rfl, hbefore, hs, hvisited⟩ := h
  exact ⟨before, s, after ++ more, by simp, hbefore, hs, hvisited⟩

theorem Breaks.behind (h : Breaks leaf more visited cause)
    (hstages : ∀ s ∈ stages, s.Passes leaf) :
    Breaks leaf (stages ++ more) (Stage.leaves stages ++ visited) cause := by
  obtain ⟨before, s, after, rfl, hbefore, hs, rfl⟩ := h
  refine ⟨stages ++ before, s, after, by simp, ?_, hs, by simp [Stage.leaves]⟩
  exact fun t ht => (List.mem_append.1 ht).elim (hstages t) (hbefore t)

/-- Stages that break do not all pass. -/
theorem Breaks.exists_not_passes (h : Breaks leaf stages visited cause) :
    ∃ s ∈ stages, ¬s.Passes leaf := by
  obtain ⟨before, s, after, rfl, -, hs, -⟩ := h
  exact ⟨s, by simp, fun hpass => hpass.not_fails hs⟩

/-- Stages break in one way only. -/
theorem Breaks.unique (h : Breaks leaf stages visited cause) {visited' : List Expression}
    {cause' : EvaluationError} (h' : Breaks leaf stages visited' cause') :
    visited = visited' ∧ cause = cause' := by
  obtain ⟨before, s, after, rfl, hbefore, hs, rfl⟩ := h
  obtain ⟨before', s', after', hcut, hbefore', hs', rfl⟩ := h'
  obtain ⟨rfl, rfl⟩ : before = before' ∧ s = s' := by
    rcases List.append_eq_append_iff.1 hcut with ⟨m, rfl, hm⟩ | ⟨m, rfl, hm⟩
    · cases m with
      | nil => exact ⟨(List.append_nil _).symm, (List.cons.inj hm).1⟩
      | cons t m =>
        obtain rfl : s = t := (List.cons.inj hm).1
        exact absurd hs (hbefore' s (by simp)).not_fails
    · cases m with
      | nil => exact ⟨List.append_nil _, (List.cons.inj hm).1.symm⟩
      | cons t m =>
        obtain rfl : s' = t := (List.cons.inj hm).1
        exact absurd hs' (hbefore s' (by simp)).not_fails
  exact ⟨rfl, hs.unique hs'⟩

/-- The leaves that have been evaluated are the first leaves. -/
theorem Breaks.visited_prefix (h : Breaks leaf stages visited cause) :
    visited <+: Stage.leaves stages := by
  obtain ⟨before, s, after, rfl, -, -, rfl⟩ := h
  refine ⟨Stage.leaves after, ?_⟩
  rw [Stage.leaves, Stage.leaves, Stage.leaves, ← List.filterMap_append, List.append_assoc,
    List.singleton_append]

end Breaks

/-! ### Reducing by stages -/

/-- **What the stages say about a reduction:** all of them pass and it has a good result, or they
break and it has the error. -/
def Follows {α : Type} (leaf : Expression → Except EvaluationError Bool) (stages : List Stage)
    (good : α → Prop) (r : Reduction α) : Prop :=
  (∃ a, r = ⟨Stage.leaves stages, .ok a⟩ ∧ good a ∧ ∀ s ∈ stages, s.Passes leaf) ∨
    ∃ visited cause, r = ⟨visited, .error cause⟩ ∧ Breaks leaf stages visited cause

/-- Folding is the last stage of a group. -/
theorem follows_folded {nodes : List Node} {r : Reduction (List Token)}
    (h : Follows leaf (FilterTree.stages nodes)
      (List.Forall₂ (Node.Becomes (holds leaf)) nodes) r) :
    Follows leaf (Node.group nodes).stages
      (fun b => ∃ x, Bracketed (some .or) nodes x ∧ b = x.value (holds leaf)) r.folded := by
  rcases h with ⟨row, rfl, hrow, hpass⟩ | ⟨visited, cause, rfl, hbreaks⟩
  · rcases fold_scan row with ⟨b, hfold, hscan⟩ | ⟨fault, hfold, hscan⟩
    · have hform := (fits_iff hrow).1 hscan
      obtain ⟨x, hx⟩ := bracketed_of_row hrow hform
      refine Or.inl ⟨x.value (holds leaf), ?_, ⟨x, hx, rfl⟩, ?_⟩
      · rw [Reduction.folded, Node.stages]
        simp [Except.bind, fold_bracketed hx hrow, Stage.leaves, Stage.leaf?]
      · exact List.forall_mem_append.2 ⟨hpass, List.forall_mem_singleton.2 hform⟩
    · have hgroup : Breaks leaf [.group nodes] [] (.malformedTree fault) :=
        ⟨[], .group nodes, [], rfl, by simp, ⟨row, fault, hrow, hscan, rfl⟩, rfl⟩
      refine Or.inr ⟨_, .malformedTree fault, ?_, hgroup.behind hpass⟩
      simp [Reduction.folded, Except.bind, hfold]
  · exact Or.inr ⟨visited, cause, rfl, hbreaks.append _⟩

mutual

/-- **A node is reduced by its stages.** -/
theorem Node.reduce_follows : (n : Node) →
    Follows leaf n.stages (n.Becomes (holds leaf)) (n.reduce leaf)
  | .leaf e => by
    cases he : leaf e with
    | error cause =>
      refine Or.inr ⟨[e], cause, by simp [Node.reduce, he, Except.map], ?_⟩
      exact ⟨[], .leaf e, [], rfl, by simp, he, rfl⟩
    | ok b =>
      have hb : holds leaf e = b := by simp only [holds, he]
      refine Or.inl ⟨.value b, by simp [Node.reduce, he, Except.map, Node.stages, Stage.leaves,
        Stage.leaf?], hb ▸ .operand (.leaf e), ?_⟩
      exact List.forall_mem_singleton.2 ⟨b, he⟩
  | .group nodes => by
    rcases follows_folded (reduceNodes_follows nodes) with
      ⟨b, hr, ⟨x, hx, rfl⟩, hpass⟩ | ⟨visited, cause, hr, hbreaks⟩
    · exact Or.inl ⟨.value _, by rw [Node.reduce, hr]; rfl, .operand (.group hx), hpass⟩
    · exact Or.inr ⟨visited, cause, by rw [Node.reduce, hr]; rfl, hbreaks⟩
  | .connective c => Or.inl ⟨.connective c, rfl, .connective c, by simp [Node.stages]⟩
termination_by structural n => n

/-- **Some nodes are reduced by their stages.** -/
theorem reduceNodes_follows : (nodes : List Node) →
    Follows leaf (FilterTree.stages nodes) (List.Forall₂ (Node.Becomes (holds leaf)) nodes)
      (reduceNodes leaf nodes)
  | [] => Or.inl ⟨[], rfl, .nil, by simp [FilterTree.stages]⟩
  | n :: nodes => by
    rcases Node.reduce_follows n with ⟨token, hn, htoken, hpass⟩ | ⟨visited, cause, hn, hbreaks⟩
    · rcases reduceNodes_follows nodes with
        ⟨row, hr, hrow, hmore⟩ | ⟨visited, cause, hr, hbreaks⟩
      · refine Or.inl ⟨token :: row, ?_, .cons htoken hrow, ?_⟩
        · simp [reduceNodes, hn, hr, Except.map, FilterTree.stages, Stage.leaves]
        · exact fun s hs => (List.mem_append.1 hs).elim (hpass s) (hmore s)
      · refine Or.inr ⟨_, cause, ?_, hbreaks.behind hpass⟩
        simp only [reduceNodes, hn, hr, Except.map]
    · exact Or.inr ⟨visited, cause, by simp only [reduceNodes, hn], hbreaks.append _⟩
termination_by structural nodes => nodes

end

/-! ### Parentheses around everything -/

theorem fold_joined (c : Joiner) (a b : Bool) :
    fold [.value a, .connective c.connective, .value b] = .ok (c.apply a b) := by
  cases c <;> rfl

/-- The tree of a formula is reduced leaf by leaf to the truth value of the formula. -/
theorem Formula.node_reduce (x : Formula) (h : ∀ e ∈ x.leaves, ∃ b, leaf e = .ok b) :
    x.node.reduce leaf = ⟨x.leaves, .ok (.value (x.value (holds leaf)))⟩ := by
  induction x with
  | leaf e =>
    obtain ⟨b, hb⟩ := h e (by simp [Formula.leaves])
    simp only [Formula.node, Formula.leaves, Formula.value, Node.reduce, holds, hb, Except.map]
  | not x ih =>
    have hfold : fold [.connective .not, .value (x.value (holds leaf))] =
        .ok !x.value (holds leaf) := rfl
    simp [Formula.node, Formula.leaves, Formula.value, Node.reduce, reduceNodes, ih h,
      Reduction.folded, Except.map, Except.bind, hfold]
  | join c x y ihx ihy =>
    obtain ⟨hx, hy⟩ := List.forall_mem_append.1 h
    simp [Formula.node, Formula.leaves, Formula.value, Node.reduce, reduceNodes, ihx hx, ihy hy,
      Reduction.folded, Except.map, Except.bind, fold_joined]

theorem Formula.reduce_node (x : Formula) (h : ∀ e ∈ x.leaves, ∃ b, leaf e = .ok b) :
    reduce leaf [x.node] = ⟨x.leaves, .ok (x.value (holds leaf))⟩ := by
  have hfold : ∀ b, fold [.value b] = .ok b := fun _ => rfl
  simp [reduce, reduceNodes, x.node_reduce h, Reduction.folded, Except.map, Except.bind, hfold]

/-! ### Reducing -/

theorem reduce_follows (nodes : List Node) :
    Follows leaf (Node.group nodes).stages
      (fun b => ∃ x, Bracketed (some .or) nodes x ∧ b = x.value (holds leaf)) (reduce leaf nodes) :=
  follows_folded (reduceNodes_follows nodes)

theorem leaves_stages_group (nodes : List Node) :
    Stage.leaves (Node.group nodes).stages = FilterTree.leaves nodes :=
  Node.leaves_stages (.group nodes)

/-- The stages of some nodes all pass if no leaf fails and every group is made of operands with
connectives between them. -/
theorem forall_passes_iff (nodes : List Node) :
    (∀ s ∈ (Node.group nodes).stages, s.Passes leaf) ↔
      (∀ e ∈ FilterTree.leaves nodes, ∃ b, leaf e = .ok b) ∧
        ∀ g, .group g ∈ (Node.group nodes).stages → ChainForm g := by
  rw [← leaves_stages_group]
  constructor
  · intro h
    refine ⟨fun e he => ?_, fun g hg => h _ hg⟩
    obtain ⟨s, hs, hleaf⟩ := List.mem_filterMap.1 he
    cases s with
    | leaf d =>
      obtain rfl : d = e := Option.some.inj hleaf
      exact h _ hs
    | group g => exact absurd hleaf (by simp [Stage.leaf?])
  · rintro ⟨hleaves, hgroups⟩ s hs
    cases s with
    | leaf e => exact hleaves e (List.mem_filterMap.2 ⟨_, hs, rfl⟩)
    | group g => exact hgroups g hs

/-- **Reducing follows the precedence of the connectives.**  Leaves are evaluated from left to
right, each at most once.  The error is that of the first stage that fails, a leaf or a group, which
is folded behind its last member, and nothing behind it is evaluated.  There is a truth value
exactly if no leaf fails and every group, also the sequence itself, is made of operands with
connectives between them.  Then every leaf has been evaluated, and the truth value is that of the
one formula of the sequence, whose tree with parentheses around everything is reduced to the same
result. -/
theorem reduce_precedence (leaf : Expression → Except EvaluationError Bool) (nodes : List Node) :
    (reduce leaf nodes).visited <+: FilterTree.leaves nodes ∧
    (∀ visited cause, reduce leaf nodes = ⟨visited, .error cause⟩ ↔
      Breaks leaf (Node.group nodes).stages visited cause) ∧
    ((∃ b, (reduce leaf nodes).result = .ok b) ↔
      (∀ e ∈ FilterTree.leaves nodes, ∃ b, leaf e = .ok b) ∧
        ∀ g, .group g ∈ (Node.group nodes).stages → ChainForm g) ∧
    ∀ b, (reduce leaf nodes).result = .ok b →
      (reduce leaf nodes).visited = FilterTree.leaves nodes ∧
      ∃ x, (∀ y, Bracketed (some .or) nodes y ↔ y = x) ∧ b = x.value (holds leaf) ∧
        reduce leaf nodes = reduce leaf [x.node] := by
  have hpasses : (∀ s ∈ (Node.group nodes).stages, s.Passes leaf) ↔ _ := forall_passes_iff nodes
  have hfollows : Follows leaf (Node.group nodes).stages _ (reduce leaf nodes) :=
    reduce_follows nodes
  rcases hfollows with
    ⟨a, hr, ⟨x, hx, rfl⟩, hpass⟩ | ⟨visited, cause, hr, hbreaks⟩
  · rw [leaves_stages_group] at hr
    rw [hr]
    refine ⟨List.prefix_rfl, fun visited cause => ⟨fun h => by simp at h, fun h => ?_⟩,
      ⟨fun _ => hpasses.1 hpass, fun _ => ⟨_, rfl⟩⟩, fun b hb => ⟨rfl, x, fun y => ?_, ?_, ?_⟩⟩
    · obtain ⟨s, hs, hnot⟩ := h.exists_not_passes
      exact absurd (hpass s hs) hnot
    · exact ⟨fun hy => hy.unique hx, fun hy => hy ▸ hx⟩
    · exact (Except.ok.inj hb).symm
    · rw [x.reduce_node (hx.leaves_eq ▸ (hpasses.1 hpass).1), hx.leaves_eq]
  · rw [hr]
    refine ⟨leaves_stages_group nodes ▸ hbreaks.visited_prefix, fun visited' cause' => ?_,
      ⟨fun h => by simp at h, fun h => ?_⟩, fun b hb => by simp at hb⟩
    · constructor
      · intro h
        simp only [Reduction.mk.injEq, Except.error.injEq] at h
        obtain ⟨rfl, rfl⟩ := h
        exact hbreaks
      · intro h
        obtain ⟨rfl, rfl⟩ := hbreaks.unique h
        rfl
    · obtain ⟨s, hs, hnot⟩ := hbreaks.exists_not_passes
      exact absurd (hpasses.2 h s hs) hnot

end DisplayFilter
