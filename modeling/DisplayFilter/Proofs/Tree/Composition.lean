import DisplayFilter.Proofs.Tree.Locality

/-!
# Composed filters

Filters that parse can be put into parentheses, negated and joined by connectives, and the trees of
the parts are the parts of the tree.

* `Joint` — a connective in some spelling, `Clause` — a joint with a filter behind it;
* **`reads_parenthesised`** — a filter in parentheses is an operand, whatever follows it;
* **`parse_negated`**, **`parse_clauses`** — negations, and filters with connectives between them;
* **`parse_composed`** — all of these together.
-/

namespace DisplayFilter

open Text

/-! ### Clauses -/

/-- **A joint:** a connective in some spelling with blanks in front and behind. -/
structure Joint where
  before : String
  spelling : String
  after : String
  connective : Connective

/-- A joint is valid if its connective is spelled in any case of letters and there are blanks on
both of its sides. -/
structure Joint.Valid (x : Joint) : Prop where
  before_ne : x.before.toList ≠ []
  before_blank : ∀ c ∈ x.before.toList, isBlank c = true
  spelled : ∃ word, (word, x.connective) ∈ Connective.spellings ∧
    equalCaseless word.toList x.spelling.toList = true
  after_ne : x.after.toList ≠ []
  after_blank : ∀ c ∈ x.after.toList, isBlank c = true

/-- **A clause:** a joint with a filter behind it, which stands in parentheses. -/
structure Clause where
  joint : Joint
  text : String
  root : Node

/-- A clause is valid if its joint is and its filter parses. -/
structure Clause.Valid (p : Parser) (x : Clause) : Prop where
  joint : x.joint.Valid
  parsed : p.parse x.text = .ok [x.root]

/-- The text of some clauses. -/
def Clause.texts : List Clause → String
  | [] => ""
  | x :: clauses =>
    x.joint.before ++ x.joint.spelling ++ x.joint.after ++ "(" ++ x.text ++ ")" ++
      Clause.texts clauses

/-- The connectives and operands of some clauses. -/
def Clause.links (clauses : List Clause) : List (Connective × Node) :=
  clauses.map fun x => (x.joint.connective, x.root)

/-! ### Parentheses -/

variable {p : Parser}

/-- **A filter in parentheses is an operand,** whatever follows it. -/
theorem reads_parenthesised (hp : p.PlainNames) {text : String} {root : Node}
    (h : p.parse text = .ok [root]) (rest : List Char) :
    p.Reads ('(' :: (text.toList ++ ')' :: rest)) (.operand root) rest := by
  rcases parse_eq_ok_iff.1 h with ⟨-, hnil⟩ | ⟨hblank, x, left, hx, hleft, hroot⟩
  · simp at hnil
  · obtain rfl : root = x := by simpa using hroot
    have htrim : trimStart (text.toList ++ ')' :: rest) =
        trimStart text.toList ++ ')' :: rest :=
      trimStart_close _ _
    have hlocal := reads_local hp hx (Or.inl hleft) rest
    refine .parenthesised (fun u hu => ?_) (htrim.symm ▸ hlocal) ?_
    · -- no operand starts with a closing parenthesis
      obtain ⟨c, more, hc⟩ := List.exists_cons_of_ne_nil hblank
      rw [htrim, hc] at hu
      obtain rfl : c = ')' := (List.cons.inj hu).1
      obtain ⟨fault, hfault⟩ :=
        expression_stops hp (s := ')' :: more) (stops_cons.2 (by decide)) (by simp)
      have hunary := unary_eq_expression (p := p) (s := ')' :: more) rfl (by simp)
      rw [hc] at hx
      cases hx with
      | chain hfirst _ =>
        rw [← unary_eq_ok_iff, hunary, hfault] at hfirst
        simp [Except.map] at hfirst
    · rw [trimStart_close, hleft]
      rfl

/-! ### Connectives -/

theorem blanks?_append {w : List Char} (hne : w ≠ []) (hw : ∀ c ∈ w, isBlank c = true)
    (s : List Char) : blanks? (w ++ s) = some (trimStart s) := by
  obtain ⟨b, more, rfl⟩ := List.exists_cons_of_ne_nil hne
  have hb : isBlank b = true := hw b List.mem_cons_self
  simp only [List.cons_append, blanks?, hb, if_true]
  rw [trimStart_append_blanks fun c hc => hw c (List.mem_cons_of_mem _ hc)]

theorem connectives_unique : ∀ x ∈ Connective.spellings, ∀ y ∈ Connective.spellings,
    equalCaseless x.1.toList y.1.toList = true → x.2 = y.2 := by
  decide

/-- **A connective is found in any spelling** with any blanks around it. -/
theorem connectiveAt?_joint {x : Joint} (h : x.Valid) (rest : List Char) :
    connectiveAt? (x.before.toList ++ (x.spelling.toList ++ (x.after.toList ++ rest))) =
      some (x.connective, trimStart rest) := by
  obtain ⟨word, hmem, hw⟩ := h.spelled
  have hbare : ∀ c ∈ x.spelling.toList, isBareChar c = true :=
    forall_of_equalCaseless (fun _ => isBareChar_of_isUpper)
      (bareWords_connectives _ hmem).2 hw
  have hstops : Stops isBlank (x.spelling.toList ++ (x.after.toList ++ rest)) := by
    cases hs : x.spelling.toList with
    | nil =>
      rw [hs] at hw
      exact absurd (by simpa using equalCaseless_iff.1 hw) (bareWords_connectives _ hmem).1
    | cons c more => exact stops_cons.2 (not_blank_of_isBareChar (hbare c (hs ▸ List.mem_cons_self)))
  rw [connectiveAt?, blanks?_append h.before_ne h.before_blank, trimStart_of_stops hstops]
  exact keyword?_append bareWords_connectives connectives_unique hmem hw h.after_ne h.after_blank
    rest

theorem reads_clauses (hp : p.PlainNames) {clauses : List Clause} (h : ∀ x ∈ clauses, x.Valid p) :
    p.Reads (Clause.texts clauses).toList (.tail (Clause.links clauses)) [] := by
  induction clauses with
  | nil => exact .done rfl
  | cons x clauses ih =>
    have hx := h x List.mem_cons_self
    have hclauses := ih fun y hy => h y (List.mem_cons_of_mem _ hy)
    have htext : (Clause.texts (x :: clauses)).toList =
        x.joint.before.toList ++ (x.joint.spelling.toList ++ (x.joint.after.toList ++
          '(' :: (x.text.toList ++ ')' :: (Clause.texts clauses).toList))) := by
      simp [Clause.texts]
    rw [htext]
    refine .next (connectiveAt?_joint hx.joint _) ?_ hclauses
    rw [trimStart_cons_of_not_blank (by decide)]
    exact reads_parenthesised hp hx.parsed _

/-! ### Filters -/

/-- A text that starts with a parenthesis or a negation is read from its first character on. -/
theorem parse_of_reads {text : String} {c : Char} {s rest : List Char} {x : Node}
    (htext : text.toList = c :: s) (hc : isBlank c = false)
    (h : p.Reads (c :: s) (.chain x) rest) (hrest : trimStart rest = []) :
    p.parse text = .ok [x] := by
  have htrim : trimStart text.toList = c :: s := by
    rw [htext]
    exact trimStart_cons_of_not_blank hc s
  exact parse_eq_ok_iff.2 (Or.inr ⟨by rw [htrim]; simp, x, rest, htrim.symm ▸ h, hrest, rfl⟩)

/-- **A filter in parentheses, and filters in parentheses with connectives between them.** -/
theorem parse_clauses (hp : p.PlainNames) {text : String} {root : Node}
    (h : p.parse text = .ok [root]) {clauses : List Clause} (hclauses : ∀ x ∈ clauses, x.Valid p) :
    p.parse ("(" ++ text ++ ")" ++ Clause.texts clauses) =
      .ok [joined root (Clause.links clauses)] := by
  refine parse_of_reads (s := text.toList ++ ')' :: (Clause.texts clauses).toList) (by simp)
    (by decide) (.chain (reads_parenthesised hp h _) (reads_clauses hp hclauses)) rfl

/-- **A negated filter in parentheses,** behind `not` or an exclamation mark. -/
theorem parse_negated (hp : p.PlainNames) {text : String} {root : Node}
    (h : p.parse text = .ok [root]) :
    p.parse ("not (" ++ text ++ ")") = .ok [.group [.connective .not, root]] ∧
      p.parse ("!(" ++ text ++ ")") = .ok [.group [.connective .not, root]] := by
  have hroot := reads_parenthesised hp h []
  have hword : negation? ('n' :: 'o' :: 't' :: ' ' :: '(' :: (text.toList ++ [')'])) =
      some ('(' :: (text.toList ++ [')'])) := rfl
  have hmark : negation? ('!' :: '(' :: (text.toList ++ [')'])) =
      some ('(' :: (text.toList ++ [')'])) := rfl
  constructor
  · exact parse_of_reads (by simp) (by decide)
      (Parser.Reads.alone (.negated hword hroot) rfl) rfl
  · exact parse_of_reads (by simp) (by decide)
      (Parser.Reads.alone (.negated hmark hroot) rfl) rfl

/-- A text whose tree has one root, as computing shows. -/
theorem parse_root (p : Parser) (text : String)
    (h : (p.parse text).toOption.map List.length = some 1) : ∃ root, p.parse text = .ok [root] := by
  obtain ⟨tree, htree, hlength⟩ := Option.map_eq_some_iff.1 h
  obtain ⟨root, rfl⟩ := List.length_eq_one_iff.1 hlength
  exact ⟨root, toOption_eq_some.1 htree⟩

/-- **The parser is compositional.**  A filter that parses has the same tree in parentheses.  With a
negation in front, the tree is the negation of that tree.  Filters in parentheses with connectives
between them, in any spelling and with any blanks, have the trees of the filters as the operands of
one flat group. -/
theorem parse_composed (hp : p.PlainNames) {text : String} {root : Node}
    (h : p.parse text = .ok [root]) :
    p.parse ("(" ++ text ++ ")") = .ok [root] ∧
    p.parse ("not (" ++ text ++ ")") = .ok [.group [.connective .not, root]] ∧
    p.parse ("!(" ++ text ++ ")") = .ok [.group [.connective .not, root]] ∧
    ∀ clauses : List Clause, clauses ≠ [] → (∀ x ∈ clauses, x.Valid p) →
      p.parse ("(" ++ text ++ ")" ++ Clause.texts clauses) =
        .ok [.group (root :: flattened (Clause.links clauses))] := by
  obtain ⟨hnot, hmark⟩ := parse_negated hp h
  refine ⟨?_, hnot, hmark, fun clauses hne hclauses => ?_⟩
  · have halone : p.parse ("(" ++ text ++ ")" ++ Clause.texts []) =
        .ok [joined root (Clause.links [])] := parse_clauses hp h (by simp)
    simpa [Clause.texts, Clause.links, joined] using halone
  · rw [parse_clauses hp h hclauses]
    obtain ⟨x, clauses, rfl⟩ := List.exists_cons_of_ne_nil hne
    rfl

/-- Three filters: a field called `not`, a text with a parenthesis in it, and a field alone. -/
theorem parse_composed_three :
    ∃ x y z, ({} : Parser).parse "not  == 5" = .ok [x] ∧ ({} : Parser).parse " a ~ ')'" = .ok [y] ∧
      ({} : Parser).parse "b" = .ok [z] ∧
      ({} : Parser).parse "(not  == 5) XoR  ( a ~ ')')\t&& (b)" =
        .ok [.group [x, .connective .xor, y, .connective .and, z]] := by
  have hxor : (Joint.mk " " "XoR" "  " .xor).Valid :=
    ⟨by decide, List.all_eq_true.1 (by decide), ⟨"xor", by decide, by decide⟩, by decide,
      List.all_eq_true.1 (by decide)⟩
  have hand : (Joint.mk "\t" "&&" " " .and).Valid :=
    ⟨by decide, List.all_eq_true.1 (by decide), ⟨"&&", by decide, by decide⟩, by decide,
      List.all_eq_true.1 (by decide)⟩
  obtain ⟨x, hx⟩ := parse_root {} "not  == 5" (by set_option maxRecDepth 4096 in rfl)
  obtain ⟨y, hy⟩ := parse_root {} " a ~ ')'" (by set_option maxRecDepth 4096 in rfl)
  obtain ⟨z, hz⟩ := parse_root {} "b" (by set_option maxRecDepth 4096 in rfl)
  refine ⟨x, y, z, hx, hy, hz, ?_⟩
  refine (parse_composed plainNames_standard hx).2.2.2
    [⟨⟨" ", "XoR", "  ", .xor⟩, " a ~ ')'", y⟩, ⟨⟨"\t", "&&", " ", .and⟩, "b", z⟩] (by simp) ?_
  intro clause hclause
  rcases List.mem_cons.1 hclause with rfl | hclause
  · exact ⟨hxor, hy⟩
  · obtain rfl := List.mem_singleton.1 hclause
    exact ⟨hand, hz⟩

end DisplayFilter
