import DisplayFilter.Proofs.Filter.Selection
import DisplayFilter.Proofs.Tree.Composition
import DisplayFilter.Proofs.Tree.Shape

/-!
# Conjunctions and negations of filters

A filter keeps the records that satisfy it, passes over those that do not, and skips those whose own
data it cannot evaluate.  A conjunction evaluates both of its operands for every record, so that the
order of the operands does not matter, and neither does whether they are one filter or two.  A
negation skips what its operand skips and exchanges the other records.

* `Filter.keeps`, `Filter.skips` — what becomes of a record;
* `Filter.Yields` — the records that come out of filtering;
* `satisfies_and`, `satisfies_not` — the truth values of conjunctions and negations;
* **`yields_of_parse`** — a filter that parses yields what it keeps;
* **`filter_algebra`** — conjunctions commute and are filters in a row, negations split the records.
-/

namespace DisplayFilter

variable {f : Filter} {record : Record} {x y : Node}

/-! ### What becomes of a record -/

/-- Whether a record satisfies a tree and has not failed on it. -/
def Filter.keeps (f : Filter) (tree : FilterTree) (record : Record) : Bool :=
  match f.satisfies tree record with
  | .ok b => b
  | .error _ => false

/-- Whether a record's own data cannot be evaluated. -/
def Filter.skips (f : Filter) (tree : FilterTree) (record : Record) : Bool :=
  match f.satisfies tree record with
  | .ok _ => false
  | .error e => !e.isStructural

/-- **Filtering yields** some records and nothing else: all items are records. -/
def Filter.Yields (f : Filter) (text : String) (records yielded : List Record) : Prop :=
  ∃ s, f.filter text records = .ok s ∧ s.collect.1 = yielded.map .ok

/-! ### Truth values -/

/-- A group has the truth value of its row. -/
theorem satisfies_group (nodes : List Node) :
    f.satisfies [.group nodes] record =
      (reduceNodes (f.leaf record) nodes).result.bind fun row =>
        (fold row).mapError .malformedTree := by
  show (reduceNodes (f.leaf record) [.group nodes]).result.bind _ = _
  rw [reduceNodes_cons, reduce_group]
  cases (reduceNodes (f.leaf record) nodes).result with
  | error e => rfl
  | ok row =>
    show ((((fold row).mapError EvaluationError.malformedTree).map Token.value).bind _).bind _ =
      (fold row).mapError EvaluationError.malformedTree
    cases fold row with
    | error fault => rfl
    | ok b => rfl

/-- An operand in a row stands for its truth value as a filter. -/
theorem reduce_eq_satisfies (h : x.Operand) :
    (x.reduce (f.leaf record)).result = (f.satisfies [x] record).map .value := by
  have hx : Answers IsValue (x.reduce (f.leaf record)).result :=
    reduce_operand (fun _ _ => leaf_not_structural) h
  exact (reduce_singleton hx).1.symm

/-- **Conjunctions.** Both operands are evaluated, the first one first. -/
theorem satisfies_and (hx : x.Operand) (hy : y.Operand) :
    f.satisfies [.group [x, .connective .and, y]] record =
      (f.satisfies [x] record).bind fun a => (f.satisfies [y] record).map (a && ·) := by
  rw [satisfies_group, reduceNodes_cons, reduceNodes_cons, reduceNodes_cons,
    reduce_eq_satisfies hx, reduce_eq_satisfies hy]
  cases f.satisfies [x] record with
  | error e => rfl
  | ok a =>
    cases f.satisfies [y] record with
    | error e => rfl
    | ok b => rfl

/-- **Negations.** -/
theorem satisfies_not (hx : x.Operand) :
    f.satisfies [.group [.connective .not, x]] record = (f.satisfies [x] record).map (!·) := by
  rw [satisfies_group, reduceNodes_cons, reduceNodes_cons, reduce_eq_satisfies hx]
  cases f.satisfies [x] record with
  | error e => rfl
  | ok a => rfl

/-- A conjunction keeps what both of its operands keep. -/
theorem keeps_and (hx : x.Operand) (hy : y.Operand) :
    f.keeps [.group [x, .connective .and, y]] record =
      (f.keeps [x] record && f.keeps [y] record) := by
  unfold Filter.keeps
  rw [satisfies_and hx hy]
  cases f.satisfies [x] record with
  | error e => rfl
  | ok a =>
    cases f.satisfies [y] record with
    | error e => exact (Bool.and_false a).symm
    | ok b => rfl

/-- A negation keeps what its operand neither keeps nor skips. -/
theorem keeps_not (hx : x.Operand) :
    f.keeps [.group [.connective .not, x]] record =
      (!f.keeps [x] record && !f.skips [x] record) := by
  unfold Filter.keeps Filter.skips
  rw [satisfies_not hx]
  rcases satisfies_answers f record hx with ⟨b, hb, -⟩ | ⟨e, he, hstruct⟩
  · rw [hb]
    exact (Bool.and_true _).symm
  · rw [he]
    simp [Except.map, hstruct]

/-- No record is both kept and skipped. -/
theorem not_skips_of_keeps {tree : FilterTree} (h : f.keeps tree record = true) :
    f.skips tree record = false := by
  unfold Filter.keeps at h
  unfold Filter.skips
  cases hresult : f.satisfies tree record with
  | ok b => rfl
  | error e => simp [hresult] at h

/-! ### What a filter yields -/

/-- The items of an operand are the records that it keeps. -/
theorem itemsOf_operand (h : x.Operand) (records : List Record) :
    itemsOf f [x] records = (records.filter (f.keeps [x])).map .ok := by
  induction records with
  | nil => rfl
  | cons record records ih =>
    rw [itemsOf, List.filter_cons]
    rcases satisfies_answers f record h with ⟨b, hb, -⟩ | ⟨e, he, hstruct⟩
    · cases b with
      | true => simp only [Filter.keeps, hb, if_true, List.map_cons, ← ih]
      | false => simp only [Filter.keeps, hb, Bool.false_eq_true, if_false, ih]
    · simp only [Filter.keeps, he, hstruct, Bool.false_eq_true, if_false, ih]

/-- **A filter that parses yields what it keeps.** -/
theorem yields_of_parse {text : String} (h : f.parse text = .ok [x]) (hx : x.Operand)
    (records : List Record) : f.Yields text records (records.filter (f.keeps [x])) := by
  refine ⟨f.select [x] records, ?_, ?_⟩
  · rw [Filter.filter, h]
    rfl
  · rw [collect_items, items_select, itemsOf_operand hx]

/-- A text that is not blank has one root, an operand. -/
theorem operand_of_parse {p : Parser} {text : String} {tree : FilterTree}
    (h : p.parse text = .ok tree) (hblank : ∃ c ∈ text.toList, Text.isBlank c = false) :
    ∃ root, tree = [root] ∧ root.Operand := by
  rcases (parse_shaped h).1 with rfl | hroot
  · exfalso
    obtain ⟨c, hc, hcblank⟩ := hblank
    rcases parse_eq_ok_iff.1 h with ⟨hnil, -⟩ | ⟨-, x, rest, -, -, hcons⟩
    · rw [trimStart_eq_nil_iff.1 hnil c hc] at hcblank
      exact Bool.noConfusion hcblank
    · simp at hcons
  · exact hroot

/-- The conjunction of two filters in parentheses. -/
theorem parse_and {p : Parser} (hp : p.PlainNames) {s t : String} (hs : p.parse s = .ok [x])
    (ht : p.parse t = .ok [y]) :
    p.parse ("(" ++ s ++ ") and (" ++ t ++ ")") = .ok [.group [x, .connective .and, y]] := by
  have hand : (Joint.mk " " "and" " " .and).Valid :=
    ⟨by decide, List.all_eq_true.1 (by decide), ⟨"and", by decide, by decide⟩, by decide,
      List.all_eq_true.1 (by decide)⟩
  have hclauses : ∀ z ∈ [Clause.mk ⟨" ", "and", " ", .and⟩ t y], z.Valid p := by
    intro z hz
    obtain rfl := List.mem_singleton.1 hz
    exact ⟨hand, ht⟩
  have htext : "(" ++ s ++ ") and (" ++ t ++ ")" =
      "(" ++ s ++ ")" ++ Clause.texts [⟨⟨" ", "and", " ", .and⟩, t, y⟩] := by
    apply String.ext
    simp [Clause.texts]
  rw [htext]
  exact parse_clauses hp hs hclauses

/-- The conjunction of operands is an operand. -/
theorem operand_and (hx : x.Operand) (hy : y.Operand) :
    (Node.group [x, .connective .and, y]).Operand := by
  show (joined x [(.and, y)]).Operand
  exact operand_joined hx ⟨by simp, by simpa using hy⟩

/-- **A filter and its negation** keep all records that the filter does not skip. -/
theorem perm_keeps_not (hx : x.Operand) (records : List Record) :
    (records.filter (f.keeps [x]) ++ records.filter (f.keeps [.group [.connective .not, x]])).Perm
      (records.filter fun record => !f.skips [x] record) := by
  have hkept : (records.filter fun record => !f.skips [x] record).filter (f.keeps [x]) =
      records.filter (f.keeps [x]) := by
    rw [List.filter_filter]
    apply List.filter_congr
    intro record _
    cases hkeeps : f.keeps [x] record with
    | false => rfl
    | true => rw [not_skips_of_keeps hkeeps]; rfl
  have hdropped : ((records.filter fun record => !f.skips [x] record).filter fun record =>
      !f.keeps [x] record) = records.filter (f.keeps [.group [.connective .not, x]]) := by
    rw [List.filter_filter]
    apply List.filter_congr
    intro record _
    exact (keeps_not hx).symm
  rw [← hkept, ← hdropped]
  exact List.filter_append_perm _ _

/-- **Conjunctions and negations.**  The conjunction of two filters yields the same records in either
order, namely what the second one yields of what the first one does.  The records on which a filter
does not fail are split between the filter and its negation, and neither yields the others. -/
theorem filter_algebra (hp : f.parser.PlainNames) {s t : String} {first second : FilterTree}
    (hs : f.parse s = .ok first) (hsblank : ∃ c ∈ s.toList, Text.isBlank c = false)
    (ht : f.parse t = .ok second) (htblank : ∃ c ∈ t.toList, Text.isBlank c = false)
    (records : List Record) :
    ∃ both kept dropped : List Record,
      f.Yields ("(" ++ s ++ ") and (" ++ t ++ ")") records both ∧
      f.Yields ("(" ++ t ++ ") and (" ++ s ++ ")") records both ∧
      f.Yields s records kept ∧ f.Yields t kept both ∧
      f.Yields ("not (" ++ s ++ ")") records dropped ∧
      (kept ++ dropped).Perm (records.filter fun record => !f.skips first record) ∧
      ∀ record ∈ records,
        (f.skips first record = false → (record ∈ kept ↔ record ∉ dropped)) ∧
        (f.skips first record = true → record ∉ kept ∧ record ∉ dropped) := by
  obtain ⟨x, rfl, hx⟩ := operand_of_parse hs hsblank
  obtain ⟨y, rfl, hy⟩ := operand_of_parse ht htblank
  have hst := yields_of_parse (parse_and hp hs ht) (operand_and hx hy) records
  have hts := yields_of_parse (parse_and hp ht hs) (operand_and hy hx) records
  have hnot := yields_of_parse (parse_negated hp hs).1 (.negated hx) records
  have hrow := yields_of_parse ht hy (records.filter (f.keeps [x]))
  -- all conjunctions keep the records that both operands keep
  have hsame : records.filter (f.keeps [.group [y, .connective .and, x]]) =
      records.filter (f.keeps [.group [x, .connective .and, y]]) := by
    apply List.filter_congr
    intro record _
    rw [keeps_and hy hx, keeps_and hx hy, Bool.and_comm]
  have hboth : (records.filter (f.keeps [x])).filter (f.keeps [y]) =
      records.filter (f.keeps [.group [x, .connective .and, y]]) := by
    rw [List.filter_filter]
    apply List.filter_congr
    intro record _
    rw [keeps_and hx hy, Bool.and_comm]
  rw [hsame] at hts
  rw [hboth] at hrow
  refine ⟨_, _, _, hst, hts, yields_of_parse hs hx records, hrow, hnot, perm_keeps_not hx records,
    ?_⟩
  intro record hrecord
  constructor
  · intro hskips
    simp [hrecord, keeps_not hx, hskips]
  · intro hskips
    have hkeeps : f.keeps [x] record = false := by
      cases h : f.keeps [x] record with
      | false => rfl
      | true => rw [not_skips_of_keeps h] at hskips; exact hskips.symm
    simp [keeps_not hx, hskips, hkeeps]

/-- Two records with a text and one with a number in its place. -/
def textsAndNumber : List Record :=
  [.entries [("a", .string "xy"), ("b", .integer 2)],
    .entries [("a", .integer 7), ("b", .integer 2)],
    .entries [("a", .string "x"), ("b", .integer 3)]]

/-- The number has no length: its record is skipped, the two others are split. -/
theorem filter_algebra_lengths :
    ∃ both kept dropped : List Record,
      ({} : Filter).Yields "(len(a) > 1) and (b == 2)" textsAndNumber both ∧
      ({} : Filter).Yields "(b == 2) and (len(a) > 1)" textsAndNumber both ∧
      ({} : Filter).Yields "len(a) > 1" textsAndNumber kept ∧
      ({} : Filter).Yields "b == 2" kept both ∧
      ({} : Filter).Yields "not (len(a) > 1)" textsAndNumber dropped ∧
      (kept ++ dropped).length = 2 := by
  obtain ⟨x, hx⟩ := parse_root {} "len(a) > 1" (by set_option maxRecDepth 4096 in rfl)
  obtain ⟨y, hy⟩ := parse_root {} "b == 2" (by set_option maxRecDepth 4096 in rfl)
  obtain ⟨both, kept, dropped, hst, hts, hs, ht, hnot, hperm, -⟩ :=
    filter_algebra (f := {}) plainNames_standard hx ⟨'l', by decide, by decide⟩ hy
      ⟨'b', by decide, by decide⟩ textsAndNumber
  refine ⟨both, kept, dropped, hst, hts, hs, ht, hnot, ?_⟩
  have hskips : (({} : Parser).parse "len(a) > 1").toOption.map (fun tree =>
      (textsAndNumber.filter fun record => !({} : Filter).skips tree record).length) = some 2 := by
    decide +kernel
  rw [hx] at hskips
  rw [hperm.length_eq]
  exact Option.some.inj hskips

end DisplayFilter
