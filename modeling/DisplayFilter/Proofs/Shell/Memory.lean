import DisplayFilter.Proofs.Pattern.Cache
import DisplayFilter.Shell.Memory

/-!
# What a shell remembers does not show

The memory of a shell is the caches of its string comparators, and none of them shows in a
comparison.  A step that does not show, behind a step that does not show, does not show either: so
nothing does on the way from the comparisons to a whole run, and a shell writes what a shell without
a memory writes.

* `Memory.Faithful` — what is true of a memory at any time;
* `consult_transparent`, `evaluate_transparent` — comparisons;
* `reduceNodes_transparent`, `nextOf_transparent` — trees and selections;
* **`execute_transparent`**, **`run_transparent`** — commands and runs.
-/

namespace DisplayFilter

variable {engine : PatternEngine}

/-- **A faithful memory** has faithful caches. -/
def Memory.Faithful (memory : Memory engine) : Prop :=
  ∀ place, (memory place).Faithful

theorem Memory.faithful_empty : (Memory.empty : Memory engine).Faithful :=
  fun _ => PatternCache.faithful_nil

theorem Memory.Faithful.replace {memory : Memory engine} (h : memory.Faithful) (place : Nat)
    {cache : PatternCache engine} (hcache : cache.Faithful) :
    (memory.replace place cache).Faithful := by
  intro other
  unfold Memory.replace
  split
  · exact hcache
  · exact h other

namespace Remembering

/-! ### Comparisons -/

theorem Asked.compare_transparent (c : Asked engine) (op : Operator) (literal : Literal)
    (item : Value) :
    Transparent Memory.Faithful (c.compare op literal item)
      (c.forget.compare? op literal item) := by
  cases c with
  | plain c => exact Transparent.pure _ _
  | string place =>
    intro memory hmemory
    obtain ⟨hanswer, hcache⟩ := string_transparent op literal item _ (hmemory place)
    exact ⟨hanswer, hmemory.replace place hcache⟩

theorem settled_transparent (c : Asked engine) (op : Operator) (literal : Literal) (item : Value) :
    Transparent Memory.Faithful (settled c op literal item)
      (DisplayFilter.settled c.forget op literal item) :=
  (c.compare_transparent op literal item).bind (Transparent.pure _ _)

theorem anySettled_transparent (c : Asked engine) (op : Operator) (literal : Literal)
    (items : List Value) :
    Transparent Memory.Faithful (anySettled c op literal items)
      (items.any (DisplayFilter.settled c.forget op literal)) := by
  induction items with
  | nil => exact Transparent.pure _ _
  | cons item items ih =>
    refine (settled_transparent c op literal item).bind ?_
    rw [List.any_cons]
    cases DisplayFilter.settled c.forget op literal item with
    | true => exact Transparent.pure _ _
    | false => exact ih

theorem allSettled_transparent (c : Asked engine) (op : Operator) (literal : Literal)
    (items : List Value) :
    Transparent Memory.Faithful (allSettled c op literal items)
      (items.all (DisplayFilter.settled c.forget op literal)) := by
  induction items with
  | nil => exact Transparent.pure _ _
  | cons item items ih =>
    refine (settled_transparent c op literal item).bind ?_
    rw [List.all_cons]
    cases DisplayFilter.settled c.forget op literal item with
    | true => exact ih
    | false => exact Transparent.pure _ _

theorem overItems_transparent (c : Asked engine) (op : Operator) (literal : Literal)
    (item : Value) :
    Transparent Memory.Faithful (overItems c op literal item)
      (DisplayFilter.overItems c.forget op literal item) := by
  cases item with
  | list items =>
    cases items with
    | nil => exact settled_transparent c op literal _
    | cons item items =>
      simp only [overItems, DisplayFilter.overItems]
      split
      · exact allSettled_transparent c op literal _
      · exact anySettled_transparent c op literal _
  | _ => exact settled_transparent c op literal _

/-- **Consulting.** Each comparator answers as it does without a memory, so that the same ones are
asked. -/
theorem consult_transparent (op : Operator) (literal : Literal) (item : Value)
    (cs : List (Asked engine)) :
    Transparent Memory.Faithful (consult op literal item cs)
      (DisplayFilter.consult op literal item (cs.map Asked.forget)) := by
  induction cs with
  | nil => exact Transparent.pure _ _
  | cons c cs ih =>
    unfold consult
    rw [List.map_cons, DisplayFilter.consult]
    split
    · refine (overItems_transparent c op literal item).bind ?_
      cases hstop : DisplayFilter.overItems c.forget op literal item || op == .ne with
      | true =>
        simp only [hstop, if_true]
        exact Transparent.pure _ _
      | false =>
        simp only [hstop, Bool.false_eq_true, if_false]
        exact ih.bind (Transparent.pure _ _)
    · exact ih

theorem evaluate_transparent (table : Table engine) (e : Expression) (item : Value) :
    Transparent Memory.Faithful (evaluate table e item)
      (table.forget.evaluate e item, table.forget.trace e item) := by
  unfold evaluate ComparatorTable.evaluate ComparatorTable.trace
  cases e.comparison with
  | none => exact Transparent.pure _ _
  | some c =>
    exact (consult_transparent c.operator c.literal item (table c.operator)).bind
      (Transparent.pure _ _)

/-! ### Trees -/

theorem leaf_transparent (f : Filter engine) (record : Record) (e : Expression) :
    Transparent Memory.Faithful (leaf f record e)
      (f.forget.leaf record e, f.forget.leafLog record e) := by
  unfold leaf DisplayFilter.Filter.leaf DisplayFilter.Filter.leafLog
  cases f.forget.resolve e record with
  | error fault => exact Transparent.pure _ _
  | ok v => exact (evaluate_transparent f.table e v).bind (Transparent.pure _ _)

variable {leaf : Expression → StateM (Memory engine) (Except EvaluationError Bool × List LogLine)}
  {plain : Expression → Except EvaluationError Bool} {log : Expression → List LogLine}

mutual

/-- Nodes become the same parts of rows, and leave the lines of the leaves that were evaluated. -/
theorem reduceNode_transparent
    (h : ∀ e, Transparent Memory.Faithful (leaf e) (plain e, log e)) :
    ∀ n : Node, Transparent Memory.Faithful (reduceNode leaf n)
      (n.reduce plain, (n.reduce plain).visited.flatMap log)
  | .leaf e => (h e).bind (by simpa [Node.reduce] using Transparent.pure _ _)
  | .group nodes => (reduceNodes_transparent h nodes).bind (Transparent.pure _ _)
  | .connective c => Transparent.pure _ _

theorem reduceNodes_transparent
    (h : ∀ e, Transparent Memory.Faithful (leaf e) (plain e, log e)) :
    ∀ nodes : List Node, Transparent Memory.Faithful (reduceNodes leaf nodes)
      (DisplayFilter.reduceNodes plain nodes,
        (DisplayFilter.reduceNodes plain nodes).visited.flatMap log)
  | [] => Transparent.pure _ _
  | n :: nodes => by
    refine (reduceNode_transparent h n).bind ?_
    rw [DisplayFilter.reduceNodes]
    cases hfirst : (n.reduce plain).result with
    | error e =>
      simp only [hfirst]
      exact Transparent.pure _ _
    | ok token =>
      simp only [hfirst]
      refine (reduceNodes_transparent h nodes).bind ?_
      rw [List.flatMap_append]
      exact Transparent.pure _ _

end

theorem inspect_transparent (f : Filter engine) (tree : FilterTree) (record : Record) :
    Transparent Memory.Faithful (inspect f tree record)
      (f.forget.inspect tree record, f.forget.inspectLog tree record) := by
  unfold inspect DisplayFilter.Filter.inspectLog DisplayFilter.Filter.inspect
  split
  · exact Transparent.pure _ _
  · exact (reduceNodes_transparent (leaf_transparent f record) tree).bind (Transparent.pure _ _)

/-! ### Selections -/

theorem nextOf_transparent (f : Filter engine) (tree : FilterTree) (records : List Record) :
    Transparent Memory.Faithful (nextOf f tree records)
      (DisplayFilter.nextOf f.forget tree records) := by
  induction records with
  | nil => exact Transparent.pure _ _
  | cons record records ih =>
    refine (inspect_transparent f tree record).bind ?_
    simp only [DisplayFilter.nextOf, DisplayFilter.Filter.satisfies]
    cases (f.forget.inspect tree record).result with
    | ok b =>
      cases b with
      | true => exact Transparent.pure _ _
      | false => exact ih.bind (Transparent.pure _ _)
    | error e =>
      simp only
      split
      · exact Transparent.pure _ _
      · exact ih.bind (Transparent.pure _ _)

theorem next_transparent {f : Filter engine} {s : Selection} (h : s.filter = f.forget) :
    Transparent Memory.Faithful (next f s) s.next := by
  unfold next Selection.next
  rw [h]
  split
  · exact Transparent.pure _ _
  · exact nextOf_transparent f s.tree s.records

/-- A step keeps the filter of its selection. -/
theorem nextOf_filter (f : DisplayFilter.Filter) (tree : FilterTree) (records : List Record) :
    (DisplayFilter.nextOf f tree records).after.filter = f := by
  induction records with
  | nil => rfl
  | cons record records ih =>
    simp only [DisplayFilter.nextOf]
    split
    · rfl
    · exact ih
    · split
      · rfl
      · exact ih

theorem next_filter (s : Selection) : s.next.after.filter = s.filter := by
  unfold Selection.next
  split
  · rfl
  · exact nextOf_filter s.filter s.tree s.records

theorem take_transparent {f : Filter engine} (polls : Nat) {s : Selection}
    (h : s.filter = f.forget) :
    Transparent Memory.Faithful (take f polls s) (s.take polls) := by
  induction polls generalizing s with
  | zero => exact Transparent.pure _ _
  | succ polls ih =>
    refine (next_transparent h).bind ?_
    simp only [Selection.take]
    cases s.next.item with
    | none => exact Transparent.pure _ _
    | some item => exact (ih ((next_filter s).trans h)).bind (Transparent.pure _ _)

theorem query_transparent (f : Filter engine) (text : String) (d : Dataset) :
    Transparent Memory.Faithful (query f text d) (ResultTable.query f.forget text d) := by
  have hparse : f.forget.filter text (d.records.map .value) =
      (f.parser.parse text).map fun tree => f.forget.select tree (d.records.map .value) := rfl
  unfold query ResultTable.query
  rw [hparse]
  cases f.parser.parse text with
  | error e => exact Transparent.pure _ _
  | ok tree =>
    have hcount : (d.records.map Record.value).length = d.records.length := List.length_map _
    have hcollect : (f.forget.select tree (d.records.map .value)).collect =
        (f.forget.select tree (d.records.map .value)).take (d.records.length + 1) := by
      rw [← hcount]
      rfl
    simp only [Except.map, hcollect]
    refine (take_transparent _ rfl).bind ?_
    obtain ⟨items, log⟩ :=
      (f.forget.select tree (d.records.map .value)).take (d.records.length + 1)
    simp only
    cases rowsOf items with
    | error e => exact Transparent.pure _ _
    | ok rows => exact Transparent.pure _ _

/-! ### Commands -/

theorem applyFilter_transparent (sh : Shell engine) (text : String) :
    Transparent Memory.Faithful (applyFilter sh text) (sh.forget.applyFilter text) := by
  by_cases hblank : (Text.trim text.toList).isEmpty = true
  · rw [applyFilter, if_pos hblank]
    exact Transparent.pure _ _
  · rw [applyFilter, if_neg hblank, DisplayFilter.Shell.applyFilter, if_neg hblank]
    refine (query_transparent sh.filter text sh.dataset).bind ?_
    have hquery : ResultTable.query sh.forget.filter text sh.forget.dataset =
        ResultTable.query sh.filter.forget text sh.dataset := rfl
    rw [hquery]
    obtain ⟨result, log⟩ := ResultTable.query sh.filter.forget text sh.dataset
    cases result with
    | ok t => exact Transparent.pure _ _
    | error e => exact Transparent.pure _ _

/-- **The reply to a command** does not show what is remembered. -/
theorem execute_transparent (sh : Shell engine) (st : ShellState) (command : ShellCommand) :
    Transparent Memory.Faithful (execute sh st command) (sh.forget.execute st command) := by
  cases command with
  | filter text => exact (applyFilter_transparent sh text).bind (Transparent.pure _ _)
  | _ => exact Transparent.pure _ _

theorem runLines_transparent (sh : Shell engine) (st : ShellState) (lines : List String) :
    Transparent Memory.Faithful (runLines sh st lines) (sh.forget.runLines st lines) := by
  induction lines generalizing st with
  | nil => exact Transparent.pure _ _
  | cons line lines ih =>
    refine (execute_transparent sh st (ShellCommand.ofLine line)).bind ?_
    simp only [DisplayFilter.Shell.runLines]
    split
    · exact (ih _).bind (Transparent.pure _ _)
    · exact Transparent.pure _ _

/-- **A run** does not show what is remembered. -/
theorem run_transparent (sh : Shell engine) (st : ShellState) (text : String) :
    Transparent Memory.Faithful (run sh st text) (sh.forget.run st text) :=
  (runLines_transparent sh st (inputLines text)).bind (Transparent.pure _ _)

end Remembering

end DisplayFilter
