import DisplayFilter.Proofs.Filter.Algebra

/-!
# Polling a selection

A selection may be polled as often as one likes.  Each poll looks at no more records than its answer
takes: up to the next record that satisfies the tree, up to the record that makes it a malformed tree,
or up to the end.  A malformed tree is answered once, and from then on nothing is.

* `Selection.poll` — the answers of a number of polls, `Polls.warnings` — the warnings on the way;
* `Filter.faultPlace` — the place of the first record that makes the tree a malformed one;
* `Filter.yielded` — all that a selection has to answer;
* `Filter.Needs` — the least number of records that settle a number of polls;
* `Filter.Polled` — what polls have to do with the records that they look at;
* **`poll_kept`**, **`poll_passed`**, **`poll_fault`** — what becomes of one record;
* **`exists_polled`** — what becomes of a run of polls, **`poll_select`** — what they answer and see.
-/

namespace DisplayFilter

/-! ### Polls -/

/-- **The answers of some polls,** with the lines on the way and the selection behind them. -/
structure Polls where
  answers : List (Option (Except EvaluationError Record))
  log : List LogLine
  after : Selection

/-- **Polling** a selection a number of times, whatever it answers. -/
def Selection.poll : Nat → Selection → Polls
  | 0, s => ⟨[], [], s⟩
  | polls + 1, s =>
    let step := s.next
    let more := Selection.poll polls step.after
    ⟨step.item :: more.answers, step.log ++ more.log, more.after⟩

/-- The warnings among the lines. -/
def warnings (log : List LogLine) : List LogLine :=
  log.filter fun line => line.level = .warn

theorem warnings_append (first more : List LogLine) :
    warnings (first ++ more) = warnings first ++ warnings more :=
  List.filter_append ..

/-- The comparators write no warnings. -/
theorem warnings_inspectLog (f : Filter) (tree : FilterTree) (record : Record) :
    warnings (f.inspectLog tree record) = [] := by
  have hlevel : ∀ line ∈ f.inspectLog tree record, line.level = .debug := by
    intro line hline
    obtain ⟨e, -, he⟩ := List.mem_flatMap.1 hline
    unfold Filter.leafLog at he
    split at he
    · obtain ⟨text, -, rfl⟩ := List.mem_map.1 he
      rfl
    · simp at he
  rw [warnings, List.filter_eq_nil_iff]
  intro line hline
  simp [hlevel line hline]

/-! ### What becomes of a record -/

namespace Filter

variable (f : Filter) (tree : FilterTree)

/-- Why a record makes the tree a malformed one, if it does. -/
def fault? (record : Record) : Option TreeFault :=
  match f.satisfies tree record with
  | .error (.malformedTree fault) => some fault
  | _ => none

/-- The warning about a record whose own data cannot be evaluated. -/
def warning? (record : Record) : Option LogLine :=
  match f.satisfies tree record with
  | .error (.malformedTree _) => none
  | .error e => some (skipping e)
  | .ok _ => none

/-- **The place of the first record** that makes the tree a malformed one; the number of records if
there is none. -/
def faultPlace (records : List Record) : Nat :=
  records.findIdx fun record => (f.fault? tree record).isSome

/-- **All that a selection has to answer:** the records in front of the malformed tree that satisfy
the tree, and then the malformed tree. -/
def yielded (records : List Record) : List (Except EvaluationError Record) :=
  ((records.take (f.faultPlace tree records)).filter (f.keeps tree)).map .ok ++
    ((records.drop (f.faultPlace tree records)).head?.bind (f.fault? tree)).toList.map
      fun fault => .error (.malformedTree fault)

/-- Whether the first `seen` records settle what some polls answer: enough of them satisfy the tree,
one makes it a malformed tree, or they are all. -/
def Settles (records : List Record) (polls seen : Nat) : Prop :=
  polls ≤ (records.take seen).countP (f.keeps tree) ∨ f.faultPlace tree records < seen ∨
    records.length ≤ seen

/-- **The records that polls need** are as few as settle their answers. -/
structure Needs (records : List Record) (polls seen : Nat) : Prop where
  settles : f.Settles tree records polls seen
  least : ∀ fewer < seen, ¬ f.Settles tree records polls fewer

/-- **What polls have to do** with the first `seen` records: they answer what is to be answered as
long as there is something, warn about the records that cannot be evaluated, leave the other records,
and would answer the same whatever the other records were. -/
structure Polled (records : List Record) (polls seen : Nat) : Prop where
  needs : f.Needs tree records polls seen
  answers : ((f.select tree records).poll polls).answers =
    ((f.yielded tree records).take polls).map some ++
      List.replicate (polls - (f.yielded tree records).length) none
  warned : warnings ((f.select tree records).poll polls).log =
    (records.take (min seen (f.faultPlace tree records))).filterMap (f.warning? tree)
  left : ((f.select tree records).poll polls).after.records = records.drop seen
  decided : polls ≤ (records.take seen).countP (f.keeps tree) ∨ f.faultPlace tree records < seen →
    ∀ other, ((f.select tree (records.take seen ++ other)).poll polls).answers =
        ((f.select tree records).poll polls).answers ∧
      ((f.select tree (records.take seen ++ other)).poll polls).log =
        ((f.select tree records).poll polls).log

end Filter

variable {f : Filter} {tree : FilterTree} {record : Record}

/-- A record satisfies the tree, makes it a malformed tree, or is passed over. -/
theorem record_cases (f : Filter) (tree : FilterTree) (record : Record) :
    f.satisfies tree record = .ok true ∨
      (∃ fault, f.satisfies tree record = .error (.malformedTree fault)) ∨
      (f.keeps tree record = false ∧ f.fault? tree record = none) := by
  unfold Filter.keeps Filter.fault?
  cases h : f.satisfies tree record with
  | ok b =>
    cases b with
    | true => exact Or.inl rfl
    | false => exact Or.inr (Or.inr ⟨rfl, rfl⟩)
  | error e =>
    cases e with
    | malformedTree fault => exact Or.inr (Or.inl ⟨fault, rfl⟩)
    | slice e => exact Or.inr (Or.inr ⟨rfl, rfl⟩)
    | function name message => exact Or.inr (Or.inr ⟨rfl, rfl⟩)

theorem keeps_of_ok (h : f.satisfies tree record = .ok true) :
    f.keeps tree record = true ∧ f.fault? tree record = none ∧ f.warning? tree record = none := by
  simp [Filter.keeps, Filter.fault?, Filter.warning?, h]

theorem keeps_of_fault {fault : TreeFault}
    (h : f.satisfies tree record = .error (.malformedTree fault)) :
    f.keeps tree record = false ∧ f.fault? tree record = some fault := by
  simp [Filter.keeps, Filter.fault?, h]

/-! ### Polling records one after another -/

/-- Behind a structural error nothing is answered, however often one polls. -/
theorem poll_failed {s : Selection} (h : s.failed = true) (polls : Nat) :
    s.poll polls = ⟨List.replicate polls none, [], s⟩ := by
  have hnext : s.next = ⟨none, [], s⟩ := by
    rw [Selection.next, if_pos h]
  induction polls with
  | zero => rfl
  | succ polls ih =>
    simp only [Selection.poll, hnext, ih, List.replicate_succ, List.nil_append]

/-- Behind the last record nothing is answered either. -/
theorem poll_nil (f : Filter) (tree : FilterTree) (polls : Nat) :
    (f.select tree []).poll polls = ⟨List.replicate polls none, [], f.select tree []⟩ := by
  have hnext : (f.select tree []).next = ⟨none, [], f.select tree []⟩ := rfl
  induction polls with
  | zero => rfl
  | succ polls ih =>
    simp only [Selection.poll, hnext, ih, List.replicate_succ, List.nil_append]

/-- **A record that satisfies the tree** is the answer of a poll. -/
theorem poll_kept (h : f.satisfies tree record = .ok true) (records : List Record) (polls : Nat) :
    (f.select tree (record :: records)).poll (polls + 1) =
      ⟨some (.ok record) :: ((f.select tree records).poll polls).answers,
        f.inspectLog tree record ++ ((f.select tree records).poll polls).log,
        ((f.select tree records).poll polls).after⟩ := by
  have hnext : (f.select tree (record :: records)).next =
      ⟨some (.ok record), f.inspectLog tree record, f.select tree records⟩ := by
    show nextOf f tree (record :: records) = _
    simp only [nextOf, h]
    rfl
  simp only [Selection.poll, hnext]

/-- **A record that makes the tree a malformed one** is the last that is looked at. -/
theorem poll_fault {fault : TreeFault}
    (h : f.satisfies tree record = .error (.malformedTree fault)) (records : List Record)
    (polls : Nat) :
    (f.select tree (record :: records)).poll (polls + 1) =
      ⟨some (.error (.malformedTree fault)) :: List.replicate polls none,
        f.inspectLog tree record, ⟨f, tree, records, true⟩⟩ := by
  have hnext : (f.select tree (record :: records)).next =
      ⟨some (.error (.malformedTree fault)), f.inspectLog tree record, ⟨f, tree, records, true⟩⟩ := by
    show nextOf f tree (record :: records) = _
    simp only [nextOf, h, EvaluationError.isStructural, if_true]
  simp only [Selection.poll, hnext, poll_failed (s := ⟨f, tree, records, true⟩) rfl,
    List.append_nil]

/-- **A record that is passed over** only adds lines to the poll that looks at it. -/
theorem poll_passed (hkeeps : f.keeps tree record = false) (hfault : f.fault? tree record = none) :
    ∃ lines, warnings lines = (f.warning? tree record).toList ∧ ∀ records polls,
      (f.select tree (record :: records)).poll (polls + 1) =
        ⟨((f.select tree records).poll (polls + 1)).answers,
          lines ++ ((f.select tree records).poll (polls + 1)).log,
          ((f.select tree records).poll (polls + 1)).after⟩ := by
  have hpoll : ∀ lines, (∀ records, (f.select tree (record :: records)).next =
        { (f.select tree records).next with log := lines ++ (f.select tree records).next.log }) →
      ∀ records polls, (f.select tree (record :: records)).poll (polls + 1) =
        ⟨((f.select tree records).poll (polls + 1)).answers,
          lines ++ ((f.select tree records).poll (polls + 1)).log,
          ((f.select tree records).poll (polls + 1)).after⟩ := by
    intro lines hnext records polls
    simp only [Selection.poll, hnext, List.append_assoc]
  have hskip : ∀ e : EvaluationError, e.isStructural = false →
      f.satisfies tree record = .error e → ∀ records,
      (f.select tree (record :: records)).next =
        { (f.select tree records).next with
          log := (f.inspectLog tree record ++ [skipping e]) ++ (f.select tree records).next.log } := by
    intro e hstruct he records
    show nextOf f tree (record :: records) = _
    simp only [nextOf, he, hstruct, Bool.false_eq_true, if_false, List.append_assoc,
      List.singleton_append]
    rfl
  have hwarn : ∀ e : EvaluationError,
      warnings (f.inspectLog tree record ++ [skipping e]) = [skipping e] := by
    intro e
    rw [warnings_append, warnings_inspectLog]
    rfl
  unfold Filter.keeps at hkeeps
  unfold Filter.fault? at hfault
  unfold Filter.warning?
  cases h : f.satisfies tree record with
  | ok b =>
    obtain rfl : b = false := by simpa [h] using hkeeps
    refine ⟨f.inspectLog tree record, warnings_inspectLog f tree record, hpoll _ fun records => ?_⟩
    show nextOf f tree (record :: records) = _
    simp only [nextOf, h]
    rfl
  | error e =>
    cases e with
    | malformedTree fault => simp [h] at hfault
    | slice e => exact ⟨_, hwarn _, hpoll _ (hskip _ rfl h)⟩
    | function name message => exact ⟨_, hwarn _, hpoll _ (hskip _ rfl h)⟩

/-! ### Places -/

theorem faultPlace_cons_none (h : f.fault? tree record = none) (records : List Record) :
    f.faultPlace tree (record :: records) = f.faultPlace tree records + 1 := by
  simp [Filter.faultPlace, List.findIdx_cons, h]

theorem faultPlace_cons_some {fault : TreeFault} (h : f.fault? tree record = some fault)
    (records : List Record) : f.faultPlace tree (record :: records) = 0 := by
  simp [Filter.faultPlace, List.findIdx_cons, h]

theorem yielded_cons_none (h : f.fault? tree record = none) (records : List Record) :
    f.yielded tree (record :: records) =
      (if f.keeps tree record then [.ok record] else []) ++ f.yielded tree records := by
  unfold Filter.yielded
  rw [faultPlace_cons_none h, List.take_succ_cons, List.drop_succ_cons, List.filter_cons]
  cases f.keeps tree record with
  | true => rfl
  | false => rfl

theorem yielded_cons_some {fault : TreeFault} (h : f.fault? tree record = some fault)
    (records : List Record) :
    f.yielded tree (record :: records) = [.error (.malformedTree fault)] := by
  unfold Filter.yielded
  rw [faultPlace_cons_some h]
  simp [h]

/-- One more record in front is one more record to look at. -/
theorem Filter.Needs.cons {records : List Record} {polls polls' seen : Nat}
    (h : f.Needs tree records polls seen) (hfault : f.fault? tree record = none)
    (hpolls : polls' = polls + if f.keeps tree record then 1 else 0) (hpos : 0 < polls') :
    f.Needs tree (record :: records) polls' (seen + 1) := by
  have hiff : ∀ k, f.Settles tree (record :: records) polls' (k + 1) ↔
      f.Settles tree records polls k := by
    intro k
    unfold Filter.Settles
    rw [faultPlace_cons_none hfault, List.take_succ_cons, List.countP_cons, List.length_cons, hpolls]
    omega
  refine ⟨(hiff seen).2 h.settles, fun fewer hfewer => ?_⟩
  cases fewer with
  | zero =>
    rintro (hcount | hplace | hlength)
    · simp at hcount
      omega
    · omega
    · simp at hlength
  | succ fewer =>
    rw [hiff]
    exact h.least fewer (by omega)

/-! ### Runs of polls -/

theorem polled_zero (records : List Record) : f.Polled tree records 0 0 where
  needs := ⟨Or.inl (Nat.zero_le _), by omega⟩
  answers := by simp [Selection.poll]
  warned := by simp [Selection.poll, warnings]
  left := rfl
  decided := fun _ _ => ⟨rfl, rfl⟩

theorem polled_nil (polls : Nat) : f.Polled tree [] polls 0 where
  needs := ⟨Or.inr (Or.inr (Nat.le_refl _)), by omega⟩
  answers := by simp [poll_nil, Filter.yielded]
  warned := by simp [poll_nil, warnings]
  left := by rw [poll_nil]; rfl
  decided := by
    rintro (hpolls | hplace)
    · obtain rfl : polls = 0 := by simpa using hpolls
      exact fun _ => ⟨rfl, rfl⟩
    · omega

theorem polled_kept {records : List Record} {polls seen : Nat}
    (h : f.satisfies tree record = .ok true) (ih : f.Polled tree records polls seen) :
    f.Polled tree (record :: records) (polls + 1) (seen + 1) := by
  obtain ⟨hkeeps, hfault, hwarning⟩ := keeps_of_ok h
  have hyielded := yielded_cons_none hfault records
  rw [hkeeps, if_pos rfl] at hyielded
  refine ⟨ih.needs.cons hfault (by rw [hkeeps]; rfl) (Nat.succ_pos _), ?_, ?_, ?_, ?_⟩
  · rw [poll_kept h, hyielded]
    simp [ih.answers]
  · rw [poll_kept h, faultPlace_cons_none hfault, Nat.add_min_add_right, List.take_succ_cons,
      List.filterMap_cons, hwarning]
    simp only [warnings_append, warnings_inspectLog, ih.warned, List.nil_append]
  · rw [poll_kept h]
    exact ih.left
  · intro hdecided other
    rw [faultPlace_cons_none hfault, List.take_succ_cons, List.countP_cons, hkeeps] at hdecided
    obtain ⟨hanswers, hlog⟩ := ih.decided (by simp at hdecided; omega) other
    rw [List.take_succ_cons, List.cons_append, poll_kept h, poll_kept h, hanswers, hlog]
    exact ⟨rfl, rfl⟩

theorem polled_passed {records : List Record} {polls seen : Nat}
    (hkeeps : f.keeps tree record = false) (hfault : f.fault? tree record = none)
    (ih : f.Polled tree records (polls + 1) seen) :
    f.Polled tree (record :: records) (polls + 1) (seen + 1) := by
  have hyielded := yielded_cons_none hfault records
  rw [hkeeps, if_neg (by simp), List.nil_append] at hyielded
  obtain ⟨lines, hlines, hpoll⟩ := poll_passed hkeeps hfault
  refine ⟨ih.needs.cons hfault (by rw [hkeeps]; rfl) (Nat.succ_pos _), ?_, ?_, ?_, ?_⟩
  · rw [hpoll, hyielded]
    exact ih.answers
  · rw [hpoll, faultPlace_cons_none hfault, Nat.add_min_add_right, List.take_succ_cons,
      List.filterMap_cons, warnings_append, hlines, ih.warned]
    cases f.warning? tree record with
    | none => rfl
    | some line => rfl
  · rw [hpoll]
    exact ih.left
  · intro hdecided other
    rw [faultPlace_cons_none hfault, List.take_succ_cons, List.countP_cons, hkeeps] at hdecided
    obtain ⟨hanswers, hlog⟩ := ih.decided (by simp at hdecided; omega) other
    rw [List.take_succ_cons, List.cons_append, hpoll, hpoll, hanswers, hlog]
    exact ⟨rfl, rfl⟩

theorem polled_fault {records : List Record} {fault : TreeFault} (polls : Nat)
    (h : f.satisfies tree record = .error (.malformedTree fault)) :
    f.Polled tree (record :: records) (polls + 1) 1 := by
  obtain ⟨hkeeps, hfault⟩ := keeps_of_fault h
  have hplace := faultPlace_cons_some hfault records
  refine ⟨⟨Or.inr (Or.inl (by omega)), fun fewer hfewer => ?_⟩, ?_, ?_, ?_, fun _ other => ?_⟩
  · obtain rfl : fewer = 0 := by omega
    rintro (hcount | hlt | hlength)
    · simp at hcount
    · omega
    · simp at hlength
  · rw [poll_fault h, yielded_cons_some hfault]
    simp
  · rw [poll_fault h, hplace]
    exact warnings_inspectLog f tree record
  · rw [poll_fault h]
    rfl
  · rw [List.take_succ_cons, List.cons_append, poll_fault h, poll_fault h]
    exact ⟨rfl, rfl⟩

/-- **A run of polls** looks at some first records and does what it has to do with them. -/
theorem exists_polled (f : Filter) (tree : FilterTree) (records : List Record) (polls : Nat) :
    ∃ seen, f.Polled tree records polls seen := by
  induction records generalizing polls with
  | nil => exact ⟨0, polled_nil polls⟩
  | cons record records ih =>
    cases polls with
    | zero => exact ⟨0, polled_zero _⟩
    | succ polls =>
      rcases record_cases f tree record with hok | ⟨fault, hfault⟩ | ⟨hkeeps, hfault⟩
      · obtain ⟨seen, hseen⟩ := ih polls
        exact ⟨seen + 1, polled_kept hok hseen⟩
      · exact ⟨1, polled_fault polls hfault⟩
      · obtain ⟨seen, hseen⟩ := ih (polls + 1)
        exact ⟨seen + 1, polled_passed hkeeps hfault hseen⟩

/-! ### What polls answer and see -/

theorem faultPlace_le (f : Filter) (tree : FilterTree) (records : List Record) :
    f.faultPlace tree records ≤ records.length :=
  List.findIdx_le_length

/-- Records behind the malformed tree are not needed. -/
theorem Filter.Needs.le_faultPlace {records : List Record} {polls seen : Nat}
    (h : f.Needs tree records polls seen) : seen ≤ f.faultPlace tree records + 1 := by
  rcases Nat.lt_or_ge (f.faultPlace tree records + 1) seen with hlt | hge
  · exact absurd (Or.inr (Or.inl (Nat.lt_succ_self _))) (h.least _ hlt)
  · exact hge

/-- More polls than there are answers need all records in front of the malformed tree. -/
theorem Filter.Needs.faultPlace_le {records : List Record} {polls seen : Nat}
    (h : f.Needs tree records polls seen)
    (hpolls : (f.yielded tree records).length < polls) : f.faultPlace tree records ≤ seen := by
  rcases h.settles with hcount | hplace | hlength
  · rcases Nat.lt_or_ge seen (f.faultPlace tree records) with hlt | hge
    · have hsublist : (records.take seen).Sublist (records.take (f.faultPlace tree records)) :=
        List.take_sublist_take_left (Nat.le_of_lt hlt)
      have hle := hsublist.countP_le (p := f.keeps tree)
      have hyielded : (records.take (f.faultPlace tree records)).countP (f.keeps tree) ≤
          (f.yielded tree records).length := by
        rw [Filter.yielded, List.length_append, List.length_map, List.countP_eq_length_filter]
        omega
      omega
    · exact hge
  · exact Nat.le_of_lt hplace
  · exact Nat.le_trans (DisplayFilter.faultPlace_le f tree records) hlength

/-- **Selections are lazy.**  Polled any number of times, a selection answers the records in front of
the first malformed tree that satisfy the tree, in order, then the malformed tree, and then nothing.
It has looked at the fewest records that settle these answers, at none behind the malformed tree, and
would answer and write the same whatever the others were.  It has warned about each record among
them, in front of the malformed tree, whose own data cannot be evaluated; polled beyond its last
answer, it has looked at all of these. -/
theorem poll_select (f : Filter) (tree : FilterTree) (records : List Record) (polls : Nat) :
    ∃ seen, f.Needs tree records polls seen ∧ seen ≤ f.faultPlace tree records + 1 ∧
      ((f.yielded tree records).length < polls → f.faultPlace tree records ≤ seen) ∧
      ((f.select tree records).poll polls).answers =
        ((f.yielded tree records).take polls).map some ++
          List.replicate (polls - (f.yielded tree records).length) none ∧
      warnings ((f.select tree records).poll polls).log =
        (records.take (min seen (f.faultPlace tree records))).filterMap (f.warning? tree) ∧
      ((f.select tree records).poll polls).after.records = records.drop seen ∧
      (polls ≤ (records.take seen).countP (f.keeps tree) ∨ f.faultPlace tree records < seen →
        ∀ other, ((f.select tree (records.take seen ++ other)).poll polls).answers =
            ((f.select tree records).poll polls).answers ∧
          ((f.select tree (records.take seen ++ other)).poll polls).log =
            ((f.select tree records).poll polls).log) := by
  obtain ⟨seen, h⟩ := exists_polled f tree records polls
  exact ⟨seen, h.needs, h.needs.le_faultPlace, h.needs.faultPlace_le, h.answers, h.warned, h.left,
    h.decided⟩

end DisplayFilter
