import DisplayFilter.Proofs.EndPieces
import DisplayFilter.Reduction

/-!
# Folding rows

Folding has a loop for each connective between operands, the looser ones around the tighter ones.
What it does to a row is simpler than that.  Which rows it refuses, and with which fault, does not
depend on the levels: a scan from left to right finds the first part that does not fit.  And each
level leaves a row where the next connective is none of its own, so that a level takes exactly the
operands that its connective joins.

* `Joiner` — the connectives between operands, `foldAt` — the level of each;
* `operandFault`, `connectiveFault` — the first part of a row that does not fit;
* **`fold_ok_iff`** — folding gives a truth value exactly if the scan finds no fault;
* `resume` — the rest of a level; **`foldAt_of_tighter`**, **`resume_joiner`** — how it goes on.
-/

namespace DisplayFilter

/-! ### Levels -/

/-- **The connectives that stand between two operands,** from the tightest to the loosest. -/
inductive Joiner where
  | xor
  | and
  | or
  deriving DecidableEq, Repr

namespace Joiner

def connective : Joiner → Connective
  | xor => .xor
  | and => .and
  | or => .or

/-- The truth table. -/
def apply : Joiner → Bool → Bool → Bool
  | xor => Bool.xor
  | and => Bool.and
  | or => Bool.or

/-- The next tighter one.  Behind the tightest come negations. -/
def tighter : Joiner → Option Joiner
  | xor => none
  | and => some .xor
  | or => some .and

/-- The connectives of a level: its own one and the tighter ones. -/
def upTo : Option Joiner → List Joiner
  | none => []
  | some .xor => [.xor]
  | some .and => [.and, .xor]
  | some .or => [.or, .and, .xor]

theorem upTo_some (c : Joiner) : upTo (some c) = c :: upTo c.tighter := by
  cases c <;> rfl

theorem not_mem_upTo_tighter (c : Joiner) : c ∉ upTo c.tighter := by
  cases c <;> decide

theorem mem_upTo_or (c : Joiner) : c ∈ upTo (some .or) := by
  cases c <;> decide

theorem connective_ne_not (c : Joiner) : c.connective ≠ .not := by
  cases c <;> decide

theorem connective_inj {c d : Joiner} (h : c.connective = d.connective) : c = d := by
  cases c <;> cases d <;> first | rfl | simp [connective] at h

/-- Every connective but `not` stands between operands. -/
theorem exists_connective {c : Connective} (h : c ≠ .not) : ∃ d : Joiner, d.connective = c := by
  cases c with
  | not => exact absurd rfl h
  | and => exact ⟨.and, rfl⟩
  | or => exact ⟨.or, rfl⟩
  | xor => exact ⟨.xor, rfl⟩

end Joiner

/-- **The levels of folding,** from single operands on. -/
def foldAt : Option Joiner → List Token → Except TreeFault (Bool × List Token)
  | none => foldOperand
  | some .xor => foldXor
  | some .and => foldAnd
  | some .or => foldOr

theorem foldAt_some (c : Joiner) :
    foldAt (some c) = foldLevel c.connective c.apply (foldAt c.tighter) := by
  cases c <;> rfl

/-- A property of all levels, from the operands up. -/
theorem forall_levels {P : Option Joiner → Prop} (operand : P none)
    (level : ∀ c : Joiner, P c.tighter → P (some c)) : ∀ l, P l := by
  have hxor : P (some .xor) := level .xor operand
  have hand : P (some .and) := level .and hxor
  intro l
  rcases l with _ | _ | _ | _
  · exact operand
  · exact hxor
  · exact hand
  · exact level .or hand

/-- A row that no connective of a level continues. -/
def RowEnds (l : Option Joiner) (row : List Token) : Prop :=
  ∀ c ∈ Joiner.upTo l, row.head? ≠ some (.connective c.connective)

theorem rowEnds_nil (l : Option Joiner) : RowEnds l [] :=
  fun _ _ => by simp

theorem rowEnds_some {c : Joiner} {row : List Token} :
    RowEnds (some c) row ↔ row.head? ≠ some (.connective c.connective) ∧ RowEnds c.tighter row := by
  simp only [RowEnds, Joiner.upTo_some, List.forall_mem_cons]

theorem rowEnds_tighter (c : Joiner) (row : List Token) :
    RowEnds c.tighter (.connective c.connective :: row) := by
  intro d hd h
  have hcd : c.connective = d.connective := by simpa using h
  exact Joiner.not_mem_upTo_tighter c (Joiner.connective_inj hcd ▸ hd)

/-! ### The loop of a level -/

section Loop

variable {c : Connective} {op : Bool → Bool → Bool}
  {next : List Token → Except TreeFault (Bool × List Token)}

theorem foldFrom_stop (fuel : Nat) (acc : Bool) {row : List Token}
    (h : row.head? ≠ some (.connective c)) : foldFrom c op next fuel acc row = .ok (acc, row) := by
  cases fuel with
  | zero => rfl
  | succ fuel =>
    match row, h with
    | [], _ => rfl
    | .value _ :: _, _ => rfl
    | .connective d :: rest, h =>
      have hd : d ≠ c := by simpa using h
      simp only [foldFrom, hd, if_false]

theorem foldFrom_step (fuel : Nat) (acc : Bool) (row : List Token) :
    foldFrom c op next (fuel + 1) acc (.connective c :: row) =
      (next row).bind fun (b, rest) => foldFrom c op next fuel (op acc b) rest := by
  simp only [foldFrom, if_true, bind]

/-- The loop of a level needs no more fuel than there are parts in its row. -/
theorem foldFrom_fuel (hnext : ∀ {row b rest}, next row = .ok (b, rest) → rest.length < row.length)
    {fuel fuel' : Nat} (acc : Bool) {row : List Token} (hfuel : row.length ≤ fuel)
    (hfuel' : row.length ≤ fuel') :
    foldFrom c op next fuel acc row = foldFrom c op next fuel' acc row := by
  induction fuel generalizing fuel' acc row with
  | zero =>
    obtain rfl : row = [] := List.eq_nil_of_length_eq_zero (by omega)
    rw [foldFrom_stop 0 acc (by simp), foldFrom_stop fuel' acc (by simp)]
  | succ fuel ih =>
    by_cases hhead : row.head? = some (.connective c)
    · obtain ⟨rest, rfl⟩ : ∃ rest, row = .connective c :: rest := List.head?_eq_some_iff.1 hhead
      simp only [List.length_cons] at hfuel hfuel'
      obtain ⟨fuel', rfl⟩ := Nat.exists_eq_add_of_le' (show 1 ≤ fuel' by omega)
      rw [foldFrom_step, foldFrom_step]
      cases hrest : next rest with
      | error fault => rfl
      | ok answer =>
        obtain ⟨b, left⟩ := answer
        have hshorter := hnext hrest
        exact ih (op acc b) (by omega) (by omega)
    · rw [foldFrom_stop _ acc hhead, foldFrom_stop _ acc hhead]

end Loop

/-! ### The scan -/

mutual

/-- **The first part that does not fit** in a row that starts with an operand. -/
def operandFault : List Token → Option TreeFault
  | [] => some .missingOperand
  | .value _ :: row => connectiveFault row
  | .connective .not :: row => operandFault row
  | .connective c :: _ => some (.noLeftOperand c)
termination_by structural row => row

/-- **The first part that does not fit** in what stands behind an operand. -/
def connectiveFault : List Token → Option TreeFault
  | [] => none
  | .value b :: _ => some (.expectedConnective (.value b))
  | .connective .not :: _ => some (.expectedConnective (.connective .not))
  | .connective _ :: row => operandFault row
termination_by structural row => row

end

theorem operandFault_joiner (c : Joiner) (row : List Token) :
    operandFault (.connective c.connective :: row) = some (.noLeftOperand c.connective) := by
  cases c <;> rfl

theorem connectiveFault_joiner (c : Joiner) (row : List Token) :
    connectiveFault (.connective c.connective :: row) = operandFault row := by
  cases c <;> rfl

/-- **What a level does to the scan.**  Its faults are those of the scan, and where it stops in
front of a rest, the scan is behind an operand. -/
structure Scans (l : Option Joiner) : Prop where
  error {row : List Token} {fault : TreeFault} :
    foldAt l row = .error fault → operandFault row = some fault
  ok {row : List Token} {b : Bool} {rest : List Token} : foldAt l row = .ok (b, rest) →
    operandFault row = connectiveFault rest ∧ rest.length < row.length ∧ RowEnds l rest

theorem foldOperand_error {row : List Token} {fault : TreeFault}
    (h : foldOperand row = .error fault) : operandFault row = some fault := by
  fun_induction foldOperand row with
  | case1 b row => simp at h
  | case2 row b rest hrow ih => simp at h
  | case3 row cause hrow ih =>
    obtain rfl : cause = fault := by simpa using h
    exact ih hrow
  | case4 row c hc =>
    obtain ⟨d, rfl⟩ := Joiner.exists_connective hc
    rw [operandFault_joiner]
    simpa using h
  | case5 => simpa [operandFault] using h

theorem foldOperand_ok {row : List Token} {b : Bool} {rest : List Token}
    (h : foldOperand row = .ok (b, rest)) :
    operandFault row = connectiveFault rest ∧ rest.length < row.length := by
  fun_induction foldOperand row generalizing b with
  | case1 a row =>
    obtain ⟨rfl, rfl⟩ : a = b ∧ row = rest := by simpa using h
    exact ⟨rfl, by simp⟩
  | case2 row a left hrow ih =>
    obtain ⟨-, rfl⟩ : (!a) = b ∧ left = rest := by simpa using h
    obtain ⟨hfault, hlength⟩ := ih hrow
    exact ⟨hfault, by simp only [List.length_cons]; omega⟩
  | case3 row cause hrow ih => simp at h
  | case4 row c hc => simp at h
  | case5 => simp at h

theorem scans_operand : Scans none where
  error h := foldOperand_error h
  ok h := ⟨(foldOperand_ok h).1, (foldOperand_ok h).2, fun _ hc => absurd hc List.not_mem_nil⟩

section Level

variable {c : Joiner} {fuel : Nat} {acc : Bool} {row : List Token}

theorem foldFrom_error (hnext : Scans c.tighter) {fault : TreeFault}
    (h : foldFrom c.connective c.apply (foldAt c.tighter) fuel acc row = .error fault) :
    connectiveFault row = some fault := by
  induction fuel generalizing acc row with
  | zero => simp [foldFrom] at h
  | succ fuel ih =>
    by_cases hhead : row.head? = some (.connective c.connective)
    · obtain ⟨rest, rfl⟩ : ∃ rest, row = _ :: rest := List.head?_eq_some_iff.1 hhead
      rw [foldFrom_step] at h
      rw [connectiveFault_joiner]
      rcases bind_eq_error.1 h with h | ⟨⟨b, left⟩, hleft, h⟩
      · exact hnext.error h
      · exact (hnext.ok hleft).1.trans (ih h)
    · rw [foldFrom_stop _ _ hhead] at h
      simp at h

theorem foldFrom_ok (hnext : Scans c.tighter) (hfuel : row.length ≤ fuel)
    (hends : RowEnds c.tighter row) {b : Bool} {rest : List Token}
    (h : foldFrom c.connective c.apply (foldAt c.tighter) fuel acc row = .ok (b, rest)) :
    connectiveFault row = connectiveFault rest ∧ rest.length ≤ row.length ∧
      RowEnds (some c) rest := by
  induction fuel generalizing acc row with
  | zero =>
    obtain rfl : row = [] := List.eq_nil_of_length_eq_zero (by omega)
    obtain ⟨-, rfl⟩ : acc = b ∧ [] = rest := by simpa [foldFrom] using h
    exact ⟨rfl, Nat.le_refl _, rowEnds_nil _⟩
  | succ fuel ih =>
    by_cases hhead : row.head? = some (.connective c.connective)
    · obtain ⟨more, rfl⟩ : ∃ more, row = _ :: more := List.head?_eq_some_iff.1 hhead
      rw [foldFrom_step] at h
      obtain ⟨⟨a, left⟩, hleft, h⟩ := bind_eq_ok.1 h
      obtain ⟨hfault, hlength, hleftends⟩ := hnext.ok hleft
      simp only [List.length_cons] at hfuel ⊢
      obtain ⟨hrest, hrestlength, hrestends⟩ := ih (by omega) hleftends h
      rw [connectiveFault_joiner]
      exact ⟨hfault.trans hrest, by omega, hrestends⟩
    · rw [foldFrom_stop _ _ hhead] at h
      obtain ⟨-, rfl⟩ : acc = b ∧ row = rest := by simpa using h
      exact ⟨rfl, Nat.le_refl _, rowEnds_some.2 ⟨hhead, hends⟩⟩

theorem scans_level (hnext : Scans c.tighter) : Scans (some c) where
  error h := by
    rw [foldAt_some] at h
    rcases bind_eq_error.1 h with h | ⟨⟨a, left⟩, hleft, h⟩
    · exact hnext.error h
    · exact (hnext.ok hleft).1.trans (foldFrom_error hnext h)
  ok h := by
    rw [foldAt_some] at h
    obtain ⟨⟨a, left⟩, hleft, h⟩ := bind_eq_ok.1 h
    obtain ⟨hfault, hlength, hends⟩ := hnext.ok hleft
    obtain ⟨hrest, hrestlength, hrestends⟩ := foldFrom_ok hnext (Nat.le_refl _) hends h
    exact ⟨hfault.trans hrest, by omega, hrestends⟩

end Level

theorem scans (l : Option Joiner) : Scans l :=
  forall_levels scans_operand (fun _ h => scans_level h) l

/-- A rest that no connective continues does not fit, unless it is empty. -/
theorem connectiveFault_cons {token : Token} {row : List Token}
    (h : RowEnds (some .or) (token :: row)) :
    connectiveFault (token :: row) = some (.expectedConnective token) := by
  cases token with
  | value b => rfl
  | connective c =>
    by_cases hc : c = .not
    · subst hc
      rfl
    · obtain ⟨d, rfl⟩ := Joiner.exists_connective hc
      exact absurd rfl (h d (Joiner.mem_upTo_or d))

/-- Folding answers what the scan does. -/
theorem fold_scan (row : List Token) :
    (∃ b, fold row = .ok b ∧ operandFault row = none) ∨
      ∃ fault, fold row = .error fault ∧ operandFault row = some fault := by
  cases h : foldOr row with
  | error fault =>
    have hfault : operandFault row = some fault := (scans (some .or)).error h
    exact Or.inr ⟨fault, by simp only [fold, h, bind, Except.bind], hfault⟩
  | ok answer =>
    obtain ⟨b, rest⟩ := answer
    obtain ⟨hfault, -, hends⟩ := (scans (some .or)).ok h
    cases rest with
    | nil => exact Or.inl ⟨b, by simp only [fold, h, bind, Except.bind, pure, Except.pure], hfault⟩
    | cons token rest =>
      refine Or.inr ⟨.expectedConnective token, by simp only [fold, h, bind, Except.bind], ?_⟩
      rw [hfault, connectiveFault_cons hends]

/-- **Folding gives a truth value exactly if every part of the row fits.** -/
theorem fold_ok_iff {row : List Token} : (∃ b, fold row = .ok b) ↔ operandFault row = none := by
  rcases fold_scan row with ⟨b, hfold, hscan⟩ | ⟨cause, hfold, hscan⟩
  · simp [hfold, hscan]
  · simp [hfold, hscan]

/-! ### Rows in front of rows -/

/-- **The rest of a level** behind a truth value. -/
def resume : Option Joiner → Bool → List Token → Except TreeFault (Bool × List Token)
  | none, b, row => .ok (b, row)
  | some c, b, row => foldFrom c.connective c.apply (foldAt c.tighter) row.length b row

theorem resume_of_ends {l : Option Joiner} {row : List Token} (h : RowEnds l row) (b : Bool) :
    resume l b row = .ok (b, row) := by
  cases l with
  | none => rfl
  | some c => exact foldFrom_stop _ _ (rowEnds_some.1 h).1

/-- A level takes what the next tighter one takes, and goes on behind it. -/
theorem foldAt_of_tighter {c : Joiner} {row rest : List Token} {b : Bool}
    (h : foldAt c.tighter row = .ok (b, rest)) : foldAt (some c) row = resume (some c) b rest := by
  rw [foldAt_some, foldLevel, h]
  rfl

/-- Behind a truth value a level joins the next operand with its connective. -/
theorem resume_joiner {c : Joiner} {row rest : List Token} {a b : Bool}
    (h : foldAt c.tighter row = .ok (b, rest)) :
    resume (some c) a (.connective c.connective :: row) = resume (some c) (c.apply a b) rest := by
  have hlength := ((scans c.tighter).ok h).2.1
  rw [resume, List.length_cons, foldFrom_step, h]
  exact foldFrom_fuel (fun hnext => ((scans c.tighter).ok hnext).2.1) _ (by omega) (Nat.le_refl _)

theorem fold_of_foldAt {row : List Token} {b : Bool} (h : foldAt (some .or) row = .ok (b, [])) :
    fold row = .ok b := by
  have hor : foldOr row = .ok (b, []) := h
  simp only [fold, hor, bind, Except.bind, pure, Except.pure]

end DisplayFilter
