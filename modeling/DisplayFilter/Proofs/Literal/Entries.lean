import DisplayFilter.Literal.Reading
import DisplayFilter.Proofs.EndPieces

/-!
# Written lists

A list is written between braces with a comma and a blank between its entries.  Whether it reads as
the list that was written depends on its entries alone: each of them has to be read up to the comma
or the brace behind it.

* `EndsItem` — what may follow an entry, `ReadsAs` — an entry that is read wherever it stands;
* **`readListOf?_braced`** — entries that are read one by one make up the list;
* **`readListOf?_none`** — a list whose first entry is not read is not read;
* **`forall_of_readEntries`** — what holds of every entry that can be read holds of all entries.
-/

namespace DisplayFilter

open Text

/-- What may follow an entry of a list as it is written: a comma with a blank, or the closing
brace. -/
def EndsItem (tail : List Char) : Prop :=
  ∃ t, tail = ',' :: ' ' :: t ∨ tail = '\x7d' :: t

variable {α : Type} {item? : List Char → Option (α × List Char)} {chars : α → List Char}

/-- **An entry reads as `x`** wherever it stands in a list. -/
structure ReadsAs (item? : List Char → Option (α × List Char)) (entry : List Char) (x : α) :
    Prop where
  ne_nil : entry ≠ []
  not_blank : ∀ tail, Stops isBlank (entry ++ tail)
  read : ∀ tail, EndsItem tail → item? (entry ++ tail) = some (x, tail)

theorem braced_append (entries : List (List Char)) (tail : List Char) :
    braced entries ++ tail = '\x7b' :: (join [',', ' '] entries ++ '\x7d' :: tail) := by
  simp [braced]

/-- Behind the first entry of a list stands what may follow an entry. -/
theorem join_cons_append (entry : List Char) (more : List (List Char)) (tail : List Char) :
    ∃ u, join [',', ' '] (entry :: more) ++ '\x7d' :: tail = entry ++ u ∧ EndsItem u := by
  cases more with
  | nil => exact ⟨'\x7d' :: tail, rfl, tail, Or.inr rfl⟩
  | cons next more =>
    exact ⟨',' :: ' ' :: (join [',', ' '] (next :: more) ++ '\x7d' :: tail), by simp [join], _,
      Or.inl rfl⟩

/-- A blank in front of the entries does not count. -/
theorem readEntries_blank (fuel : Nat) (s : List Char) :
    readEntries item? fuel (' ' :: s) = readEntries item? fuel s := by
  cases fuel with
  | zero => rfl
  | succ fuel => rfl

/-- **Entries that are read one by one** make up the list. -/
theorem readEntries_braced {xs : List α} (hne : xs ≠ [])
    (hitem : ∀ x ∈ xs, ReadsAs item? (chars x) x)
    {fuel : Nat} (hfuel : xs.length ≤ fuel) (tail : List Char) :
    readEntries item? fuel (join [',', ' '] (xs.map chars) ++ '\x7d' :: tail) =
      some (xs, tail) := by
  induction xs generalizing fuel with
  | nil => exact absurd rfl hne
  | cons x more ih =>
    obtain ⟨fuel, rfl⟩ : ∃ k, fuel = k + 1 := ⟨fuel - 1, by simp at hfuel; omega⟩
    have hx := hitem x List.mem_cons_self
    cases more with
    | nil =>
      have hhead := trimStart_of_stops (hx.not_blank ('\x7d' :: tail))
      have hread := hx.read ('\x7d' :: tail) ⟨tail, Or.inr rfl⟩
      simp only [List.map_cons, List.map_nil, join, readEntries, hhead, hread, bind, Option.bind]
      rw [trimStart_cons_of_not_blank (by decide)]
      rfl
    | cons y more =>
      have hlength : (y :: more).length ≤ fuel := by
        simp at hfuel ⊢
        omega
      have hmore := ih (by simp) (fun z hz => hitem z (List.mem_cons_of_mem _ hz)) hlength
      have hjoin : join [',', ' '] ((x :: y :: more).map chars) ++ '\x7d' :: tail =
          chars x ++ ',' :: ' ' :: (join [',', ' '] ((y :: more).map chars) ++ '\x7d' :: tail) := by
        simp [join]
      have hhead := trimStart_of_stops (hx.not_blank
        (',' :: ' ' :: (join [',', ' '] ((y :: more).map chars) ++ '\x7d' :: tail)))
      have hread := hx.read
        (',' :: ' ' :: (join [',', ' '] ((y :: more).map chars) ++ '\x7d' :: tail)) ⟨_, Or.inl rfl⟩
      rw [hjoin]
      simp only [readEntries, hhead, hread, bind, Option.bind]
      rw [trimStart_cons_of_not_blank (by decide)]
      simp only [readEntries_blank, hmore, pure]

/-- A list has an entry for each piece, and a character at least for each entry. -/
theorem length_le_join {entries : List (List Char)} (h : ∀ entry ∈ entries, entry ≠ []) :
    entries.length ≤ (join [',', ' '] entries).length := by
  induction entries with
  | nil => simp
  | cons entry more ih =>
    have hentry : 0 < entry.length := List.length_pos_iff.2 (h entry List.mem_cons_self)
    have hmore := ih fun e he => h e (List.mem_cons_of_mem _ he)
    cases more with
    | nil =>
      simp only [join, List.length_cons, List.length_nil]
      omega
    | cons next more =>
      simp only [join, List.length_append, List.length_cons, List.length_nil] at hmore ⊢
      omega

/-- **A written list** is read as the list, behind its opening brace. -/
theorem readListOf?_braced (make : List α → Literal) {xs : List α} (hne : xs ≠ [])
    (hitem : ∀ x ∈ xs, ReadsAs item? (chars x) x) (tail : List Char) :
    readListOf? make item? (join [',', ' '] (xs.map chars) ++ '\x7d' :: tail) =
      some (make xs, tail) := by
  have hne_nil : ∀ entry ∈ xs.map chars, entry ≠ [] := by
    intro entry hentry
    obtain ⟨x, hx, rfl⟩ := List.mem_map.1 hentry
    exact (hitem x hx).ne_nil
  have hlength := length_le_join hne_nil
  rw [List.length_map] at hlength
  rw [readListOf?, readEntries_braced hne hitem (by rw [List.length_append]; omega)]
  rfl

/-- A list that reads behind its opening brace is a literal. -/
theorem Literal.read_of_readBody? {text : List Char} {answer : Literal × List Char}
    (h : Literal.readBody? text = some answer) : Literal.read ('\x7b' :: text) = .ok answer := by
  unfold Literal.read
  rw [show quotation ('\x7b' :: text) = .absent from rfl]
  simp only [Literal.readList, h]

/-- The first entry decides whether a list is read as a list of its kind. -/
theorem readListOf?_none (make : List α → Literal) {s : List Char}
    (h : item? (trimStart s) = none) : readListOf? make item? s = none := by
  rw [readListOf?]
  simp only [readEntries, h, bind, Option.bind, Option.map_none]

/-- **What holds of every entry that can be read** holds of all entries of a list, and there is
one. -/
theorem forall_of_readEntries {P : α → Prop} (hP : ∀ s x rest, item? s = some (x, rest) → P x)
    {fuel : Nat} {s rest : List Char} {xs : List α}
    (h : readEntries item? fuel s = some (xs, rest)) : xs ≠ [] ∧ ∀ x ∈ xs, P x := by
  induction fuel generalizing s xs with
  | zero => simp [readEntries] at h
  | succ fuel ih =>
    obtain ⟨⟨x, u⟩, hu, h⟩ := Option.bind_eq_some_iff.1 h
    have hx := hP _ _ _ hu
    simp only at h
    split at h
    · obtain ⟨⟨more, v⟩, hv, h⟩ := Option.bind_eq_some_iff.1 h
      obtain ⟨rfl, rfl⟩ : x :: more = xs ∧ v = rest := by simpa using h
      exact ⟨by simp, by simpa using ⟨hx, (ih hv).2⟩⟩
    · obtain ⟨rfl, -⟩ : [x] = xs ∧ _ := by simpa using h
      exact ⟨by simp, by simpa using hx⟩
    · simp at h

end DisplayFilter
