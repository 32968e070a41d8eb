import DisplayFilter.Proofs.EndPieces

/-!
# Names of fields and functions

A name is found in a text by its characters, or by a list of names.  In both cases it ends where its
characters end, as long as the names on the list have no other characters.

* `Parser.PlainNames` — a parser whose names can be told from the text around them,
  `Parser.SolidNames` — one whose names do not end in blanks;
* `EndsName` — what may follow a name;
* **`field_append`** — a field in front of what ends it, **`callAt?_append`** — a called function;
* **`callAt?_field`**, **`calledWord?_field`** — a field is no call;
* **`negation?_name`** — a name other than `not` is no negation.
-/

namespace DisplayFilter

open Text

/-- The characters of the name of a function. -/
def isFunctionChar (c : Char) : Bool :=
  c.isAlphanum || c == '_'

/-- **Plain names.** Fields on the list of a parser are made of field characters, and functions of
letters, digits and underscores. -/
structure Parser.PlainNames (p : Parser) : Prop where
  fields : ∀ name ∈ p.fieldNames, name.toList ≠ [] ∧ ∀ c ∈ name.toList, isFieldChar c = true
  functions : ∀ name ∈ p.functions.names,
    name.toList ≠ [] ∧ ∀ c ∈ name.toList, isFunctionChar c = true

/-- The standard parser has plain names. -/
theorem plainNames_standard : ({} : Parser).PlainNames := by
  exact ⟨by simp, Text.words_over_of_all (by decide)⟩

/-! ### Characters of names -/

theorem isFieldChar_of_isFunctionChar {c : Char} (h : isFunctionChar c = true) :
    isFieldChar c = true := by
  simp only [isFunctionChar, Bool.or_eq_true] at h
  simp only [isFieldChar, Bool.or_eq_true]
  exact Or.inl (Or.inl h)

theorem isFieldChar_toNat {c : Char} (h : isFieldChar c = true) :
    45 ≤ c.toNat ∧ c.toNat ≤ 122 := by
  simp only [isFieldChar, Bool.or_eq_true, beq_iff_eq] at h
  rcases h with ((halnum | rfl) | rfl) | rfl
  · have hkind : ((c.isUpper || c.isLower) || c.isDigit) = true := halnum
    rw [Bool.or_eq_true, Bool.or_eq_true] at hkind
    rcases hkind with (hupper | hlower) | hdigit
    · have hrange := toNat_of_isUpper hupper
      omega
    · have hrange := toNat_of_isLower hlower
      omega
    · have hrange : 48 ≤ c.toNat ∧ c.toNat ≤ 57 := Char.isDigit_iff_toNat.1 hdigit
      omega
  · decide
  · decide
  · decide

theorem not_blank_of_isFieldChar {c : Char} (h : isFieldChar c = true) : isBlank c = false := by
  have hc := isFieldChar_toNat h
  simp only [isBlank]
  grind

theorem not_isFieldChar_of_isBlank {c : Char} (h : isBlank c = true) : isFieldChar c = false := by
  cases hc : isFieldChar c with
  | false => rfl
  | true =>
    rw [not_blank_of_isFieldChar hc] at h
    simp at h

/-! ### Fields -/

/-- Words of one class that a text starts with end where the class ends. -/
theorem prefix_of_prefix_append {q : Char → Bool} {v w tail : List Char}
    (hv : ∀ c ∈ v, q c = true) (htail : Stops q tail) (h : v <+: w ++ tail) : v <+: w := by
  rcases Nat.lt_or_ge w.length v.length with hlt | hge
  · obtain ⟨u, rfl⟩ := List.prefix_of_prefix_length_le (List.prefix_append w tail) h (by omega)
    rw [List.prefix_append_right_inj] at h
    cases u with
    | nil => simp at hlt
    | cons c u =>
      obtain ⟨t, rfl⟩ := h
      have hc : q c = true := hv c (by simp)
      rw [List.cons_append, stops_cons, hc] at htail
      simp at htail
  · exact List.prefix_of_prefix_length_le h (List.prefix_append w tail) hge

/-- **A name that the parser knows:** a text of field characters, on the list of fields if there is
one. -/
structure Parser.Names (p : Parser) (name : String) : Prop where
  ne_nil : name.toList ≠ []
  chars : ∀ c ∈ name.toList, isFieldChar c = true
  listed : p.fieldNames ≠ [] → name ∈ p.fieldNames

/-- **A field is read up to the end of its name.** -/
theorem field_append {p : Parser} (hp : p.PlainNames) {name : String} (h : p.Names name)
    {tail : List Char} (htail : Stops isFieldChar tail) :
    p.field (name.toList ++ tail) = .ok (name, tail) := by
  unfold Parser.field
  by_cases hlist : p.fieldNames = []
  · rw [hlist]
    simp only [List.isEmpty_nil, if_true, anyField, takeWhile_append_of_stops h.chars htail,
      dropWhile_append_of_stops h.chars htail, List.isEmpty_iff, h.ne_nil, if_false,
      String.ofList_toList]
  · have hlongest : longestStart? p.fieldNames (name.toList ++ tail) = some name := by
      refine longestStart?_eq_some_iff.2 ⟨h.listed hlist, List.prefix_append _ _, fun v hv hp' => ?_⟩
      exact (prefix_of_prefix_append (hp.fields v hv).2 htail hp').length_le
    rw [if_neg (by simpa using hlist), knownField, hlongest]
    simp only [← String.length_toList, List.drop_left]

/-- A field and the text behind it make up the text. -/
theorem append_of_field {p : Parser} {s rest : List Char} {name : String}
    (h : p.field s = .ok (name, rest)) : s = name.toList ++ rest := by
  unfold Parser.field at h
  split at h
  · simp only [anyField] at h
    split at h
    · simp at h
    · obtain ⟨rfl, rfl⟩ : String.ofList (s.takeWhile isFieldChar) = name ∧
          s.dropWhile isFieldChar = rest := by simpa using h
      rw [String.toList_ofList, List.takeWhile_append_dropWhile]
  · unfold knownField at h
    split at h
    · next known hknown =>
      obtain ⟨rfl, rfl⟩ : known = name ∧ s.drop known.length = rest := by simpa using h
      obtain ⟨u, rfl⟩ := (longestStart?_eq_some_iff.1 hknown).2.1
      rw [← String.length_toList, List.drop_left]
    · simp only at h
      split at h <;> simp at h

/-- The name of a field that is read is a field on its own. -/
theorem field_alone {p : Parser} {s rest : List Char} {name : String}
    (h : p.field s = .ok (name, rest)) : p.field name.toList = .ok (name, []) := by
  have htext := append_of_field h
  unfold Parser.field at h ⊢
  split at h
  · next hany =>
    simp only [anyField] at h
    split at h
    · simp at h
    · next hne =>
      obtain ⟨hname, -⟩ : String.ofList (s.takeWhile isFieldChar) = name ∧ _ := by simpa using h
      have hchars : ∀ c ∈ name.toList, isFieldChar c = true := by
        rw [← hname, String.toList_ofList]
        exact takeWhile_all
      have hself := takeWhile_append_of_stops hchars (stops_nil _)
      have hrest := dropWhile_append_of_stops hchars (stops_nil _)
      rw [List.append_nil] at hself hrest
      have hnil : name.toList ≠ [] := by
        rw [← hname, String.toList_ofList]
        simpa using hne
      rw [if_pos hany, anyField, hself, hrest, if_neg (by simpa using hnil), String.ofList_toList]
  · next hlist =>
    unfold knownField at h
    split at h
    · next known hknown =>
      obtain ⟨rfl, -⟩ : known = name ∧ _ := by simpa using h
      have hlongest : longestStart? p.fieldNames known.toList = some known :=
        longestStart?_eq_some_iff.2 ⟨(longestStart?_eq_some_iff.1 hknown).1, List.prefix_rfl,
          fun v _ hv => hv.length_le⟩
      rw [if_neg hlist, knownField, hlongest]
      simp only [← String.length_toList, List.drop_length]
    · simp only at h
      split at h <;> simp at h

/-- **What is read as a field is a name that the parser knows.** -/
theorem names_of_field {p : Parser} (hp : p.PlainNames) {s rest : List Char} {name : String}
    (h : p.field s = .ok (name, rest)) : p.Names name := by
  unfold Parser.field at h
  split at h
  · next hlist =>
    simp only [anyField] at h
    split at h
    · simp at h
    · next hne =>
      obtain ⟨rfl, -⟩ : String.ofList (s.takeWhile isFieldChar) = name ∧ _ := by simpa using h
      refine ⟨by simpa using hne, ?_, fun hno => absurd (by simpa using hlist) hno⟩
      rw [String.toList_ofList]
      exact takeWhile_all
  · unfold knownField at h
    split at h
    · next known hknown =>
      obtain ⟨rfl, -⟩ : known = name ∧ _ := by simpa using h
      have hmem := (longestStart?_eq_some_iff.1 hknown).1
      exact ⟨(hp.fields _ hmem).1, (hp.fields _ hmem).2, fun _ => hmem⟩
    · simp only at h
      split at h <;> simp at h

/-! ### Solid names -/

/-- Whether a name has no blank in it and does not start with an exclamation mark. -/
def isSolid (name : String) : Bool :=
  name.toList.all (fun c => !isBlank c) && name.toList.head? != some '!'

theorem not_blank_of_isSolid {name : String} (h : isSolid name = true) :
    ∀ c ∈ name.toList, isBlank c = false := by
  intro c hc
  have hall := List.all_eq_true.1 (Bool.and_eq_true_iff.1 h).1 c hc
  simpa using hall

theorem ne_mark_of_isSolid {name : String} (h : isSolid name = true) (t : List Char) :
    name.toList ≠ '!' :: t := by
  intro heq
  have hmark := (Bool.and_eq_true_iff.1 h).2
  rw [heq] at hmark
  simp at hmark

theorem isSolid_of_isFieldChar {name : String} (h : ∀ c ∈ name.toList, isFieldChar c = true) :
    isSolid name = true := by
  refine Bool.and_eq_true_iff.2 ⟨List.all_eq_true.2 fun c hc => ?_, ?_⟩
  · rw [not_blank_of_isFieldChar (h c hc)]
    rfl
  · cases hname : name.toList with
    | nil => rfl
    | cons c more =>
      have hc : isFieldChar c = true := h c (hname ▸ List.mem_cons_self)
      have hmark : c ≠ '!' := by
        rintro rfl
        exact absurd hc (by decide)
      simpa using hmark

/-- **Solid names.** The fields on the list of a parser are not empty, have no blanks in them and do not
start with an exclamation mark, and the names of its functions do not end in a blank. -/
structure Parser.SolidNames (p : Parser) : Prop where
  fields : ∀ name ∈ p.fieldNames, name.toList ≠ [] ∧ isSolid name = true
  functions : ∀ name ∈ p.functions.names, ∀ c ∈ name.toList.getLast?, isBlank c = false

/-- Plain names are solid. -/
theorem Parser.PlainNames.solid {p : Parser} (hp : p.PlainNames) : p.SolidNames where
  fields := fun name hname =>
    ⟨(hp.fields name hname).1, isSolid_of_isFieldChar (hp.fields name hname).2⟩
  functions := fun name hname c hc =>
    not_blank_of_isFieldChar (isFieldChar_of_isFunctionChar
      ((hp.functions name hname).2 c (List.mem_of_getLast? hc)))

/-- **What is read as a field** is solid and not empty. -/
theorem solid_of_field {p : Parser} (hp : p.SolidNames) {s rest : List Char} {name : String}
    (h : p.field s = .ok (name, rest)) : name.toList ≠ [] ∧ isSolid name = true := by
  unfold Parser.field at h
  split at h
  · simp only [anyField] at h
    split at h
    · simp at h
    · next hne =>
      obtain ⟨rfl, -⟩ : String.ofList (s.takeWhile isFieldChar) = name ∧ _ := by simpa using h
      refine ⟨by simpa using hne, isSolid_of_isFieldChar ?_⟩
      rw [String.toList_ofList]
      exact takeWhile_all
  · unfold knownField at h
    split at h
    · next known hknown =>
      obtain ⟨rfl, -⟩ : known = name ∧ _ := by simpa using h
      exact hp.fields _ (longestStart?_eq_some_iff.1 hknown).1
    · simp only at h
      split at h <;> simp at h

/-! ### Functions -/

theorem mem_keys_of_find? {α : Type} {entries : Entries α} {key : String} {v : α}
    (h : Entries.find? key entries = some v) : key ∈ Entries.keys entries := by
  induction entries with
  | nil => simp at h
  | cons entry entries ih =>
    obtain ⟨k, w⟩ := entry
    rw [Entries.find?_cons] at h
    by_cases hk : k = key
    · exact hk ▸ List.mem_cons_self
    · rw [if_neg hk] at h
      exact List.mem_cons_of_mem _ (ih h)

theorem get?_name {table : FunctionTable} {name : String} {f : Function}
    (h : table.get? name = some f) : f.name = name := by
  obtain ⟨apply, -, rfl⟩ := Option.map_eq_some_iff.1 h
  rfl

theorem mem_names_of_get? {table : FunctionTable} {name : String} {f : Function}
    (h : table.get? name = some f) : name ∈ table.names := by
  obtain ⟨apply, hfind, -⟩ := Option.map_eq_some_iff.1 h
  exact mem_keys_of_find? hfind

theorem get?_of_mem_names {table : FunctionTable} {name : String} (h : name ∈ table.names) :
    ∃ f, table.get? name = some f := by
  have hfind : ∃ apply, Entries.find? name table = some apply := by
    induction table with
    | nil => simp [FunctionTable.names, Entries.keys] at h
    | cons entry table ih =>
      obtain ⟨k, apply⟩ := entry
      rw [Entries.find?_cons]
      by_cases hk : k = name
      · exact ⟨apply, if_pos hk⟩
      · rw [if_neg hk]
        exact ih ((List.mem_cons.1 h).resolve_left (Ne.symm hk))
  obtain ⟨apply, happly⟩ := hfind
  exact ⟨⟨name, apply⟩, by rw [FunctionTable.get?, happly]; rfl⟩

/-- **A function in front of a parenthesis** is called. -/
theorem callAt?_append {p : Parser} (hp : p.PlainNames) {f : Function}
    (h : p.functions.get? f.name = some f) (tail : List Char) :
    p.callAt? (f.name.toList ++ '(' :: tail) = some (f, tail) := by
  have hlongest : longestStart? p.functions.names (f.name.toList ++ '(' :: tail) = some f.name := by
    refine longestStart?_eq_some_iff.2 ⟨mem_names_of_get? h, List.prefix_append _ _, fun v hv hv' => ?_⟩
    exact (prefix_of_prefix_append (q := isFunctionChar) (hp.functions v hv).2
      (stops_cons.2 (by decide)) hv').length_le
  simp only [Parser.callAt?, FunctionTable.longestAt?, hlongest, h, bind,
    Option.bind, ← String.length_toList, List.drop_left]

/-- The text starts with the name of the function that is found. -/
theorem append_of_longestAt? {table : FunctionTable} {s : List Char} {f : Function}
    (h : table.longestAt? s = some f) : ∃ u, s = f.name.toList ++ u := by
  obtain ⟨word, hword, hget⟩ := Option.bind_eq_some_iff.1 h
  obtain rfl := get?_name hget
  obtain ⟨u, hu⟩ := (longestStart?_eq_some_iff.1 hword).2.1
  exact ⟨u, hu.symm⟩

/-- A called function and its parenthesis make up the start of the text. -/
theorem append_of_callAt? {p : Parser} {s t : List Char} {f : Function} (h : p.callAt? s = some (f, t)) :
    s = f.name.toList ++ '(' :: t := by
  obtain ⟨g, hg, h⟩ := Option.bind_eq_some_iff.1 h
  obtain ⟨u, rfl⟩ := append_of_longestAt? hg
  rw [← String.length_toList, List.drop_left] at h
  split at h
  · obtain ⟨rfl, rfl⟩ : g = f ∧ _ = t := by simpa using h
    rfl
  · simp at h

/-- A blank, brackets and parentheses are not characters of a called word. -/
theorem not_isCallChar {c : Char} (h : c = ' ' ∨ c = ')' ∨ c = '[' ∨ c = '(') : isCallChar c = false := by
  have hall : [' ', ')', '[', '('].all (fun c => !isCallChar c) = true := by decide +kernel
  have hno := List.all_eq_true.1 hall c (by simpa using h)
  simpa using hno

/-- What may follow the name of a field: no character of a name, and no opening parenthesis. -/
def EndsName (tail : List Char) : Prop :=
  Stops isFieldChar tail ∧ Stops isCallChar tail ∧ ∀ t, tail ≠ '(' :: t

/-- No function is called where a field is not followed by a parenthesis. -/
theorem callAt?_field {p : Parser} (hp : p.PlainNames) {name tail : List Char}
    (hname : ∀ c ∈ name, isFieldChar c = true) (htail : Stops isFieldChar tail)
    (hparen : ∀ t, tail ≠ '(' :: t) : p.callAt? (name ++ tail) = none := by
  cases hcall : p.callAt? (name ++ tail) with
  | none => rfl
  | some answer =>
    obtain ⟨f, t⟩ := answer
    obtain ⟨g, hg, hdrop⟩ := Option.bind_eq_some_iff.1 hcall
    obtain ⟨word, hword, hget⟩ := Option.bind_eq_some_iff.1 hg
    obtain ⟨apply, -, rfl⟩ := Option.map_eq_some_iff.1 hget
    obtain ⟨hmem, hprefix, -⟩ := longestStart?_eq_some_iff.1 hword
    have hfield : ∀ c ∈ word.toList, isFieldChar c = true := fun c hc =>
      isFieldChar_of_isFunctionChar ((hp.functions word hmem).2 c hc)
    obtain ⟨more, rfl⟩ := prefix_of_prefix_append hfield htail hprefix
    -- behind the word stands a field character or what ends the field
    rw [List.append_assoc, ← String.length_toList, List.drop_left] at hdrop
    split at hdrop
    · next u hu =>
      cases more with
      | nil => exact absurd hu (hparen u)
      | cons c more =>
        obtain rfl : c = '(' := (List.cons.inj hu).1
        have hparen : isFieldChar '(' = true := hname '(' (by simp)
        exact absurd hparen (by decide)
    · simp at hdrop

/-- No word is called where a field is not followed by a parenthesis. -/
theorem calledWord?_field {name tail : List Char} (hname : ∀ c ∈ name, isFieldChar c = true)
    (htail : EndsName tail) : calledWord? (name ++ tail) = none := by
  have hhead : ((name ++ tail).dropWhile isCallChar).head? ≠ some '(' := by
    rw [List.dropWhile_append]
    split
    · rw [dropWhile_of_stops htail.2.1]
      intro h
      obtain ⟨t, ht⟩ := List.head?_eq_some_iff.1 h
      exact htail.2.2 t ht
    · next hne =>
      intro h
      obtain ⟨t, ht⟩ := List.head?_eq_some_iff.1 h
      have hmem : '(' ∈ name := by
        cases hrest : name.dropWhile isCallChar with
        | nil => simp [hrest] at hne
        | cons c more =>
          rw [hrest, List.cons_append] at ht
          obtain rfl : c = '(' := (List.cons.inj ht).1
          exact (List.dropWhile_suffix isCallChar).mem (hrest ▸ List.mem_cons_self)
      exact absurd (hname '(' hmem) (by decide)
  simp only [calledWord?]
  rw [if_neg]
  simp [hhead]

/-! ### Negations -/

theorem isFieldChar_of_isUpper {c : Char} (h : c.isUpper = true) : isFieldChar c = true := by
  have halnum : ((c.isUpper || c.isLower) || c.isDigit) = true := by
    rw [h]
    rfl
  simp only [isFieldChar, Bool.or_eq_true]
  exact Or.inl (Or.inl (Or.inl halnum))

/-- A name in front of something else is no negation unless it is spelled `not` and a blank
follows. -/
theorem negation?_name {name tail : List Char} (hne : name ≠ [])
    (hname : ∀ c ∈ name, isFieldChar c = true) (htail : Stops isFieldChar tail)
    (hnot : equalCaseless ['n', 'o', 't'] name = false ∨ Stops isBlank tail) :
    negation? (name ++ tail) = none := by
  have hword : (dropCaseless? ['n', 'o', 't'] (name ++ tail)).bind blanks? = none := by
    cases h : (dropCaseless? ['n', 'o', 't'] (name ++ tail)).bind blanks? with
    | none => rfl
    | some rest =>
      obtain ⟨u, hu, hblanks⟩ := Option.bind_eq_some_iff.1 h
      obtain ⟨w, hw, hspelled⟩ := dropCaseless?_eq_some_iff.1 hu
      cases u with
      | nil => simp [blanks?] at hblanks
      | cons b u =>
        have hblank : isBlank b = true := by
          simp only [blanks?, Option.ite_none_right_eq_some] at hblanks
          exact hblanks.1
        -- both the name and the spelled word are the run of field characters
        have hfield : ∀ c ∈ w, isFieldChar c = true :=
          forall_of_equalCaseless (fun _ => isFieldChar_of_isUpper)
            (List.all_eq_true.1 (by decide)) hspelled
        have hstop : Stops isFieldChar (b :: u) :=
          stops_cons.2 (not_isFieldChar_of_isBlank hblank)
        have hrun := takeWhile_append_of_stops hname htail
        rw [hw, takeWhile_append_of_stops hfield hstop] at hrun
        subst hrun
        have htl : tail = b :: u := List.append_cancel_left hw
        rcases hnot with hnot | hstopb
        · simp [hspelled] at hnot
        · rw [htl, stops_cons, hblank] at hstopb
          simp at hstopb
  obtain ⟨c, more, rfl⟩ := List.exists_cons_of_ne_nil hne
  have hc : isFieldChar c = true := hname c List.mem_cons_self
  unfold negation?
  rw [hword]
  simp only
  split
  · next heq =>
    obtain rfl := (List.cons.inj heq).1
    exact absurd hc (by decide)
  · next heq =>
    obtain rfl := (List.cons.inj heq).1
    exact absurd hc (by decide)
  · rfl

end DisplayFilter
