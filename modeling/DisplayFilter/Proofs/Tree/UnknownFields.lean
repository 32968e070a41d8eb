import DisplayFilter.Proofs.Cursor.Boundaries
import DisplayFilter.Proofs.Tree.Locality

/-!
# Fields that are not on the list

A parser with a list of fields reads the longest of them that the text starts with, and looks for the end of a
token only if there is none.  So a comparison of a token that is not on the list is an error in any case, but
which one it is depends on the listed beginnings of the token and on whether the token is a keyword.

* `Parser.ListsFields` — a parser with a list of fields, `Parser.Unlisted` — a token that is not on it,
  `Parser.ListsStartOf` — a token that starts with a field on it;
* **`field_unlisted`**, **`field_listedStart`** — what is read at such a token;
* **`unary_spelledNot`** — a token that is spelled `not` is a keyword in any case of letters;
* **`parse_listedStart`** — comparisons of tokens that start with a field on the list;
* **`parse_unknownField`** — comparisons of tokens that are not on the list.
-/

namespace DisplayFilter

open Text

/-! ### Lists and tokens -/

/-- **A list of fields:** there are some, with names of field characters. -/
structure Parser.ListsFields (p : Parser) : Prop where
  ne_nil : p.fieldNames ≠ []
  names : ∀ name ∈ p.fieldNames, name.toList ≠ [] ∧ ∀ c ∈ name.toList, isFieldChar c = true

/-- **A token** of field characters that is not on the list. -/
structure Parser.Unlisted (p : Parser) (field : String) : Prop where
  ne_nil : field.toList ≠ []
  chars : ∀ c ∈ field.toList, isFieldChar c = true
  absent : field ∉ p.fieldNames

/-- A token starts with a field on the list. -/
def Parser.ListsStartOf (p : Parser) (field : String) : Prop :=
  ∃ name ∈ p.fieldNames, name.toList <+: field.toList

instance (p : Parser) (field : String) : Decidable (p.ListsStartOf field) :=
  inferInstanceAs (Decidable (∃ name ∈ p.fieldNames, name.toList <+: field.toList))

variable {p : Parser} {field : String}

/-- Of the listed fields that a token starts with one is the longest. -/
theorem exists_longestListed (h : p.ListsStartOf field) :
    ∃ name, longestStart? p.fieldNames field.toList = some name := by
  obtain ⟨name, hname, hstart⟩ := h
  cases hlongest : longestStart? p.fieldNames field.toList with
  | some name => exact ⟨name, rfl⟩
  | none => exact absurd hstart (longestStart?_eq_none_iff.1 hlongest name hname)

/-! ### Fields -/

section Fields

variable {tail : List Char} (hp : p.ListsFields)
include hp

theorem Parser.ListsFields.field_eq (s : List Char) : p.field s = knownField p.fieldNames s :=
  if_neg (by simpa using hp.ne_nil)

/-- No field on the list starts where no field character stands. -/
theorem field_stops {s : List Char} (hs : Stops isFieldChar s) :
    p.field s = .error (.expectedField s) := by
  have hnone : longestStart? p.fieldNames s = none := by
    refine longestStart?_eq_none_iff.2 fun name hname hstart => ?_
    obtain ⟨hne, hchars⟩ := hp.names name hname
    have hnil : name.toList <+: [] := prefix_of_prefix_append (w := []) hchars hs hstart
    exact hne (List.prefix_nil.1 hnil)
  simp only [hp.field_eq, knownField, hnone, takeWhile_of_stops hs, List.isEmpty_nil, if_true]

/-- A field on the list that a text starts with ends in the token that the text starts with. -/
theorem start_of_listed (htail : Stops isFieldChar tail) {name : String} (hname : name ∈ p.fieldNames)
    (hstart : name.toList <+: field.toList ++ tail) : name.toList <+: field.toList :=
  prefix_of_prefix_append (hp.names name hname).2 htail hstart

/-- **A token no beginning of which is listed** is an unknown field. -/
theorem field_unlisted (hfield : p.Unlisted field) (htail : Stops isFieldChar tail)
    (hstart : ¬ p.ListsStartOf field) :
    p.field (field.toList ++ tail) = .error (.unknownField field) := by
  have hnone : longestStart? p.fieldNames (field.toList ++ tail) = none :=
    longestStart?_eq_none_iff.2 fun name hname h =>
      hstart ⟨name, hname, start_of_listed hp htail hname h⟩
  have htoken : (field.toList ++ tail).takeWhile isFieldChar = field.toList :=
    takeWhile_append_of_stops hfield.chars htail
  simp only [hp.field_eq, knownField, hnone, htoken, List.isEmpty_iff, hfield.ne_nil, if_false,
    String.ofList_toList]

omit hp in
/-- A token that is not on the list is longer than its listed beginnings. -/
theorem Parser.Unlisted.behind_listed (hfield : p.Unlisted field) {name : String}
    (hname : name ∈ p.fieldNames) (hstart : name.toList <+: field.toList) :
    ∃ c more, isFieldChar c = true ∧ field.toList = name.toList ++ c :: more := by
  obtain ⟨more, hmore⟩ := hstart
  cases more with
  | nil =>
    have heq : name = field := String.toList_inj.1 (by rw [← hmore, List.append_nil])
    exact absurd (heq ▸ hname) hfield.absent
  | cons c more => exact ⟨c, more, hfield.chars c (by rw [← hmore]; simp), hmore.symm⟩

/-- **A token that starts with a listed field** is read as the longest of these, up to a character of the
token. -/
theorem field_listedStart (htail : Stops isFieldChar tail) {name : String}
    (hname : longestStart? p.fieldNames field.toList = some name) {more : List Char}
    (htoken : field.toList = name.toList ++ more) :
    p.field (field.toList ++ tail) = .ok (name, more ++ tail) := by
  obtain ⟨hmem, hstart, hlongest⟩ := longestStart?_eq_some_iff.1 hname
  have hread : longestStart? p.fieldNames (field.toList ++ tail) = some name :=
    longestStart?_eq_some_iff.2 ⟨hmem, hstart.trans (List.prefix_append _ _), fun other hother h =>
      hlongest other hother (start_of_listed hp htail hother h)⟩
  rw [hp.field_eq, knownField, hread]
  simp only [← String.length_toList, htoken, List.append_assoc, List.drop_left]

end Fields

/-! ### Expressions -/

/-- **Without a parenthesis** there is no call. -/
theorem expression_of_no_paren {s : List Char} (hs : '(' ∉ s) :
    p.expression s = p.fieldExpression s := by
  have hword : calledWord? s = none := by
    have hhead : (s.dropWhile isCallChar).head? ≠ some '(' := fun h =>
      hs ((List.dropWhile_suffix isCallChar).mem (List.mem_of_head? h))
    simp [calledWord?, hhead]
  unfold Parser.expression
  rw [callAt?_of_no_paren hs, hword]

theorem Parser.Unlisted.not_mem_append (hfield : p.Unlisted field) {tail : List Char}
    (hparen : '(' ∉ tail) : '(' ∉ field.toList ++ tail := by
  intro h
  rcases List.mem_append.1 h with h | h
  · exact absurd (hfield.chars '(' h) (by decide)
  · exact hparen h

section Tokens

variable {tail : List Char} (hp : p.ListsFields) (hfield : p.Unlisted field)
  (htail : Stops isFieldChar tail) (hparen : '(' ∉ tail)
include hp hfield htail hparen

theorem expression_unlisted (hstart : ¬ p.ListsStartOf field) :
    p.expression (field.toList ++ tail) = .error (.unknownField field) := by
  rw [expression_of_no_paren (hfield.not_mem_append hparen), Parser.fieldExpression,
    field_unlisted hp hfield htail hstart]
  rfl

/-- Where the longest listed field ends inside of a token, it is asked for its presence. -/
theorem expression_listedStart {name : String}
    (hname : longestStart? p.fieldNames field.toList = some name) {c : Char} {more : List Char}
    (hc : isFieldChar c = true) (htoken : field.toList = name.toList ++ c :: more) :
    p.expression (field.toList ++ tail) = .ok (⟨name, none, none, none⟩, c :: (more ++ tail)) := by
  have hread := field_listedStart hp htail hname htoken
  have hbracket : ∀ t, c :: (more ++ tail) ≠ '[' :: t := by
    intro t ht
    obtain rfl : c = '[' := (List.cons.inj ht).1
    exact absurd hc (by decide)
  rw [expression_of_no_paren (hfield.not_mem_append hparen), Parser.fieldExpression, hread]
  simp only [List.cons_append, bind, Except.bind, sliceAt_none hbracket, comparisonAt,
    operatorAt?_field hc]
  rfl

end Tokens

/-! ### Operands -/

/-- Nothing is read where an operand should stand and no field can start. -/
theorem unary_stops (hp : p.ListsFields) {s : List Char} (hneg : negation? s = none)
    (hs : Stops isFieldChar s) (hparen : '(' ∉ s) : p.unary s = .error (.expectedField s) := by
  have hne : ∀ t, s ≠ '(' :: t := by
    rintro t rfl
    simp at hparen
  rw [unary_eq_expression hneg hne, expression_of_no_paren hparen, Parser.fieldExpression,
    field_stops hp hs]
  rfl

/-- **A token that is spelled `not`** is a keyword in any case of letters, and its operand is what cannot be
read.  What the token is read as otherwise does not count: it has no comparison. -/
theorem unary_spelledNot (hp : p.ListsFields) (hfield : p.Unlisted field)
    (hnot : equalCaseless ['n', 'o', 't'] field.toList = true) {b : Char} (hb : isBlank b = true)
    {s : List Char} (hneg : negation? (trimStart s) = none) (hs : Stops isFieldChar (trimStart s))
    (hparen : '(' ∉ s) :
    p.unary (field.toList ++ b :: s) = .error (.expectedField (trimStart s)) := by
  have htail : Stops isFieldChar (b :: s) := stops_cons.2 (not_isFieldChar_of_isBlank hb)
  have hbehind : '(' ∉ b :: s := by
    rw [List.mem_cons, not_or]
    refine ⟨?_, hparen⟩
    rintro rfl
    exact absurd hb (by decide)
  have hread : negation? (field.toList ++ b :: s) = some (trimStart s) :=
    negation?_eq_some_iff.2 (Or.inl ⟨_, b, s, rfl, hnot, hb, rfl⟩)
  have hinner : p.unary (trimStart s) = .error (.expectedField (trimStart s)) :=
    unary_stops hp hneg hs fun h => hparen ((trimStart_suffix s).mem h)
  rw [unary_eq]
  unfold Parser.operandStep
  rw [hread]
  simp only [hinner]
  by_cases hstart : p.ListsStartOf field
  · obtain ⟨name, hname⟩ := exists_longestListed hstart
    obtain ⟨hmem, hbeginning, -⟩ := longestStart?_eq_some_iff.1 hname
    obtain ⟨c, more, hc, htoken⟩ := hfield.behind_listed hmem hbeginning
    rw [expression_listedStart hp hfield htail hbehind hname hc htoken]
    rfl
  · rw [expression_unlisted hp hfield htail hbehind hstart]

/-! ### Filters -/

/-- A filter in which the first operand cannot be read. -/
theorem parseChars_of_error {s : List Char} {fault : ParseStop} (h : p.unary s = .error fault) :
    p.parseChars s = .error fault := by
  rw [parseChars_eq, chain, h]
  rfl

/-- A filter does not go on at a character of a token. -/
theorem parseChars_of_rest {s : List Char} {x : Node} {c : Char} {rest : List Char}
    (hc : isFieldChar c = true) (h : p.unary s = .ok (x, c :: rest)) :
    p.parseChars s = .error (.unexpected (String.ofList (c :: rest)) (c :: rest)) := by
  have hblank := not_blank_of_isFieldChar hc
  have hconnective : connectiveAt? (c :: rest) = none := by
    simp [connectiveAt?, blanks?, hblank]
  have hchain : chain p.unary s = .ok (x, c :: rest) := by
    rw [chain, h]
    simp only [bind, Except.bind, List.length_cons, chainTail, hconnective]
    rfl
  rw [parseChars_eq, hchain]
  simp only [bind, Except.bind, wholeFilter, trimStart_cons_of_not_blank hblank]

/-- The fault of a filter that does not start with a blank. -/
theorem parse_of_error {text : String} {c : Char} {s : List Char} (htext : text.toList = c :: s)
    (hc : isBlank c = false) {fault : ParseStop} (h : p.parseChars text.toList = .error fault) :
    p.parse text = .error ⟨text, fault.mapPlace (bytePosition text.toList)⟩ := by
  have htrim : trimStart text.toList = text.toList := by
    rw [htext]
    exact trimStart_cons_of_not_blank hc s
  rw [Parser.parse, htrim, if_neg (by simp [htext])]
  simp only [h, mapError_error]

/-- What stands behind the token in an equality with a word. -/
def equalityTail (word : List Char) : List Char :=
  '=' :: '=' :: ' ' :: word

/-- A word has no parenthesis in it. -/
theorem not_mem_equalityTail {word : List Char} (hword : isBare word = true) :
    '(' ∉ equalityTail word := by
  have hall := (Bool.and_eq_true_iff.1 hword).2
  intro h
  have hmem : '(' ∈ word := by simpa [equalityTail] using h
  exact absurd (List.all_eq_true.1 hall '(' hmem) (by decide)

section Equalities

variable {word : List Char} (hp : p.ListsFields) (hfield : p.Unlisted field)
  (hword : isBare word = true)
include hp hfield hword

/-- A token that is spelled `not` is a keyword, and the operator stands where its operand should. -/
theorem parseChars_spelledNot (hnot : equalCaseless ['n', 'o', 't'] field.toList = true) :
    p.parseChars (field.toList ++ ' ' :: equalityTail word) =
      .error (.expectedField (equalityTail word)) := by
  have htrim : trimStart (equalityTail word) = equalityTail word :=
    trimStart_cons_of_not_blank (by decide) _
  have hread := unary_spelledNot hp hfield hnot (b := ' ') (s := equalityTail word) (by decide)
    (by rw [htrim]; rfl) (htrim ▸ stops_cons.2 (by decide)) (not_mem_equalityTail hword)
  rw [htrim] at hread
  exact parseChars_of_error hread

variable (hnot : equalCaseless ['n', 'o', 't'] field.toList = false)
include hnot

omit hp hword in
/-- Any other token is an operand of its own. -/
theorem unary_token (tail : List Char) :
    p.unary (field.toList ++ ' ' :: tail) =
      (p.expression (field.toList ++ ' ' :: tail)).map fun (e, rest) => (.leaf e, rest) :=
  unary_eq_expression
    (negation?_name hfield.ne_nil hfield.chars (stops_cons.2 (by decide)) (Or.inl hnot))
    (name_ne_paren hfield.ne_nil hfield.chars (' ' :: tail))

/-- A token that starts with a listed field leaves what stands behind the longest of these. -/
theorem parseChars_listedStart {name : String}
    (hname : longestStart? p.fieldNames field.toList = some name) {more : List Char}
    (htoken : field.toList = name.toList ++ more) :
    p.parseChars (field.toList ++ ' ' :: equalityTail word) =
      .error (.unexpected (String.ofList (more ++ ' ' :: equalityTail word))
        (more ++ ' ' :: equalityTail word)) := by
  obtain ⟨hmem, hstart, -⟩ := longestStart?_eq_some_iff.1 hname
  obtain ⟨c, more', hc, htoken'⟩ := hfield.behind_listed hmem hstart
  obtain rfl : more = c :: more' := List.append_cancel_left (htoken.symm.trans htoken')
  refine parseChars_of_rest hc (x := .leaf ⟨name, none, none, none⟩) ?_
  have hparen : '(' ∉ ' ' :: equalityTail word := by simpa using not_mem_equalityTail hword
  rw [unary_token hfield hnot, expression_listedStart hp hfield (stops_cons.2 (by decide)) hparen
    hname hc htoken]
  rfl

/-- A token no beginning of which is listed is what cannot be read. -/
theorem parseChars_unlisted (hstart : ¬ p.ListsStartOf field) :
    p.parseChars (field.toList ++ ' ' :: equalityTail word) = .error (.unknownField field) := by
  have hparen : '(' ∉ ' ' :: equalityTail word := by simpa using not_mem_equalityTail hword
  refine parseChars_of_error ?_
  rw [unary_token hfield hnot, expression_unlisted hp hfield (stops_cons.2 (by decide)) hparen hstart]
  rfl

end Equalities

/-- The fault of an equality is that of its characters. -/
theorem parse_equality (hfield : p.Unlisted field) {word : String} {fault : ParseStop}
    (h : p.parseChars (field.toList ++ ' ' :: equalityTail word.toList) = .error fault) :
    p.parse (field ++ " == " ++ word) = .error ⟨field ++ " == " ++ word,
      fault.mapPlace (bytePosition (field.toList ++ ' ' :: equalityTail word.toList))⟩ := by
  have htext : (field ++ " == " ++ word).toList =
      field.toList ++ ' ' :: equalityTail word.toList := by
    simp [equalityTail]
  obtain ⟨c, more, hcons⟩ := List.exists_cons_of_ne_nil hfield.ne_nil
  have hblank : isBlank c = false :=
    not_blank_of_isFieldChar (hfield.chars c (hcons ▸ List.mem_cons_self))
  rw [← htext] at h ⊢
  exact parse_of_error (by rw [htext, hcons, List.cons_append]) hblank h

/-- Field characters take one byte each. -/
theorem utf8Size_of_isFieldChar {s : List Char} (hs : ∀ c ∈ s, isFieldChar c = true) :
    utf8Size s = s.length := by
  induction s with
  | nil => rfl
  | cons c s ih =>
    have hc : c.utf8Size = 1 := by
      have hchar := isFieldChar_toNat (hs c List.mem_cons_self)
      exact utf8Size_eq_one (by omega)
    rw [utf8Size_cons, hc, ih fun d hd => hs d (List.mem_cons_of_mem _ hd), List.length_cons,
      Nat.add_comm]

/-- **Comparisons of tokens that start with a listed field,** and are not on the list themselves, are
errors: the longest of these fields is read, and what stands behind it is unexpected. -/
theorem parse_listedStart (hp : p.ListsFields) (hfield : p.Unlisted field) {word : String}
    (hword : isBare word.toList = true) (hnot : equalCaseless ['n', 'o', 't'] field.toList = false)
    {name more : String} (hname : longestStart? p.fieldNames field.toList = some name)
    (htoken : field = name ++ more) :
    p.parse (field ++ " == " ++ word) = .error ⟨field ++ " == " ++ word,
      .unexpected (more ++ " == " ++ word) name.length⟩ := by
  have htoken' : field.toList = name.toList ++ more.toList := by rw [htoken, String.toList_append]
  have hread := parseChars_listedStart hp hfield hword hnot hname htoken'
  have hchars : ∀ c ∈ name.toList, isFieldChar c = true := fun c hc =>
    hfield.chars c (by simp [htoken', hc])
  have hrest : String.ofList (more.toList ++ ' ' :: equalityTail word.toList) =
      more ++ " == " ++ word := by
    apply String.toList_inj.1
    simp [equalityTail]
  rw [parse_equality hfield hread, ParseFault.mapPlace, hrest, htoken', List.append_assoc,
    bytePosition_of_append, utf8Size_of_isFieldChar hchars, String.length_toList]

/-- **Comparisons of tokens that are not on the list** are errors.  If no listed field is a beginning of the
token and the token is not spelled `not`, the error names the whole token; if it is spelled `not`, the
error is the operand that is missing behind the keyword. -/
theorem parse_unknownField (hp : p.ListsFields) (hfield : p.Unlisted field) {word : String}
    (hword : isBare word.toList = true) :
    (∃ e, p.parse (field ++ " == " ++ word) = .error e) ∧
    (¬ p.ListsStartOf field → equalCaseless ['n', 'o', 't'] field.toList = false →
      p.parse (field ++ " == " ++ word) = .error ⟨field ++ " == " ++ word, .unknownField field⟩) ∧
    (equalCaseless ['n', 'o', 't'] field.toList = true →
      p.parse (field ++ " == " ++ word) = .error ⟨field ++ " == " ++ word, .expectedField 4⟩) := by
  refine ⟨?_, fun hstart hnot => ?_, fun hnot => ?_⟩
  · cases hnot : equalCaseless ['n', 'o', 't'] field.toList with
    | true => exact ⟨_, parse_equality hfield (parseChars_spelledNot hp hfield hword hnot)⟩
    | false =>
      by_cases hstart : p.ListsStartOf field
      · obtain ⟨name, hname⟩ := exists_longestListed hstart
        obtain ⟨-, ⟨more, hmore⟩, -⟩ := longestStart?_eq_some_iff.1 hname
        exact ⟨_, parse_equality hfield
          (parseChars_listedStart hp hfield hword hnot hname hmore.symm)⟩
      · exact ⟨_, parse_equality hfield (parseChars_unlisted hp hfield hword hnot hstart)⟩
  · exact parse_equality hfield (parseChars_unlisted hp hfield hword hnot hstart)
  · have hplace : bytePosition (field.toList ++ ' ' :: equalityTail word.toList)
        (equalityTail word.toList) = 4 := by
      have hsplit : field.toList ++ ' ' :: equalityTail word.toList =
          (field.toList ++ [' ']) ++ equalityTail word.toList := by simp
      rw [hsplit, bytePosition_of_append, utf8Size_append, utf8Size_of_equalCaseless hnot]
      rfl
    rw [parse_equality hfield (parseChars_spelledNot hp hfield hword hnot), ParseFault.mapPlace, hplace]

/-- A token that is a beginning of a listed field: the error names the token. -/
theorem parse_unknownField_beginning :
    let p : Parser := { fieldNames := ["name", "age"] }
    p.ListsFields ∧ p.Unlisted "nam" ∧ isBare "Neo".toList = true ∧ ¬ p.ListsStartOf "nam" ∧
      p.parse "nam == Neo" = .error ⟨"nam == Neo", .unknownField "nam"⟩ := by
  intro p
  have hp : p.ListsFields := ⟨by simp [p], words_over_of_all (by decide)⟩
  have hfield : p.Unlisted "nam" := ⟨by decide, List.all_eq_true.1 (by decide), by simp [p]⟩
  have hword : isBare "Neo".toList = true := by decide
  have hstart : ¬ p.ListsStartOf "nam" := by decide
  exact ⟨hp, hfield, hword, hstart, (parse_unknownField hp hfield hword).2.1 hstart (by decide)⟩

/-- **A keyword in capitals** is no field, though it is no listed one and not `not`: the error is that nothing
follows it.  And of a token that starts with a listed field the error names what stands behind this field. -/
theorem parse_keyword_unlisted :
    (let p : Parser := { fieldNames := ["name"] }
     p.ListsFields ∧ p.Unlisted "NOT" ∧ isBare "1".toList = true ∧
      p.parse "NOT == 1" = .error ⟨"NOT == 1", .expectedField 4⟩ ∧
      p.parse "NOT == 1" ≠ .error ⟨"NOT == 1", .unknownField "NOT"⟩) ∧
    let p : Parser := { fieldNames := ["na"] }
    p.ListsFields ∧ p.Unlisted "name" ∧
      p.parse "name == 1" = .error ⟨"name == 1", .unexpected "me == 1" 2⟩ ∧
      p.parse "name == 1" ≠ .error ⟨"name == 1", .unknownField "name"⟩ := by
  constructor
  · intro p
    have hparse : p.parse "NOT == 1" = .error ⟨"NOT == 1", .expectedField 4⟩ := by
      set_option maxRecDepth 4096 in rfl
    have hp : p.ListsFields := ⟨by simp [p], words_over_of_all (by decide)⟩
    refine ⟨hp, ⟨by decide, List.all_eq_true.1 (by decide), by simp [p]⟩, by decide, hparse, ?_⟩
    rw [hparse]
    simp
  · intro p
    have hp : p.ListsFields := ⟨by simp [p], words_over_of_all (by decide)⟩
    have hfield : p.Unlisted "name" := ⟨by decide, List.all_eq_true.1 (by decide), by simp [p]⟩
    have hlongest : longestStart? p.fieldNames "name".toList = some "na" := by decide
    have hparse : p.parse "name == 1" = .error ⟨"name == 1", .unexpected "me == 1" 2⟩ :=
      parse_listedStart hp hfield (show isBare "1".toList = true by decide) (by decide) hlongest
        (show "name" = "na" ++ "me" by decide)
    refine ⟨hp, hfield, hparse, ?_⟩
    rw [hparse]
    simp

end DisplayFilter
