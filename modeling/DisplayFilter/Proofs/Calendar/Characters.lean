import DisplayFilter.Calendar.Reading
import DisplayFilter.Proofs.Text.Runs

/-!
# What texts of moments are made of

A notation takes a text apart into pieces, one for each of its parts: digits with blanks in front, letters
of a month, a point and digits, or one character.  So a text that a notation covers has the characters of
the notation in their order, and besides them only digits, blanks, signs, points and letters of months.

* `isPlainChar`, `isMonthLetter`, `isMonthMark` — the characters of such pieces;
* `DatePart.Takes`, `DatePattern.Takes` — the texts that a part and a notation may cover, with
  **`DatePart.read?_takes`** and **`DatePattern.read?_takes`** — they cover no others;
* **`DatePattern.Takes.chars`**, **`DatePattern.Takes.sublist`**, **`DatePattern.Takes.month`** — what
  such a text consists of, what it has in order, and how a month shows;
* **`Moment.ofText?_cases`** — all texts of moments.
-/

namespace DisplayFilter

open Text

/-! ### Characters -/

/-- Blanks, digits, signs and points. -/
def isPlainChar (c : Char) : Bool :=
  isBlank c || c.isDigit || c == '+' || c == '-' || c == '.'

/-- The letters of the names of months. -/
def isMonthLetter (c : Char) : Bool :=
  (monthNames.flatMap String.toList).contains c.toLower

/-- **Letters that show a month:** every name of a month has one among its first three letters, and no
decimal has one. -/
def monthMarks : List Char :=
  ['b', 'c', 'd', 'j', 'm', 'p', 's', 'u', 'v']

/-- The same in either case. -/
def isMonthMark (c : Char) : Bool :=
  monthMarks.contains c.toLower

/-! ### Parts -/

/-- Whether a part is a month in letters. -/
def DatePart.isMonth : DatePart → Bool
  | .monthName | .monthLetters => true
  | _ => false

/-- **The texts that a part of a notation may cover.** -/
structure DatePart.Takes (part : DatePart) (w : List Char) : Prop where
  chars : ∀ c ∈ w, isPlainChar c = true ∨ part = .char c ∨
    part.isMonth = true ∧ isMonthLetter c = true
  char : ∀ c, part = .char c → w = [c]
  month : part.isMonth = true → ∃ c ∈ w, isMonthMark c = true

/-- A part that is neither a character nor a month in letters covers any plain characters. -/
theorem DatePart.takes_plain {part : DatePart} (hchar : ∀ c, part ≠ .char c)
    (hmonth : part.isMonth = false) {w : List Char} (hw : ∀ c ∈ w, isPlainChar c = true) :
    part.Takes w where
  chars c hc := Or.inl (hw c hc)
  char c hc := absurd hc (hchar c)
  month h := by simp [hmonth] at h

/-! ### Readers of numbers -/

/-- **What a reader takes off the front of a text,** given the characters that it takes. -/
def Removes (q : Char → Bool) (s rest : List Char) : Prop :=
  ∃ w, s = w ++ rest ∧ ∀ c ∈ w, q c = true

namespace Removes

variable {q q' : Char → Bool} {s t rest : List Char}

theorem refl (q : Char → Bool) (s : List Char) : Removes q s s :=
  ⟨[], rfl, by simp⟩

theorem trans (h : Removes q s t) (h' : Removes q t rest) : Removes q s rest := by
  obtain ⟨u, rfl, hu⟩ := h
  obtain ⟨v, rfl, hv⟩ := h'
  refine ⟨u ++ v, (List.append_assoc u v rest).symm, fun c hc => ?_⟩
  exact (List.mem_append.1 hc).elim (hu c) (hv c)

theorem cons {c : Char} (hc : q c = true) (h : Removes q s rest) : Removes q (c :: s) rest :=
  trans ⟨[c], rfl, by simpa using hc⟩ h

theorem mono (hq : ∀ c, q c = true → q' c = true) (h : Removes q s rest) : Removes q' s rest := by
  obtain ⟨w, rfl, hw⟩ := h
  exact ⟨w, rfl, fun c hc => hq c (hw c hc)⟩

theorem dropWhile (q : Char → Bool) (s : List Char) : Removes q s (s.dropWhile q) :=
  ⟨s.takeWhile q, List.takeWhile_append_dropWhile.symm, takeWhile_all⟩

end Removes

theorem isPlainChar_of_isBlank {c : Char} (h : isBlank c = true) : isPlainChar c = true := by
  simp [isPlainChar, h]

theorem isPlainChar_of_isDigit {c : Char} (h : c.isDigit = true) : isPlainChar c = true := by
  simp [isPlainChar, h]

theorem trimStart_removes (s : List Char) : Removes isPlainChar s (trimStart s) :=
  (Removes.dropWhile isBlank s).mono fun _ => isPlainChar_of_isBlank

theorem readNumber?_removes {least most n : Nat} {s rest : List Char}
    (h : readNumber? least most s = some (n, rest)) : Removes isPlainChar s rest := by
  simp only [readNumber?, Option.ite_none_left_eq_some, Option.some.injEq, Prod.mk.injEq] at h
  obtain ⟨-, -, rfl⟩ := h
  have hdigits : (s.take most).takeWhile Char.isDigit <+: s :=
    (List.takeWhile_prefix _).trans (List.take_prefix _ _)
  exact ⟨_, (List.prefix_iff_eq_append.1 hdigits).symm, fun c hc =>
    isPlainChar_of_isDigit (takeWhile_all c hc)⟩

theorem readLongNumber?_removes {least n : Nat} {s rest : List Char}
    (h : readLongNumber? least s = some (n, rest)) : Removes isPlainChar s rest := by
  obtain ⟨⟨m, t⟩, hread, h⟩ := Option.bind_eq_some_iff.1 h
  obtain ⟨-, h⟩ := Option.ite_none_right_eq_some.1 h
  obtain ⟨rfl, rfl⟩ : m = n ∧ t = rest := by simpa using h
  exact readNumber?_removes hread

theorem readYear?_removes {s rest : List Char} {n : Int} (h : readYear? s = some (n, rest)) :
    Removes isPlainChar s rest := by
  unfold readYear? at h
  split at h
  · obtain ⟨⟨m, t⟩, hread, h⟩ := Option.map_eq_some_iff.1 h
    obtain ⟨-, rfl⟩ := Prod.mk.inj h
    exact (readLongNumber?_removes hread).cons (by decide)
  · obtain ⟨⟨m, t⟩, hread, h⟩ := Option.map_eq_some_iff.1 h
    obtain ⟨-, rfl⟩ := Prod.mk.inj h
    exact (readLongNumber?_removes hread).cons (by decide)
  · obtain ⟨⟨m, t⟩, hread, h⟩ := Option.map_eq_some_iff.1 h
    obtain ⟨-, rfl⟩ := Prod.mk.inj h
    exact readNumber?_removes hread

theorem readPlace?_removes {least greatest n : Nat} {s rest : List Char}
    (h : readPlace? least greatest s = some (n, rest)) : Removes isPlainChar s rest := by
  obtain ⟨⟨m, t⟩, hread, h⟩ := Option.bind_eq_some_iff.1 h
  obtain ⟨-, h⟩ := Option.ite_none_right_eq_some.1 h
  obtain ⟨-, rfl⟩ : m = n ∧ t = rest := by simpa using h
  exact (trimStart_removes s).trans (readNumber?_removes hread)

theorem readNanos?_removes {s rest : List Char} {n : Nat} (h : readNanos? s = some (n, rest)) :
    Removes isPlainChar s rest := by
  obtain ⟨⟨m, t⟩, hread, h⟩ := Option.bind_eq_some_iff.1 h
  obtain ⟨-, rfl⟩ := Prod.mk.inj (Option.some.inj h)
  exact (readNumber?_removes hread).trans
    ((Removes.dropWhile Char.isDigit t).mono fun _ => isPlainChar_of_isDigit)

/-! ### Readers of months -/

/-- Names of months are made of their letters, and the first three of them show a month. -/
theorem monthNames_letters : ∀ name ∈ monthNames, (name.toList.all isMonthLetter) = true ∧
    (name.toList.take 3).any isMonthMark = true := by
  decide

theorem isMonthLetter_of_spelling {word w : List Char} (hword : ∀ d ∈ word, isMonthLetter d = true)
    (h : equalCaseless word w = true) : ∀ c ∈ w, isMonthLetter c = true := by
  intro c hc
  obtain ⟨d, hd, hlower⟩ := (mem_of_equalCaseless h).1 c hc
  have hletter := hword d hd
  rwa [isMonthLetter, hlower] at hletter

/-- **A month in letters** shows, and has letters of months only. -/
theorem readMonthLetters?_takes {s rest ending : List Char} {number : Nat}
    (h : readMonthLetters? s = some (number, ending, rest)) :
    (∃ w, s = w ++ rest ∧ (∀ c ∈ w, isMonthLetter c = true) ∧ ∃ c ∈ w, isMonthMark c = true) ∧
      ∀ d ∈ ending, isMonthLetter d = true := by
  obtain ⟨⟨name, k⟩, hmem, h⟩ := List.exists_of_findSome?_eq_some h
  obtain ⟨t, hdrop, h⟩ := Option.map_eq_some_iff.1 h
  obtain ⟨rfl, rfl, rfl⟩ : k = number ∧ name.toList.drop 3 = ending ∧ t = rest := by simpa using h
  obtain ⟨hletters, hmark⟩ := monthNames_letters name (List.fst_mem_of_mem_zipIdx hmem)
  have hname := List.all_eq_true.1 hletters
  obtain ⟨w, rfl, hw⟩ := dropCaseless?_eq_some_iff.1 hdrop
  refine ⟨⟨w, rfl, isMonthLetter_of_spelling (fun d hd => hname d (List.mem_of_mem_take hd)) hw, ?_⟩,
    fun d hd => hname d (List.mem_of_mem_drop hd)⟩
  obtain ⟨d, hd, hmark⟩ := List.any_eq_true.1 hmark
  obtain ⟨c, hc, hlower⟩ := (mem_of_equalCaseless hw).2 d hd
  exact ⟨c, hc, by rwa [isMonthMark, hlower]⟩

/-! ### Notations -/

/-- **A part covers no other texts.** -/
theorem DatePart.read?_takes {part : DatePart} {f f' : DateFields} {s rest : List Char}
    (h : part.read? f s = some (f', rest)) : ∃ w, s = w ++ rest ∧ part.Takes w := by
  have hplain : (∀ c, part ≠ .char c) → part.isMonth = false → Removes isPlainChar s rest →
      ∃ w, s = w ++ rest ∧ part.Takes w := by
    rintro hchar hmonth ⟨w, rfl, hw⟩
    exact ⟨w, rfl, takes_plain hchar hmonth hw⟩
  have hletters : part.isMonth = true → (∃ w, s = w ++ rest ∧ (∀ c ∈ w, isMonthLetter c = true) ∧
      ∃ c ∈ w, isMonthMark c = true) → ∃ w, s = w ++ rest ∧ part.Takes w := by
    rintro hmonth ⟨w, rfl, hw, hmark⟩
    refine ⟨w, rfl, fun c hc => Or.inr (Or.inr ⟨hmonth, hw c hc⟩), fun c hc => ?_, fun _ => hmark⟩
    rw [hc] at hmonth
    exact Bool.noConfusion hmonth
  cases part with
  | year =>
    obtain ⟨⟨n, t⟩, hread, h⟩ := Option.map_eq_some_iff.1 h
    obtain ⟨-, rfl⟩ := Prod.mk.inj h
    exact hplain (by simp) rfl ((trimStart_removes s).trans (readYear?_removes hread))
  | monthName =>
    obtain ⟨⟨n, t⟩, hread, h⟩ := Option.map_eq_some_iff.1 h
    obtain ⟨⟨k, ending, u⟩, hmonth, hread⟩ := Option.map_eq_some_iff.1 hread
    obtain ⟨-, rfl⟩ := Prod.mk.inj h
    obtain ⟨-, hrest⟩ := Prod.mk.inj hread
    obtain ⟨⟨w, rfl, hw, hmark⟩, hending⟩ := readMonthLetters?_takes hmonth
    refine hletters rfl ?_
    cases hdrop : dropCaseless? ending u with
    | none =>
      rw [hdrop] at hrest
      obtain rfl : u = t := hrest
      exact ⟨w, rfl, hw, hmark⟩
    | some v =>
      rw [hdrop] at hrest
      obtain rfl : v = t := hrest
      obtain ⟨more, rfl, hmore⟩ := dropCaseless?_eq_some_iff.1 hdrop
      obtain ⟨c, hc, hshows⟩ := hmark
      refine ⟨w ++ more, (List.append_assoc w more v).symm, fun d hd => ?_, c,
        List.mem_append_left more hc, hshows⟩
      exact (List.mem_append.1 hd).elim (hw d) (isMonthLetter_of_spelling hending hmore d)
  | monthLetters =>
    obtain ⟨⟨n, t⟩, hread, h⟩ := Option.map_eq_some_iff.1 h
    obtain ⟨⟨k, ending, u⟩, hmonth, hread⟩ := Option.map_eq_some_iff.1 hread
    obtain ⟨-, rfl⟩ := Prod.mk.inj h
    obtain ⟨-, rfl⟩ := Prod.mk.inj hread
    exact hletters rfl (readMonthLetters?_takes hmonth).1
  | fraction =>
    simp only [read?] at h
    split at h
    · obtain ⟨⟨n, t⟩, hread, h⟩ := Option.map_eq_some_iff.1 h
      obtain ⟨-, rfl⟩ := Prod.mk.inj h
      exact hplain (by simp) rfl ((readNanos?_removes hread).cons (by decide))
    · obtain ⟨-, rfl⟩ := Prod.mk.inj (Option.some.inj h)
      exact hplain (by simp) rfl (.refl _ _)
  | blank =>
    obtain ⟨-, rfl⟩ := Prod.mk.inj (Option.some.inj h)
    exact hplain (by simp) rfl (trimStart_removes s)
  | char c =>
    cases s with
    | nil => simp [read?] at h
    | cons d s =>
      simp only [read?, Option.ite_none_right_eq_some] at h
      obtain ⟨rfl, h⟩ := h
      obtain ⟨-, rfl⟩ := Prod.mk.inj (Option.some.inj h)
      refine ⟨[c], rfl, fun d hd => ?_, fun d hd => ?_, fun hmonth => Bool.noConfusion hmonth⟩
      · exact Or.inr (Or.inl (by rw [List.mem_singleton.1 hd]))
      · rw [DatePart.char.inj hd]
  | _ =>
    obtain ⟨⟨n, t⟩, hread, h⟩ := Option.map_eq_some_iff.1 h
    obtain ⟨-, rfl⟩ := Prod.mk.inj h
    exact hplain (by simp) rfl (readPlace?_removes hread)

/-- **The texts that a notation may cover:** a piece for each part, one behind the other. -/
def DatePattern.Takes : DatePattern → List Char → Prop
  | [], w => w = []
  | part :: pattern, w => ∃ u t, w = u ++ t ∧ part.Takes u ∧ Takes pattern t

/-- The character that a part stands for. -/
def DatePart.char? : DatePart → Option Char
  | .char c => some c
  | _ => none

namespace DatePattern

theorem readFrom?_takes {pattern : DatePattern} {f f' : DateFields} {s rest : List Char}
    (h : pattern.readFrom? f s = some (f', rest)) : ∃ w, s = w ++ rest ∧ pattern.Takes w := by
  induction pattern generalizing f s with
  | nil =>
    obtain ⟨-, rfl⟩ := Prod.mk.inj (Option.some.inj h)
    exact ⟨[], rfl, rfl⟩
  | cons part pattern ih =>
    obtain ⟨⟨g, t⟩, hread, hmore⟩ := Option.bind_eq_some_iff.1 h
    obtain ⟨u, rfl, hu⟩ := part.read?_takes hread
    obtain ⟨w, rfl, hw⟩ := ih hmore
    exact ⟨u ++ w, (List.append_assoc u w rest).symm, u, w, rfl, hu, hw⟩

/-- **A notation covers no other texts.** -/
theorem read?_takes {pattern : DatePattern} {f : DateFields} {s : List Char}
    (h : pattern.read? s = some f) : pattern.Takes s := by
  unfold read? at h
  split at h
  · next g hread =>
    obtain ⟨w, rfl, hw⟩ := readFrom?_takes hread
    rwa [List.append_nil]
  · simp at h

variable {pattern : DatePattern} {w : List Char}

/-- **What such a text consists of:** plain characters, characters of the notation, and letters of
months if it has a month in letters. -/
theorem Takes.chars (h : pattern.Takes w) : ∀ c ∈ w, isPlainChar c = true ∨ DatePart.char c ∈ pattern ∨
    pattern.any DatePart.isMonth = true ∧ isMonthLetter c = true := by
  induction pattern generalizing w with
  | nil =>
    obtain rfl : w = [] := h
    simp
  | cons part pattern ih =>
    obtain ⟨u, t, rfl, hu, ht⟩ := h
    intro c hc
    rcases List.mem_append.1 hc with hc | hc
    · rcases hu.chars c hc with hplain | rfl | ⟨hmonth, hletter⟩
      · exact Or.inl hplain
      · exact Or.inr (Or.inl List.mem_cons_self)
      · exact Or.inr (Or.inr ⟨by rw [List.any_cons, hmonth, Bool.true_or], hletter⟩)
    · rcases ih ht c hc with hplain | hchar | ⟨hmonth, hletter⟩
      · exact Or.inl hplain
      · exact Or.inr (Or.inl (List.mem_cons_of_mem _ hchar))
      · exact Or.inr (Or.inr ⟨by rw [List.any_cons, hmonth, Bool.or_true], hletter⟩)

/-- **What it has in order:** the characters of the notation. -/
theorem Takes.sublist (h : pattern.Takes w) : (pattern.filterMap DatePart.char?).Sublist w := by
  induction pattern generalizing w with
  | nil => exact List.nil_sublist w
  | cons part pattern ih =>
    obtain ⟨u, t, rfl, hu, ht⟩ := h
    cases hchar : part.char? with
    | none =>
      rw [List.filterMap_cons_none hchar]
      exact (ih ht).trans (List.sublist_append_right u t)
    | some c =>
      have hpart : part = .char c := by
        cases part with
        | char d => exact congrArg DatePart.char (Option.some.inj hchar)
        | _ => simp [DatePart.char?] at hchar
      rw [List.filterMap_cons_some hchar, hu.char c hpart]
      exact (ih ht).cons_cons c

theorem Takes.mem (h : pattern.Takes w) {c : Char} (hc : DatePart.char c ∈ pattern) : c ∈ w :=
  h.sublist.mem (List.mem_filterMap.2 ⟨_, hc, rfl⟩)

/-- **How a month in letters shows.** -/
theorem Takes.month (h : pattern.Takes w) (hmonth : pattern.any DatePart.isMonth = true) :
    ∃ c ∈ w, isMonthMark c = true := by
  induction pattern generalizing w with
  | nil => simp at hmonth
  | cons part pattern ih =>
    obtain ⟨u, t, rfl, hu, ht⟩ := h
    rw [List.any_cons, Bool.or_eq_true] at hmonth
    rcases hmonth with hpart | hmore
    · obtain ⟨c, hc, hmark⟩ := hu.month hpart
      exact ⟨c, List.mem_append_left t hc, hmark⟩
    · obtain ⟨c, hc, hmark⟩ := ih ht hmore
      exact ⟨c, List.mem_append_right u hc, hmark⟩

end DatePattern

/-! ### Timestamps and mail dates -/

theorem Removes.suffix {q : Char → Bool} {s rest : List Char} (h : Removes q s rest) : rest <:+ s := by
  obtain ⟨w, rfl, -⟩ := h
  exact List.suffix_append w rest

theorem readChar?_eq_some {c : Char} {s rest : List Char} (h : readChar? c s = some rest) :
    s = c :: rest := by
  cases s with
  | nil => simp [readChar?] at h
  | cons d s =>
    obtain ⟨rfl, rfl⟩ : c = d ∧ s = rest := by simpa [readChar?] using h
    rfl

/-- A character that is read somewhere in a text. -/
theorem mem_of_readChar? {c : Char} {s t rest : List Char} (h : readChar? c t = some rest)
    (hsuffix : t <:+ s) : c ∈ s ∧ rest <:+ s := by
  obtain rfl := readChar?_eq_some h
  exact ⟨hsuffix.mem List.mem_cons_self, (List.suffix_cons c rest).trans hsuffix⟩

theorem readBlanks?_eq_some {s rest : List Char} (h : readBlanks? s = some rest) :
    (∃ c ∈ s, isBlank c = true) ∧ rest <:+ s := by
  obtain ⟨hlength, h⟩ := Option.ite_none_right_eq_some.1 h
  obtain rfl : trimStart s = rest := Option.some.inj h
  refine ⟨?_, trimStart_suffix s⟩
  cases s with
  | nil => simp at hlength
  | cons c s =>
    refine ⟨c, List.mem_cons_self, ?_⟩
    cases hc : isBlank c with
    | true => rfl
    | false =>
      rw [trimStart_cons_of_not_blank hc] at hlength
      omega

/-- **Internet timestamps** have dashes and colons. -/
theorem readInternet?_chars {s : List Char} {m : Moment} (h : readInternet? s = some m) :
    '-' ∈ s ∧ ':' ∈ s := by
  obtain ⟨⟨year, s₁⟩, hyear, h⟩ := Option.bind_eq_some_iff.1 h
  obtain ⟨s₂, hdash, h⟩ := Option.bind_eq_some_iff.1 h
  obtain ⟨⟨month, s₃⟩, hmonth, h⟩ := Option.bind_eq_some_iff.1 h
  obtain ⟨s₄, hnext, h⟩ := Option.bind_eq_some_iff.1 h
  obtain ⟨⟨day, s₅⟩, hday, h⟩ := Option.bind_eq_some_iff.1 h
  have h₁ : s₁ <:+ s := (readNumber?_removes hyear).suffix
  obtain ⟨hmem, h₂⟩ := mem_of_readChar? hdash h₁
  have h₃ : s₃ <:+ s := (readNumber?_removes hmonth).suffix.trans h₂
  obtain ⟨-, h₄⟩ := mem_of_readChar? hnext h₃
  have h₅ : s₅ <:+ s := (readNumber?_removes hday).suffix.trans h₄
  refine ⟨hmem, ?_⟩
  simp only at h
  split at h
  · next c t =>
    split at h
    · obtain ⟨s₆, hbetween, h⟩ := Option.bind_eq_some_iff.1 h
      obtain ⟨⟨hour, s₇⟩, hhour, h⟩ := Option.bind_eq_some_iff.1 h
      obtain ⟨s₈, hcolon, h⟩ := Option.bind_eq_some_iff.1 h
      obtain rfl : t = s₆ := Option.some.inj hbetween
      have h₇ : s₇ <:+ s :=
        (readNumber?_removes hhour).suffix.trans ((List.suffix_cons c t).trans h₅)
      exact (mem_of_readChar? hcolon h₇).1
    · exact absurd h.symm (Option.some_ne_none m)
  · exact absurd h.symm (Option.some_ne_none m)

theorem readMonth?_suffix {s rest : List Char} {n : Nat} (h : readMonth? s = some (n, rest)) :
    rest <:+ s := by
  obtain ⟨⟨k, ending, t⟩, hread, h⟩ := Option.map_eq_some_iff.1 h
  obtain ⟨-, rfl⟩ := Prod.mk.inj h
  obtain ⟨⟨w, rfl, -⟩, -⟩ := readMonthLetters?_takes hread
  exact List.suffix_append w t

theorem readWeekday?_suffix {s rest : List Char} {n : Nat} (h : readWeekday? s = some (n, rest)) :
    rest <:+ s := by
  obtain ⟨⟨letters, k⟩, -, h⟩ := List.exists_of_findSome?_eq_some h
  obtain ⟨t, hdrop, h⟩ := Option.map_eq_some_iff.1 h
  obtain ⟨-, rfl⟩ := Prod.mk.inj h
  exact dropCaseless?_suffix hdrop

/-- **Mail dates** have blanks and colons. -/
theorem readMail?_chars {s : List Char} {m : Moment} (h : readMail? s = some m) :
    (∃ c ∈ s, isBlank c = true) ∧ ':' ∈ s := by
  unfold readMail? at h
  extract_lets text body at h
  -- behind the day of the week the notation is the same
  obtain ⟨start, hstart, h⟩ : ∃ start : Option Nat × List Char, start.2 <:+ s ∧ body start = some m := by
    have htext : text <:+ s := trimStart_suffix s
    split at h
    · next n t hweekday =>
      obtain ⟨start, hsome, h⟩ := Option.bind_eq_some_iff.1 h
      obtain rfl := Option.some.inj hsome
      have hbehind : ',' :: t <:+ text := readWeekday?_suffix hweekday
      exact ⟨(some n, t), ((List.suffix_cons ',' t).trans hbehind).trans htext, h⟩
    · simp at h
    · obtain ⟨start, hsome, h⟩ := Option.bind_eq_some_iff.1 h
      obtain rfl := Option.some.inj hsome
      exact ⟨(none, text), htext, h⟩
  simp only [body] at h
  obtain ⟨⟨day, s₂⟩, hday, h⟩ := Option.bind_eq_some_iff.1 h
  obtain ⟨s₃, hblanks, h⟩ := Option.bind_eq_some_iff.1 h
  obtain ⟨⟨month, s₄⟩, hmonth, h⟩ := Option.bind_eq_some_iff.1 h
  obtain ⟨s₅, hyears, h⟩ := Option.bind_eq_some_iff.1 h
  obtain ⟨⟨year, s₆⟩, hyear, h⟩ := Option.bind_eq_some_iff.1 h
  obtain ⟨s₇, htime, h⟩ := Option.bind_eq_some_iff.1 h
  obtain ⟨⟨hour, s₈⟩, hhour, h⟩ := Option.bind_eq_some_iff.1 h
  obtain ⟨s₉, hcolon, h⟩ := Option.bind_eq_some_iff.1 h
  have h₂ : s₂ <:+ s := (readNumber?_removes hday).suffix.trans ((trimStart_suffix _).trans hstart)
  obtain ⟨⟨c, hc, hblank⟩, h₃⟩ := readBlanks?_eq_some hblanks
  have h₅ : s₅ <:+ s₄ := (readBlanks?_eq_some hyears).2
  have h₄ : s₄ <:+ s₃ := readMonth?_suffix hmonth
  have h₇ : s₇ <:+ s₆ := (readBlanks?_eq_some htime).2
  have h₈ : s₈ <:+ s := by
    refine (readNumber?_removes hhour).suffix.trans (h₇.trans ?_)
    exact (readLongNumber?_removes hyear).suffix.trans (h₅.trans (h₄.trans (h₃.trans h₂)))
  exact ⟨⟨c, h₂.mem hc, hblank⟩, (mem_of_readChar? hcolon ((trimStart_suffix _).trans h₈)).1⟩

/-! ### Moments -/

/-- **A run of digits** that is read as a moment has four or eight of them, blanks at its ends aside. -/
def IsDigitDate (s : List Char) : Prop :=
  (∀ c ∈ trim s, c.isDigit = true) ∧ ((trim s).length = 4 ∨ (trim s).length = 8)

theorem isDigitDate_of_readDigits? {s : List Char} {m : Moment}
    (h : readDigits? (trim s) = some m) : IsDigitDate s := by
  unfold readDigits? at h
  by_cases hdigits : (trim s).all Char.isDigit = true
  · refine ⟨List.all_eq_true.1 hdigits, ?_⟩
    rw [hdigits] at h
    by_cases hfour : (trim s).length = 4
    · exact Or.inl hfour
    · by_cases height : (trim s).length = 8
      · exact Or.inr height
      · simp [hfour, height] at h
  · simp [hdigits] at h

/-- A notation of a list that covers a text. -/
theorem exists_takes {patterns : List DatePattern} {make : DateFields → Option Moment} {s : List Char}
    {m : Moment} (h : patterns.findSome? (fun p => (p.read? s).bind make) = some m) :
    ∃ p ∈ patterns, p.Takes s := by
  obtain ⟨p, hp, h⟩ := List.exists_of_findSome?_eq_some h
  obtain ⟨f, hf, -⟩ := Option.bind_eq_some_iff.1 h
  exact ⟨p, hp, DatePattern.read?_takes hf⟩

/-- **All texts of moments,** blanks at their ends aside: timestamps and mail dates, notations with a
time of day, notations without one, and runs of digits. -/
theorem Moment.ofText?_cases {s : List Char} {m : Moment} (h : Moment.ofText? s = some m) :
    (':' ∈ trim s ∧ ('-' ∈ trim s ∨ ∃ c ∈ trim s, isBlank c = true)) ∨
      (∃ p ∈ momentPatterns, p.Takes (trim s)) ∨ (∃ p ∈ datePatterns, p.Takes (trim s)) ∨
        IsDigitDate s := by
  have horElse : ∀ {x : Option Moment} {f : Unit → Option Moment}, x.orElse f = some m →
      x = some m ∨ f () = some m := by
    intro x f hx
    cases x with
    | none => exact Or.inr hx
    | some y => exact Or.inl hx
  simp only [Moment.ofText?, Option.ite_none_left_eq_some] at h
  rcases horElse h.2 with hinternet | h
  · obtain ⟨hdash, hcolon⟩ := readInternet?_chars hinternet
    exact Or.inl ⟨hcolon, Or.inl hdash⟩
  · rcases horElse h with hmail | h
    · obtain ⟨hblank, hcolon⟩ := readMail?_chars hmail
      exact Or.inl ⟨hcolon, Or.inr hblank⟩
    · rcases horElse h with hmoment | h
      · exact Or.inr (Or.inl (exists_takes hmoment))
      · rcases horElse h with hdate | hdigits
        · exact Or.inr (Or.inr (Or.inl (exists_takes hdate)))
        · exact Or.inr (Or.inr (Or.inr (isDigitDate_of_readDigits? hdigits)))

end DisplayFilter
