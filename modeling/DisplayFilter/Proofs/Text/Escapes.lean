import DisplayFilter.Proofs.Text.Utf8
import DisplayFilter.Text.Escape

/-!
# Escapes in texts

A backslash stands in front of an escape and never inside of one, so two escapes never share a
character and a text has one reading: runs of other characters, with an escape between two of them.
Unescaping replaces the escapes and copies the runs.  It takes two hexadecimal digits for a code, and
also a plus sign with one digit, which is not an escape as filters are written.

* `escape`, `pairCode?`, `signedCode?` — an escape, and the two ways in which it names a code;
* `EscapeFree` — a text without escapes, `Replaced` — a text with all of its escapes replaced;
* **`unescape_append`** — what stands in front of a backslash is unescaped on its own;
* **`unescape_exact`** — which escapes are replaced, and which texts stay as they are;
* `Names` — a text that names bytes, **`decoded_names`** — it stands for the text with these bytes.
-/

namespace DisplayFilter.Text

/-! ### Escapes -/

/-- **An escape:** `\x` and two characters. -/
def escape (a b : Char) : List Char :=
  ['\\', 'x', a, b]

/-- The code that two hexadecimal digits name. -/
def pairCode? (a b : Char) : Option Nat :=
  (hexValue? a).bind fun m => (hexValue? b).map (16 * m + ·)

/-- The code that a plus sign and a hexadecimal digit name. -/
def signedCode? (a b : Char) : Option Nat :=
  if a = '+' then hexValue? b else none

theorem escapedCode?_eq_some_iff {a b : Char} {n : Nat} :
    escapedCode? a b = some n ↔ pairCode? a b = some n ∨ signedCode? a b = some n := by
  have hplus : hexValue? '+' = none := by decide
  by_cases ha : a = '+'
  · subst ha
    simp [escapedCode?, pairCode?, signedCode?, hplus]
  · cases hm : hexValue? a with
    | none => simp [escapedCode?, pairCode?, signedCode?, ha, hm]
    | some m => cases hn : hexValue? b <;> simp [escapedCode?, pairCode?, signedCode?, ha, hm, hn]

theorem escapedCode?_eq_none_iff {a b : Char} :
    escapedCode? a b = none ↔ pairCode? a b = none ∧ signedCode? a b = none := by
  simp only [Option.eq_none_iff_forall_ne_some, ne_eq, escapedCode?_eq_some_iff, not_or, forall_and]

theorem signedCode?_of_pairCode? {a b : Char} {n : Nat} (h : pairCode? a b = some n) :
    signedCode? a b = none := by
  rw [signedCode?, if_neg]
  rintro rfl
  have hplus : hexValue? '+' = none := by decide
  simp [pairCode?, hplus] at h

/-- **Ways to name a code** in which no backslash occurs. -/
def Apart (code? : Char → Char → Option Nat) : Prop :=
  ∀ c, code? '\\' c = none ∧ code? c '\\' = none

theorem Apart.ne_of_eq_some {code? : Char → Char → Option Nat} (hcode : Apart code?) {a b : Char}
    {n : Nat} (h : code? a b = some n) : a ≠ '\\' ∧ b ≠ '\\' := by
  constructor
  · rintro rfl
    simp [(hcode b).1] at h
  · rintro rfl
    simp [(hcode a).2] at h

theorem apart_pairCode? : Apart pairCode? := by
  have hbackslash : hexValue? '\\' = none := by decide
  intro c
  cases hexValue? c with
  | none => simp [pairCode?, hbackslash]
  | some m => simp [pairCode?, hbackslash]

theorem apart_signedCode? : Apart signedCode? := by
  have hbackslash : hexValue? '\\' = none := by decide
  intro c
  simp [signedCode?, hbackslash]

theorem apart_escapedCode? : Apart escapedCode? := fun c =>
  ⟨escapedCode?_eq_none_iff.2 ⟨(apart_pairCode? c).1, (apart_signedCode? c).1⟩,
    escapedCode?_eq_none_iff.2 ⟨(apart_pairCode? c).2, (apart_signedCode? c).2⟩⟩

/-! ### Texts without escapes -/

/-- **A text without escapes** that name a code. -/
def EscapeFree (code? : Char → Char → Option Nat) (s : List Char) : Prop :=
  ∀ a b, escape a b <:+: s → code? a b = none

section EscapeFree

variable {code? : Char → Char → Option Nat} {a b c : Char} {s t u v : List Char}

theorem EscapeFree.of_infix (h : EscapeFree code? s) (hts : t <:+: s) : EscapeFree code? t :=
  fun a b hab => h a b (hab.trans hts)

theorem escapeFree_nil : EscapeFree code? [] := by
  intro a b h
  simp [escape] at h

/-- A text has no escapes if none starts at its first character and there are none behind it. -/
theorem escapeFree_cons : EscapeFree code? (c :: s) ↔
    (∀ a b, escape a b <+: c :: s → code? a b = none) ∧ EscapeFree code? s := by
  simp only [EscapeFree, List.infix_cons_iff, or_imp, forall_and]

theorem escapeFree_cons_of_ne (hc : c ≠ '\\') :
    EscapeFree code? (c :: s) ↔ EscapeFree code? s := by
  rw [escapeFree_cons, and_iff_right]
  intro a b h
  exact absurd (List.cons_prefix_cons.1 h).1.symm hc

theorem eq_none_of_escape (hnone : code? a b = none) :
    ∀ a' b', escape a' b' <+: escape a b ++ s → code? a' b' = none := by
  intro a' b' h
  obtain ⟨rfl, rfl⟩ : a' = a ∧ b' = b := by simpa [escape] using h
  exact hnone

theorem not_prefix_of_plain (hplain : ∀ a b t, c = '\\' → s = 'x' :: a :: b :: t → False) :
    ∀ a b, ¬ escape a b <+: c :: s := by
  rintro a b ⟨t, ht⟩
  obtain ⟨rfl, rfl⟩ : '\\' = c ∧ 'x' :: a :: b :: t = s := by simpa [escape] using ht
  exact hplain a b t rfl rfl

/-- **An escape does not reach** across a backslash. -/
theorem escape_prefix_append (hcode : Apart code?) (hu : u ≠ [])
    (h : escape a b <+: u ++ '\\' :: v) : escape a b <+: u ∨ code? a b = none := by
  -- the backslash would be the `x`, the first or the second of the two characters
  rcases u with - | ⟨c, - | ⟨d, - | ⟨e, - | ⟨f, u⟩⟩⟩⟩
  · exact absurd rfl hu
  · simp [escape] at h
  · obtain ⟨-, -, rfl, -⟩ : _ ∧ _ ∧ a = '\\' ∧ _ := by simpa [escape] using h
    exact Or.inr (hcode b).1
  · obtain ⟨-, -, -, rfl⟩ : _ ∧ _ ∧ _ ∧ b = '\\' := by simpa [escape] using h
    exact Or.inr (hcode a).2
  · left
    simpa [escape] using h

theorem EscapeFree.append (hcode : Apart code?) (hu : EscapeFree code? u)
    (hv : EscapeFree code? ('\\' :: v)) : EscapeFree code? (u ++ '\\' :: v) := by
  induction u with
  | nil => exact hv
  | cons c u ih =>
    obtain ⟨hstart, hrest⟩ := escapeFree_cons.1 hu
    refine escapeFree_cons.2 ⟨fun a b h => ?_, ih hrest⟩
    rcases escape_prefix_append hcode (List.cons_ne_nil c u) h with hprefix | hnone
    · exact hstart a b hprefix
    · exact hnone

theorem EscapeFree.escape_append (ha : a ≠ '\\') (hb : b ≠ '\\') (hnone : code? a b = none)
    (h : EscapeFree code? s) : EscapeFree code? (escape a b ++ s) :=
  escapeFree_cons.2 ⟨eq_none_of_escape hnone, (escapeFree_cons_of_ne (by decide)).2
    ((escapeFree_cons_of_ne ha).2 ((escapeFree_cons_of_ne hb).2 h))⟩

end EscapeFree

/-! ### Unescaping -/

theorem unescape_escape {a b : Char} {n : Nat} (h : escapedCode? a b = some n) (s : List Char) :
    unescape (escape a b ++ s) = Char.ofNat n :: unescape s := by
  show unescape ('\\' :: 'x' :: a :: b :: s) = _
  rw [unescape, h]

/-- A character at which no escape starts is copied. -/
theorem unescape_cons {c : Char} {s : List Char}
    (h : ∀ a b, escape a b <+: c :: s → escapedCode? a b = none) :
    unescape (c :: s) = c :: unescape s := by
  by_cases hstart : ∃ a b t, c :: s = escape a b ++ t
  · obtain ⟨a, b, t, ht⟩ := hstart
    obtain ⟨rfl, rfl⟩ : c = '\\' ∧ s = 'x' :: a :: b :: t := by simpa [escape] using ht
    rw [unescape, h a b (List.prefix_append (escape a b) t)]
  · rw [unescape]
    rintro a b t rfl rfl
    exact hstart ⟨a, b, t, rfl⟩

theorem unescape_of_escapeFree {s : List Char} (h : EscapeFree escapedCode? s) : unescape s = s := by
  induction s with
  | nil => rfl
  | cons c s ih =>
    obtain ⟨hstart, hrest⟩ := escapeFree_cons.1 h
    rw [unescape_cons hstart, ih hrest]

/-- **What stands in front of a backslash** is unescaped on its own. -/
theorem unescape_append (u v : List Char) :
    unescape (u ++ '\\' :: v) = unescape u ++ unescape ('\\' :: v) := by
  fun_induction unescape u with
  | case1 => rfl
  | case2 a b s n hcode ih =>
    show unescape (escape a b ++ (s ++ '\\' :: v)) = _
    rw [unescape_escape hcode, ih, List.cons_append]
  | case3 a b s hnone ih =>
    have hcopy : unescape ('\\' :: ('x' :: a :: b :: s ++ '\\' :: v)) =
        '\\' :: unescape ('x' :: a :: b :: s ++ '\\' :: v) := unescape_cons (eq_none_of_escape hnone)
    rw [List.cons_append, hcopy, ih, List.cons_append]
  | case4 c s hplain ih =>
    rw [List.cons_append, unescape_cons, ih, List.cons_append]
    intro a b h
    rcases escape_prefix_append apart_escapedCode? (List.cons_ne_nil c s) h with hprefix | hnone
    · exact (not_prefix_of_plain hplain a b hprefix).elim
    · exact hnone

/-- **An escape is replaced** whatever stands on its sides. -/
theorem unescape_around (u : List Char) {a b : Char} {n : Nat} (hcode : escapedCode? a b = some n)
    (s : List Char) :
    unescape (u ++ (escape a b ++ s)) = unescape u ++ Char.ofNat n :: unescape s := by
  rw [← unescape_escape hcode]
  exact unescape_append u ('x' :: a :: b :: s)

/-! ### Replacing -/

/-- **A text with its escapes replaced:** the runs between them are copied, and each escape becomes the
character of its code. -/
inductive Replaced (code? : Char → Char → Option Nat) : List Char → List Char → Prop
  | plain {s : List Char} : EscapeFree code? s → Replaced code? s s
  | escape {run s t : List Char} {a b : Char} {n : Nat} : EscapeFree code? run →
      code? a b = some n → Replaced code? s t →
        Replaced code? (run ++ (escape a b ++ s)) (run ++ Char.ofNat n :: t)

namespace Replaced

variable {code? : Char → Char → Option Nat} {s t : List Char}

/-- A character at which no escape starts is copied. -/
theorem cons {c : Char} (hstart : ∀ a b, Text.escape a b <+: c :: s → code? a b = none)
    (h : Replaced code? s t) : Replaced code? (c :: s) (c :: t) := by
  cases h with
  | plain hfree => exact plain (escapeFree_cons.2 ⟨hstart, hfree⟩)
  | @escape run s t a b n hrun hcode hmore =>
    show Replaced code? (c :: run ++ (Text.escape a b ++ s)) (c :: run ++ Char.ofNat n :: t)
    refine escape (escapeFree_cons.2 ⟨fun a' b' h => hstart a' b' ?_, hrun⟩) hcode hmore
    exact h.trans (List.prefix_append (c :: run) _)

/-- Replacing makes a text shorter, unless it has no escapes. -/
theorem length_le (h : Replaced code? s t) :
    t.length ≤ s.length ∧ (t.length = s.length → EscapeFree code? s) := by
  induction h with
  | plain hfree => exact ⟨Nat.le_refl _, fun _ => hfree⟩
  | escape hrun hcode hmore ih =>
    simp only [List.length_append, List.length_cons, Text.escape, List.length_nil]
    omega

end Replaced

/-- **Unescaping replaces the escapes** of a text. -/
theorem replaced_unescape (s : List Char) : Replaced escapedCode? s (unescape s) := by
  fun_induction unescape s with
  | case1 => exact .plain escapeFree_nil
  | case2 a b s n hn ih =>
    show Replaced escapedCode? ([] ++ (escape a b ++ s)) ([] ++ Char.ofNat n :: unescape s)
    exact .escape escapeFree_nil hn ih
  | case3 a b s hnone ih => exact ih.cons (eq_none_of_escape hnone)
  | case4 c s hplain ih => exact ih.cons fun a b h => (not_prefix_of_plain hplain a b h).elim

theorem unescape_of_replaced {s t : List Char} (h : Replaced escapedCode? s t) : unescape s = t := by
  induction h with
  | plain hfree => exact unescape_of_escapeFree hfree
  | escape hrun hcode hmore ih => rw [unescape_around _ hcode, unescape_of_escapeFree hrun, ih]

/-- A text stays as it is if it has no escapes, and only then. -/
theorem unescape_eq_self_iff {s : List Char} : unescape s = s ↔ EscapeFree escapedCode? s :=
  ⟨fun h => (replaced_unescape s).length_le.2 (congrArg List.length h), unescape_of_escapeFree⟩

/-! ### Escapes of two digits -/

theorem escapeFree_escapedCode?_iff {s : List Char} :
    EscapeFree escapedCode? s ↔ EscapeFree pairCode? s ∧ EscapeFree signedCode? s := by
  simp only [EscapeFree, escapedCode?_eq_none_iff, forall_and]

/-- **Without a plus sign in an escape** the escapes are those of two digits. -/
theorem replaced_pairCode?_iff {s t : List Char} (hsigned : EscapeFree signedCode? s) :
    Replaced pairCode? s t ↔ Replaced escapedCode? s t := by
  constructor
  · intro h
    induction h with
    | plain hfree => exact .plain (escapeFree_escapedCode?_iff.2 ⟨hfree, hsigned⟩)
    | @escape run s t a b n hrun hcode hmore ih =>
      refine .escape (escapeFree_escapedCode?_iff.2 ⟨hrun, ?_⟩) ?_ (ih ?_)
      · exact hsigned.of_infix (List.prefix_append run _).isInfix
      · exact escapedCode?_eq_some_iff.2 (Or.inl hcode)
      · exact hsigned.of_infix ((List.suffix_append _ s).trans (List.suffix_append run _)).isInfix
  · intro h
    induction h with
    | plain hfree => exact .plain (escapeFree_escapedCode?_iff.1 hfree).1
    | @escape run s t a b n hrun hcode hmore ih =>
      refine .escape (escapeFree_escapedCode?_iff.1 hrun).1 ?_ (ih ?_)
      · have hinfix : escape a b <:+: run ++ (escape a b ++ s) := ⟨run, s, by simp⟩
        have hnone := hsigned a b hinfix
        exact (escapedCode?_eq_some_iff.1 hcode).resolve_right (by simp [hnone])
      · exact hsigned.of_infix ((List.suffix_append _ s).trans (List.suffix_append run _)).isInfix

/-- If the escapes of two digits alone are replaced, the text is as long as the unescaped one, or longer
if it has others. -/
theorem unescape_length_le {s t : List Char} (h : Replaced pairCode? s t) :
    (unescape s).length ≤ t.length ∧
      ((unescape s).length = t.length → EscapeFree signedCode? s) := by
  induction h with
  | plain hfree =>
    obtain ⟨hle, hnone⟩ := (replaced_unescape _).length_le
    exact ⟨hle, fun heq => (escapeFree_escapedCode?_iff.1 (hnone heq)).2⟩
  | @escape run s t a b n hrun hcode hmore ih =>
    obtain ⟨hle, hnone⟩ := (replaced_unescape run).length_le
    rw [unescape_around run (escapedCode?_eq_some_iff.2 (Or.inl hcode))]
    simp only [List.length_append, List.length_cons]
    refine ⟨by omega, fun heq => ?_⟩
    have hrunFree := (escapeFree_escapedCode?_iff.1 (hnone (by omega))).2
    obtain ⟨ha, hb⟩ := apart_pairCode?.ne_of_eq_some hcode
    exact hrunFree.append apart_signedCode?
      ((ih.2 (by omega)).escape_append ha hb (signedCode?_of_pairCode? hcode))

/-- **Which escapes are replaced:** those of two hexadecimal digits, and those of a plus sign and a
digit.  So unescaping replaces the escapes of two digits, and nothing else, in texts without the others
and only there; and it leaves a text as it is if there are none of either kind. -/
theorem unescape_exact (s : List Char) :
    (∀ t, unescape s = t ↔ Replaced escapedCode? s t) ∧
      ((∀ t, unescape s = t ↔ Replaced pairCode? s t) ↔ EscapeFree signedCode? s) ∧
        (unescape s = s ↔ EscapeFree pairCode? s ∧ EscapeFree signedCode? s) := by
  have hreplaced : ∀ t, unescape s = t ↔ Replaced escapedCode? s t := fun t =>
    ⟨fun h => h ▸ replaced_unescape s, unescape_of_replaced⟩
  refine ⟨hreplaced, ⟨fun h => ?_, fun hsigned t => ?_⟩, ?_⟩
  · exact (unescape_length_le ((h (unescape s)).1 rfl)).2 rfl
  · rw [replaced_pairCode?_iff hsigned, hreplaced]
  · rw [unescape_eq_self_iff, escapeFree_escapedCode?_iff]

/-- **A plus sign in front of a digit** is taken for a part of the code. -/
theorem unescape_signed :
    let s := ['\\', 'x', '+', 'f']
    EscapeFree pairCode? s ∧ Replaced pairCode? s s ∧ unescape s = ['\x0f'] := by
  intro s
  have hfree : EscapeFree pairCode? s :=
    EscapeFree.escape_append (by decide) (by decide) rfl escapeFree_nil
  exact ⟨hfree, .plain hfree, rfl⟩

/-! ### Texts that name bytes -/

/-- **A text that names bytes:** each of them by an escape of two hexadecimal digits, of either case. -/
inductive Names : List Char → List UInt8 → Prop
  | nil : Names [] []
  | cons {a b : Char} {byte : UInt8} {s : List Char} {bytes : List UInt8} :
      pairCode? a b = some byte.toNat → Names s bytes → Names (escape a b ++ s) (byte :: bytes)

/-- All bytes can be named. -/
theorem exists_names (bytes : List UInt8) : ∃ s, Names s bytes := by
  have hdigit : ∀ n < 16, hexValue? (Nat.digitChar n) = some n := by decide
  induction bytes with
  | nil => exact ⟨[], .nil⟩
  | cons byte bytes ih =>
    obtain ⟨s, hs⟩ := ih
    have hlt : byte.toNat < 256 := byte.toNat_lt
    refine ⟨_, hs.cons (a := Nat.digitChar (byte.toNat / 16)) (b := Nat.digitChar (byte.toNat % 16)) ?_⟩
    rw [pairCode?, hdigit _ (by omega), hdigit _ (by omega)]
    simp only [Option.bind_some, Option.map_some, Option.some.injEq]
    omega

/-- **The unescaped text** has the bytes as its codes. -/
theorem unescape_names {s : List Char} {bytes : List UInt8} (h : Names s bytes) :
    unescape s = bytes.map fun byte => Char.ofNat byte.toNat := by
  induction h with
  | nil => rfl
  | cons hcode hmore ih =>
    rw [unescape_escape (escapedCode?_eq_some_iff.2 (Or.inl hcode)), ih, List.map_cons]

theorem latin1?_codes (bytes : List UInt8) :
    latin1? (bytes.map fun byte => Char.ofNat byte.toNat) = some bytes := by
  induction bytes with
  | nil => rfl
  | cons byte bytes ih =>
    have hlt : byte.toNat < 256 := byte.toNat_lt
    have hcode : (Char.ofNat byte.toNat).toNat = byte.toNat := by
      rw [Char.ofNat, dif_pos (Or.inl (by omega))]
      rfl
    simp only [List.map_cons, latin1?, hcode, if_pos hlt, ih, Option.map_some]
    rw [show byte.toNat.toUInt8 = byte from UInt8.ofNat_toNat]

/-- **A text that names the bytes of a text** stands for this text. -/
theorem decoded_names {s t : List Char} (h : Names s (encode t)) : decoded s = t := by
  rw [decoded, unescape_names h, latin1?_codes, Option.bind_some, decode?_encode]

end DisplayFilter.Text
