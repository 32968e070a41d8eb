import DisplayFilter.Address.Ipv6
import DisplayFilter.Proofs.Address.Ipv4Text
import DisplayFilter.Proofs.Number.Bases

/-!
# The spellings of an address of eight groups

An IPv6 address has many texts.  Each group has one to four hexadecimal digits of either case, two colons
may stand for one or more groups that are zero, and an IPv4 address for the last two groups.  The
reader takes groups as long as there are some; here is the grammar of the texts, and that the reader
takes these texts and no others.

* `SpellsGroup`, `SpellsGroups` — how a group and how some groups may be written;
* `Ipv6.Spelling` — how an address may be written;
* **`readGroups_of_spells`**, **`readGroups_spells`** — written groups are read, and what is read are
  written groups;
* **`Ipv6.ofText?_eq_some_iff`** — a text is read as an address if and only if it is one of its spellings.
-/

namespace DisplayFilter.Ipv6

open Text

/-! ### The grammar -/

/-- **A written group:** one to four hexadecimal digits. -/
structure SpellsGroup (g : UInt16) (w : List Char) : Prop where
  length_le : w.length ≤ 4
  spells : Spells 16 w g.toNat

/-- What stands in front of a group: a colon, unless the group comes first. -/
def groupMark (first : Bool) : List Char :=
  if first then [] else [':']

/-- **Written groups,** with colons between them.  The first mark says whether they come first, the
second one whether an IPv4 address stands for the last two. -/
inductive SpellsGroups : Bool → Bool → List UInt16 → List Char → Prop
  | nil {first : Bool} : SpellsGroups first false [] []
  | group {first embedded : Bool} {g : UInt16} {groups : List UInt16} {w s : List Char}
      (hw : SpellsGroup g w) (hs : SpellsGroups false embedded groups s) :
      SpellsGroups first embedded (g :: groups) (groupMark first ++ (w ++ s))
  | embedded {first : Bool} (x : Ipv4) :
      SpellsGroups first true (embeddedGroups x) (groupMark first ++ x.text.toList)

/-- **The spellings of an address:** all of its groups, or two colons that stand for the zeros between
some groups in front and some groups behind. -/
inductive Spelling (x : Ipv6) : List Char → Prop
  | full {embedded : Bool} {s : List Char} (hs : SpellsGroups true embedded x.groups s) : Spelling x s
  | compressed {embedded : Bool} {head tail : List UInt16} {u v : List Char}
      (hhead : SpellsGroups true false head u) (htail : SpellsGroups true embedded tail v)
      (hlength : head.length + tail.length ≤ 7)
      (hgroups : x.groups = head ++ List.replicate (8 - head.length - tail.length) 0 ++ tail) :
      Spelling x (u ++ ':' :: ':' :: v)

/-! ### Groups -/

/-- A hexadecimal digit of a group. -/
def isGroupDigit (c : Char) : Bool :=
  (digitValue? 16 c).isSome

theorem isGroupDigit_of_isDigit {c : Char} (h : c.isDigit = true) : isGroupDigit c = true := by
  have hrange : 48 ≤ c.toNat ∧ c.toNat ≤ 57 := Char.isDigit_iff_toNat.1 h
  have hlt : c.toNat - 48 < 16 := by omega
  simp [isGroupDigit, digitValue?, hrange, hlt]

theorem SpellsGroup.digits {g : UInt16} {w : List Char} (h : SpellsGroup g w) :
    ∀ c ∈ w, isGroupDigit c = true := by
  have hvalue := digitsValueFrom?_of_spells (Nat.le_refl 16) h.spells
  intro c hc
  obtain ⟨d, hd⟩ := digits_of_digitsValueFrom? hvalue c hc
  rw [isGroupDigit, hd]
  rfl

/-- **A group reads as it was written.** -/
theorem readGroup?_of_spells {g : UInt16} {w tail : List Char} (hw : SpellsGroup g w)
    (htail : Stops isGroupDigit tail) : readGroup? (w ++ tail) = some (g, tail) := by
  have htake : (w ++ tail).takeWhile (fun c => (digitValue? 16 c).isSome) = w :=
    takeWhile_append_of_stops (p := isGroupDigit) hw.digits htail
  have hdrop : (w ++ tail).dropWhile (fun c => (digitValue? 16 c).isSome) = tail :=
    dropWhile_append_of_stops (p := isGroupDigit) hw.digits htail
  have hvalue : digitsValue? 16 w = some g.toNat :=
    (digitsValue?_eq_some_iff (Nat.le_refl 16)).2 hw.spells
  have hlength := hw.length_le
  simp only [readGroup?, htake, hdrop, hvalue, if_neg (show ¬ 4 < w.length by omega), Option.map_some]
  rw [show g.toNat.toUInt16 = g from UInt16.ofNat_toNat]

theorem spells_lt {s : List Char} {n : Nat} (h : Spells 16 s n) : n < Nat.pow 16 s.length := by
  induction h with
  | digit hc => simpa using hc.1
  | @behind s n d c _ hc ih =>
    have hd := hc.1
    have hpow : Nat.pow 16 (s.length + 1) = Nat.pow 16 s.length * 16 := rfl
    rw [List.length_append, List.length_singleton, hpow]
    omega

/-- What is read as a group is a written group. -/
theorem spells_of_readGroup? {s rest : List Char} {g : UInt16} (h : readGroup? s = some (g, rest)) :
    ∃ w, s = w ++ rest ∧ SpellsGroup g w := by
  simp only [readGroup?, Option.ite_none_left_eq_some, Option.map_eq_some_iff, Prod.mk.injEq] at h
  obtain ⟨hlength, n, hn, hg, hrest⟩ := h
  have hspells := (digitsValue?_eq_some_iff (Nat.le_refl 16)).1 hn
  have hlt : n < 65536 := by
    have hpow : ∀ k ≤ 4, Nat.pow 16 k ≤ 65536 := by decide
    exact Nat.lt_of_lt_of_le (spells_lt hspells) (hpow _ (by omega))
  refine ⟨_, (hrest ▸ List.takeWhile_append_dropWhile).symm, by omega, ?_⟩
  rw [← hg, show n.toUInt16.toNat = n from Nat.mod_eq_of_lt hlt]
  exact hspells

theorem readGroup?_stops {s : List Char} (h : Stops isGroupDigit s) : readGroup? s = none := by
  simp only [readGroup?]
  rw [show s.takeWhile (fun c => (digitValue? 16 c).isSome) = [] from
    takeWhile_of_stops (p := isGroupDigit) h]
  rfl

/-! ### Runs of groups -/

/-- What may follow a group: the end of the text or a colon. -/
def EndsGroup (tail : List Char) : Prop :=
  tail = [] ∨ ∃ t, tail = ':' :: t

theorem EndsGroup.stops {tail : List Char} (h : EndsGroup tail) : Stops isGroupDigit tail := by
  rcases h with rfl | ⟨t, rfl⟩
  · exact stops_nil _
  · exact stops_cons.2 (by decide)

/-- A text in which a colon or nothing follows the first digits starts with no IPv4 address. -/
theorem ipv4_read?_none {w tail : List Char} (hw : ∀ c ∈ w, isGroupDigit c = true)
    (htail : EndsGroup tail) : Ipv4.read? (w ++ tail) = none := by
  cases hread : Ipv4.read? (w ++ tail) with
  | none => rfl
  | some answer =>
    obtain ⟨x, rest⟩ := answer
    obtain ⟨htext, -⟩ := Ipv4.read?_eq_some_iff.1 hread
    have hpoint : ∀ s, Stops isGroupDigit ('.' :: s) := fun s => stops_cons.2 (by decide)
    have hdigits : ∀ c ∈ decimalDigits x.a.toNat, isGroupDigit c = true := fun c hc =>
      isGroupDigit_of_isDigit (isDigit_of_mem_decimalDigits hc)
    have hbehind := dropWhile_append_of_stops hw htail.stops
    rw [htext, Ipv4.text_toList, Ipv4.octets, dotted_cons, List.append_assoc, List.cons_append,
      dropWhile_append_of_stops hdigits (hpoint _)] at hbehind
    rcases htail with rfl | ⟨t, rfl⟩
    · simp at hbehind
    · simp at hbehind

theorem afterSeparator?_groupMark (first : Bool) (s : List Char) :
    afterSeparator? first (groupMark first ++ s) = some s := by
  cases first with
  | true => rfl
  | false => rfl

theorem afterSeparator?_eq_some {first : Bool} {s body : List Char}
    (h : afterSeparator? first s = some body) : s = groupMark first ++ body := by
  unfold afterSeparator? at h
  split at h
  · next hfirst =>
    rw [hfirst, ← Option.some.inj h]
    rfl
  · next hfirst =>
    split at h
    · rw [Bool.eq_false_iff.2 hfirst, ← Option.some.inj h]
      rfl
    · simp at h

/-- What ends a run of groups: the end of the text, or two colons. -/
def EndsGroups (tail : List Char) : Prop :=
  tail = [] ∨ ∃ t, tail = ':' :: ':' :: t

theorem EndsGroups.endsGroup {tail : List Char} (h : EndsGroups tail) : EndsGroup tail :=
  h.imp_right fun ⟨_, ht⟩ => ⟨_, ht⟩

/-- Behind a group stands a colon or the end of the text. -/
theorem SpellsGroups.endsGroup {embedded : Bool} {groups : List UInt16} {s tail : List Char}
    (h : SpellsGroups false embedded groups s) (htail : EndsGroup tail) : EndsGroup (s ++ tail) := by
  cases h with
  | nil => exact htail
  | group _ _ => exact Or.inr ⟨_, rfl⟩
  | embedded _ => exact Or.inr ⟨_, rfl⟩

/-- No group stands in front of a colon or of the end of the text. -/
theorem readGroups_end (limit : Nat) {first : Bool} {s body : List Char}
    (hbody : afterSeparator? first s = some body) (hend : EndsGroup body) :
    readGroups limit first s = ⟨[], false, s⟩ := by
  cases limit with
  | zero => rfl
  | succ limit =>
    have hread := ipv4_read?_none (w := []) (by simp) hend
    rw [List.nil_append] at hread
    simp only [readGroups, hbody, hread, ite_self, readGroup?_stops hend.stops]

theorem readGroups_behind (limit : Nat) (first : Bool) {tail : List Char} (htail : EndsGroups tail) :
    readGroups limit first tail = ⟨[], false, tail⟩ := by
  cases first with
  | true => exact readGroups_end limit rfl htail.endsGroup
  | false =>
    rcases htail with rfl | ⟨t, rfl⟩
    · cases limit <;> rfl
    · exact readGroups_end limit rfl (Or.inr ⟨t, rfl⟩)

/-- **Written groups are read** up to the end or to two colons, as long as there are not too many. -/
theorem readGroups_of_spells {first embedded : Bool} {groups : List UInt16} {s : List Char}
    (h : SpellsGroups first embedded groups s) {limit : Nat} (hlimit : groups.length ≤ limit)
    {tail : List Char} (htail : EndsGroups tail) (hembedded : embedded = true → tail = []) :
    readGroups limit first (s ++ tail) = ⟨groups, embedded, tail⟩ := by
  induction h generalizing limit with
  | nil => exact readGroups_behind limit _ htail
  | @group first embedded g groups w s hw hs ih =>
    cases limit with
    | zero => simp at hlimit
    | succ limit =>
      have hend := hs.endsGroup htail.endsGroup
      have hmore := ih (by simpa using hlimit) hembedded
      simp only [readGroups, List.append_assoc, afterSeparator?_groupMark,
        ipv4_read?_none hw.digits hend, ite_self, readGroup?_of_spells hw hend.stops, hmore]
  | embedded x =>
    have hread : Ipv4.read? (x.text.toList ++ tail) = some (x, tail) :=
      Ipv4.read?_eq_some_iff.2 ⟨rfl, hembedded rfl ▸ stops_nil _⟩
    cases limit with
    | zero => simp [embeddedGroups] at hlimit
    | succ limit =>
      have hroom : limit ≠ 0 := by
        rintro rfl
        simp [embeddedGroups] at hlimit
      simp only [readGroups, List.append_assoc, afterSeparator?_groupMark, if_neg hroom, hread]

/-- **What is read as groups** are written groups, and not too many. -/
theorem readGroups_spells (limit : Nat) (first : Bool) (s : List Char) :
    (readGroups limit first s).groups.length ≤ limit ∧ ∃ u,
      SpellsGroups first (readGroups limit first s).embedded (readGroups limit first s).groups u ∧
        s = u ++ (readGroups limit first s).rest := by
  induction limit generalizing first s with
  | zero => exact ⟨Nat.zero_le _, [], SpellsGroups.nil, rfl⟩
  | succ limit ih =>
    rw [readGroups]
    cases hbody : afterSeparator? first s with
    | none => exact ⟨Nat.zero_le _, [], SpellsGroups.nil, rfl⟩
    | some body =>
      obtain rfl := afterSeparator?_eq_some hbody
      simp only
      split
      · next x rest hembedded =>
        obtain ⟨hroom, hread⟩ := Option.ite_none_left_eq_some.1 hembedded
        refine ⟨?_, _, SpellsGroups.embedded x, ?_⟩
        · simp [embeddedGroups]
          omega
        · show groupMark first ++ body = groupMark first ++ x.text.toList ++ rest
          rw [(Ipv4.read?_eq_some_iff.1 hread).1, List.append_assoc]
      · cases hgroup : readGroup? body with
        | none => exact ⟨Nat.zero_le _, [], SpellsGroups.nil, rfl⟩
        | some answer =>
          obtain ⟨g, rest⟩ := answer
          obtain ⟨w, rfl, hw⟩ := spells_of_readGroup? hgroup
          obtain ⟨hlength, u, hu, hrest⟩ := ih false rest
          refine ⟨Nat.succ_le_succ hlength, _, SpellsGroups.group hw hu, ?_⟩
          simp only [List.append_assoc, ← hrest]

/-! ### Addresses -/

theorem ofGroups?_groups (x : Ipv6) : ofGroups? x.groups = some x :=
  dif_pos x.size_eq

theorem groups_of_ofGroups? {groups : List UInt16} {x : Ipv6} (h : ofGroups? groups = some x) :
    x.groups = groups := by
  obtain ⟨_, hx⟩ := Option.dite_none_right_eq_some.1 h
  rw [← Option.some.inj hx]

/-- **A spelling is read** as its address. -/
theorem ofText?_of_spelling {x : Ipv6} {s : List Char} (h : Spelling x s) : ofText? s = some x := by
  have hsize := x.size_eq
  cases h with
  | full hs =>
    have hread := readGroups_of_spells hs (Nat.le_of_eq hsize) (Or.inl rfl) fun _ => rfl
    rw [List.append_nil] at hread
    simp only [ofText?, read?, hread, hsize, if_true, ofGroups?_groups, Option.map_some]
  | @compressed embedded head tail u v hhead htail hlength hgroups =>
    have hfront : readGroups 8 true (u ++ ':' :: ':' :: v) = ⟨head, false, ':' :: ':' :: v⟩ :=
      readGroups_of_spells hhead (by omega) (Or.inr ⟨v, rfl⟩) (by simp)
    have hback : readGroups (7 - head.length) true v = ⟨tail, embedded, []⟩ := by
      have hroom : tail.length ≤ 7 - head.length := by omega
      have hread := readGroups_of_spells htail hroom (Or.inl rfl) fun _ => rfl
      rwa [List.append_nil] at hread
    have hshort : head.length ≠ 8 := by omega
    simp only [ofText?, read?, hfront, if_neg hshort, Bool.false_eq_true, if_false, hback, ← hgroups,
      ofGroups?_groups, Option.map_some]

theorem read?_of_ofText? {s : List Char} {x : Ipv6} (h : ofText? s = some x) :
    read? s = some (x, []) := by
  unfold ofText? at h
  split at h
  · next y hy => rw [hy, Option.some.inj h]
  · simp at h

/-- What is read as an address is one of its spellings. -/
theorem spelling_of_ofText? {x : Ipv6} {s : List Char} (h : ofText? s = some x) : Spelling x s := by
  have hread := read?_of_ofText? h
  obtain ⟨hhead, u, hu, hs⟩ := readGroups_spells 8 true s
  simp only [read?] at hread
  generalize readGroups 8 true s = front at hread hhead hu hs
  obtain ⟨head, embedded, rest⟩ := front
  simp only at hread hhead hu hs
  split at hread
  · obtain ⟨y, hy, hanswer⟩ := Option.map_eq_some_iff.1 hread
    obtain ⟨rfl, rfl⟩ := Prod.mk.inj hanswer
    rw [hs, List.append_nil]
    exact Spelling.full ((groups_of_ofGroups? hy).symm ▸ hu)
  · next hshort =>
    split at hread
    · simp at hread
    · next hplain =>
      obtain rfl : embedded = false := Bool.eq_false_iff.2 hplain
      split at hread
      · next t =>
        obtain ⟨hback, v, hv, ht⟩ := readGroups_spells (7 - head.length) true t
        generalize readGroups (7 - head.length) true t = back at hread hback hv ht
        obtain ⟨tail, embedded, rest⟩ := back
        obtain ⟨y, hy, hanswer⟩ := Option.map_eq_some_iff.1 hread
        obtain ⟨rfl, rfl⟩ := Prod.mk.inj hanswer
        simp only [List.append_nil] at hback hv ht
        rw [hs, ht]
        exact Spelling.compressed hu hv (by omega) (groups_of_ofGroups? hy)
      · simp at hread

/-- **A text is read as an address** if and only if it is one of its spellings. -/
theorem ofText?_eq_some_iff {s : List Char} {x : Ipv6} : ofText? s = some x ↔ Spelling x s :=
  ⟨spelling_of_ofText?, ofText?_of_spelling⟩

end DisplayFilter.Ipv6
