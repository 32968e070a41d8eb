import DisplayFilter.Proofs.Address.Ipv6Spelling

/-!
# Written addresses of eight groups

An IPv6 address is written in its canonical form, which leaves out the first longest run of zeros.  This
is among the spellings that are read as the address.

* **`longestZeroRun_zeros`** — the groups that are left out are zeros;
* **`spelling_text`**, **`Ipv6.ofText?_text`** — the canonical text is a spelling, and is read as the
  address;
* **`Ipv6.Spelling.takes`** — what a spelling is made of, with **`Ipv6.isAddressChar_of_ofText?`**,
  **`Ipv6.colon_mem_of_ofText?`** and **`Ipv6.not_sublist_of_ofText?`** — no other characters, a colon,
  and none behind a point.
-/

namespace DisplayFilter.Ipv6

open Text

/-! ### Groups with the digits of their numbers -/

/-- The characters of a group. -/
def groupChars (g : UInt16) : List Char :=
  Nat.toDigits 16 g.toNat

theorem length_groupChars (g : UInt16) : (groupChars g).length ≤ 4 :=
  (Nat.length_toDigits_le_iff (by decide) (by decide)).2 g.toNat_lt

theorem spellsGroup_groupChars (g : UInt16) : SpellsGroup g (groupChars g) where
  length_le := length_groupChars g
  spells := spells_toDigits (by decide) g.toNat

/-- **Groups with colons between them** are written groups, whatever is done to write a group. -/
theorem spellsGroups_join {write : UInt16 → List Char} (hwrite : ∀ g, SpellsGroup g (write g))
    (groups : List UInt16) : SpellsGroups true false groups (join [':'] (groups.map write)) := by
  have hmore : ∀ more, SpellsGroups false false more (more.flatMap fun g => ':' :: write g) := by
    intro more
    induction more with
    | nil => exact SpellsGroups.nil
    | cons g more ih => exact SpellsGroups.group (hwrite g) ih
  have hjoin : ∀ g more, join [':'] ((g :: more).map write) =
      write g ++ more.flatMap fun g => ':' :: write g := by
    intro g more
    induction more generalizing g with
    | nil => simp [join]
    | cons next more ih =>
      rw [List.map_cons, List.map_cons, join, ← List.map_cons, ih]
      · simp
      · simp
  cases groups with
  | nil => exact SpellsGroups.nil
  | cons g more =>
    rw [hjoin]
    exact SpellsGroups.group (hwrite g) (hmore more)

/-! ### The groups that are left out -/

theorem longestZeroRun_spec (groups : List UInt16) :
    zeroRun (groups.drop (longestZeroRun groups).1) = (longestZeroRun groups).2 ∨
      (longestZeroRun groups).2 = 0 := by
  refine List.foldlRecOn (motive := fun best : Nat × Nat => zeroRun (groups.drop best.1) = best.2 ∨
    best.2 = 0) _ _ (Or.inr rfl) fun best hbest i _ => ?_
  simp only
  split
  · exact Or.inl rfl
  · exact hbest

/-- **The groups that are left out are zeros.** -/
theorem longestZeroRun_zeros {groups : List UInt16} {start size : Nat}
    (h : longestZeroRun groups = (start, size)) (hsize : 1 < size) :
    groups = groups.take start ++ List.replicate size 0 ++ groups.drop (start + size) ∧
      start + size ≤ groups.length := by
  have hrun : ((groups.drop start).takeWhile (· == 0)).length = size := by
    have hspec := longestZeroRun_spec groups
    rw [h] at hspec
    exact hspec.resolve_right (by simp only; omega)
  have hzeros : (groups.drop start).takeWhile (· == 0) = List.replicate size 0 := by
    have hall := List.all_takeWhile (p := (· == 0)) (l := groups.drop start)
    rw [List.all_eq_true] at hall
    exact List.eq_replicate_iff.2 ⟨hrun, fun g hg => by simpa using hall g hg⟩
  have hsplit : groups.drop start = List.replicate size 0 ++ (groups.drop start).dropWhile (· == 0) := by
    rw [← hzeros, List.takeWhile_append_dropWhile]
  have hbehind : groups.drop (start + size) = (groups.drop start).dropWhile (· == 0) := by
    have hdrop := congrArg (List.drop size) hsplit
    rwa [List.drop_left' (List.length_replicate ..), List.drop_drop] at hdrop
  have hlength := congrArg List.length hsplit
  simp only [List.length_drop, List.length_append, List.length_replicate] at hlength
  refine ⟨?_, by omega⟩
  rw [hbehind, List.append_assoc, ← hsplit, List.take_append_drop]

/-! ### The canonical text -/

theorem toList_intercalate_groups (groups : List UInt16) :
    (":".intercalate (groups.map groupDigits)).toList = join [':'] (groups.map groupChars) := by
  rw [Text.toList_intercalate, List.map_map]
  congr 1
  apply List.map_congr_left
  intro g _
  exact String.toList_ofList

/-- The text of an address that is no IPv4 address in disguise. -/
theorem text_toList {x : Ipv6} (hmapped : x.mappedIpv4? = none) {start size : Nat}
    (hrun : longestZeroRun x.groups = (start, size)) :
    x.text.toList = if 1 < size then join [':'] ((x.groups.take start).map groupChars) ++
        ':' :: ':' :: join [':'] ((x.groups.drop (start + size)).map groupChars)
      else join [':'] (x.groups.map groupChars) := by
  simp only [text, hmapped, hrun]
  split
  · simp only [String.toList_append, toList_intercalate_groups]
    simp
  · exact toList_intercalate_groups _

/-- The groups of an IPv4 address in disguise. -/
theorem embeddedGroups_ofNat (g h : UInt16) :
    embeddedGroups (Ipv4.ofNat (g.toNat * 65536 + h.toNat)) = [g, h] := by
  have hg := g.toNat_lt
  have hh := h.toNat_lt
  have hoctet : ∀ n : Nat, n.toUInt8.toNat = n % 256 := fun _ => rfl
  have hgroup : ∀ (n : Nat) (k : UInt16), n = k.toNat → n.toUInt16 = k := by
    rintro n k rfl
    exact UInt16.ofNat_toNat
  simp only [embeddedGroups, Ipv4.ofNat, hoctet]
  rw [hgroup _ g (by omega), hgroup _ h (by omega)]

theorem mappedIpv4?_eq_some {x : Ipv6} {v4 : Ipv4} (h : x.mappedIpv4? = some v4) :
    x.groups = [0, 0, 0, 0, 0, 0xFFFF] ++ embeddedGroups v4 := by
  unfold mappedIpv4? at h
  split at h
  · next g k hgroups =>
    obtain rfl := Option.some.inj h
    rw [hgroups, embeddedGroups_ofNat]
    rfl
  · simp at h

/-- **The canonical text** is a spelling. -/
theorem spelling_text (x : Ipv6) : Spelling x x.text.toList := by
  have hsize := x.size_eq
  cases hmapped : x.mappedIpv4? with
  | some v4 =>
    have htext : x.text.toList = ':' :: ':' :: (groupChars 0xFFFF ++ ':' :: v4.text.toList) := by
      rw [text, hmapped, String.toList_append]
      rfl
    have htail : SpellsGroups true true (0xFFFF :: embeddedGroups v4)
        (groupChars 0xFFFF ++ ':' :: v4.text.toList) :=
      SpellsGroups.group (spellsGroup_groupChars _) (SpellsGroups.embedded v4)
    rw [htext]
    exact Spelling.compressed SpellsGroups.nil htail (by simp [embeddedGroups])
      (mappedIpv4?_eq_some hmapped)
  | none =>
    cases hrun : longestZeroRun x.groups with
    | mk start size =>
      rw [text_toList hmapped hrun]
      split
      · next hone =>
        obtain ⟨hgroups, hlength⟩ := longestZeroRun_zeros hrun hone
        rw [hsize] at hlength
        refine Spelling.compressed (spellsGroups_join spellsGroup_groupChars _)
          (spellsGroups_join spellsGroup_groupChars _) ?_ ?_
        · rw [List.length_take, List.length_drop, hsize]
          omega
        · rw [List.length_take, List.length_drop, hsize,
            show 8 - min start 8 - (8 - (start + size)) = size by omega, ← hgroups]
      · exact Spelling.full (spellsGroups_join spellsGroup_groupChars _)

/-- **The canonical text reads as the address.** -/
theorem ofText?_text (x : Ipv6) : ofText? x.text.toList = some x :=
  ofText?_of_spelling (spelling_text x)

/-! ### What spellings are made of -/

/-- **The characters of addresses:** hexadecimal digits, colons and points. -/
def isAddressChar (c : Char) : Bool :=
  isGroupDigit c || c == ':' || c == '.'

theorem isAddressChar_of_mem_dotted {octets : List UInt8} {c : Char} (h : c ∈ dotted octets) :
    isAddressChar c = true := by
  rcases mem_dotted h with hdigit | rfl
  · simp [isAddressChar, isGroupDigit_of_isDigit hdigit]
  · decide

/-- What written groups are made of: groups and colons, and an embedded address of four octets at the
end. -/
theorem SpellsGroups.takes {first embedded : Bool} {groups : List UInt16} {s : List Char}
    (h : SpellsGroups first embedded groups s) : ∃ u v, s = u ++ v ∧
      (∀ c ∈ u, isGroupDigit c = true ∨ c = ':') ∧ (∀ c ∈ v, c.isDigit = true ∨ c = '.') ∧
        (embedded = false → v = []) := by
  have hmark : ∀ first, ∀ c ∈ groupMark first, isGroupDigit c = true ∨ c = ':' := by
    intro first c hc
    cases first with
    | true => simp [groupMark] at hc
    | false => exact Or.inr (by simpa [groupMark] using hc)
  induction h with
  | nil => exact ⟨[], [], rfl, by simp, by simp, fun _ => rfl⟩
  | @group first embedded g groups w s hw _ ih =>
    obtain ⟨u, v, rfl, hu, hv, hplain⟩ := ih
    refine ⟨groupMark first ++ (w ++ u), v, by simp, fun c hc => ?_, hv, hplain⟩
    simp only [List.mem_append] at hc
    rcases hc with hc | hc | hc
    · exact hmark first c hc
    · exact Or.inl (hw.digits c hc)
    · exact hu c hc
  | @embedded first x =>
    refine ⟨groupMark first, x.text.toList, rfl, hmark first, fun c hc => ?_,
      fun h => Bool.noConfusion h⟩
    rw [Ipv4.text_toList] at hc
    exact mem_dotted hc

/-- **A text of an address** is made of groups and colons, and of four octets with points behind them. -/
theorem ofText?_takes {s : List Char} {x : Ipv6} (h : ofText? s = some x) :
    ∃ u v, s = u ++ v ∧ (∀ c ∈ u, isGroupDigit c = true ∨ c = ':') ∧
      ∀ c ∈ v, c.isDigit = true ∨ c = '.' := by
  cases ofText?_eq_some_iff.1 h with
  | full hs =>
    obtain ⟨u, v, rfl, hu, hv, -⟩ := hs.takes
    exact ⟨u, v, rfl, hu, hv⟩
  | compressed hhead htail _ _ =>
    obtain ⟨u, _, rfl, hu, -, hplain⟩ := hhead.takes
    obtain ⟨u', v, rfl, hu', hv, -⟩ := htail.takes
    rw [hplain rfl]
    refine ⟨u ++ ':' :: ':' :: u', v, by simp, fun c hc => ?_, hv⟩
    simp only [List.mem_append, List.mem_cons] at hc
    rcases hc with hc | rfl | rfl | hc
    · exact hu c hc
    · exact Or.inr rfl
    · exact Or.inr rfl
    · exact hu' c hc

/-- **A text of an address** has no other characters. -/
theorem isAddressChar_of_ofText? {s : List Char} {x : Ipv6} (h : ofText? s = some x) :
    ∀ c ∈ s, isAddressChar c = true := by
  obtain ⟨u, v, rfl, hu, hv⟩ := ofText?_takes h
  intro c hc
  rcases List.mem_append.1 hc with hc | hc
  · rcases hu c hc with hdigit | rfl
    · simp [isAddressChar, hdigit]
    · decide
  · rcases hv c hc with hdigit | rfl
    · simp [isAddressChar, isGroupDigit_of_isDigit hdigit]
    · decide

/-- Between groups stand colons, one less than groups, and one less again in front of an embedded
address. -/
theorem SpellsGroups.count_colon {first embedded : Bool} {groups : List UInt16} {s : List Char}
    (h : SpellsGroups first embedded groups s) : groups.length ≤
      s.count ':' + (if first then 1 else 0) + (if embedded then 1 else 0) := by
  induction h with
  | nil => exact Nat.zero_le _
  | @group first embedded g groups w s _ _ ih =>
    simp only [Bool.false_eq_true, if_false, List.length_cons, List.count_append] at ih ⊢
    cases first with
    | true =>
      rw [if_pos rfl]
      omega
    | false =>
      have hmark : (groupMark false).count ':' = 1 := rfl
      simp only [hmark, Bool.false_eq_true, if_false]
      omega
  | @embedded first x =>
    cases first with
    | true => simp [embeddedGroups]
    | false => simp [embeddedGroups, groupMark]

/-- **Where the colons of an address are:** two stand next to each other, or there are at least six. -/
theorem Spelling.colons {s : List Char} {x : Ipv6} (h : Spelling x s) :
    [':', ':'] <:+: s ∨ 6 ≤ s.count ':' := by
  cases h with
  | @compressed embedded head tail u v _ _ _ _ => exact Or.inl ⟨u, v, by simp⟩
  | @full embedded s hs =>
    have hcount := hs.count_colon
    rw [x.size_eq, if_pos rfl] at hcount
    refine Or.inr ?_
    split at hcount <;> omega

/-- **A text of an address** has a colon. -/
theorem colon_mem_of_ofText? {s : List Char} {x : Ipv6} (h : ofText? s = some x) : ':' ∈ s := by
  rcases (ofText?_eq_some_iff.1 h).colons with hinfix | hcount
  · exact hinfix.mem List.mem_cons_self
  · exact List.count_pos_iff.1 (by omega)

end DisplayFilter.Ipv6
