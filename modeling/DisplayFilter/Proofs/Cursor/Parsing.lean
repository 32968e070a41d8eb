import DisplayFilter.Proofs.Cursor.Grammar

/-!
# Parsing never leaves a boundary

The parser is run with a cursor in the text.  Every position that the cursor takes, going back included, and
every place at which the text is cut is checked to be between two characters; reading has a bound on its
loops and its levels of nesting.  No check ever fails.

* `Parser.checkedParse` — parsing with a cursor, with all checks;
* **`parse_onBoundaries`** — it answers what the parser answers, and the positions of errors are boundaries;
* `parse_position_of_piece` — the position in the reason for a bad address is one of the bad piece.
-/

namespace DisplayFilter

open Text

/-- **Parsing with a cursor** in the text: a blank text has the empty tree.  A check that fails ends
all. -/
def Parser.checkedParse (p : Parser) (text : String) :
    Except CursorFailure (Except ParseError FilterTree) :=
  if (trim text.toList).isEmpty then .ok (.ok [])
  else
    match Scan.filter p text.toList 0 with
    | .error failure => .error failure
    | .ok (result, _) => .ok (result.mapError fun fault => ⟨text, fault⟩)

/-- **Parsing never leaves a boundary.** -/
theorem parse_onBoundaries (p : Parser) (text : String) :
    p.checkedParse text = .ok (p.parse text) ∧
      ∀ e, p.parse text = .error e → e.filter = text ∧ e.fault.OnBoundaries text.toList := by
  have hfilter := tracks_filter p text.toList
  rw [bytePosition_self] at hfilter
  have htrim : (trim text.toList).isEmpty = (trimStart text.toList).isEmpty := by
    rw [Bool.eq_iff_iff, List.isEmpty_iff, List.isEmpty_iff, trim_eq_nil_iff]
  rw [Parser.checkedParse, Parser.parse, htrim]
  by_cases hblank : (trimStart text.toList).isEmpty = true
  · rw [if_pos hblank, if_pos hblank]
    exact ⟨rfl, fun e he => nomatch he⟩
  · rw [if_neg hblank, if_neg hblank]
    cases hread : p.parseChars (trimStart text.toList) with
    | ok tree =>
      rw [hread] at hfilter
      cases hfilter with
      | ok hrest hrun =>
        rw [hrun]
        exact ⟨rfl, fun e he => nomatch he⟩
    | error fault =>
      rw [hread] at hfilter
      cases hfilter with
      | error he hrun =>
        obtain ⟨rfl, hplaces⟩ := he
        rw [hrun]
        refine ⟨rfl, ?_⟩
        intro e herror
        obtain rfl := Except.error.inj herror
        exact ⟨rfl, hplaces⟩

/-- A filter that ends too early, behind a character of two bytes. -/
theorem parse_onBoundaries_twoBytes :
    ({} : Parser).parse "a == 'é' and (" = .error ⟨"a == 'é' and (", .expectedField 15⟩ ∧
      IsBoundary "a == 'é' and (".toList 15 := by
  have hparse : ({} : Parser).parse "a == 'é' and (" =
      .error ⟨"a == 'é' and (", .expectedField 15⟩ := by
    set_option maxRecDepth 4096 in rfl
  exact ⟨hparse, ((parse_onBoundaries _ _).2 _ hparse).2⟩

/-- **The position in the reason for a bad address** counts from the start of the piece that is named with it:
in the text it may be inside of a character. -/
theorem parse_position_of_piece :
    ({ fieldNames := ["aé"] } : Parser).parse "aé in \x7b1..x\x7d" =
        .error ⟨"aé in \x7b1..x\x7d", .literal (.invalidAddress "1..x" (.expectedOctet 2))⟩ ∧
      ¬ IsBoundary "aé in \x7b1..x\x7d".toList 2 := by
  constructor
  · set_option maxRecDepth 4096 in rfl
  · decide

end DisplayFilter
