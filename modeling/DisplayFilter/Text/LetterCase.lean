import DisplayFilter.Text.CaseTables

/-!
# Letter case

A text in lower or upper case has each letter replaced by one or more letters. One letter looks at
its neighbours: a capital sigma at the end of a word becomes a final sigma.

* `lowerChar`, `upperChar` — the letters of the other case of one letter;
* `isFinalSigma` — whether a sigma ends a word;
* `lower`, `upper` — texts in lower and in upper case.
-/

namespace DisplayFilter.Text

/-- The letters that a letter is mapped to: an expansion, a shifted letter or the letter itself. -/
def mapCase (expansions : List (Nat × List Nat)) (runs : List ShiftRun) (c : Char) : List Char :=
  match expansions.find? (·.1 == c.toNat) with
  | some (_, letters) => letters.map Char.ofNat
  | none => [(shifted? runs c).getD c]

/-- The lower case of a letter. -/
def lowerChar : Char → List Char :=
  mapCase lowerExpansions lowerRuns

/-- The upper case of a letter. -/
def upperChar : Char → List Char :=
  mapCase upperExpansions upperRuns

/-- Whether the first character that does not count in casing is a cased one. -/
def startsCased (s : List Char) : Bool :=
  (s.dropWhile (inRuns caseIgnorableRuns)).head?.any (inRuns casedRuns)

/-- **The final sigma.** A sigma ends a word if a cased letter stands before it and none behind it,
characters that do not count in casing apart. `before` is read backwards. -/
def isFinalSigma (before after : List Char) : Bool :=
  startsCased before && !startsCased after

/-- The lower case of a text behind `before`, which is read backwards. -/
def lowerFrom : List Char → List Char → List Char
  | _, [] => []
  | before, c :: s =>
    let letters := if c = 'Σ' then [if isFinalSigma before s then 'ς' else 'σ'] else lowerChar c
    letters ++ lowerFrom (c :: before) s

/-- **A text in lower case.** -/
def lower (s : List Char) : List Char :=
  lowerFrom [] s

/-- **A text in upper case.** -/
def upper (s : List Char) : List Char :=
  s.flatMap upperChar

end DisplayFilter.Text
