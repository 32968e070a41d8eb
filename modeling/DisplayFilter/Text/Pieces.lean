/-!
# Pieces of a text

A separator character cuts a text into pieces, one more than there are separators.

* `pieces` — the pieces between the separators, `join` — the text with separators between pieces;
* `splitOnce` — the text in front of the first separator and the text behind it;
* `dropText?` — the text behind a given beginning, `dropCaseless?` — the same in any case of ASCII
  letters; `equalCaseless` — equality in any case of ASCII letters;
* `longestStart?` — the longest of some words that a text starts with;
* `contains` — whether a text occurs in another.
-/

namespace DisplayFilter.Text

/-- **Cutting.** The pieces of a text between the separators; there is at least one. -/
def pieces (separator : Char) : List Char → List (List Char)
  | [] => [[]]
  | c :: s =>
    if c = separator then [] :: pieces separator s
    else
      match pieces separator s with
      | [] => [[c]]
      | piece :: more => (c :: piece) :: more

/-- **Joining.** The pieces one after the other with a separator between neighbours. -/
def join (separator : List Char) : List (List Char) → List Char
  | [] => []
  | [piece] => piece
  | piece :: more => piece ++ separator ++ join separator more

/-- There is always a piece. -/
theorem pieces_ne_nil (separator : Char) (s : List Char) : pieces separator s ≠ [] := by
  cases s with
  | nil => simp [pieces]
  | cons c s =>
    unfold pieces
    split
    · simp
    · split <;> simp

/-- Joining the pieces of a text gives the text back. -/
theorem join_pieces (separator : Char) (s : List Char) :
    join [separator] (pieces separator s) = s := by
  induction s with
  | nil => rfl
  | cons c s ih =>
    unfold pieces
    split
    · next h =>
      subst h
      cases hp : pieces c s with
      | nil => exact absurd hp (pieces_ne_nil c s)
      | cons piece more => simp [join, ← hp, ih]
    · next h =>
      cases hp : pieces separator s with
      | nil => exact absurd hp (pieces_ne_nil separator s)
      | cons piece more =>
        rw [hp] at ih
        cases more with
        | nil => simpa [join] using ih
        | cons next rest => simpa [join] using ih

/-- The text in front of the first character that satisfies `p`, and the text behind it. -/
def splitOnce (p : Char → Bool) : List Char → Option (List Char × List Char)
  | [] => none
  | c :: s => if p c then some ([], s) else (splitOnce p s).map fun (a, b) => (c :: a, b)

/-- The text behind `word`, if the text starts with it. -/
def dropText? : List Char → List Char → Option (List Char)
  | [], s => some s
  | _ :: _, [] => none
  | c :: word, d :: s => if c = d then dropText? word s else none

/-- The text behind `word`, if the text starts with it up to the case of ASCII letters. -/
def dropCaseless? : List Char → List Char → Option (List Char)
  | [], s => some s
  | _ :: _, [] => none
  | c :: word, d :: s => if c.toLower = d.toLower then dropCaseless? word s else none

/-- Whether two texts are equal up to the case of ASCII letters. -/
def equalCaseless : List Char → List Char → Bool
  | [], [] => true
  | c :: s, d :: t => c.toLower == d.toLower && equalCaseless s t
  | _, _ => false

/-- The longer of two words, the second one if they are of one length. -/
def longer (best : Option String) (word : String) : Option String :=
  match best with
  | none => some word
  | some other => if other.length ≤ word.length then some word else some other

/-- **The longest of some words** that a text starts with. -/
def longestStart? (words : List String) (s : List Char) : Option String :=
  (words.filter fun word => (dropText? word.toList s).isSome).foldl longer none

/-- Dropping a beginning leaves what was appended to it. -/
@[simp] theorem dropText?_append (word s : List Char) : dropText? word (word ++ s) = some s := by
  induction word with
  | nil => cases s <;> rfl
  | cons c word ih => simp [dropText?, ih]

/-- What is left is what follows the beginning. -/
theorem eq_append_of_dropText? {word s rest : List Char} (h : dropText? word s = some rest) :
    s = word ++ rest := by
  induction word generalizing s with
  | nil => simpa [dropText?] using h
  | cons c word ih =>
    cases s with
    | nil => simp [dropText?] at h
    | cons d s =>
      simp only [dropText?] at h
      split at h
      · next hcd => subst hcd; rw [ih h]; rfl
      · simp at h

/-- Whether `word` occurs in a text. -/
def contains (word : List Char) : List Char → Bool
  | [] => word.isEmpty
  | c :: s => (dropText? word (c :: s)).isSome || contains word s

end DisplayFilter.Text
