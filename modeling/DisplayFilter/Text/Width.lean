import DisplayFilter.Text.WidthTables

/-!
# The width of a text

How many cells a text takes on a display of equal cells. Each character counts on its own, except
that emoji are put together from several characters and are then two cells wide.

* `charWidth` — the width of a character on its own;
* `startsEmoji` — whether an emoji of two cells starts with a character;
* `width` — the width of a text.
-/

namespace DisplayFilter.Text

/-! ### Characters -/

/-- **The width of a character** on its own. One sign that stands for a whole word takes three
cells. -/
def charWidth (c : Char) : Nat :=
  if c.toNat < 0xA0 then 1
  else if c = '\u17d8' then 3
  else if inRuns zeroWidthRuns c then 0
  else if inRuns wideRuns c then 2
  else 1

/-- The selector that asks for an emoji of two cells. -/
def emojiSelector : Char := '\ufe0f'

/-- The character that joins two emoji to one. -/
def joiner : Char := '\u200d'

/-- A skin tone. -/
def isSkinTone (c : Char) : Bool :=
  0x1F3FB ≤ c.toNat && c.toNat ≤ 0x1F3FF

/-- **Whether an emoji of two cells starts** with a character, given the one behind it. -/
def startsEmoji (c : Char) (next : Option Char) : Bool :=
  if c.toNat < 0xA0 ∧ next ≠ some emojiSelector then false
  else
    inRuns emojiRuns c
      || (inRuns textEmojiRuns c && next == some emojiSelector)
      || (inRuns modifierBaseRuns c && next.any isSkinTone)

/-! ### Texts -/

/-- What stands in front of a character. -/
inductive Before where
  /-- Nothing that the character could belong to. -/
  | other
  /-- An emoji that a skin tone can follow, or not. -/
  | emoji (takesSkinTone : Bool)
  /-- An emoji with a joiner. -/
  | joined
  deriving DecidableEq, Repr

/-- The width of a text behind something. An emoji behind a joiner is part of the emoji in front. -/
def widthBehind : Before → List Char → Nat
  | _, [] => 0
  | before, c :: s =>
    if c = emojiSelector then widthBehind before s
    else if c = joiner then
      match before with
      | .emoji _ => widthBehind .joined s
      | _ => widthBehind .other s
    else if before = .emoji true ∧ isSkinTone c then widthBehind (.emoji false) s
    else if startsEmoji c s.head? then
      (if before = .joined then 0 else 2) + widthBehind (.emoji (inRuns modifierBaseRuns c)) s
    else charWidth c + widthBehind .other s

/-- **The width of a text.** -/
def width (s : List Char) : Nat :=
  widthBehind .other s

/-- The empty text has no width. -/
@[simp] theorem width_nil : width [] = 0 := rfl

end DisplayFilter.Text
