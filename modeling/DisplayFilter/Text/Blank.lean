/-!
# Blank and control characters

Two character classes that decide where a word of filter text ends, and the trimming of blanks
from both ends of a text.

* `isBlank` — the characters of the Unicode property White_Space;
* `isControl` — the Unicode control characters, category Cc;
* `trimStart`, `trimEnd`, `trim` — a text without the blanks at one end or at both.
-/

namespace DisplayFilter.Text

/-- **White space.** The twenty-five code points of the Unicode property White_Space. -/
def isBlank (c : Char) : Bool :=
  let n := c.toNat
  (9 ≤ n && n ≤ 13) || n == 0x20 || n == 0x85 || n == 0xA0 || n == 0x1680
    || (0x2000 ≤ n && n ≤ 0x200A) || n == 0x2028 || n == 0x2029 || n == 0x202F
    || n == 0x205F || n == 0x3000

/-- **Control characters.** The two blocks of category Cc, with the delete character. -/
def isControl (c : Char) : Bool :=
  let n := c.toNat
  n < 0x20 || (0x7F ≤ n && n < 0xA0)

/-- A text without the blanks it starts with. -/
def trimStart (s : List Char) : List Char :=
  s.dropWhile isBlank

/-- A text without the blanks it ends with. -/
def trimEnd (s : List Char) : List Char :=
  (s.reverse.dropWhile isBlank).reverse

/-- A text without the blanks at either end. -/
def trim (s : List Char) : List Char :=
  trimEnd (trimStart s)

@[simp] theorem trim_nil : trim [] = [] := rfl

end DisplayFilter.Text
