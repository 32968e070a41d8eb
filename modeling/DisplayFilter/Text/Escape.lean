import DisplayFilter.Text.Utf8

/-!
# Escaped texts

A text of a filter may name characters by number: `\x4e` stands for the character with code
`4e`, and a text of such codes below 256 is read as the bytes of a text where it can be.

* `escapedCode?` — the number of two characters behind `\x`;
* `unescape` — a text with its escapes replaced, from left to right;
* `latin1?` — the codes of a text as bytes, if all of them are below 256;
* `decoded` — the text that an escaped text stands for.
-/

namespace DisplayFilter.Text

/-- The value of a hexadecimal digit of either case. -/
def hexValue? (c : Char) : Option Nat :=
  let n := c.toNat
  if 48 ≤ n ∧ n ≤ 57 then some (n - 48)
  else if 97 ≤ n ∧ n ≤ 102 then some (n - 87)
  else if 65 ≤ n ∧ n ≤ 70 then some (n - 55)
  else none

/-- **The number behind `\x`:** two hexadecimal digits, or a plus sign and one. -/
def escapedCode? (a b : Char) : Option Nat :=
  if a = '+' then hexValue? b
  else
    match hexValue? a, hexValue? b with
    | some m, some n => some (16 * m + n)
    | _, _ => none

/-- **Unescaping.** Every escape is replaced by its character; a `\x` without a number behind it
stays. -/
def unescape : List Char → List Char
  | [] => []
  | '\\' :: 'x' :: a :: b :: s =>
    match escapedCode? a b with
    | some n => Char.ofNat n :: unescape s
    | none => '\\' :: unescape ('x' :: a :: b :: s)
  | c :: s => c :: unescape s

/-- The codes of a text as bytes, if all of them are below 256. -/
def latin1? : List Char → Option (List UInt8)
  | [] => some []
  | c :: s => if c.toNat < 256 then (latin1? s).map (c.toNat.toUInt8 :: ·) else none

/-- **Decoding.** The escapes are replaced, and the result is read as bytes where its codes are the
bytes of a text. -/
def decoded (s : List Char) : List Char :=
  match (latin1? (unescape s)).bind decode? with
  | some t => t
  | none => unescape s

end DisplayFilter.Text
