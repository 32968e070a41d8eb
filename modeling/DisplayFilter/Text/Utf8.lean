/-!
# Texts as bytes

Positions in a filter are counted in bytes of its UTF-8 form, and an escaped literal names bytes.
This file has the byte form of a text and the way back.

* `utf8Size` — how many bytes a text takes, `utf8Size_append` — sizes add up;
* `dropBytes?` — the rest of a text from a byte position, if a character starts there;
* `encode` — the bytes of a text;
* `decode?` — the text of some bytes, if they are well-formed UTF-8 (no overlong form, no
  surrogate, nothing above U+10FFFF).
-/

namespace DisplayFilter.Text

/-- **Byte length.** The number of bytes that a text takes in UTF-8. -/
def utf8Size : List Char → Nat
  | [] => 0
  | c :: s => c.utf8Size + utf8Size s

@[simp] theorem utf8Size_nil : utf8Size [] = 0 := rfl

@[simp] theorem utf8Size_cons (c : Char) (s : List Char) :
    utf8Size (c :: s) = c.utf8Size + utf8Size s := rfl

/-- The size of two texts in a row is the sum of their sizes. -/
@[simp] theorem utf8Size_append (s t : List Char) :
    utf8Size (s ++ t) = utf8Size s + utf8Size t := by
  induction s with
  | nil => simp
  | cons c s ih => simp [ih, Nat.add_assoc]

/-- The rest of `s` from byte `n` on, or nothing if `n` is inside a character or behind the end. -/
def dropBytes? : Nat → List Char → Option (List Char)
  | 0, s => some s
  | _ + 1, [] => none
  | n + 1, c :: s => if c.utf8Size ≤ n + 1 then dropBytes? (n + 1 - c.utf8Size) s else none

/-- The position of `rest` in `text`, in bytes, where `rest` is an end piece of `text`. -/
def bytePosition (text rest : List Char) : Nat :=
  utf8Size text - utf8Size rest

/-- The bytes of one character. -/
def encodeChar (c : Char) : List UInt8 :=
  let n := c.toNat
  if n < 0x80 then [n.toUInt8]
  else if n < 0x800 then [(0xC0 + n / 0x40).toUInt8, (0x80 + n % 0x40).toUInt8]
  else if n < 0x10000 then
    [(0xE0 + n / 0x1000).toUInt8, (0x80 + n / 0x40 % 0x40).toUInt8, (0x80 + n % 0x40).toUInt8]
  else
    [(0xF0 + n / 0x40000).toUInt8, (0x80 + n / 0x1000 % 0x40).toUInt8,
      (0x80 + n / 0x40 % 0x40).toUInt8, (0x80 + n % 0x40).toUInt8]

/-- The bytes of a text. -/
def encode (s : List Char) : List UInt8 :=
  s.flatMap encodeChar

/-- The low six bits of a continuation byte, `10xxxxxx`. -/
def continuation? (b : UInt8) : Option Nat :=
  if 0x80 ≤ b.toNat ∧ b.toNat < 0xC0 then some (b.toNat - 0x80) else none

/-- The character of code point `n`, if `n` is at least `least` and no surrogate. -/
def scalar? (least n : Nat) : Option Char :=
  if least ≤ n ∧ n.isValidChar then some (Char.ofNat n) else none

/-- The first character of some bytes and the bytes behind it. -/
def decodeChar? : List UInt8 → Option (Char × List UInt8)
  | [] => none
  | a :: r =>
    let n := a.toNat
    if n < 0x80 then some (Char.ofNat n, r)
    else if n < 0xC0 then none
    else if n < 0xE0 then
      match r with
      | b :: r => do
        let b ← continuation? b
        let c ← scalar? 0x80 ((n - 0xC0) * 0x40 + b)
        pure (c, r)
      | _ => none
    else if n < 0xF0 then
      match r with
      | b :: c :: r => do
        let b ← continuation? b
        let c ← continuation? c
        let ch ← scalar? 0x800 ((n - 0xE0) * 0x1000 + b * 0x40 + c)
        pure (ch, r)
      | _ => none
    else if n < 0xF8 then
      match r with
      | b :: c :: d :: r => do
        let b ← continuation? b
        let c ← continuation? c
        let d ← continuation? d
        let ch ← scalar? 0x10000 ((n - 0xF0) * 0x40000 + b * 0x1000 + c * 0x40 + d)
        pure (ch, r)
      | _ => none
    else none

/-- Decode at most `fuel` characters; each one takes at least a byte. -/
def decodeUpTo? : Nat → List UInt8 → Option (List Char)
  | _, [] => some []
  | 0, _ :: _ => none
  | fuel + 1, bytes => do
    let (c, rest) ← decodeChar? bytes
    let s ← decodeUpTo? fuel rest
    pure (c :: s)

/-- **Decoding.** The text whose UTF-8 form is `bytes`, if they are well-formed. -/
def decode? (bytes : List UInt8) : Option (List Char) :=
  decodeUpTo? bytes.length bytes

end DisplayFilter.Text
