import DisplayFilter.Number.Reading

/-!
# IPv4 addresses

An address is four octets; its order is the order of the thirty-two bit number they spell.

* `Ipv4` — an address, `Ipv4.toNat` — its number;
* `Ipv4.text` — dotted decimal notation;
* `Ipv4.read?` — an address at the start of a text: four numbers of one to three digits, at most
  255 and without a leading zero;
* `Ipv4.ofText?` — an address that is the whole text.
-/

namespace DisplayFilter

/-- **An IPv4 address**, from its most significant octet to its least. -/
structure Ipv4 where
  a : UInt8
  b : UInt8
  c : UInt8
  d : UInt8
  deriving DecidableEq, Repr, Inhabited

namespace Ipv4

/-- The octets in order. -/
def octets (x : Ipv4) : List UInt8 :=
  [x.a, x.b, x.c, x.d]

/-- The number that the octets spell in base 256. -/
def toNat (x : Ipv4) : Nat :=
  x.a.toNat * 16777216 + x.b.toNat * 65536 + x.c.toNat * 256 + x.d.toNat

/-- The address of a number below `2 ^ 32`. -/
def ofNat (n : Nat) : Ipv4 :=
  ⟨(n / 16777216).toUInt8, (n / 65536).toUInt8, (n / 256).toUInt8, n.toUInt8⟩

/-- The order of addresses is that of their numbers. -/
protected def compare (x y : Ipv4) : Ordering :=
  Ord.compare x.toNat y.toNat

/-- Dotted decimal notation. -/
def text (x : Ipv4) : String :=
  ".".intercalate (x.octets.map (toString ·.toNat))

/-- One number of the notation. -/
def readOctet? (s : List Char) : Option (UInt8 × List Char) :=
  let digits := s.takeWhile Char.isDigit
  let value := decimalValue digits
  if digits.isEmpty || 3 < digits.length || 255 < value then none
  else if digits.head? = some '0' && 1 < digits.length then none
  else some (value.toUInt8, s.dropWhile Char.isDigit)

/-- One number behind a dot. -/
def readNextOctet? : List Char → Option (UInt8 × List Char)
  | '.' :: s => readOctet? s
  | _ => none

/-- **Reading.** An address at the start of a text, and the text behind it. -/
def read? (s : List Char) : Option (Ipv4 × List Char) := do
  let (a, s) ← readOctet? s
  let (b, s) ← readNextOctet? s
  let (c, s) ← readNextOctet? s
  let (d, s) ← readNextOctet? s
  pure (⟨a, b, c, d⟩, s)

/-- The address that a whole text denotes. -/
def ofText? (s : List Char) : Option Ipv4 :=
  match read? s with
  | some (x, []) => some x
  | _ => none

end Ipv4

end DisplayFilter
