import DisplayFilter.Address.Ipv4

/-!
# IPv6 addresses

An address is eight groups of sixteen bits. Many texts denote the same address: a run of zero
groups may be left out once, and the last two groups may be written as an IPv4 address.

* `Ipv6` — an address, `Ipv6.toNat` — its number;
* `Ipv6.ofText?` — the address that a whole text denotes;
* `Ipv6.text` — the canonical text: lower case, the first longest run of two or more zero groups
  left out, IPv4-mapped addresses with a dotted tail;
* `Ipv6.exploded` — all eight groups with four digits each.
-/

namespace DisplayFilter

/-- **An IPv6 address**, from its most significant group to its least. -/
structure Ipv6 where
  groups : List UInt16
  size_eq : groups.length = 8
  deriving DecidableEq, Repr

namespace Ipv6

/-- The address of eight groups. -/
def ofGroups? (groups : List UInt16) : Option Ipv6 :=
  if h : groups.length = 8 then some ⟨groups, h⟩ else none

/-- The number that the groups spell in base 65536. -/
def toNat (x : Ipv6) : Nat :=
  x.groups.foldl (fun n g => n * 65536 + g.toNat) 0

/-- The order of addresses is that of their numbers. -/
protected def compare (x y : Ipv6) : Ordering :=
  Ord.compare x.toNat y.toNat

/-! ### Reading -/

/-- A group: one to four hexadecimal digits. -/
def readGroup? (s : List Char) : Option (UInt16 × List Char) :=
  let isHex := fun c => (digitValue? 16 c).isSome
  let digits := s.takeWhile isHex
  if 4 < digits.length then none
  else (digitsValue? 16 digits).map fun n => (n.toUInt16, s.dropWhile isHex)

/-- What a run of groups consists of. -/
structure Groups where
  groups : List UInt16
  /-- Whether the run ended with an embedded IPv4 address. -/
  embedded : Bool
  rest : List Char

/-- The two groups of an embedded IPv4 address. -/
def embeddedGroups (x : Ipv4) : List UInt16 :=
  [(x.a.toNat * 256 + x.b.toNat).toUInt16, (x.c.toNat * 256 + x.d.toNat).toUInt16]

/-- The text behind the colon that precedes every group but the first. -/
def afterSeparator? (first : Bool) (s : List Char) : Option (List Char) :=
  if first then some s
  else
    match s with
    | ':' :: t => some t
    | _ => none

/-- **A run of groups.** At most `limit` groups with colons between them; an IPv4 address stands
for the last two. -/
def readGroups : Nat → Bool → List Char → Groups
  | 0, _, s => ⟨[], false, s⟩
  | limit + 1, first, s =>
    match afterSeparator? first s with
    | none => ⟨[], false, s⟩
    | some body =>
      match if limit = 0 then none else Ipv4.read? body with
      | some (v4, rest) => ⟨embeddedGroups v4, true, rest⟩
      | none =>
        match readGroup? body with
        | none => ⟨[], false, s⟩
        | some (g, rest) =>
          let more := readGroups limit false rest
          ⟨g :: more.groups, more.embedded, more.rest⟩

/-- An address at the start of a text, and the text behind it. -/
def read? (s : List Char) : Option (Ipv6 × List Char) :=
  let head := readGroups 8 true s
  if head.groups.length = 8 then (ofGroups? head.groups).map (·, head.rest)
  else if head.embedded then none
  else
    match head.rest with
    | ':' :: ':' :: t =>
      let tail := readGroups (7 - head.groups.length) true t
      let zeros := List.replicate (8 - head.groups.length - tail.groups.length) 0
      (ofGroups? (head.groups ++ zeros ++ tail.groups)).map (·, tail.rest)
    | _ => none

/-- The address that a whole text denotes. -/
def ofText? (s : List Char) : Option Ipv6 :=
  match read? s with
  | some (x, []) => some x
  | _ => none

/-! ### Writing -/

/-- The hexadecimal digits of a group. -/
def groupDigits (g : UInt16) : String :=
  String.ofList (Nat.toDigits 16 g.toNat)

/-- **Exploded form.** Eight groups of four hexadecimal digits. -/
def exploded (x : Ipv6) : String :=
  ":".intercalate <| x.groups.map fun g =>
    let digits := Nat.toDigits 16 g.toNat
    String.ofList (List.replicate (4 - digits.length) '0' ++ digits)

/-- How many zero groups the list starts with. -/
def zeroRun (groups : List UInt16) : Nat :=
  (groups.takeWhile (· == 0)).length

/-- Where the first longest run of zero groups starts and how long it is. -/
def longestZeroRun (groups : List UInt16) : Nat × Nat :=
  (List.range groups.length).foldl
    (fun best i =>
      let n := zeroRun (groups.drop i)
      if best.2 < n then (i, n) else best)
    (0, 0)

/-- The IPv4 address mapped into `::ffff:0:0/96`, if there is one. -/
def mappedIpv4? (x : Ipv6) : Option Ipv4 :=
  match x.groups with
  | [0, 0, 0, 0, 0, 0xFFFF, g, h] => some (Ipv4.ofNat (g.toNat * 65536 + h.toNat))
  | _ => none

/-- **Canonical text.** -/
def text (x : Ipv6) : String :=
  match x.mappedIpv4? with
  | some v4 => "::ffff:" ++ v4.text
  | none =>
    let join := fun groups => ":".intercalate (groups.map groupDigits)
    let (start, size) := longestZeroRun x.groups
    if 1 < size then join (x.groups.take start) ++ "::" ++ join (x.groups.drop (start + size))
    else join x.groups

end Ipv6

end DisplayFilter
