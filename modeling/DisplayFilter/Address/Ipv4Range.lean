import DisplayFilter.Address.Ipv4
import DisplayFilter.Number.Layout
import DisplayFilter.Text.Pieces

/-!
# Ranges of IPv4 addresses

A range says for each octet of an address which numbers are in it.

* `OctetInterval`, `OctetSet` — the numbers admitted at one place of an address;
* `Ipv4Range` — one set for each octet, `Ipv4Range.contains` — membership;
* `Ipv4Range.mask`, `Ipv4Range.ofPrefixLength?` — the addresses of a block, octet by octet;
* `Ipv4Range.text` — a range as it is written in a filter.
-/

namespace DisplayFilter

/-! ### Octets -/

/-- The octets from `low` to `high`, both included. -/
structure OctetInterval where
  low : UInt8
  high : UInt8
  deriving DecidableEq, Repr

namespace OctetInterval

/-- Whether an octet lies between the ends. -/
def contains (x : OctetInterval) (octet : UInt8) : Bool :=
  x.low ≤ octet && octet ≤ x.high

/-- All octets. -/
def full : OctetInterval :=
  ⟨0, 255⟩

/-- The octet alone. -/
def single (octet : UInt8) : OctetInterval :=
  ⟨octet, octet⟩

/-- The text of an interval: an octet, or two with a dash. -/
def chars (x : OctetInterval) : List Char :=
  if x.low = x.high then decimalDigits x.low.toNat
  else decimalDigits x.low.toNat ++ '-' :: decimalDigits x.high.toNat

end OctetInterval

/-- **The octets admitted at one place** of an address. -/
abbrev OctetSet := List OctetInterval

namespace OctetSet

/-- Whether an octet is admitted. -/
def contains (set : OctetSet) (octet : UInt8) : Bool :=
  set.any (·.contains octet)

/-- The only octet of a set that is one interval of one octet. -/
def single? : OctetSet → Option UInt8
  | [x] => if x.low = x.high then some x.low else none
  | _ => none

/-- The text of a set: an asterisk for all octets, else its intervals with commas. -/
def chars (set : OctetSet) : List Char :=
  if set = [.full] then ['*'] else Text.join [','] (set.map OctetInterval.chars)

end OctetSet

/-! ### Addresses -/

/-- **A range of addresses:** the octets admitted at each place. -/
structure Ipv4Range where
  first : OctetSet
  second : OctetSet
  third : OctetSet
  fourth : OctetSet
  deriving DecidableEq, Repr

namespace Ipv4Range

/-- The sets in the order of the octets. -/
def sets (r : Ipv4Range) : List OctetSet :=
  [r.first, r.second, r.third, r.fourth]

/-- **Membership:** every octet of the address is admitted at its place. -/
def contains (r : Ipv4Range) (x : Ipv4) : Bool :=
  r.first.contains x.a && r.second.contains x.b && r.third.contains x.c && r.fourth.contains x.d

/-- The address of a range that admits one octet at each place. -/
def address? (r : Ipv4Range) : Option Ipv4 := do
  pure ⟨← r.first.single?, ← r.second.single?, ← r.third.single?, ← r.fourth.single?⟩

/-- The addresses whose octets lie, place by place, between those of two addresses. -/
def between (low high : Ipv4) : Ipv4Range :=
  ⟨[⟨low.a, high.a⟩], [⟨low.b, high.b⟩], [⟨low.c, high.c⟩], [⟨low.d, high.d⟩]⟩

/-- The mask of a prefix: as many ones as it is long, and zeros behind them. A shift by all
thirty-two bits would leave the word as it is. -/
def mask (length : Nat) : UInt32 :=
  if length = 0 then 0 else 0xFFFFFFFF <<< (32 - length).toUInt32

/-- **Blocks:** the addresses from the one whose bits behind the first `length` are zeros to the one
whose bits behind them are ones. There are no more than thirty-two bits. -/
def ofPrefixLength? (x : Ipv4) (length : Nat) : Option Ipv4Range :=
  if 32 < length then none
  else
    let word := x.toNat.toUInt32
    some (between (.ofNat (word &&& mask length).toNat) (.ofNat (word ||| ~~~mask length).toNat))

/-- **The text of a range:** its sets with points between them. -/
def text (r : Ipv4Range) : String :=
  String.ofList (Text.join ['.'] (r.sets.map OctetSet.chars))

end Ipv4Range

end DisplayFilter
