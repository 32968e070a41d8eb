import DisplayFilter.Address.Ipv6
import DisplayFilter.Slice.Cutting
import DisplayFilter.Text.Escape
import DisplayFilter.Value.Text

/-!
# Slicers

Addresses are sliced by their groups, everything else by characters. A slicer recognises the values
of one kind and writes them out with a separator between the groups.

* `Sliceable` — a text with its separator, `Slicer` — how values of a kind become one;
* `Slicer.mac`, `Slicer.ipv4`, `Slicer.ipv6` — the known slicers;
* `SlicerSet.prepare` — the first slicer that recognises a value prepares it;
* `SlicerSet.slice` — the slice of a value.
-/

namespace DisplayFilter

/-- **A text to be sliced.** Bounds count the chunks between separators, or characters if there is
none. -/
structure Sliceable where
  text : List Char
  separator : Option Char
  deriving DecidableEq, Repr

/-- **A slicer** prepares the values of one kind and leaves all others alone. -/
structure Slicer where
  name : String
  prepare : Value → Option Sliceable

/-- Slicers in the order in which they are tried. -/
abbrev SlicerSet := List Slicer

/-! ### Hardware addresses -/

/-- A hexadecimal digit of either case. -/
def isHexDigit (c : Char) : Bool :=
  (Text.hexValue? c).isSome

/-- Whether a text consists of `count` groups, each a separator and two hexadecimal digits. -/
def isMacTail (separator : Char) : Nat → List Char → Bool
  | 0, [] => true
  | count + 1, c :: a :: b :: s =>
    c == separator && isHexDigit a && isHexDigit b && isMacTail separator count s
  | _, _ => false

/-- **Hardware addresses:** six groups of two hexadecimal digits with one kind of separator, a
colon, a dash or a point. The answer is the separator. -/
def macSeparator? : List Char → Option Char
  | a :: b :: c :: s =>
    if isHexDigit a && isHexDigit b && (c == ':' || c == '-' || c == '.')
        && isMacTail c 5 (c :: s) then
      some c
    else none
  | _ => none

/-! ### The known slicers -/

namespace Slicer

/-- Hardware addresses, with the separator they are written with. -/
def mac : Slicer where
  name := "mac"
  prepare v := (macSeparator? v.chars).map fun c => ⟨v.chars, some c⟩

/-- The IPv4 address of a value or of its text. -/
def ipv4Of? : Value → Option Ipv4
  | .ipv4 x => some x
  | v => Ipv4.ofText? v.chars

/-- IPv4 addresses by octets. -/
def ipv4 : Slicer where
  name := "ipv4"
  prepare v := (ipv4Of? v).map fun x => ⟨x.text.toList, some '.'⟩

/-- The IPv6 address of a value or of its text. -/
def ipv6Of? : Value → Option Ipv6
  | .ipv6 x => some x
  | v => Ipv6.ofText? v.chars

/-- IPv6 addresses by the groups of their exploded form. -/
def ipv6 : Slicer where
  name := "ipv6"
  prepare v := (ipv6Of? v).map fun x => ⟨x.exploded.toList, some ':'⟩

/-- Every slicer, as they are tried by default. -/
def all : SlicerSet :=
  [mac, ipv4, ipv6]

end Slicer

namespace SlicerSet

/-- **Preparing.** The first slicer that recognises a value prepares it; a value that none
recognises is sliced by the characters of its text. -/
def prepare (slicers : SlicerSet) (v : Value) : Sliceable :=
  (slicers.findSome? (·.prepare v)).getD ⟨v.chars, none⟩

/-- **Slicing a value.** Null stays null, lists and maps have no slices, and every other value is
sliced through its text. -/
def slice (slicers : SlicerSet) (slice : Slice) : Value → Except SliceError Value
  | .null => .ok .null
  | .list _ => .error (.unsliceable .list)
  | .map _ => .error (.unsliceable .map)
  | v => do
    let prepared := slicers.prepare v
    let picked ← slice.pick prepared.separator prepared.text
    pure (.string (String.ofList picked))

end SlicerSet

end DisplayFilter
