import DisplayFilter.Address.Ipv4Range
import DisplayFilter.Lexeme

/-!
# Reading ranges of IPv4 addresses

A range is written as an address `127.0.0.1`, as a block `192.168.0.1/24`, or with intervals, lists
and asterisks in the place of octets, `192.168-169.*.1,2,3`.

* `RangeFault` — what is wrong with a range and where, `RangeFault.message` — its wording;
* `OctetInterval.read` — one interval, `OctetSet.read` — the intervals at one place;
* `Ipv4Range.read` — a range at the start of a text.
-/

namespace DisplayFilter

/-- **What is wrong with a range.** Places are texts left to read, or positions. -/
inductive RangeFault (ℓ : Type) where
  | expectedOctets (place : ℓ)
  | expectedOctet (place : ℓ)
  | octetTooLarge (digits : String)
  | emptyInterval (low high : UInt8)
  | expectedLength (place : ℓ)
  | lengthOfMany
  | invalidLength (length : Int64)
  deriving DecidableEq

namespace RangeFault

/-- The fault with its place seen in another way. -/
def mapPlace {ℓ ℓ' : Type} (f : ℓ → ℓ') : RangeFault ℓ → RangeFault ℓ'
  | expectedOctets place => expectedOctets (f place)
  | expectedOctet place => expectedOctet (f place)
  | octetTooLarge digits => octetTooLarge digits
  | emptyInterval low high => emptyInterval low high
  | expectedLength place => expectedLength (f place)
  | lengthOfMany => lengthOfMany
  | invalidLength length => invalidLength length

/-- The wording of a fault. -/
def message : RangeFault Nat → String
  | expectedOctets place => "expected four octets at position " ++ toString place
  | expectedOctet place => "expected octet at position " ++ toString place
  | octetTooLarge digits => "octet " ++ digits ++ " out of range"
  | emptyInterval low high =>
    "empty octet range " ++ toString low.toNat ++ "-" ++ toString high.toNat
  | expectedLength place => "expected prefix length at position " ++ toString place
  | lengthOfMany => "a prefix length requires a plain address"
  | invalidLength length => "invalid prefix length /" ++ integerText length.toInt

end RangeFault

/-- Why and where reading a range ended early. -/
abbrev RangeStop := Stop (RangeFault (List Char))

/-- A number below 256. -/
def readOctet (s : List Char) : Except RangeStop (UInt8 × List Char) :=
  let digits := s.takeWhile Char.isDigit
  if digits.isEmpty then .error ⟨.expectedOctet s, s⟩
  else if 255 < decimalValue digits then .error ⟨.octetTooLarge (String.ofList digits), s⟩
  else .ok ((decimalValue digits).toUInt8, s.dropWhile Char.isDigit)

/-- **One interval:** an asterisk, an octet, or two with a dash between them. A dash without an
octet behind it is not read. -/
def OctetInterval.read : List Char → Except RangeStop (OctetInterval × List Char)
  | '*' :: s => .ok (.full, s)
  | s => do
    let (low, rest) ← readOctet s
    match rest with
    | '-' :: t =>
      match readOctet t with
      | .ok (high, t) =>
        if low ≤ high then .ok (⟨low, high⟩, t) else .error ⟨.emptyInterval low high, t⟩
      | .error _ => .ok (.single low, rest)
    | _ => .ok (.single low, rest)

/-- Whether a text starts, behind blanks, with digits and a point. -/
def startsAddress (s : List Char) : Bool :=
  let t := Text.trimStart s
  t.head?.any Char.isDigit && (t.dropWhile Char.isDigit).head? == some '.'

/-- Whether an interval may start here. -/
def startsInterval (s : List Char) : Bool :=
  s.head?.any fun c => c.isDigit || c == '*'

/-- **The intervals at one place** with commas between them. A comma that no interval follows is
not read, and at the last place neither is one that an address follows: it separates two ranges.
An interval takes a character at least, so that `fuel` characters hold no more of them. -/
def OctetSet.readUpTo (last : Bool) : Nat → List Char → Except RangeStop (OctetSet × List Char)
  | 0, s => .error ⟨.expectedOctet s, s⟩
  | fuel + 1, s => do
    let (x, rest) ← OctetInterval.read s
    match rest with
    | ',' :: t =>
      if (last && startsAddress t) || !startsInterval t then .ok ([x], rest)
      else do
        let (more, rest) ← readUpTo last fuel t
        pure (x :: more, rest)
    | _ => .ok ([x], rest)

/-- The intervals at one place of an address. -/
def OctetSet.read (last : Bool) (s : List Char) : Except RangeStop (OctetSet × List Char) :=
  OctetSet.readUpTo last (s.length + 1) s

/-- The intervals at one place behind a point; `start` is where the range starts. -/
def OctetSet.readNext (start : List Char) (last : Bool) :
    List Char → Except RangeStop (OctetSet × List Char)
  | '.' :: s => OctetSet.read last s
  | _ => .error ⟨.expectedOctets start, start⟩

/-- The intervals at the four places. -/
def Ipv4Range.readOctets (start : List Char) : Except RangeStop (Ipv4Range × List Char) := do
  let (first, s) ← OctetSet.read false start
  let (second, s) ← OctetSet.readNext start false s
  let (third, s) ← OctetSet.readNext start false s
  let (fourth, s) ← OctetSet.readNext start true s
  pure (⟨first, second, third, fourth⟩, s)

/-- The block of a plain address and a prefix length as it was read. -/
def Ipv4Range.ofLength? (x : Ipv4) (length : Int64) : Option Ipv4Range :=
  if length < 0 then none else Ipv4Range.ofPrefixLength? x length.toInt.toNat

/-- **A range at the start of a text.** A slash and a prefix length may follow a plain address. -/
def Ipv4Range.read (s : List Char) : Except RangeStop (Ipv4Range × List Char) := do
  let (r, rest) ← Ipv4Range.readOctets s
  match rest with
  | '/' :: t =>
    match Lexeme.integer? t with
    | none => .error ⟨.expectedLength rest, rest⟩
    | some (length, t) =>
      match r.address? with
      | none => .error ⟨.lengthOfMany, t⟩
      | some x =>
        match Ipv4Range.ofLength? x length with
        | none => .error ⟨.invalidLength length, t⟩
        | some block => .ok (block, t)
  | _ => .ok (r, rest)

end DisplayFilter
