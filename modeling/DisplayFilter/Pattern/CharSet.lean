import DisplayFilter.Text.Alphabetic
import DisplayFilter.Text.Blank
import DisplayFilter.Text.CaseTables
import DisplayFilter.Text.Folding
import DisplayFilter.Text.Trait

/-!
# Sets of characters

What a pattern admits at one place is a set of characters, built from ranges and properties by the
operations of sets.

* `Property` — sets given by a property of characters, `Property.contains` — membership;
* `CharSet` — sets, `CharSet.contains` — membership, `CharSet.room` — their size in a machine;
* `CharSet.anyCase` — the set of all letters with a variant in a set.
-/

namespace DisplayFilter

/-- **A property of characters.** -/
inductive Property where
  /-- Letters, marks, digits, connectors and joiners: the characters of words. -/
  | word
  | digit
  | blank
  | alphabetic
  | cased
  | caseIgnorable
  | category (c : Text.Category)
  | trait (t : Text.Trait)
  deriving DecidableEq, Repr

namespace Property

/-- Whether a character belongs to a word. -/
def isWord (c : Char) : Bool :=
  c.isAlphanum || c == '_'
    || (127 < c.toNat
      && (Text.isAlphabetic c || [Text.Category.mn, .mc, .me, .nd, .pc].any (·.contains c)
        || c.toNat == 0x200C || c.toNat == 0x200D))

/-- Whether a character has a property. -/
def contains : Property → Char → Bool
  | word, c => isWord c
  | digit, c => Text.Category.nd.contains c
  | blank, c => Text.isBlank c
  | alphabetic, c => Text.isAlphabetic c
  | cased, c => Text.inRuns Text.casedRuns c
  | caseIgnorable, c => Text.inRuns Text.caseIgnorableRuns c
  | category k, c => k.contains c
  | trait t, c => t.contains c

/-- Roughly how many bytes a machine takes to tell the characters of a property apart, by
eights. -/
def room : Property → Nat
  | word => 6290
  | digit => 650
  | blank => 85
  | alphabetic => 5940
  | cased => 1500
  | caseIgnorable => 4000
  | category _ => 3000
  | trait t => 24 * (t.more.length + t.fewer.length) + 3000 * t.categories.length

end Property

/-- **A set of characters.** -/
inductive CharSet where
  | none
  /-- The characters of the code points from `low` to `high`. -/
  | range (low high : Nat)
  | property (p : Property)
  | union (a b : CharSet)
  | inter (a b : CharSet)
  | difference (a b : CharSet)
  | complement (a : CharSet)
  /-- All letters with a variant of other case in the set. -/
  | anyCase (a : CharSet)
  deriving DecidableEq, Repr

namespace CharSet

/-- **Membership.** -/
def contains : CharSet → Char → Bool
  | none, _ => false
  | range low high, c => low ≤ c.toNat && c.toNat ≤ high
  | property p, c => p.contains c
  | union a b, c => a.contains c || b.contains c
  | inter a b, c => a.contains c && b.contains c
  | difference a b, c => a.contains c && !b.contains c
  | complement a, c => !a.contains c
  | anyCase a, c => (Text.variants c).any a.contains

/-- The set of one character. -/
def single (c : Char) : CharSet :=
  range c.toNat c.toNat

/-- The characters of a list. -/
def ofList : List Char → CharSet
  | [] => none
  | c :: s => union (single c) (ofList s)

/-- The characters in exactly one of two sets. -/
def symmetricDifference (a b : CharSet) : CharSet :=
  union (difference a b) (difference b a)

/-- The characters of code points below 128. -/
def ascii : CharSet :=
  range 0 127

/-- Roughly how many bytes a machine takes for a choice among the characters of a set, by
eights. -/
def room : CharSet → Nat
  | none => 1
  | range low high =>
    if high < 128 then 1
    else if low = high then (if high < 0x800 then 5 else if high < 0x10000 then 9 else 13)
    else 40
  | property p => p.room
  | union a b => a.room + b.room
  | inter a b => a.room + b.room
  | difference a b => a.room + b.room
  | complement a => a.room + 120
  | anyCase a => 2 * a.room

/-- Whether no code point from 128 to 255 is in a set. -/
def isAscii (a : CharSet) : Bool :=
  (List.range 128).all fun n => !a.contains (Char.ofNat (n + 128))

@[simp] theorem contains_union (a b : CharSet) (c : Char) :
    (union a b).contains c = (a.contains c || b.contains c) := rfl

@[simp] theorem contains_complement (a : CharSet) (c : Char) :
    (complement a).contains c = !a.contains c := rfl

end CharSet

end DisplayFilter
