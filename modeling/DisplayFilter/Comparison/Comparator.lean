import DisplayFilter.Literal.Basic
import DisplayFilter.Pattern.Engine
import DisplayFilter.Tree.Operator
import DisplayFilter.Value.Reading

/-!
# Comparators

A comparator compares a value with a literal as data of one type. It says first whether both sides
can be read as that type, and then how they compare.

* `Operator.ofOrder?` — what the six ordering operators say about an order;
* `Comparator` — a name, what it accepts and how it compares;
* `Comparator.number`, `.integer`, `.ipv4`, `.ipv6`, `.date`, `.string`, `.addressRange`, `.list` —
  the known comparators, of which `.string` looks for patterns with an engine;
  `Comparator.known` — all of them.
-/

namespace DisplayFilter

/-! ### Orders -/

/-- What an operator says about the order of an item and a literal; nothing if it is none of the
six that are about order. -/
def Operator.ofOrder? (op : Operator) (order : Ordering) : Option Bool :=
  match op with
  | .eq => some (order == .eq)
  | .ne => some (order != .eq)
  | .ge => some (order != .lt)
  | .gt => some (order == .gt)
  | .le => some (order != .gt)
  | .lt => some (order == .lt)
  | _ => none

/-- Whether a value can be read, or, for a list that is not empty, whether one of its items can. -/
def someReadable (readable : Value → Bool) : Value → Bool
  | .list [] => readable (.list [])
  | .list items => items.any readable
  | v => readable v

/-! ### Comparators -/

/-- **A comparator.** It compares single values; what it answers about values that it cannot read
is nothing. -/
structure Comparator where
  name : String
  /-- Whether both sides can be read; for a list one of its items is enough. -/
  accepts : Literal → Value → Bool
  /-- How a value compares with a literal. -/
  compare? : Operator → Literal → Value → Option Bool

namespace Comparator

/-- **Comparing by order.** Both sides are read as one type, and their order decides. -/
def byOrder {α : Type} (name : String) (ofText? : String → Option α) (ofValue? : Value → Option α)
    (order? : α → α → Option Ordering) : Comparator where
  name := name
  accepts literal item :=
    (literal.text?.bind ofText?).isSome && someReadable (fun v => (ofValue? v).isSome) item
  compare? op literal item := do
    let expected ← literal.text?.bind ofText?
    let actual ← ofValue? item
    op.ofOrder? (← order? actual expected)

/-- **Numbers.** -/
def number : Comparator :=
  byOrder "number" number? Value.number? Binary64.compare?

/-- The order of two whole numbers. -/
def orderOfIntegers (m n : Int64) : Ordering :=
  compare m.toInt n.toInt

/-- **Whole numbers,** with the question whether two of them have a bit in common. -/
def integer : Comparator where
  name := "integer"
  accepts literal item :=
    (literal.text?.bind wholeNumber?).isSome
      && someReadable (fun v => v.wholeNumber?.isSome) item
  compare? op literal item := do
    let mask ← literal.text?.bind wholeNumber?
    let n ← item.wholeNumber?
    if op = .bitAnd then some ((n &&& mask) != 0) else op.ofOrder? (orderOfIntegers n mask)

/-- **IPv4 addresses.** -/
def ipv4 : Comparator :=
  byOrder "ipv4" ipv4? Value.ipv4? fun x y => some (Ipv4.compare x y)

/-- **IPv6 addresses.** -/
def ipv6 : Comparator :=
  byOrder "ipv6" ipv6? Value.ipv6? fun x y => some (Ipv6.compare x y)

/-- **Moments.** -/
def date : Comparator :=
  byOrder "date" filterDate? Value.date? fun x y => some (Moment.compare x y)

/-- How a string compares with another one, given the engine that looks for patterns. -/
def compareStrings? (engine : PatternEngine) (op : Operator) (expected actual : String) :
    Option Bool :=
  match op with
  | .eq => some (actual == expected)
  | .ne => some (actual != expected)
  | .contains => some (Text.contains expected.toList actual.toList)
  | .search => some (engine.search expected actual)
  | _ => none

/-- **Strings:** equality, containment and pattern search. Every value but null is a string. -/
def string (engine : PatternEngine := .standard) : Comparator where
  name := "string"
  accepts literal _ := literal.text?.isSome
  compare? op literal item := do
    let expected ← literal.text?
    let actual ← item.string?
    compareStrings? engine op (decodedText expected) actual

/-- The address ranges of a literal. -/
def addresses? : Literal → Option (List Ipv4Range)
  | .addresses ranges => some ranges
  | _ => none

/-- **Membership in address ranges.** -/
def addressRange : Comparator where
  name := "ipv4-range"
  accepts literal item :=
    (addresses? literal).isSome && someReadable (fun v => v.ipv4?.isSome) item
  compare? _ literal item := do
    let ranges ← addresses? literal
    let x ← item.ipv4?
    some (ranges.any (·.contains x))

/-- Whether a value is one of the texts of a list: the same number if both are numbers, else the
same string. -/
def isEntry (item : Value) (entry : String) : Bool :=
  match item.looseNumber?, decimal? entry with
  | some x, some y => x.numEq y
  | _, _ =>
    match item with
    | .string s => s == entry
    | _ => false

/-- Whether a value is in a list. -/
def isMember? (item : Value) : Literal → Option Bool
  | .numbers entries =>
    some (item.looseNumber?.any fun x => entries.any (·.contains x))
  | .strings entries => some (entries.any (isEntry item))
  | .addresses _ => some false
  | .text _ => none

/-- **Membership in lists** of numbers or texts. -/
def list : Comparator where
  name := "list"
  accepts literal _ := literal.isList
  compare? _ literal item := isMember? item literal

/-- The known comparators, given the engine that looks for patterns. -/
def known (engine : PatternEngine := .standard) : List Comparator :=
  [number, integer, ipv4, ipv6, date, string engine, addressRange, list]

end Comparator

end DisplayFilter
