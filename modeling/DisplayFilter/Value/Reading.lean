import DisplayFilter.Address.Ipv6
import DisplayFilter.Calendar.Reading
import DisplayFilter.Text.Escape
import DisplayFilter.Value.Text

/-!
# Reading texts and values

A comparison reads both of its sides as data of one type. This file says which texts of a filter
and which values of a record can be read as numbers, addresses, moments and strings; what cannot is
no operand of that type.

* `decimal?`, `number?`, `wholeNumber?` — numbers written in a filter;
* `Value.number?`, `Value.wholeNumber?`, `Value.looseNumber?` — numbers of a record;
* `ipv4?`, `ipv6?`, `filterDate?` — addresses and moments written in a filter;
* `Value.ipv4?`, `Value.ipv6?`, `Value.date?`, `Value.string?` — the same of a record.
-/

namespace DisplayFilter

/-! ### Numbers -/

/-- A decimal number with blanks around it. -/
def decimal? (s : String) : Option Binary64 :=
  Binary64.ofText? (Text.trim s.toList)

/-- The number nearest to a whole number of a base within sixty-four bits. -/
def basedNumber? (base : Nat) (digits : List Char) : Option Binary64 :=
  (int64? base digits).map Binary64.ofInt

/-- **Numbers.** A text with a point is a decimal; without one, `0x` starts a hexadecimal and `0` an
octal number, with an `o` or without; every other text is a decimal. -/
def number? (s : String) : Option Binary64 :=
  if s.toList.contains '.' then decimal? s
  else
    match s.toList with
    | ['0'] => some Binary64.zero
    | '0' :: 'x' :: digits => basedNumber? 16 digits
    | '0' :: 'o' :: digits => basedNumber? 8 digits
    | '0' :: digits => basedNumber? 8 digits
    | _ => decimal? s

/-- A number without a fraction as an integer, for magnitudes below `9.2e18`. -/
def Binary64.integer? (x : Binary64) : Option Int64 :=
  x.whole?.map Int64.ofInt

/-- Whole numbers written in a filter. -/
def wholeNumber? (s : String) : Option Int64 :=
  (number? s).bind Binary64.integer?

namespace Value

/-- **Numbers of a record.** Truth values are not numbers. -/
def number? : Value → Option Binary64
  | .integer n => some (Binary64.ofInt n.toInt)
  | .float x => some x
  | .string s => DisplayFilter.number? s
  | _ => none

/-- Whole numbers of a record. -/
def wholeNumber? : Value → Option Int64
  | .integer n => some n
  | v => v.number?.bind Binary64.integer?

/-- Numbers of a record as lists look for them: true is one, false is zero, and texts are decimals
only. -/
def looseNumber? : Value → Option Binary64
  | .bool b => some (if b then Binary64.one else Binary64.zero)
  | .integer n => some (Binary64.ofInt n.toInt)
  | .float x => some x
  | .string s => decimal? s
  | _ => none

end Value

/-! ### Addresses -/

/-- IPv4 addresses written in a filter. -/
def ipv4? (s : String) : Option Ipv4 :=
  Ipv4.ofText? s.toList

/-- IPv6 addresses written in a filter. -/
def ipv6? (s : String) : Option Ipv6 :=
  Ipv6.ofText? s.toList

namespace Value

/-- IPv4 addresses of a record. -/
def ipv4? : Value → Option Ipv4
  | .ipv4 x => some x
  | .string s => DisplayFilter.ipv4? s
  | _ => none

/-- IPv6 addresses of a record. -/
def ipv6? : Value → Option Ipv6
  | .ipv6 x => some x
  | .string s => DisplayFilter.ipv6? s
  | _ => none

end Value

/-! ### Moments and strings -/

/-- Moments written in a record. -/
def date? (s : String) : Option Moment :=
  Moment.ofText? s.toList

/-- Whether a text has a point and consists of digits, points and signs. -/
def looksNumeric (s : List Char) : Bool :=
  s.contains '.' && s.all fun c => c.isDigit || c == '.' || c == '-' || c == '+'

/-- **Moments written in a filter.** What looks like a number with a point is none. -/
def filterDate? (s : String) : Option Moment :=
  if looksNumeric s.toList then none else date? s

namespace Value

/-- Moments of a record. -/
def date? : Value → Option Moment
  | .date x => some x
  | .string s => DisplayFilter.date? s
  | _ => none

/-- **The string of a value:** its text; null has none. -/
def string? : Value → Option String
  | .null => none
  | .string s => some s
  | v => some v.text

end Value

/-- The text that a text of a filter stands for, its escapes decoded. -/
def decodedText (s : String) : String :=
  String.ofList (Text.decoded s.toList)

end DisplayFilter
