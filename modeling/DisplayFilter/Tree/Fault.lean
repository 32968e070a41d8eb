import DisplayFilter.Literal.Reading
import DisplayFilter.Slice.Reading

/-!
# Parse errors

* `ParseFault` — what is wrong with a filter and where;
* `ParseError` — a fault with the filter that has it;
* `ParseError.message` — the wording of an error.
-/

namespace DisplayFilter

/-- **What is wrong with a filter.** Places are texts left to read, or positions in the filter. -/
inductive ParseFault (ℓ : Type) where
  /-- The filter is over and text follows. -/
  | unexpected (rest : String) (place : ℓ)
  | emptyParentheses (place : ℓ)
  | expectedClosing (place : ℓ)
  | expectedField (place : ℓ)
  | expectedArgumentEnd (place : ℓ)
  /-- A sliced field is compared with nothing. -/
  | sliceAlone (place : ℓ)
  /-- A function of a field is compared with nothing. -/
  | functionAlone (name : String) (place : ℓ)
  | literal (fault : LiteralFault ℓ)
  | slice (fault : SliceFault ℓ)
  | unknownField (field : String)
  | unknownFunction (name : String)
  deriving DecidableEq

/-- The fault with its place seen in another way. -/
def ParseFault.mapPlace {ℓ ℓ' : Type} (f : ℓ → ℓ') : ParseFault ℓ → ParseFault ℓ'
  | unexpected rest place => unexpected rest (f place)
  | emptyParentheses place => emptyParentheses (f place)
  | expectedClosing place => expectedClosing (f place)
  | expectedField place => expectedField (f place)
  | expectedArgumentEnd place => expectedArgumentEnd (f place)
  | sliceAlone place => sliceAlone (f place)
  | functionAlone name place => functionAlone name (f place)
  | literal fault => literal (fault.mapPlace f)
  | slice fault => slice (fault.mapPlace f)
  | unknownField field => unknownField field
  | unknownFunction name => unknownFunction name

/-- **A parse error:** a fault, with its position in bytes, and the filter that has it. -/
structure ParseError where
  filter : String
  fault : ParseFault Nat
  deriving DecidableEq

namespace ParseError

/-- The filter of an error in quotes. -/
def inFilter (e : ParseError) : String :=
  " in display filter '" ++ e.filter ++ "'"

/-- The wording of a fault in the grammar of a filter. -/
def malformed (e : ParseError) (reason : String) (position : Nat) : String :=
  "Error parsing display filter '" ++ e.filter ++ "': " ++ reason ++ " at position "
    ++ toString position

/-- **The wording of an error.** -/
def message (e : ParseError) : String :=
  match e.fault with
  | .unexpected rest place => e.malformed ("unexpected '" ++ rest ++ "'") place
  | .emptyParentheses place => e.malformed "empty parentheses" place
  | .expectedClosing place => e.malformed "expected ')'" place
  | .expectedField place => e.malformed "expected a field name" place
  | .expectedArgumentEnd place => e.malformed "expected ')' after function argument" place
  | .sliceAlone place => e.malformed "a sliced field needs a comparison" place
  | .functionAlone name place => e.malformed (name ++ "() needs a comparison") place
  | .literal (.mismatchedQuotes place) =>
    "Mismatched quotes" ++ e.inFilter ++ " at position " ++ toString place
  | .literal (.expectedValue place) => e.malformed (LiteralFault.expectedValue place).reason place
  | .literal (.invalidList place) => e.malformed (LiteralFault.invalidList place).reason place
  | .literal (.invalidAddress piece reason) =>
    "Invalid address range" ++ e.inFilter ++ ": "
      ++ (LiteralFault.invalidAddress (ℓ := Nat) piece reason).reason
  | .slice fault => "Invalid slice" ++ e.inFilter ++ ": " ++ fault.message
  | .unknownField field => "Unknown field '" ++ field ++ "'" ++ e.inFilter
  | .unknownFunction name => "Unknown function '" ++ name ++ "'" ++ e.inFilter

end ParseError

end DisplayFilter
