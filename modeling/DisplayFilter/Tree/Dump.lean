import DisplayFilter.Text.Trait
import DisplayFilter.Tree.Basic

/-!
# Filter trees part by part

The text of a filter tree is a filter again; the log shows instead what its parts were read as, each
of them by the name of its kind, with nothing left out.

* `Text.dumped` — a text between double quotes, with numbers for characters that cannot be seen;
* `Dump.kind`, `Dump.fields`, `Dump.list`, `Dump.optional` — a part with what it holds;
* `Literal.dump`, `Slice.dump`, `Expression.dump` — the parts of an expression;
* `FilterTree.dump` — a whole tree.
-/

namespace DisplayFilter

/-! ### Texts -/

namespace Text

/-- Whether a character is seen as itself: it stands on its own and is no separator but a blank. -/
def isVisible (c : Char) : Bool :=
  c == ' '
    || ((findTrait? segmentTraits "graphemebase").any (·.contains c) && !Category.zs.contains c)

/-- A character of a text between double quotes. -/
def dumpedChar : Char → List Char
  | '\x00' => ['\\', '0']
  | '\t' => ['\\', 't']
  | '\r' => ['\\', 'r']
  | '\n' => ['\\', 'n']
  | '"' => ['\\', '"']
  | '\\' => ['\\', '\\']
  | c =>
    if isVisible c then [c]
    else '\\' :: 'u' :: '\x7b' :: Nat.toDigits 16 c.toNat ++ ['\x7d']

/-- **A text between double quotes.** -/
def dumped (s : String) : String :=
  String.ofList ('"' :: s.toList.flatMap dumpedChar ++ ['"'])

end Text

/-! ### Parts and what they hold -/

namespace Dump

/-- A part of some kind that holds one other. -/
def kind (name part : String) : String :=
  name ++ "(" ++ part ++ ")"

/-- A part of some kind with named fields. -/
def fields (name : String) (parts : List (String × String)) : String :=
  name ++ " \x7b " ++ ", ".intercalate (parts.map fun (field, part) => field ++ ": " ++ part)
    ++ " \x7d"

/-- Parts in a row. -/
def list (parts : List String) : String :=
  "[" ++ ", ".intercalate parts ++ "]"

/-- A part that may be missing. -/
def optional : Option String → String
  | none => "None"
  | some part => kind "Some" part

end Dump

/-! ### Expressions -/

/-- The name of an operator. -/
def Operator.dump : Operator → String
  | eq => "Eq"
  | ne => "Ne"
  | ge => "Ge"
  | gt => "Gt"
  | le => "Le"
  | lt => "Lt"
  | contains => "Contains"
  | search => "Matches"
  | member => "In"
  | bitAnd => "BitwiseAnd"

/-- An entry of a list of numbers. -/
def NumberEntry.dump : NumberEntry → String
  | single x => Dump.kind "Single" x.dump
  | range low high => Dump.fields "Range" [("low", low.dump), ("high", high.dump)]

/-- An interval of octets: its ends with two points and an equality sign between them. -/
def OctetInterval.dump (x : OctetInterval) : String :=
  toString x.low.toNat ++ "..=" ++ toString x.high.toNat

/-- The octets admitted at one place. -/
def OctetSet.dump (set : OctetSet) : String :=
  Dump.kind "OctetSet" (Dump.list (set.map OctetInterval.dump))

/-- A range of addresses. -/
def Ipv4Range.dump (r : Ipv4Range) : String :=
  Dump.fields "Ipv4Range" [("octets", Dump.list (r.sets.map OctetSet.dump))]

/-- **A literal.** -/
def Literal.dump : Literal → String
  | text s => Dump.kind "Text" (Text.dumped s)
  | strings items => Dump.kind "Strings" (Dump.list (items.map Text.dumped))
  | numbers items => Dump.kind "Numbers" (Dump.list (items.map NumberEntry.dump))
  | addresses items => Dump.kind "Addresses" (Dump.list (items.map Ipv4Range.dump))

/-- A bound of a slice. -/
def boundDump (bound : Option Int64) : String :=
  Dump.optional (bound.map fun n => integerText n.toInt)

/-- One part of a slice. -/
def SliceEntry.dump : SliceEntry → String
  | index i => Dump.kind "Index" (integerText i.toInt)
  | range start stop => Dump.fields "Range" [("start", boundDump start), ("end", boundDump stop)]

/-- **A slice.** -/
def Slice.dump (slice : Slice) : String :=
  Dump.kind "SliceSpec" (Dump.list (slice.map SliceEntry.dump))

/-- A function: its name alone. -/
def Function.dump (f : Function) : String :=
  Dump.kind "Function" (Text.dumped f.name)

/-- **An expression.** The operator and the literal are there together or not at all. -/
def Expression.dump (e : Expression) : String :=
  Dump.fields "Expression"
    [("field", Text.dumped e.field),
     ("operator", Dump.optional (e.comparison.map (·.operator.dump))),
     ("value", Dump.optional (e.comparison.map (·.literal.dump))),
     ("function", Dump.optional (e.function.map Function.dump)),
     ("slice", Dump.optional (e.slice.map Slice.dump))]

/-! ### Trees -/

/-- The name of a connective. -/
def Connective.dump : Connective → String
  | not => "Not"
  | and => "And"
  | or => "Or"
  | xor => "Xor"

mutual

/-- A node. -/
def Node.dump : Node → String
  | .leaf e => Dump.kind "Expression" e.dump
  | .group nodes => Dump.kind "Group" (Dump.list (FilterTree.dumps nodes))
  | .connective c => Dump.kind "Operator" c.dump
termination_by structural n => n

/-- The nodes of a sequence. -/
def FilterTree.dumps : List Node → List String
  | [] => []
  | n :: nodes => n.dump :: FilterTree.dumps nodes
termination_by structural nodes => nodes

end

/-- **A filter part by part.** -/
def FilterTree.dump (tree : FilterTree) : String :=
  Dump.kind "FilterTree" (Dump.list (FilterTree.dumps tree))

end DisplayFilter
