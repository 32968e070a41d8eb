import DisplayFilter.Slice.Cutting
import DisplayFilter.Tree.Basic

/-!
# Reducing trees

A tree is reduced to one truth value in two steps. First every leaf is evaluated, from left to
right; groups become truth values on the way, and the first failure ends all. Then the remaining
row of truth values and connectives is folded: `not` applies to the operand right behind it, `xor`
binds tighter than `and`, and `and` tighter than `or`; each level groups to the left.

* `Token` — what a row consists of, `TreeFault` — why a row cannot be folded;
* `fold` — the truth value of a row;
* `EvaluationError` — why a tree has no truth value for a record;
* `Reduction` — the leaves that were evaluated, with a result;
* `reduce` — the truth value of a tree.
-/

namespace DisplayFilter

/-! ### Rows -/

/-- **A part of a row:** a truth value or a connective. -/
inductive Token where
  | value (b : Bool)
  | connective (c : Connective)
  deriving DecidableEq, Repr

/-- **Why a row cannot be folded.** -/
inductive TreeFault where
  /-- Behind an operand stands something that does not connect it with another one. -/
  | expectedConnective (found : Token)
  /-- A connective stands where an operand should. -/
  | noLeftOperand (c : Connective)
  | missingOperand
  deriving DecidableEq, Repr

/-- A part of a row in messages. -/
def Token.description : Token → String
  | value b => "Bool(" ++ (if b then "true" else "false") ++ ")"
  | connective .not => "Op(Not)"
  | connective .and => "Op(And)"
  | connective .or => "Op(Or)"
  | connective .xor => "Op(Xor)"

/-- The wording of a fault. -/
def TreeFault.message : TreeFault → String
  | expectedConnective found => "expected a connective, found " ++ found.description
  | noLeftOperand c => "connective '" ++ c.word ++ "' without a left operand"
  | missingOperand => "missing operand"

/-! ### Folding -/

/-- **An operand:** a truth value behind any number of negations. -/
def foldOperand : List Token → Except TreeFault (Bool × List Token)
  | .value b :: row => .ok (b, row)
  | .connective .not :: row =>
    match foldOperand row with
    | .ok (b, rest) => .ok (!b, rest)
    | .error fault => .error fault
  | .connective c :: _ => .error (.noLeftOperand c)
  | [] => .error .missingOperand

/-- The operands behind `acc` that a connective joins to it. Each takes a part of the row at least,
so that a row of `fuel` parts holds no more of them. -/
def foldFrom (c : Connective) (op : Bool → Bool → Bool)
    (next : List Token → Except TreeFault (Bool × List Token)) :
    Nat → Bool → List Token → Except TreeFault (Bool × List Token)
  | 0, acc, row => .ok (acc, row)
  | fuel + 1, acc, row =>
    match row with
    | .connective d :: rest =>
      if d = c then do
        let (b, rest) ← next rest
        foldFrom c op next fuel (op acc b) rest
      else .ok (acc, row)
    | _ => .ok (acc, row)

/-- **One level:** operands of the next tighter level, joined by a connective from the left. -/
def foldLevel (c : Connective) (op : Bool → Bool → Bool)
    (next : List Token → Except TreeFault (Bool × List Token)) (row : List Token) :
    Except TreeFault (Bool × List Token) := do
  let (a, rest) ← next row
  foldFrom c op next rest.length a rest

/-- Operands joined by `xor`. -/
def foldXor : List Token → Except TreeFault (Bool × List Token) :=
  foldLevel .xor Bool.xor foldOperand

/-- What `xor` joins, joined by `and`. -/
def foldAnd : List Token → Except TreeFault (Bool × List Token) :=
  foldLevel .and Bool.and foldXor

/-- What `and` joins, joined by `or`. -/
def foldOr : List Token → Except TreeFault (Bool × List Token) :=
  foldLevel .or Bool.or foldAnd

/-- **Folding.** The truth value of a row, which has to be used up. -/
def fold (row : List Token) : Except TreeFault Bool := do
  match ← foldOr row with
  | (b, []) => pure b
  | (_, found :: _) => .error (.expectedConnective found)

/-! ### Trees -/

/-- **Why a tree has no truth value** for a record. -/
inductive EvaluationError where
  | malformedTree (fault : TreeFault)
  | slice (e : SliceError)
  | function (name message : String)
  deriving DecidableEq

namespace EvaluationError

/-- The wording of an error. -/
def message : EvaluationError → String
  | malformedTree fault => "Malformed filter tree: " ++ fault.message
  | slice e => e.message
  | function name text => "Function '" ++ name ++ "' failed: " ++ text

/-- **Structural errors** hold for every record; the others concern the record alone. -/
def isStructural : EvaluationError → Bool
  | malformedTree _ => true
  | _ => false

end EvaluationError

/-- **A result with its history:** the leaves that were evaluated for it, in order. -/
structure Reduction (α : Type) where
  visited : List Expression
  result : Except EvaluationError α

/-- The truth value of a row as the result of evaluating leaves. -/
def Reduction.folded (r : Reduction (List Token)) : Reduction Bool where
  visited := r.visited
  result := r.result.bind fun row => (fold row).mapError .malformedTree

mutual

/-- The part of a row that a node becomes. -/
def Node.reduce (leaf : Expression → Except EvaluationError Bool) : Node → Reduction Token
  | .leaf e => ⟨[e], (leaf e).map .value⟩
  | .group nodes =>
    let r := (reduceNodes leaf nodes).folded
    ⟨r.visited, r.result.map .value⟩
  | .connective c => ⟨[], .ok (.connective c)⟩
termination_by structural n => n

/-- The row that some nodes become. Behind a failure nothing is evaluated. -/
def reduceNodes (leaf : Expression → Except EvaluationError Bool) :
    List Node → Reduction (List Token)
  | [] => ⟨[], .ok []⟩
  | n :: nodes =>
    let first := n.reduce leaf
    match first.result with
    | .error e => ⟨first.visited, .error e⟩
    | .ok token =>
      let more := reduceNodes leaf nodes
      ⟨first.visited ++ more.visited, more.result.map (token :: ·)⟩
termination_by structural nodes => nodes

end

/-- **Reducing.** The truth value of some nodes, and the leaves that were evaluated for it. -/
def reduce (leaf : Expression → Except EvaluationError Bool) (nodes : List Node) :
    Reduction Bool :=
  (reduceNodes leaf nodes).folded

end DisplayFilter
