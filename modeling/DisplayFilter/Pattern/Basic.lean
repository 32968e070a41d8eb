import DisplayFilter.Pattern.CharSet

/-!
# Patterns

A pattern is a regular expression over characters and places between characters. Whether it occurs
in a text is told by reading the text once: after each character, what remains of the pattern is a
finite list of patterns, the ways in which the rest of an occurrence may go on.

* `Look` — conditions on a place, `Look.holds` — whether one holds between two characters;
* `Pattern` — regular expressions;
* `Pattern.matchesEmpty` — whether a pattern matches at a place without reading anything;
* `Pattern.after` — what remains of a pattern once a character is read;
* `Pattern.occursIn` — whether a pattern matches somewhere in a text;
* `Pattern.room` — how large a machine for a pattern is.
-/

namespace DisplayFilter

/-- **A condition on a place** between two characters, or at an end of the text. -/
inductive Look where
  | textStart
  | textEnd
  | lineStart
  | lineEnd
  /-- Starts of lines that end with a carriage return, a line feed or both. -/
  | anyLineStart
  | anyLineEnd
  /-- A word starts or ends here; words consist of the characters of a set. -/
  | wordEdge (word : CharSet)
  | noWordEdge (word : CharSet)
  | wordStart (word : CharSet)
  | wordEnd (word : CharSet)
  | noWordBefore (word : CharSet)
  | noWordAfter (word : CharSet)
  deriving DecidableEq, Repr

/-- Whether a condition holds between the characters before and after a place. -/
def Look.holds (before after : Option Char) : Look → Bool
  | textStart => before.isNone
  | textEnd => after.isNone
  | lineStart => before.all (· == '\n')
  | lineEnd => after.all (· == '\n')
  | anyLineStart =>
    before.all fun c => c == '\n' || (c == '\r' && !after.any (· == '\n'))
  | anyLineEnd =>
    after.all fun c => c == '\r' || (c == '\n' && !before.any (· == '\r'))
  | wordEdge word => before.any word.contains != after.any word.contains
  | noWordEdge word => before.any word.contains == after.any word.contains
  | wordStart word => !before.any word.contains && after.any word.contains
  | wordEnd word => before.any word.contains && !after.any word.contains
  | noWordBefore word => !before.any word.contains
  | noWordAfter word => !after.any word.contains

/-- **A pattern.** -/
inductive Pattern where
  | empty
  | look (condition : Look)
  | char (set : CharSet)
  | seq (a b : Pattern)
  | alt (a b : Pattern)
  /-- At least `least` and, if there is a bound, at most `most` times. -/
  | repeated (a : Pattern) (least : Nat) (most : Option Nat)
  deriving DecidableEq, Repr

namespace Pattern

/-- **Matching nothing.** Whether a pattern matches at a place without reading a character. -/
def matchesEmpty (before after : Option Char) : Pattern → Bool
  | empty => true
  | look condition => condition.holds before after
  | char _ => false
  | seq a b => a.matchesEmpty before after && b.matchesEmpty before after
  | alt a b => a.matchesEmpty before after || b.matchesEmpty before after
  | repeated a least _ => least == 0 || a.matchesEmpty before after

/-- One pattern behind another, where the first may be empty. -/
def followedBy (b : Pattern) : Pattern → Pattern
  | empty => b
  | a => seq a b

/-- **Reading a character.** What may remain of a pattern when `c` is read behind `before`. A
repetition of what matches nothing at this place may leave out as many rounds as it needs. -/
def after (before : Option Char) (c : Char) : Pattern → List Pattern
  | empty => []
  | look _ => []
  | char set => if set.contains c then [empty] else []
  | seq a b =>
    (a.after before c).map (followedBy b)
      ++ if a.matchesEmpty before (some c) then b.after before c else []
  | alt a b => a.after before c ++ b.after before c
  | repeated a least most =>
    if most == some 0 then []
    else
      let least := if a.matchesEmpty before (some c) then 0 else least - 1
      (a.after before c).map (followedBy (repeated a least (most.map (· - 1))))

/-- Whether an occurrence ends in a text: one that is under way, one of `ways`, or one of `p` that
starts here or later. -/
def occursFrom (p : Pattern) (before : Option Char) (ways : List Pattern) : List Char → Bool
  | [] => (p :: ways).any (matchesEmpty before none)
  | c :: s =>
    let ways := p :: ways
    ways.any (matchesEmpty before (some c))
      || occursFrom p (some c) (ways.flatMap (after before c)).eraseDups s

/-- **Occurrence.** Whether a pattern matches somewhere in a text. -/
def occursIn (p : Pattern) (s : List Char) : Bool :=
  p.occursFrom none [] s

/-- **Size.** Roughly how many bytes a machine for a pattern takes, by eights: a state takes four
of these, a choice among states one more for either of them. -/
def room : Pattern → Nat
  | empty => 4
  | look _ => 4
  | char set => 3 + set.room
  | seq a b => a.room + b.room
  | alt a b => a.room + b.room + 5
  | repeated a least none => a.room * max 1 least + 5
  | repeated a least (some most) => a.room * least + (a.room + 5) * (most - least)

end Pattern

end DisplayFilter
