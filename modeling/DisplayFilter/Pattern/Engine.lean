import DisplayFilter.Pattern.Reading

/-!
# Pattern engines

A string is searched for a pattern by an engine, which compiles the text of the pattern and then
looks for it.  What the comparators do with an engine does not depend on what it takes for a
pattern.

* `PatternEngine` — how pattern texts are compiled and looked for;
* `PatternEngine.search` — a search that compiles its pattern first;
* `PatternEngine.standard` — the patterns of `Pattern.ofText?`.
-/

namespace DisplayFilter

/-- **A pattern engine.** -/
structure PatternEngine where
  /-- What patterns are compiled to. -/
  Compiled : Type
  /-- What a text is compiled to, if it is a pattern. -/
  compile? : String → Option Compiled
  /-- Whether a pattern matches somewhere in a text. -/
  occursIn : Compiled → String → Bool

namespace PatternEngine

variable (engine : PatternEngine)

/-- Whether what a text was compiled to matches somewhere in a text. -/
def found (compiled : Option engine.Compiled) (text : String) : Bool :=
  compiled.any (engine.occursIn · text)

/-- **A search** for a pattern that is compiled for it. What is no pattern is not found. -/
def search (pattern text : String) : Bool :=
  engine.found (engine.compile? pattern) text

/-- **The usual engine.** -/
def standard : PatternEngine where
  Compiled := Pattern
  compile? := Pattern.ofText?
  occursIn p text := p.occursIn text.toList

end PatternEngine

end DisplayFilter
