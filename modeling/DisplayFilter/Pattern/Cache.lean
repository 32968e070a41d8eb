import DisplayFilter.Pattern.Engine
import DisplayFilter.Value.Entries

/-!
# Remembered patterns

Compiling a pattern takes longer than most searches, and a filter searches for the same pattern in
one record after the other. A cache remembers what pattern texts were compiled to, valid or not; a
full one starts over.

* `PatternCache` — pattern texts with what an engine has compiled them to;
* `PatternCache.search` — a search, and the cache after it;
* `PatternCache.searchAll` — searches one after the other.
-/

namespace DisplayFilter

/-- **Remembered patterns** by their text, nothing for a text that is no pattern. -/
abbrev PatternCache (engine : PatternEngine) := List (String × Option engine.Compiled)

namespace PatternCache

variable {engine : PatternEngine}

/-- The number of patterns that a cache holds. -/
def limit : Nat := 128

/-- The cache in which a pattern has a place: a full one that does not know it is emptied. -/
def withRoom (cache : PatternCache engine) (pattern : String) : PatternCache engine :=
  if limit ≤ cache.length ∧ (Entries.find? pattern cache).isNone then [] else cache

/-- **A search.** A pattern that the cache knows is not compiled again; any other is remembered. -/
def search (cache : PatternCache engine) (pattern text : String) : Bool × PatternCache engine :=
  let cache := cache.withRoom pattern
  match Entries.find? pattern cache with
  | some compiled => (engine.found compiled text, cache)
  | none =>
    let compiled := engine.compile? pattern
    (engine.found compiled text, Entries.insert pattern compiled cache)

/-- Searches one after the other, each with the cache that the one before has left. -/
def searchAll (cache : PatternCache engine) :
    List (String × String) → List Bool × PatternCache engine
  | [] => ([], cache)
  | (pattern, text) :: more =>
    let (answer, cache) := cache.search pattern text
    let (answers, cache) := searchAll cache more
    (answer :: answers, cache)

end PatternCache

end DisplayFilter
