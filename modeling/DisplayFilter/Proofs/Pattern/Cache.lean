import DisplayFilter.Comparison.Memory
import DisplayFilter.Proofs.Value.Entries

/-!
# What a cache of patterns shows

A cache is filled and emptied as the searches go on, but what it holds for a pattern is always what
the engine compiles the pattern to, so that nobody who searches can tell whether there is one.  It
never holds more than its limit, because a full cache is emptied before a new pattern takes its
place.  Nothing here depends on the engine.

* `Transparent` — a computation with a state that does not show in its answer;
* `PatternCache.Faithful` — what is true of a cache at any time;
* `search_known`, `search_unknown` — a search for a pattern that the cache has, or has not;
* **`search_faithful`** — a search answers as if the pattern were compiled now, and keeps the cache
  faithful;
* **`searchAll_afresh`** — so do searches one after the other, on their own and by a string
  comparator, with any engine; `PatternCache.searchAll_standard` — with the usual one.
-/

namespace DisplayFilter

/-! ### States that do not show -/

/-- **A transparent computation** gives the answer `a` from every good state and leaves a good
state. -/
def Transparent {σ α : Type} (good : σ → Prop) (x : StateM σ α) (a : α) : Prop :=
  ∀ s, good s → (x s).1 = a ∧ good (x s).2

namespace Transparent

variable {σ α β : Type} {good : σ → Prop} {x : StateM σ α} {a : α}

theorem pure (good : σ → Prop) (a : α) : Transparent good (Pure.pure a) a :=
  fun _ hs => ⟨rfl, hs⟩

/-- A step after a step, from the answer that the first one gives. -/
theorem bind {f : α → StateM σ β} {b : β} (hx : Transparent good x a)
    (hf : Transparent good (f a) b) : Transparent good (x >>= f) b := by
  intro s hs
  obtain ⟨hanswer, hgood⟩ := hx s hs
  show (f (x s).1 (x s).2).1 = b ∧ good (f (x s).1 (x s).2).2
  rw [hanswer]
  exact hf _ hgood

end Transparent

variable {engine : PatternEngine}

namespace PatternCache

variable {cache : PatternCache engine}

/-! ### Searches -/

/-- **A faithful cache.** What it has for a pattern is what the pattern is compiled to; it has each
pattern once, and not more of them than it may hold. -/
structure Faithful (cache : PatternCache engine) : Prop where
  compiled : ∀ entry ∈ cache, entry.2 = engine.compile? entry.1
  sorted : Entries.Sorted cache
  bounded : cache.length ≤ limit

theorem faithful_nil : Faithful ([] : PatternCache engine) :=
  ⟨by simp, List.Pairwise.nil, Nat.zero_le _⟩

/-- **A known pattern** is not compiled again, and the cache stays as it is. -/
theorem search_known {pattern : String} {compiled : Option engine.Compiled}
    (h : Entries.find? pattern cache = some compiled) (text : String) :
    cache.search pattern text = (engine.found compiled text, cache) := by
  have hroom : cache.withRoom pattern = cache := if_neg (by simp [h])
  simp only [search, hroom, h]

/-- A cache with room does not know the pattern that it made room for. -/
theorem find?_withRoom {pattern : String} (h : Entries.find? pattern cache = none) :
    Entries.find? pattern (cache.withRoom pattern) = none := by
  unfold withRoom
  split
  · rfl
  · exact h

/-- **An unknown pattern** is compiled and remembered by a cache that has room for it. -/
theorem search_unknown {pattern : String} (h : Entries.find? pattern cache = none) (text : String) :
    cache.search pattern text =
      (engine.search pattern text,
        Entries.insert pattern (engine.compile? pattern) (cache.withRoom pattern)) := by
  simp only [search, find?_withRoom h]
  rfl

/-- A cache that made room for an unknown pattern is faithful and is not full. -/
theorem Faithful.withRoom (hcache : cache.Faithful) {pattern : String}
    (h : Entries.find? pattern cache = none) :
    (cache.withRoom pattern).Faithful ∧ (cache.withRoom pattern).length < limit := by
  unfold PatternCache.withRoom
  split
  · exact ⟨faithful_nil, (by decide : 0 < limit)⟩
  · next hroom =>
    refine ⟨hcache, Nat.lt_of_not_le fun hfull => hroom ⟨hfull, ?_⟩⟩
    rw [h]
    rfl

theorem Faithful.insert (hcache : cache.Faithful) (hroom : cache.length < limit)
    (pattern : String) : Faithful (Entries.insert pattern (engine.compile? pattern) cache) where
  compiled entry hentry := by
    rcases Entries.mem_insert hentry with rfl | hentry
    · rfl
    · exact hcache.compiled entry hentry
  sorted := hcache.sorted.insert pattern _
  bounded := Nat.le_trans (Entries.length_insert_le pattern _ cache) hroom

/-- **One search** answers as if the pattern were compiled now, and leaves a faithful cache. -/
theorem search_faithful (hcache : cache.Faithful) (pattern text : String) :
    (cache.search pattern text).1 = engine.search pattern text ∧
      (cache.search pattern text).2.Faithful := by
  cases h : Entries.find? pattern cache with
  | some compiled =>
    have hcompiled : compiled = engine.compile? pattern :=
      hcache.compiled _ (Entries.mem_of_find? h)
    rw [search_known h, hcompiled]
    exact ⟨rfl, hcache⟩
  | none =>
    obtain ⟨hroom, hlength⟩ := hcache.withRoom h
    rw [search_unknown h]
    exact ⟨rfl, hroom.insert hlength pattern⟩

/-- **Searches one after the other** answer as if each pattern were compiled when it is asked
for. -/
theorem searchAll_faithful (hcache : cache.Faithful) (queries : List (String × String)) :
    (cache.searchAll queries).1 = queries.map (fun query => engine.search query.1 query.2) ∧
      (cache.searchAll queries).2.Faithful := by
  induction queries generalizing cache with
  | nil => exact ⟨rfl, hcache⟩
  | cons query queries ih =>
    obtain ⟨pattern, text⟩ := query
    obtain ⟨hanswer, hsearched⟩ := search_faithful hcache pattern text
    obtain ⟨hanswers, hafter⟩ := ih hsearched
    refine ⟨?_, hafter⟩
    show (cache.search pattern text).1 :: ((cache.search pattern text).2.searchAll queries).1 = _
    rw [hanswer, hanswers]
    rfl

/-- With the usual engine they answer as the notation of patterns says. -/
theorem searchAll_standard (queries : List (String × String)) :
    (PatternCache.searchAll ([] : PatternCache .standard) queries).1 =
      queries.map fun query =>
        (Pattern.ofText? query.1).any fun p => p.occursIn query.2.toList :=
  (searchAll_faithful faithful_nil queries).1

end PatternCache

/-! ### The string comparator -/

namespace Remembering

theorem compareStrings_transparent (op : Operator) (expected actual : String) :
    Transparent PatternCache.Faithful (compareStrings engine op expected actual)
      (Comparator.compareStrings? engine op expected actual) := by
  cases op with
  | search =>
    intro cache hcache
    obtain ⟨hanswer, hafter⟩ := PatternCache.search_faithful hcache expected actual
    exact ⟨congrArg some hanswer, hafter⟩
  | _ => exact Transparent.pure _ _

/-- **A comparison by a string comparator** does not show what its cache holds. -/
theorem string_transparent (op : Operator) (literal : Literal) (item : Value) :
    Transparent PatternCache.Faithful (string engine op literal item)
      ((Comparator.string engine).compare? op literal item) := by
  unfold string
  cases hliteral : literal.text? with
  | none =>
    have hnone : (Comparator.string engine).compare? op literal item = none := by
      simp only [Comparator.string, hliteral, bind, Option.bind]
    rw [hnone]
    exact Transparent.pure _ _
  | some expected =>
    cases hitem : item.string? with
    | none =>
      have hnone : (Comparator.string engine).compare? op literal item = none := by
        simp only [Comparator.string, hliteral, hitem, bind, Option.bind]
      rw [hnone]
      exact Transparent.pure _ _
    | some actual =>
      have hsome : (Comparator.string engine).compare? op literal item =
          Comparator.compareStrings? engine op (decodedText expected) actual := by
        simp only [Comparator.string, hliteral, hitem, bind, Option.bind]
      rw [hsome]
      exact compareStrings_transparent op _ actual

theorem strings_transparent (asked : List (Operator × Literal × Value)) :
    Transparent PatternCache.Faithful (strings engine asked)
      (asked.map fun c => (Comparator.string engine).compare? c.1 c.2.1 c.2.2) := by
  induction asked with
  | nil => exact Transparent.pure _ _
  | cons c asked ih =>
    obtain ⟨op, literal, item⟩ := c
    exact (string_transparent op literal item).bind (ih.bind (Transparent.pure _ _))

end Remembering

/-- **The cache does not show.**  Searches one after the other, from an empty cache on, answer as if
every pattern were compiled when it is asked for; what is no pattern is not found.  A string
comparator, which looks for patterns in this way, compares as it does without a cache.  After every
step the cache has each of its patterns once, with what the pattern is compiled to, and not more of
them than its limit. -/
theorem searchAll_afresh (engine : PatternEngine) (queries : List (String × String))
    (asked : List (Operator × Literal × Value)) :
    (PatternCache.searchAll ([] : PatternCache engine) queries).1 =
        queries.map (fun query => (engine.compile? query.1).any (engine.occursIn · query.2)) ∧
      (∀ steps,
        (PatternCache.searchAll ([] : PatternCache engine) (queries.take steps)).2.Faithful) ∧
      ((Remembering.strings engine asked).run []).1 =
        asked.map (fun c => (Comparator.string engine).compare? c.1 c.2.1 c.2.2) ∧
      ∀ steps, ((Remembering.strings engine (asked.take steps)).run []).2.Faithful := by
  refine ⟨?_, fun steps => ?_, ?_, fun steps => ?_⟩
  · exact (PatternCache.searchAll_faithful PatternCache.faithful_nil queries).1
  · exact (PatternCache.searchAll_faithful PatternCache.faithful_nil _).2
  · exact (Remembering.strings_transparent asked [] PatternCache.faithful_nil).1
  · exact (Remembering.strings_transparent _ [] PatternCache.faithful_nil).2

end DisplayFilter
