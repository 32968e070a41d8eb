import DisplayFilter.Proofs.Cursor.Boundaries
import DisplayFilter.Proofs.EndPieces

/-!
# Reading with a cursor

Reading a text may also be done with a cursor: a position in bytes that goes forwards over what is read and
back where reading has to be tried in another way.  Here every position that the cursor takes and every
piece that is cut out of the text is checked, and so is that reading comes to an end.

* `CursorFailure` — what must not happen to a cursor, `Scan` — reading with a cursor;
* `Scan.reset`, `Scan.textFrom`, `Scan.textUpTo` — the checked steps, and those made of them;
* `Tracks` — a cursor does what a reader of texts does;
* **`Tracks.step`**, **`Tracks.bind`**, **`Tracks.attempt`** — one step after the other, and a lemma for each
  step (`tracks_reset`, `tracks_eat`, `tracks_takeWhile`, …).
-/

namespace DisplayFilter

open Text

/-! ### Cursors -/

/-- **What must not happen:** a position inside of a character or behind the end, a negative position,
or a loop that does not come to its end. -/
inductive CursorFailure where
  | offBoundary (position : Nat)
  | negative (position : Int)
  | unfinished
  deriving DecidableEq

/-- **Reading with a cursor:** from a text and a position to an answer or a fault, and the position
then. -/
def Scan (ε α : Type) : Type :=
  List Char → Nat → Except CursorFailure (Except ε α × Nat)

/-- One cursor after the other: a fault or a failure ends reading. -/
def Scan.andThen {ε α β : Type} (x : Scan ε α) (f : α → Scan ε β) : Scan ε β :=
  fun src position =>
    match x src position with
    | .error failure => .error failure
    | .ok (.error e, after) => .ok (.error e, after)
    | .ok (.ok a, after) => f a src after

instance {ε : Type} : Monad (Scan ε) where
  pure a := fun _ position => .ok (.ok a, position)
  bind := Scan.andThen

namespace Scan

variable {ε ε' α : Type}

/-- A fault at the position where the cursor is. -/
def fault (e : ε) : Scan ε α :=
  fun _ position => .ok (.error e, position)

/-- What must not happen. -/
def fail (failure : CursorFailure) : Scan ε α :=
  fun _ _ => .error failure

/-- The text that is read. -/
def source : Scan ε (List Char) :=
  fun src position => .ok (.ok src, position)

/-- Where the cursor is. -/
def position : Scan ε Nat :=
  fun _ position => .ok (.ok position, position)

/-- A fault that names the position. -/
def faultHere (f : Nat → ε) : Scan ε α := do
  fault (f (← position))

/-- **Moving the cursor** to a position, which has to be a boundary. -/
def reset (target : Nat) : Scan ε Unit :=
  fun src _ =>
    if IsBoundary src target then .ok (.ok (), target) else .error (.offBoundary target)

/-- Moving the cursor forwards. -/
def advance (size : Nat) : Scan ε Unit := do
  reset ((← position) + size)

/-- **The text from a position on,** which has to be a boundary. -/
def textFrom (s : List Char) (start : Nat) : Scan ε (List Char) :=
  match dropBytes? start s with
  | some rest => pure rest
  | none => fail (.offBoundary start)

/-- **The text up to a position,** which has to be a boundary. -/
def textUpTo (s : List Char) (stop : Nat) : Scan ε (List Char) :=
  match takeBytes? stop s with
  | some front => pure front
  | none => fail (.offBoundary stop)

/-- The difference of two positions. -/
def difference (stop start : Nat) : Scan ε Nat :=
  if start ≤ stop then pure (stop - start) else fail (.negative (stop - start))

/-- The text between two positions. -/
def between (start stop : Nat) : Scan ε (List Char) := do
  let behind ← textFrom (← source) start
  textUpTo behind (← difference stop start)

/-- The text that is left to read. -/
def rest : Scan ε (List Char) := do
  textFrom (← source) (← position)

/-- The next character. -/
def peek : Scan ε (Option Char) :=
  return (← rest).head?

/-- A text is read if it comes next. -/
def eat (word : List Char) : Scan ε Bool := do
  let s ← rest
  if (dropText? word s).isSome then do
    advance (utf8Size word)
    pure true
  else pure false

/-- As many bytes as a word has, if there is a boundary behind them. -/
def headOf (word : List Char) : Scan ε (Option (List Char)) :=
  return takeBytes? (utf8Size word) (← rest)

/-- A word is read if it comes next, in any case of letters. -/
def eatCaseless (word : List Char) : Scan ε Bool := do
  if (← headOf word).any (equalCaseless word) then do
    advance (utf8Size word)
    pure true
  else pure false

/-- The characters up to the first one for which a condition does not hold. -/
def takeWhile (p : Char → Bool) : Scan ε (List Char) := do
  let s ← rest
  let size := utf8Size (s.takeWhile p)
  advance size
  textUpTo s size

/-- Blanks are read, and how many there are. -/
def skipBlanks : Scan ε Nat :=
  return (← takeWhile isBlank).length

/-- Whether there is at least one blank. -/
def eatBlanks : Scan ε Bool :=
  return 0 < (← skipBlanks)

/-- What becomes of a scanner, with its fault as an answer; the cursor stays where the fault is. -/
def attempt (x : Scan ε α) : Scan ε' (Except ε α) :=
  fun src position =>
    match x src position with
    | .error failure => .error failure
    | .ok (result, after) => .ok (.ok result, after)

/-- A scanner on a text of its own, with a cursor of its own. -/
def within (s : List Char) (x : Scan ε α) : Scan ε' (Except ε α) :=
  fun _ position =>
    match x s 0 with
    | .error failure => .error failure
    | .ok (result, _) => .ok (.ok result, position)

/-- A scanner with a cursor of its own that starts at the same position. -/
def lookahead (x : Scan ε α) : Scan ε α :=
  fun src position =>
    match x src position with
    | .error failure => .error failure
    | .ok (result, _) => .ok (result, position)

/-- A scanner with its fault seen in another way. -/
def mapFault (f : ε → ε') (x : Scan ε α) : Scan ε' α :=
  fun src position =>
    match x src position with
    | .error failure => .error failure
    | .ok (.error e, after) => .ok (.error (f e), after)
    | .ok (.ok a, after) => .ok (.ok a, after)

end Scan

/-! ### Tracking a reader of texts -/

/-- **A cursor does what a reader of texts does.**  A reader says what is read and which end piece of `src`
is left then, or how reading ends early.  A cursor that `Tracks` it from a position on gives the same
answer and is at the position of the end piece, or it gives a fault that is `reported` for that of the
reader. -/
inductive Tracks {ε ε' α : Type} (reported : ε' → ε → Prop) (src : List Char) (x : Scan ε α)
    (position : Nat) : Except ε' (α × List Char) → Prop
  | ok {a : α} {rest : List Char} (hrest : rest <:+ src)
      (hrun : x src position = .ok (.ok a, bytePosition src rest)) :
      Tracks reported src x position (.ok (a, rest))
  | error {e' : ε'} {e : ε} {after : Nat} (he : reported e' e)
      (hrun : x src position = .ok (.error e, after)) : Tracks reported src x position (.error e')

/-- Whether something was read, and what is left then. -/
def eaten (o : Option (List Char)) (s : List Char) : Bool × List Char :=
  match o with
  | some t => (true, t)
  | none => (false, s)

/-- What was read, if anything was, and what is left then. -/
def tried {α : Type} (o : Option (α × List Char)) (s : List Char) : Option α × List Char :=
  match o with
  | some (a, t) => (some a, t)
  | none => (none, s)

section Tracks

variable {ε ε' ε₂ ε₂' α β : Type} {reported : ε' → ε → Prop} {src s t : List Char} {place : Nat}

/-! ### Steps one after the other -/

theorem tracks_pure (hs : s <:+ src) (a : α) :
    Tracks reported src (pure a : Scan ε α) (bytePosition src s) (.ok (a, s)) :=
  .ok hs rfl

/-- What a cursor does in the end is what it does behind a step. -/
theorem Tracks.of_run {x : Scan ε α} {y : Scan ε α} {z : Except ε' (α × List Char)} {after : Nat}
    (h : x src place = y src after) (hy : Tracks reported src y after z) :
    Tracks reported src x place z := by
  cases hy with
  | ok hrest hrun => exact .ok hrest (h.trans hrun)
  | error he hrun => exact .error he (h.trans hrun)

theorem tracks_fault {e' : ε'} {e : ε} (he : reported e' e) :
    Tracks reported src (Scan.fault e : Scan ε α) place (.error e') :=
  .error he rfl

theorem Tracks.suffix {x : Scan ε α} {a : α} (h : Tracks reported src x place (.ok (a, t))) :
    t <:+ src := by
  cases h with
  | ok hrest _ => exact hrest

theorem Scan.bind_of_ok {x : Scan ε α} {f : α → Scan ε β} {a : α} {after : Nat}
    (h : x src place = .ok (.ok a, after)) : (x >>= f) src place = f a src after := by
  show x.andThen f src place = _
  rw [Scan.andThen, h]

theorem Scan.bind_of_fault {x : Scan ε α} {f : α → Scan ε β} {e : ε} {after : Nat}
    (h : x src place = .ok (.error e, after)) : (x >>= f) src place = .ok (.error e, after) := by
  show x.andThen f src place = _
  rw [Scan.andThen, h]

/-- **After a step that gives an answer** the next one starts where it has left the cursor. -/
theorem Tracks.step {x : Scan ε α} {f : α → Scan ε β} {a : α} {y : Except ε' (β × List Char)}
    (hx : Tracks reported src x place (.ok (a, t)))
    (hf : Tracks reported src (f a) (bytePosition src t) y) :
    Tracks reported src (x >>= f) place y := by
  cases hx with
  | ok hrest hrun => exact hf.of_run (Scan.bind_of_ok hrun)

/-- After a fault there is no next step. -/
theorem Tracks.stop {x : Scan ε α} {f : α → Scan ε β} {e' : ε'}
    (hx : Tracks reported src x place (.error e')) :
    Tracks reported src (x >>= f) place (.error e' : Except ε' (β × List Char)) := by
  cases hx with
  | error he hrun => exact .error he (Scan.bind_of_fault hrun)

/-- **Two readers one after the other** are tracked by two cursors one after the other. -/
theorem Tracks.bind {x : Scan ε α} {f : α → Scan ε β} {y : Except ε' (α × List Char)}
    {g : α × List Char → Except ε' (β × List Char)} (hx : Tracks reported src x place y)
    (hf : ∀ a t, t <:+ src → y = .ok (a, t) →
      Tracks reported src (f a) (bytePosition src t) (g (a, t))) :
    Tracks reported src (x >>= f) place (y >>= g) := by
  cases hx with
  | ok hrest hrun => exact Tracks.step (.ok hrest hrun) (hf _ _ hrest rfl)
  | error he hrun => exact Tracks.stop (.error he hrun)

/-- **After a step that may read something:** if it does not, the cursor stays. -/
theorem Tracks.bind_tried {x : Scan ε (Option α)} {f : Option α → Scan ε β}
    {o : Option (α × List Char)} {y : Except ε' (β × List Char)}
    (hx : Tracks reported src x place (.ok (tried o s)))
    (hnone : o = none → s <:+ src → Tracks reported src (f none) (bytePosition src s) y)
    (hsome : ∀ a t, o = some (a, t) → t <:+ src →
      Tracks reported src (f (some a)) (bytePosition src t) y) :
    Tracks reported src (x >>= f) place y := by
  cases o with
  | none => exact hx.step (hnone rfl hx.suffix)
  | some answer => exact hx.step (hsome answer.1 answer.2 rfl hx.suffix)

/-- **After a step that may read something** of which only the end piece counts. -/
theorem Tracks.bind_eaten {x : Scan ε Bool} {f : Bool → Scan ε β} {o : Option (List Char)}
    {y : Except ε' (β × List Char)} (hx : Tracks reported src x place (.ok (eaten o s)))
    (hnone : o = none → s <:+ src → Tracks reported src (f false) (bytePosition src s) y)
    (hsome : ∀ t, o = some t → t <:+ src → Tracks reported src (f true) (bytePosition src t) y) :
    Tracks reported src (x >>= f) place y := by
  cases o with
  | none => exact hx.step (hnone rfl hx.suffix)
  | some t => exact hx.step (hsome t rfl hx.suffix)

theorem Tracks.step_true {x : Scan ε Bool} {f g : Scan ε β} {y : Except ε' (β × List Char)}
    (hx : Tracks reported src x place (.ok (true, t)))
    (hf : Tracks reported src f (bytePosition src t) y) :
    Tracks reported src (do if (← x) then f else g) place y :=
  Tracks.step hx hf

theorem Tracks.step_false {x : Scan ε Bool} {f g : Scan ε β} {y : Except ε' (β × List Char)}
    (hx : Tracks reported src x place (.ok (false, t)))
    (hg : Tracks reported src g (bytePosition src t) y) :
    Tracks reported src (do if (← x) then f else g) place y :=
  Tracks.step hx hg

/-! ### Single steps -/

theorem tracks_position (hs : s <:+ src) :
    Tracks reported src (Scan.position : Scan ε Nat) (bytePosition src s)
      (.ok (bytePosition src s, s)) :=
  .ok hs rfl

theorem tracks_faultHere (hs : s <:+ src) {e' : ε'} {f : Nat → ε}
    (he : reported e' (f (bytePosition src s))) :
    Tracks reported src (Scan.faultHere f : Scan ε α) (bytePosition src s) (.error e') :=
  (tracks_position hs).step (tracks_fault he)

theorem tracks_source (hs : s <:+ src) :
    Tracks reported src (Scan.source : Scan ε (List Char)) (bytePosition src s) (.ok (src, s)) :=
  .ok hs rfl

/-- **Back to an end piece,** from wherever the cursor is. -/
theorem tracks_reset (ht : t <:+ src) :
    Tracks reported src (Scan.reset (bytePosition src t) : Scan ε Unit) place (.ok ((), t)) :=
  .ok ht (if_pos (isBoundary_bytePosition ht))

theorem tracks_advance {front : List Char} (h : front ++ t <:+ src) :
    Tracks reported src (Scan.advance (utf8Size front) : Scan ε Unit)
      (bytePosition src (front ++ t)) (.ok ((), t)) := by
  have ht : t <:+ src := (List.suffix_append front t).trans h
  refine (tracks_position h).step ?_
  rw [← bytePosition_append h]
  exact tracks_reset ht

theorem tracks_textFrom {whole behind : List Char} {start : Nat} (hs : s <:+ src)
    (h : dropBytes? start whole = some behind) :
    Tracks reported src (Scan.textFrom whole start : Scan ε (List Char)) (bytePosition src s)
      (.ok (behind, s)) := by
  rw [Scan.textFrom, h]
  exact tracks_pure hs behind

theorem tracks_textUpTo {front behind : List Char} (hs : s <:+ src) :
    Tracks reported src (Scan.textUpTo (front ++ behind) (utf8Size front) : Scan ε (List Char))
      (bytePosition src s) (.ok (front, s)) := by
  rw [Scan.textUpTo, takeBytes?_append]
  exact tracks_pure hs front

/-- **The text between two end pieces.** -/
theorem tracks_between {front : List Char} (hs : s <:+ src) (h : front ++ t <:+ src) :
    Tracks reported src
      (Scan.between (bytePosition src (front ++ t)) (bytePosition src t) : Scan ε (List Char))
      (bytePosition src s) (.ok (front, s)) := by
  have hsize := bytePosition_append h
  refine (tracks_source hs).step ?_
  refine (tracks_textFrom hs (dropBytes?_bytePosition h)).step ?_
  have hdifference : Tracks reported src
      (Scan.difference (bytePosition src t) (bytePosition src (front ++ t)) : Scan ε Nat)
      (bytePosition src s) (.ok (utf8Size front, s)) := by
    have hsub : bytePosition src t - bytePosition src (front ++ t) = utf8Size front := by
      omega
    rw [Scan.difference, if_pos (by omega), hsub]
    exact tracks_pure hs _
  exact hdifference.step (tracks_textUpTo hs)

theorem tracks_rest (hs : s <:+ src) :
    Tracks reported src (Scan.rest : Scan ε (List Char)) (bytePosition src s) (.ok (s, s)) := by
  refine (tracks_source hs).step ?_
  refine (tracks_position hs).step ?_
  exact tracks_textFrom hs (dropBytes?_bytePosition hs)

theorem tracks_peek (hs : s <:+ src) :
    Tracks reported src (Scan.peek : Scan ε (Option Char)) (bytePosition src s)
      (.ok (s.head?, s)) :=
  (tracks_rest hs).step (tracks_pure hs s.head?)

/-- **A text is read** if it comes next. -/
theorem tracks_eat {word : List Char} (hs : s <:+ src) :
    Tracks reported src (Scan.eat word : Scan ε Bool) (bytePosition src s)
      (.ok (eaten (dropText? word s) s)) := by
  refine (tracks_rest hs).step ?_
  cases hdrop : dropText? word s with
  | none => exact tracks_pure hs false
  | some t =>
    obtain rfl := eq_append_of_dropText? hdrop
    exact (tracks_advance hs).step (tracks_pure ((List.suffix_append word t).trans hs) true)

theorem tracks_eat_cons {c : Char} (h : c :: t <:+ src) :
    Tracks reported src (Scan.eat [c] : Scan ε Bool) (bytePosition src (c :: t)) (.ok (true, t)) := by
  have heat := @tracks_eat ε ε' reported src (c :: t) [c] h
  have hdrop : dropText? [c] (c :: t) = some t := dropText?_append [c] t
  rw [hdrop] at heat
  exact heat

theorem tracks_eat_of_ne {c : Char} (hs : s <:+ src) (h : ∀ t, s = c :: t → False) :
    Tracks reported src (Scan.eat [c] : Scan ε Bool) (bytePosition src s) (.ok (false, s)) := by
  have heat := @tracks_eat ε ε' reported src s [c] hs
  have hnone : dropText? [c] s = none :=
    Option.eq_none_iff_forall_ne_some.2 fun t ht => h t (eq_append_of_dropText? ht)
  rw [hnone] at heat
  exact heat

/-- **A word is read** if it comes next in any case of letters: the text is cut behind as many bytes as
the word has. -/
theorem tracks_eatCaseless {word : List Char} (hs : s <:+ src) :
    Tracks reported src (Scan.eatCaseless word : Scan ε Bool) (bytePosition src s)
      (.ok (eaten (dropCaseless? word s) s)) := by
  refine ((tracks_rest hs).step (tracks_pure hs (takeBytes? (utf8Size word) s))).step ?_
  cases hdrop : dropCaseless? word s with
  | none =>
    have hother : (takeBytes? (utf8Size word) s).any (equalCaseless word) = false := by
      cases hfront : takeBytes? (utf8Size word) s with
      | none => rfl
      | some front =>
        obtain ⟨rest, rfl, -⟩ := takeBytes?_eq_some_iff.1 hfront
        show equalCaseless word front = false
        rw [Bool.eq_false_iff]
        intro hequal
        rw [dropCaseless?_eq_some_iff.2 ⟨front, rfl, hequal⟩] at hdrop
        nomatch hdrop
    rw [hother]
    exact tracks_pure hs false
  | some t =>
    obtain ⟨w, rfl, hequal⟩ := dropCaseless?_eq_some_iff.1 hdrop
    rw [← utf8Size_of_equalCaseless hequal, takeBytes?_append, Option.any_some, hequal]
    exact (tracks_advance hs).step (tracks_pure ((List.suffix_append w t).trans hs) true)

/-- **A run of characters.** -/
theorem tracks_takeWhile (hs : s <:+ src) (p : Char → Bool) :
    Tracks reported src (Scan.takeWhile p : Scan ε (List Char)) (bytePosition src s)
      (.ok (s.takeWhile p, s.dropWhile p)) := by
  have hsplit : s.takeWhile p ++ s.dropWhile p = s := List.takeWhile_append_dropWhile
  have hrest : s.dropWhile p <:+ src := (List.dropWhile_suffix p).trans hs
  have hadvance := @tracks_advance ε ε' reported src (s.dropWhile p) (s.takeWhile p)
    (hsplit.symm ▸ hs)
  have htext := @tracks_textUpTo ε ε' reported src (s.dropWhile p) (s.takeWhile p) (s.dropWhile p) hrest
  rw [hsplit] at hadvance htext
  refine (tracks_rest hs).step ?_
  exact hadvance.step htext

theorem tracks_skipBlanks (hs : s <:+ src) :
    Tracks reported src (Scan.skipBlanks : Scan ε Nat) (bytePosition src s)
      (.ok ((s.takeWhile isBlank).length, trimStart s)) :=
  (tracks_takeWhile hs isBlank).step (tracks_pure (trimStart_suffix s |>.trans hs) _)

/-- **Blanks** are read, at least one or none. -/
theorem tracks_eatBlanks (hs : s <:+ src) :
    Tracks reported src (Scan.eatBlanks : Scan ε Bool) (bytePosition src s)
      (.ok (eaten (blanks? s) s)) := by
  have hskip := @tracks_skipBlanks ε ε' reported src s hs
  cases s with
  | nil => exact hskip.step (tracks_pure hs false)
  | cons c s =>
    by_cases hc : isBlank c = true
    · have htrim := trimStart_cons_of_blank hc s
      rw [htrim] at hskip
      rw [blanks?_cons_of_isBlank hc, eaten]
      refine hskip.step ?_
      rw [List.takeWhile_cons_of_pos hc]
      exact tracks_pure hskip.suffix true
    · have hc : isBlank c = false := Bool.not_eq_true _ ▸ hc
      rw [trimStart_cons_of_not_blank hc] at hskip
      rw [blanks?_cons_of_not_isBlank hc, eaten]
      refine hskip.step ?_
      rw [List.takeWhile_cons_of_neg (Bool.eq_false_iff.1 hc)]
      exact tracks_pure hs false

/-! ### Cursors of their own, and other ways -/

/-- **Another way after a fault:** where a scanner fails the cursor may be anywhere. -/
theorem Tracks.attempt {x : Scan ε α} {f : Except ε α → Scan ε₂ β} {reported₂ : ε₂' → ε₂ → Prop}
    {y : Except ε' (α × List Char)} {z : Except ε₂' (β × List Char)}
    (hx : Tracks reported src x place y)
    (hok : ∀ a t, y = .ok (a, t) → t <:+ src →
      Tracks reported₂ src (f (.ok a)) (bytePosition src t) z)
    (herror : ∀ e' e after, y = .error e' → reported e' e →
      Tracks reported₂ src (f (.error e)) after z) :
    Tracks reported₂ src (Scan.attempt x >>= f) place z := by
  cases hx with
  | ok hrest hrun =>
    refine (hok _ _ rfl hrest).of_run (Scan.bind_of_ok ?_)
    rw [Scan.attempt, hrun]
  | @error e' e after he hrun =>
    refine (herror e' e after rfl he).of_run (Scan.bind_of_ok ?_)
    rw [Scan.attempt, hrun]

/-- **A text of its own** has positions of its own. -/
theorem Tracks.within {own : List Char} {x : Scan ε α} {f : Except ε α → Scan ε₂ β}
    {reported₂ : ε₂' → ε₂ → Prop} {y : Except ε' (α × List Char)} {z : Except ε₂' (β × List Char)}
    (hx : Tracks reported own x (bytePosition own own) y)
    (hok : ∀ a t, y = .ok (a, t) → Tracks reported₂ src (f (.ok a)) place z)
    (herror : ∀ e' e, y = .error e' → reported e' e →
      Tracks reported₂ src (f (.error e)) place z) :
    Tracks reported₂ src (Scan.within own x >>= f) place z := by
  rw [bytePosition_self] at hx
  cases hx with
  | ok hrest hrun =>
    refine (hok _ _ rfl).of_run (Scan.bind_of_ok ?_)
    rw [Scan.within, hrun]
  | error he hrun =>
    refine (herror _ _ rfl he).of_run (Scan.bind_of_ok ?_)
    rw [Scan.within, hrun]

/-- **Looking ahead** leaves the cursor where it is. -/
theorem Tracks.lookahead {x : Scan ε α} {a : α} (hs : s <:+ src)
    (hx : Tracks reported src x (bytePosition src s) (.ok (a, t))) :
    Tracks reported src (Scan.lookahead x) (bytePosition src s) (.ok (a, s)) := by
  cases hx with
  | ok hrest hrun => exact .ok hs (by rw [Scan.lookahead, hrun])

/-- **Faults seen in another way.** -/
theorem Tracks.mapFault {x : Scan ε α} {reported₂ : ε₂' → ε₂ → Prop} {f : ε → ε₂} {g : ε' → ε₂'}
    {y : Except ε' (α × List Char)} (hx : Tracks reported src x place y)
    (hfault : ∀ e' e, reported e' e → reported₂ (g e') (f e)) :
    Tracks reported₂ src (Scan.mapFault f x) place (y.mapError g) := by
  cases hx with
  | ok hrest hrun => exact .ok hrest (by rw [Scan.mapFault, hrun])
  | error he hrun => exact .error (hfault _ _ he) (by rw [Scan.mapFault, hrun])

end Tracks

end DisplayFilter
