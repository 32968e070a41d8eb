import DisplayFilter.Number.Reading
import DisplayFilter.Pattern.Basic
import DisplayFilter.Text.Script

/-!
# Modes and classes of patterns

The meaning of a character in a pattern depends on flags that the pattern may set on its way, as
`(?i)` does.

* `Mode` — the flags, `Mode.set?` — a flag switched on or off by its letter;
* `skipSpace` — the blanks and comments that a mode ignores;
* `Mode.digits`, `Mode.blanks`, `Mode.word` — the classes `\d`, `\s` and `\w`;
* `posixClass?` — classes by name, as in `[:alpha:]`;
* `categoryClass?`, `scriptClass?`, `traitNamed?` — what the names of properties stand for;
* `propertyClass?` — classes by the name of a property, as in `\pL`.
-/

namespace DisplayFilter

/-- **The flags of a pattern.** -/
structure Mode where
  /-- Letters match in any case. -/
  anyCase : Bool := false
  /-- `^` and `$` match at the ends of lines. -/
  multiLine : Bool := false
  /-- A point matches line feeds too. -/
  dotAll : Bool := false
  /-- Blanks and comments do not count. -/
  spaced : Bool := false
  /-- Classes know all characters and not only ASCII ones. -/
  unicode : Bool := true
  /-- Lines end with a carriage return, a line feed or both. -/
  anyNewline : Bool := false
  deriving DecidableEq, Repr

namespace Mode

/-- Switch the flag of a letter on or off. Greediness is none of a search that asks only whether
there is a match. -/
def set? (m : Mode) (letter : Char) (on : Bool) : Option Mode :=
  match letter with
  | 'i' => some { m with anyCase := on }
  | 'm' => some { m with multiLine := on }
  | 's' => some { m with dotAll := on }
  | 'x' => some { m with spaced := on }
  | 'u' => some { m with unicode := on }
  | 'R' => some { m with anyNewline := on }
  | 'U' => some m
  | _ => none

end Mode

/-! ### Ignored text -/

/-- A text without the blanks and comments at its start; a comment goes from a number sign to the
end of the line. -/
def dropSpaced : Bool → List Char → List Char
  | _, [] => []
  | true, c :: s => dropSpaced (c != '\n') s
  | false, c :: s =>
    if Text.isBlank c then dropSpaced false s
    else if c = '#' then dropSpaced true s
    else c :: s

/-- What a mode ignores is left out. -/
def skipSpace (m : Mode) (s : List Char) : List Char :=
  if m.spaced then dropSpaced false s else s

/-! ### Classes of one letter -/

namespace CharSet

/-- The ASCII digits. -/
def asciiDigits : CharSet :=
  range 48 57

/-- The ASCII letters. -/
def asciiLetters : CharSet :=
  union (range 65 90) (range 97 122)

/-- ASCII letters, digits and the underscore. -/
def asciiWord : CharSet :=
  union (union asciiLetters asciiDigits) (single '_')

/-- The blank and the control characters from tab to carriage return. -/
def asciiBlanks : CharSet :=
  union (range 9 13) (single ' ')

end CharSet

namespace Mode

/-- Digits. -/
def digits (m : Mode) : CharSet :=
  if m.unicode then .property .digit else .asciiDigits

/-- Blanks. -/
def blanks (m : Mode) : CharSet :=
  if m.unicode then .property .blank else .asciiBlanks

/-- The characters of words. -/
def word (m : Mode) : CharSet :=
  if m.unicode then .property .word else .asciiWord

/-- A set with the variants of its letters, where case does not count. -/
def withCase (m : Mode) (a : CharSet) : CharSet :=
  if !m.anyCase then a
  else if m.unicode then .anyCase a
  else .union a (.inter (.anyCase (.inter a .ascii)) .ascii)

/-- The pattern of a set. Without Unicode classes it may hold ASCII characters only. -/
def pattern? (m : Mode) (a : CharSet) : Option Pattern :=
  if m.unicode then some (.char a)
  else if a.isAscii then some (.char (.inter a .ascii))
  else none

/-- The pattern of a letter. -/
def letter (m : Mode) (c : Char) : Pattern :=
  if m.unicode || c.toNat < 128 then .char (m.withCase (.single c)) else .char (.single c)

/-- What a point matches. -/
def anyChar? (m : Mode) : Option Pattern :=
  if !m.unicode then none
  else if m.dotAll then some (.char (.complement .none))
  else if m.anyNewline then some (.char (.complement (.ofList ['\r', '\n'])))
  else some (.char (.complement (.single '\n')))

/-- What `^` means. -/
def startLook (m : Mode) : Look :=
  if !m.multiLine then .textStart else if m.anyNewline then .anyLineStart else .lineStart

/-- What `$` means. -/
def endLook (m : Mode) : Look :=
  if !m.multiLine then .textEnd else if m.anyNewline then .anyLineEnd else .lineEnd

end Mode

/-! ### Classes by name -/

/-- The class of a name between `[:` and `:]`. -/
def posixClass? (name : String) : Option CharSet :=
  match name with
  | "alnum" => some (.union .asciiLetters .asciiDigits)
  | "alpha" => some .asciiLetters
  | "ascii" => some .ascii
  | "blank" => some (.ofList ['\t', ' '])
  | "cntrl" => some (.union (.range 0 31) (.range 127 127))
  | "digit" => some .asciiDigits
  | "graph" => some (.range 33 126)
  | "lower" => some (.range 97 122)
  | "print" => some (.range 32 126)
  | "punct" =>
    some (.union (.union (.range 33 47) (.range 58 64)) (.union (.range 91 96) (.range 123 126)))
  | "space" => some .asciiBlanks
  | "upper" => some (.range 65 90)
  | "word" => some .asciiWord
  | "xdigit" => some (.union .asciiDigits (.union (.range 65 70) (.range 97 102)))
  | _ => none

/-- The union of some categories. -/
def categories (ks : List Text.Category) : CharSet :=
  ks.foldr (fun k set => .union (.property (.category k)) set) .none

/-- The categories that a name stands for, short or long, in lower case without separators. -/
def categoryNames : List (List String × List Text.Category) :=
  [(["l", "letter"], [.lu, .ll, .lt, .lm, .lo]),
   (["lc", "casedletter"], [.lu, .ll, .lt]),
   (["lu", "uppercaseletter"], [.lu]),
   (["ll", "lowercaseletter"], [.ll]),
   (["lt", "titlecaseletter"], [.lt]),
   (["lm", "modifierletter"], [.lm]),
   (["lo", "otherletter"], [.lo]),
   (["m", "mark", "combiningmark"], [.mn, .mc, .me]),
   (["mn", "nonspacingmark"], [.mn]),
   (["mc", "spacingmark"], [.mc]),
   (["me", "enclosingmark"], [.me]),
   (["n", "number"], [.nd, .nl, .no]),
   (["nd", "decimalnumber", "digit"], [.nd]),
   (["nl", "letternumber"], [.nl]),
   (["no", "othernumber"], [.no]),
   (["p", "punctuation", "punct"], [.pc, .pd, .ps, .pe, .pi, .pf, .po]),
   (["pc", "connectorpunctuation"], [.pc]),
   (["pd", "dashpunctuation"], [.pd]),
   (["ps", "openpunctuation"], [.ps]),
   (["pe", "closepunctuation"], [.pe]),
   (["pi", "initialpunctuation"], [.pi]),
   (["pf", "finalpunctuation"], [.pf]),
   (["po", "otherpunctuation"], [.po]),
   (["s", "symbol"], [.sm, .sc, .sk, .so]),
   (["sm", "mathsymbol"], [.sm]),
   (["sc", "currencysymbol"], [.sc]),
   (["sk", "modifiersymbol"], [.sk]),
   (["so", "othersymbol"], [.so]),
   (["z", "separator"], [.zs, .zl, .zp]),
   (["zs", "spaceseparator"], [.zs]),
   (["zl", "lineseparator"], [.zl]),
   (["zp", "paragraphseparator"], [.zp]),
   (["c", "other"], [.cc, .cf, .co, .cn]),
   (["cc", "control", "cntrl"], [.cc]),
   (["cf", "format"], [.cf]),
   (["co", "privateuse"], [.co]),
   (["cn", "unassigned"], [.cn])]

/-- The class of a category name. -/
def categoryClass? (name : String) : Option CharSet :=
  match name with
  | "any" => some (.complement .none)
  | "assigned" => some (.complement (.property (.category .cn)))
  | "ascii" => some .ascii
  | _ =>
    (categoryNames.find? fun (names, _) => names.contains name).map fun (_, ks) => categories ks

/-- The class of a script name. -/
def scriptClass? (name : String) : Option CharSet :=
  (Text.findTrait? Text.scripts name).map fun t => .property (.trait t)

/-- The property with a name that is neither a category nor a script. -/
def traitNamed? (name : String) : Option Property :=
  if name = "alphabetic" ∨ name = "alpha" then some .alphabetic
  else if name = "whitespace" ∨ name = "wspace" ∨ name = "space" then some .blank
  else if name = "cased" then some .cased
  else if name = "caseignorable" ∨ name = "ci" then some .caseIgnorable
  else (Text.findTrait? Text.traits name).map .trait

/-- The class of a property that is given by its name alone: a trait, a category or a script. -/
def namedClass? (name : String) : Option CharSet :=
  ((traitNamed? name).map .property).or ((categoryClass? name).or (scriptClass? name))

/-- A property name in lower case, without blanks, dashes and underscores and without `is` in
front, unless nothing but one letter `c` is left. -/
def normalName (name : List Char) : String :=
  let plain := fun s : List Char =>
    (s.filter fun c => c != ' ' && c != '_' && c != '-' && c.toNat < 128).map Char.toLower
  match Text.dropCaseless? ['i', 's'] name with
  | some rest => if plain rest == ['c'] then "isc" else String.ofList (plain rest)
  | none => String.ofList (plain name)

/-- The class of the characters for which a property has a value. -/
def valueClass? (name value : String) : Option CharSet :=
  if name = "gc" ∨ name = "generalcategory" then categoryClass? value
  else if name = "sc" ∨ name = "script" then scriptClass? value
  else none

/-- **The class of a property,** given by a name or by `name=value` with a colon or `!=` for the
equals sign. -/
def propertyClass? (text : List Char) : Option CharSet :=
  match Text.splitOnce (fun c => c == '=' || c == ':') text with
  | none => namedClass? (normalName text)
  | some (name, value) =>
    let negated := name.getLast? == some '!'
    let name := if negated then name.dropLast else name
    (valueClass? (normalName name) (normalName value)).map fun a =>
      if negated then .complement a else a

end DisplayFilter
