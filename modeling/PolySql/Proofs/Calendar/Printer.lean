import PolySql.Calendar.Printer
import PolySql.Proofs.Number.Decimal

namespace PolySql.Calendar

open Number

variable {P : Char → Bool} (hdigit : ∀ c : Char, c.isDigit = true → P c = true)
include hdigit

theorem all_yearText (hminus : P '-' = true) (hplus : P '+' = true) (year : Int) :
    (yearText year).toList.all P = true := by
  unfold yearText
  split
  · exact all_padded hdigit _ _
  · rw [String.toList_append, List.all_append, all_padded hdigit]
    split
    · simpa using hminus
    · simpa using hplus

theorem Date.all_text (hminus : P '-' = true) (hplus : P '+' = true) (d : Date) :
    d.text.toList.all P = true := by
  simp [Date.text, List.all_append, all_yearText hdigit hminus hplus, all_padded hdigit, hminus]

theorem all_fraction (hpoint : P '.' = true) (nanos digits : Nat) :
    (fraction nanos digits).toList.all P = true := by
  unfold fraction
  dsimp only
  split
  · rfl
  · rw [String.toList_append, List.all_append, all_padded hdigit]
    simpa using hpoint

theorem all_formatTime (hcolon : P ':' = true) (hpoint : P '.' = true) (c : Clock) (digits : Nat) :
    (formatTime c digits).toList.all P = true := by
  simp [formatTime, Clock.text, List.all_append, all_fraction hdigit hpoint, all_padded hdigit, hcolon]

end PolySql.Calendar
