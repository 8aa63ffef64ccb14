namespace PolySql.Calendar

def isLeapYear (year : Int) : Bool :=
  year % 4 == 0 && (year % 100 != 0 || year % 400 == 0)

def daysInMonth (year : Int) (month : Nat) : Nat :=
  if month = 2 then if isLeapYear year then 29 else 28
  else if month = 4 ∨ month = 6 ∨ month = 9 ∨ month = 11 then 30
  else if 1 ≤ month ∧ month ≤ 12 then 31
  else 0

structure Date where
  year : Int
  month : Nat
  day : Nat
  valid : 1 ≤ day ∧ day ≤ daysInMonth year month
  deriving DecidableEq, Repr

theorem daysInMonth_pos {year : Int} {month : Nat} (h : 1 ≤ month ∧ month ≤ 12) :
    1 ≤ daysInMonth year month := by
  unfold daysInMonth
  split
  · split <;> omega
  · split
    · omega
    · simp

theorem month_of_days {year : Int} {month day : Nat}
    (h : 1 ≤ day ∧ day ≤ daysInMonth year month) : 1 ≤ month ∧ month ≤ 12 := by
  unfold daysInMonth at h
  split at h
  · omega
  · split at h
    · omega
    · split at h <;> omega

namespace Date

def ofParts? (year : Int) (month day : Nat) : Option Date :=
  if h : 1 ≤ day ∧ day ≤ daysInMonth year month then some ⟨year, month, day, h⟩ else none

def next (d : Date) : Date :=
  if h : d.day + 1 ≤ daysInMonth d.year d.month then
    ⟨d.year, d.month, d.day + 1, by omega, h⟩
  else if hm : d.month + 1 ≤ 12 then
    ⟨d.year, d.month + 1, 1, Nat.le_refl 1, daysInMonth_pos (by omega)⟩
  else ⟨d.year + 1, 1, 1, by simp [daysInMonth]⟩

def previous (d : Date) : Date :=
  if h : 2 ≤ d.day then
    ⟨d.year, d.month, d.day - 1, by have := d.valid; omega⟩
  else if hm : 2 ≤ d.month then
    ⟨d.year, d.month - 1, daysInMonth d.year (d.month - 1),
      daysInMonth_pos (by have := month_of_days d.valid; omega), Nat.le_refl _⟩
  else ⟨d.year - 1, 12, 31, by simp [daysInMonth]⟩

end Date

end PolySql.Calendar
