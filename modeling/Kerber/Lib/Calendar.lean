import Mathlib.Algebra.Order.Ring.Int

/-!
# Days of the Gregorian calendar

A date as the number of days since the first of January of some year, counted year by year and month
by month (`dayNumber`), and the dates one after the other (`dateAfter`).
-/

namespace Kerber.Calendar

def isLeap (year : Int) : Bool :=
  year % 4 == 0 && (year % 100 != 0 || year % 400 == 0)

def monthLengths (leap : Bool) : List Int :=
  [31, if leap then 29 else 28, 31, 30, 31, 30, 31, 31, 30, 31, 30, 31]

/-- The days of `n` years from `first` on, the leap years being those that `leap` says. -/
def yearDays (leap : Int → Bool) (first : Int) (n : Nat) : Int :=
  ((List.range n).map fun i : Nat => 365 + (leap (first + i)).toInt).sum

/-- The days from the first of January of `first` to a date, for the months counted from 1. -/
def dayNumber (first year month day : Int) : Int :=
  yearDays isLeap first (year - first).toNat
    + ((monthLengths (isLeap year)).take (month - 1).toNat).sum + (day - 1)

def validDate (year month day : Int) : Bool :=
  1 ≤ month && month ≤ 12 && 1 ≤ day
    && day ≤ (monthLengths (isLeap year)).getD (month - 1).toNat 0

theorem yearDays_congr {leap leap' : Int → Bool} {first : Int} {n : Nat}
    (h : ∀ i < n, leap (first + i) = leap' (first + i)) :
    yearDays leap first n = yearDays leap' first n := by
  rw [yearDays, yearDays]
  congr 1
  apply List.map_congr_left
  intro i hi
  rw [h i (List.mem_range.mp hi)]

theorem isLeap_iff (year : Int) :
    isLeap year = true ↔ year % 4 = 0 ∧ (year % 100 ≠ 0 ∨ year % 400 = 0) := by
  simp [isLeap]

theorem validDate_iff {year month day : Int} : validDate year month day = true ↔
    1 ≤ month ∧ month ≤ 12 ∧ 1 ≤ day ∧
      day ≤ (monthLengths (isLeap year)).getD (month - 1).toNat 0 := by
  simp [validDate, and_assoc]

theorem monthLengths_bounds (leap : Bool) :
    ∀ k < 12, 1 ≤ (monthLengths leap).getD k 0 ∧ (monthLengths leap).getD k 0 ≤ 31 := by
  cases leap <;> decide

/-! ### From one day to the next -/

structure Date where
  (year month day : Int)
  deriving DecidableEq

def Date.next (d : Date) : Date :=
  if d.day < (monthLengths (isLeap d.year)).getD (d.month - 1).toNat 0 then { d with day := d.day + 1 }
  else if d.month < 12 then ⟨d.year, d.month + 1, 1⟩
  else ⟨d.year + 1, 1, 1⟩

/-- The date so many days after the first of January of a year. -/
def dateAfter (first : Int) (n : Nat) : Date :=
  Date.next^[n] ⟨first, 1, 1⟩

end Kerber.Calendar
