import Kerber.Lib.Calendar

/-!
# The conversion of an absolute date (krb5-admin, getdate.rs)

A month, day, year and time of day that the date grammar has read, to the seconds since 1970.  An `i64`
is an `Int`, and a wrapping operation is reduced to the range of an `i64`.
-/

namespace Kerber.Admin.Getdate

open Calendar

def epoch : Int := 1970
def epochEnd : Int := 2106
def secsPerDay : Int := 24 * 60 * 60

inductive Meridian
  | am | pm | h24
  deriving Repr, DecidableEq

inductive DstMode
  | on | off | maybe
  deriving Repr, DecidableEq

structure Moment where
  (month day year hour minutes seconds : Int)
  deriving Repr, DecidableEq

/-- A value of a wrapping `i64` operation. -/
def wrap (n : Int) : Int := n.bmod (2 ^ 64)

/-- The hour as it is counted, for an hour that the meridian allows. -/
def hourOf (h : Int) : Meridian → Option Int
  | .h24 => if 0 ≤ h ∧ h ≤ 23 then some h else none
  | .am => if 1 ≤ h ∧ h ≤ 12 then some h else none
  | .pm => if 1 ≤ h ∧ h ≤ 12 then some (h + 12) else none

def toSeconds (h m s : Int) (mer : Meridian) : Option Int :=
  if ¬(0 ≤ m ∧ m ≤ 59) ∨ ¬(0 ≤ s ∧ s ≤ 59) then none
  else (hourOf h mer).map fun h => (h * 60 + m) * 60 + s

/-- The year that is meant: one below 1900 is counted from 1900. -/
def fullYear (year : Int) : Int :=
  let year := wrap |year|
  if year < 1900 then year + 1900 else year

/-- The conversion; `isdst` is the system's answer whether summer time holds at an instant. -/
def convert (isdst : Int → Option Bool) (moment : Moment) (mer : Meridian) (dst : DstMode)
    (timezone : Int) : Option Int := do
  let year := fullYear moment.year
  let daysIn := monthLengths (isLeap year)
  if ¬(epoch ≤ year ∧ year ≤ epochEnd) ∨ ¬(1 ≤ moment.month ∧ moment.month ≤ 12) then none
  let mon := (moment.month - 1).toNat
  if moment.day < 1 ∨ moment.day > daysIn.getD mon 0 then none
  let julian := moment.day - 1 + (daysIn.take mon).sum
  -- The century is asked of the date's year and not of the year `i` that the loop is at.
  let julian := julian + yearDays (fun i => i % 4 == 0 && (year % 100 != 0 || year % 400 == 0))
    epoch (year - epoch).toNat
  let julian := wrap (julian * secsPerDay + wrap (timezone * 60))
  let julian := wrap (julian + (← toSeconds moment.hour moment.minutes moment.seconds mer))
  match dst with
  | .on => some (julian - 60 * 60)
  | .off => some julian
  | .maybe => if (← isdst julian) then some (julian - 60 * 60) else some julian

end Kerber.Admin.Getdate
