import Kerber.Admin.Getdate

/-!
# What an absolute date is converted to

`convert_off`: with summer time off a date from 1970 to 2106 gives its Unix time but for two slips kept
from MIT's `getdate.y`: the hour 12 is not folded (12 am is noon and 12 pm the next midnight), and the
leap days before a date of 2100 or later are miscounted (`yearDays_loop`).
-/

namespace Kerber.Admin.Getdate

open Calendar

variable {isdst : Int → Option Bool} {moment : Moment} {mer : Meridian} {dst : DstMode}
  {timezone : Int}

/-! ### The calendar's reading of a moment -/

/-- The hour of the day that a clock of 24 or 12 hours shows: 12 am is midnight and 12 pm is noon. -/
def hourOfDay (h : Int) : Meridian → Int
  | .h24 => h
  | .am => h % 12
  | .pm => h % 12 + 12

structure Moment.Valid (moment : Moment) (mer : Meridian) : Prop where
  date : validDate (fullYear moment.year) moment.month moment.day = true
  hour : (hourOf moment.hour mer).isSome = true
  minutes : 0 ≤ moment.minutes ∧ moment.minutes ≤ 59
  seconds : 0 ≤ moment.seconds ∧ moment.seconds ≤ 59

/-- The Unix time of a moment in a zone so many minutes west of Greenwich. -/
def unixTime (moment : Moment) (mer : Meridian) (timezone : Int) : Int :=
  dayNumber 1970 moment.year moment.month moment.day * 86400
    + (hourOfDay moment.hour mer * 60 + moment.minutes) * 60 + moment.seconds + timezone * 60

/-- The days by which the loop over the years is off. -/
def leapSlip (year : Int) : Int :=
  if year < 2100 then 0 else if year = 2100 then -32 else 1

/-- The hours by which the hour 12 of a 12 hour clock is off. -/
def noonSlip (h : Int) (mer : Meridian) : Int :=
  if mer ≠ .h24 ∧ h = 12 then 12 else 0

/-! ### The two slips -/

theorem yearDays_loop {year : Int} (h : 1970 ≤ year) (h' : year ≤ 2106) :
    yearDays (fun i => i % 4 == 0 && (year % 100 != 0 || year % 400 == 0)) 1970
      (year - 1970).toNat = yearDays isLeap 1970 (year - 1970).toNat + leapSlip year := by
  by_cases hlt : year < 2100
  · rw [leapSlip, if_pos hlt, Int.add_zero]
    apply yearDays_congr
    intro i hi
    -- Of the centuries only 2000 is met before 2100, and it is a leap year.
    rw [isLeap, Bool.eq_iff_iff]
    simp only [Bool.and_eq_true, Bool.or_eq_true, beq_iff_eq, bne_iff_ne]
    omega
  · obtain ⟨k, rfl⟩ : ∃ k : Fin 7, year = 2100 + (k : Nat) := ⟨⟨(year - 2100).toNat, by omega⟩, by
      show year = 2100 + ((year - 2100).toNat : Int); omega⟩
    revert k
    decide +kernel

theorem hourOf_some {h out : Int} (hout : hourOf h mer = some out) :
    out = hourOfDay h mer + noonSlip h mer := by
  cases mer <;> simp [hourOf, hourOfDay, noonSlip] at hout ⊢ <;> grind

theorem fullYear_eq {year : Int} (h : 1900 ≤ year) (h' : year < 2 ^ 63) : fullYear year = year := by
  have hwrap : wrap |year| = year := by
    rw [abs_of_nonneg (by omega), wrap]
    apply Int.bmod_eq_of_le <;> omega
  simp only [fullYear, hwrap]
  exact if_neg (by omega)

/-! ### The conversion -/

theorem toSeconds_some {h m s out : Int} (hm : 0 ≤ m ∧ m ≤ 59) (hs : 0 ≤ s ∧ s ≤ 59)
    (hh : hourOf h mer = some out) : toSeconds h m s mer = some ((out * 60 + m) * 60 + s) := by
  rw [toSeconds, if_neg (by omega), hh, Option.map_some]

/-- A time that is no time of day, or a date that is none of the calendar, is refused. -/
theorem convert_refused (h : ¬moment.Valid mer) : convert isdst moment mer dst timezone = none := by
  by_contra hsome
  apply h
  rw [← ne_eq, Option.ne_none_iff_exists'] at hsome
  obtain ⟨t, ht⟩ := hsome
  simp only [convert, toSeconds] at ht
  split_ifs at ht with hyear hday htime
  any_goals contradiction
  simp only [Option.bind_eq_bind, Option.bind_eq_some_iff, Option.map_eq_some_iff] at ht
  obtain ⟨-, ⟨out, hout, -⟩, -⟩ := ht
  refine ⟨?_, Option.isSome_iff_exists.mpr ⟨out, hout⟩, by omega, by omega⟩
  simp only [validDate, Bool.and_eq_true, decide_eq_true_eq]
  omega

theorem convert_valid (hy : 1970 ≤ moment.year ∧ moment.year ≤ 2106) (h : moment.Valid mer) :
    convert isdst moment mer .off timezone = some (wrap (unixTime moment mer timezone
      + leapSlip moment.year * 86400 + noonSlip moment.hour mer * 3600)) := by
  have hfull : fullYear moment.year = moment.year := fullYear_eq (by omega) (by omega)
  obtain ⟨out, hout⟩ := Option.isSome_iff_exists.mp h.hour
  have hdate := h.date
  simp only [validDate, hfull, Bool.and_eq_true, decide_eq_true_eq] at hdate
  rw [convert, toSeconds_some h.minutes h.seconds hout]
  simp only [hfull]
  rw [if_neg (by simp only [epoch, epochEnd]; omega), if_neg (by omega)]
  rw [Option.bind_eq_bind, Option.bind_some]
  simp only [wrap, Int.bmod_add_bmod, Int.add_bmod_bmod, epoch]
  rw [yearDays_loop hy.1 hy.2, hourOf_some hout, unixTime, dayNumber, secsPerDay]
  congr 2
  omega

/-- **The conversion of a date**: with summer time off, every date of the calendar from 1970 to 2106 and
every time of day give the Unix time in the zone (in `i64` arithmetic), but that the hour 12 of a
12 hour clock is twelve hours late, that a date of 2100 is 32 days early and a later one a day late.
A month, day, hour, minute or second out of range is refused, whatever the year. -/
theorem convert_off (isdst : Int → Option Bool) (moment : Moment) (mer : Meridian) (timezone : Int) :
    (1970 ≤ moment.year → moment.year ≤ 2106 → moment.Valid mer →
      convert isdst moment mer .off timezone = some (wrap (unixTime moment mer timezone
        + leapSlip moment.year * 86400 + noonSlip moment.hour mer * 3600))) ∧
    ∀ dst, ¬moment.Valid mer → convert isdst moment mer dst timezone = none :=
  ⟨fun hy hy' h => convert_valid ⟨hy, hy'⟩ h, fun _ h => convert_refused h⟩

/-- The first of March 2096 at 11:30 pm, an hour east of Greenwich. -/
theorem convert_off_march :
    convert (fun _ => none) ⟨3, 1, 2096, 11, 30, 0⟩ .pm .off (-60) = some 3981479400 :=
  ((convert_off _ ⟨3, 1, 2096, 11, 30, 0⟩ .pm (-60)).1 (by decide) (by decide)
    ⟨by decide, by decide, by decide, by decide⟩).trans (by decide +kernel)

/-- Half past midnight of New Year 1970 is read as half past noon, and New Year 2100 as a day of
November 2099. -/
theorem midnight_and_2100_slip :
    let midnight : Moment := ⟨1, 1, 1970, 12, 30, 0⟩
    let newYear : Moment := ⟨1, 1, 2100, 0, 0, 0⟩
    convert (fun _ => none) midnight .am .off 0 = some 45000 ∧ unixTime midnight .am 0 = 1800 ∧
    convert (fun _ => none) newYear .h24 .off 0 = some 4099680000 ∧
      unixTime newYear .h24 0 = 4102444800 := by
  decide +kernel

end Kerber.Admin.Getdate
