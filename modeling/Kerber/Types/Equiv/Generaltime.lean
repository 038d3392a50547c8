import Kerber.Lib.Calendar
import Kerber.Types.Generaltime

/-!
# Every 32-bit time is read back from its text

`mitGeneraltime_generaltime`: the decoder gives back the seconds whose calendar date and time of day it
is shown, since `daysFromCivil`, which counts in eras of 400 years from the first of March, goes up by
one from each day of the Gregorian calendar to the next (`next_spec`).
-/

namespace Kerber.Generaltime

open Calendar List

variable {y m d h n s : Nat}

/-! ### Days -/

/-- The number of a date's day since the epoch. -/
def dayOf (d : Date) : Int := daysFromCivil d.year d.month + d.day - 1

theorem daysFromCivil_next_month (y : Int) {k : Nat} (hk : k < 11) : daysFromCivil y (k + 2)
    = daysFromCivil y (k + 1) + (monthLengths (isLeap y)).getD k 0 := by
  by_cases hfeb : k = 1
  · -- March is counted in the year, February still in the one before
    subst hfeb
    have hleap := isLeap_iff y
    simp only [daysFromCivil]
    cases h : isLeap y <;> simp [h, monthLengths] at hleap ⊢ <;> omega
  · have hlength : ∀ leap, ∀ k : Nat, k < 11 → k ≠ 1 → (153 * (((k : Int) + 2 + 9) % 12) + 2) / 5
        = (153 * (((k : Int) + 1 + 9) % 12) + 2) / 5 + (monthLengths leap).getD k 0 := by decide
    have := hlength (isLeap y) k hk hfeb
    simp only [daysFromCivil]
    split_ifs <;> omega

theorem daysFromCivil_next_year (y : Int) : daysFromCivil (y + 1) 1 = daysFromCivil y 12 + 31 := by
  simp [daysFromCivil]
  omega

theorem next_spec {d : Date} (h : validDate d.year d.month d.day = true) :
    validDate d.next.year d.next.month d.next.day = true ∧ d.year ≤ d.next.year ∧
      dayOf d.next = dayOf d + 1 := by
  obtain ⟨year, month, day⟩ := d
  obtain ⟨hmonth, hmonth', hday, hday'⟩ := validDate_iff.mp h
  dsimp only at hmonth hmonth' hday hday' ⊢
  obtain ⟨k, rfl⟩ : ∃ k : Nat, month = k + 1 := ⟨(month - 1).toNat, by omega⟩
  have hk : ((k : Int) + 1 - 1).toNat = k := by omega
  rw [hk] at hday'
  simp only [Date.next, dayOf, hk, validDate_iff]
  split_ifs with hlt hdec <;> dsimp only
  · rw [hk]
    omega
  · have hone := (monthLengths_bounds (isLeap year) (k + 1) (by omega)).1
    have hdays := daysFromCivil_next_month year (show k < 11 by omega)
    rw [show (k : Int) + 1 + 1 = k + 2 by omega, show ((k : Int) + 2 - 1).toNat = k + 1 by omega]
    omega
  · obtain rfl : k = 11 := by omega
    have hdays := daysFromCivil_next_year year
    simp only [monthLengths] at hlt hday' ⊢
    simp at hlt hday' ⊢
    omega

/-- The day-number function agrees with the calendar. -/
theorem dayOf_dateAfter (n : Nat) :
    let d := dateAfter 1970 n
    validDate d.year d.month d.day = true ∧ 1970 ≤ d.year ∧ dayOf d = n := by
  induction n with
  | zero => decide
  | succ n ih =>
    obtain ⟨hvalid, hyear, hday⟩ := ih
    have hstep := next_spec hvalid
    rw [dateAfter, Function.iterate_succ_apply']
    exact ⟨hstep.1, Int.le_trans hyear hstep.2.1, by rw [Nat.cast_succ, ← hday]; exact hstep.2.2⟩

/-! ### Text -/

/-- The text of a date and a time of day. -/
def text (y m d h n s : Nat) : Str :=
  padded 10 4 y ++ padded 10 2 m ++ padded 10 2 d ++ padded 10 2 h ++ padded 10 2 n ++ padded 10 2 s
    ++ [0x5A]

theorem digits_text (hy : y < 10000) (hm : m < 100) (hd : d < 100) (hh : h < 100) (hn : n < 100)
    (hs : s < 100) :
    let t := text y m d h n s
    t.length = 15 ∧ t.getD 14 0 = 0x5A ∧ digits t 0 4 = some (y : Int) ∧ digits t 4 6 = some (m : Int) ∧
      digits t 6 8 = some (d : Int) ∧ digits t 8 10 = some (h : Int) ∧
      digits t 10 12 = some (n : Int) ∧ digits t 12 14 = some (s : Int) := by
  have ly : (padded 10 4 y).length = 4 := padded_length (by decide) hy
  have two : ∀ v < 100, (padded 10 2 v).length = 2 := fun v hv => padded_length (by decide) hv
  have hvalue : ∀ w v, valueOf 10 0 (padded 10 w v) = some v :=
    fun w v => valueOf_padded (by decide) (by decide)
  simp [text, digits, take_append, drop_append, take_of_length_le, drop_of_length_le, *]

theorem mitGeneraltime_eq {s : Str} (hlen : s.length = 15) (hz : s.getD 14 0 = 0x5A) :
    mitGeneraltime s = civilSeconds s := by
  rw [mitGeneraltime, hlen, hz, if_neg (by decide)]
  split_ifs with hepoch
  · -- the text that is compared first is the second 0 in the arithmetic too
    rw [hepoch]
    decide +kernel
  · rfl

/-- The text of a second since the epoch: the date of its day and the time of day. -/
def generaltime (t : Nat) : Str :=
  let date := dateAfter 1970 (t / 86400)
  text date.year.toNat date.month.toNat date.day.toNat (t / 3600 % 24) (t / 60 % 60) (t % 60)

theorem mitGeneraltime_date {year month day : Int} {t : UInt32} (hyear : 1970 ≤ year)
    (hvalid : validDate year month day = true)
    (hday : daysFromCivil year month + day - 1 = (t.toNat / 86400 : Nat)) :
    mitGeneraltime (text year.toNat month.toNat day.toNat (t.toNat / 3600 % 24) (t.toNat / 60 % 60)
      (t.toNat % 60)) = some t := by
  have ht := t.toNat_lt
  obtain ⟨hm, hm', hd, hd'⟩ := validDate_iff.mp hvalid
  have hlength := (monthLengths_bounds (isLeap year) (month - 1).toNat (by omega)).2
  have hle : year < 10000 := by
    simp only [daysFromCivil] at hday
    split at hday <;> omega
  obtain ⟨hlen, hz, fy, fm, fd, fh, fn, fs⟩ := @digits_text year.toNat month.toNat day.toNat
    (t.toNat / 3600 % 24) (t.toNat / 60 % 60) (t.toNat % 60) (by omega) (by omega) (by omega) (by omega)
    (by omega) (by omega)
  rw [mitGeneraltime_eq hlen hz, civilSeconds, fy, fm, fd, fh, fn, fs]
  simp only [Option.bind_eq_bind, Option.bind_some]
  rw [show (year.toNat : Int) + ((month.toNat : Int) - 1) / 12 = year by omega,
    show ((month.toNat : Int) - 1) % 12 + 1 = month by omega, Int.toNat_of_nonneg (by omega), hday,
    show ((t.toNat / 86400 : Nat) : Int) * 86400 + (t.toNat / 3600 % 24 : Nat) * 3600
      + (t.toNat / 60 % 60 : Nat) * 60 + (t.toNat % 60 : Nat) = t.toNat by omega, if_neg (by omega),
    Int.emod_eq_of_lt (by omega) (by omega), Int.toNat_natCast, UInt32.ofNat_toNat]

theorem read_generaltime (t : UInt32) : mitGeneraltime (generaltime t.toNat) = some t := by
  obtain ⟨hvalid, hyear, hday⟩ := dayOf_dateAfter (t.toNat / 86400)
  exact mitGeneraltime_date hyear hvalid hday

/-- On the text of a 32-bit time the decoder is the `mitGeneraltime` that tickets are reread with. -/
theorem decode_generaltime (t : UInt32) : (decode (generaltime t.toNat)).toOption
    = (KerberosTime.fromUnixSeconds t.toNat).mitGeneraltime := by
  rw [decode, read_generaltime, (KerberosTime.is32_fromUnixSeconds t.toNat_lt).mitGeneraltime_eq]
  rfl

/-- **Times are read back**: for every 32-bit count of seconds the decoder gives it back from the text
of its date and time of day, and the day-number function numbers the days of the Gregorian calendar
from the epoch on. -/
theorem mitGeneraltime_generaltime :
    (∀ t : UInt32, mitGeneraltime (generaltime t.toNat) = some t) ∧
    ∀ n, let d := dateAfter 1970 n
      daysFromCivil d.year d.month + d.day - 1 = n :=
  ⟨read_generaltime, fun n => (dayOf_dateAfter n).2.2⟩

end Kerber.Generaltime
