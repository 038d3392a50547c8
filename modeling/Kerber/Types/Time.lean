import Mathlib.Algebra.Order.Ring.Int

/-!
# `KerberosTime`

The wire time of the protocol, and the arithmetic the KDC does with it.  A time is kept as the
signed count of seconds since the epoch that `chrono` keeps; `unixSeconds` is the clamped 32-bit
view that the ticket code compares, and `mitGeneraltime` is what a decoder makes of an encoded
time, which keeps it modulo `2 ^ 32`.
-/

namespace Kerber

variable {t : KerberosTime}

/-- A point in time with whole seconds (`krb5_types::KerberosTime`). -/
structure KerberosTime where
  /-- Seconds since the epoch, as `chrono` reports them. -/
  timestamp : Int
deriving DecidableEq

/-- The one way time arithmetic fails. -/
inductive TimeError
  | overflow
deriving DecidableEq

/-- `i64::try_from(n).unwrap_or(i64::MAX)` on an unsigned count. -/
def i64OrMax (n : Nat) : Int :=
  if n < 2 ^ 63 then n else 2 ^ 63 - 1

/-- `a.wrapping_sub(b).cast_signed()` on two 32-bit values. -/
def wrappingSubSigned (a b : Nat) : Int :=
  let d : Nat := (a + 2 ^ 32 - b) % 2 ^ 32
  if d < 2 ^ 31 then d else (d : Int) - 2 ^ 32

namespace KerberosTime

/-- `unix_seconds`: negative times read as 0 and times past the 32-bit range as `u32::MAX`. -/
def unixSeconds (t : KerberosTime) : Nat :=
  if t.timestamp.toNat < 2 ^ 32 then t.timestamp.toNat else 2 ^ 32 - 1

def fromUnixSeconds (s : Nat) : KerberosTime :=
  ⟨s⟩

/-- The dates `chrono` can hold: the years -262143 to 262142. -/
def inChronoRange (s : Int) : Bool :=
  decide (-8334601228800 ≤ s ∧ s ≤ 8210266876799)

/-- `add_seconds`: `TimeDelta::try_seconds` bounds the step by `i64::MAX / 1000`. -/
def addSeconds (t : KerberosTime) (seconds : Int) : Except TimeError KerberosTime :=
  if seconds.natAbs ≤ 9223372036854775 ∧ inChronoRange (t.timestamp + seconds) then
    .ok ⟨t.timestamp + seconds⟩
  else
    .error .overflow

def addHours (t : KerberosTime) (hours : Int) : Except TimeError KerberosTime :=
  t.addSeconds (hours * 3600)

/-- `delta_seconds`; the saturation of `i64` cannot be reached inside the range of `chrono`. -/
def deltaSeconds (t other : KerberosTime) : Int :=
  t.timestamp - other.timestamp

/-- What decoding the encoded form of a time gives (`mit_generaltime`): the second before the
epoch is rejected, every other time is kept modulo `2 ^ 32`. -/
def mitGeneraltime (t : KerberosTime) : Option KerberosTime :=
  if t.timestamp = -1 then none else some ⟨t.timestamp % 2 ^ 32⟩

/-- A time the 32-bit view represents exactly. -/
def Is32 (t : KerberosTime) : Prop :=
  0 ≤ t.timestamp ∧ t.timestamp < 2 ^ 32

instance (t : KerberosTime) : Decidable t.Is32 :=
  inferInstanceAs (Decidable (_ ∧ _))

/-! ### The 32-bit view -/

theorem unixSeconds_lt (t : KerberosTime) : t.unixSeconds < 2 ^ 32 := by
  unfold unixSeconds
  split <;> omega

theorem Is32.coe_unixSeconds (h : t.Is32) : (t.unixSeconds : Int) = t.timestamp := by
  obtain ⟨h0, h1⟩ := h
  unfold unixSeconds
  split <;> omega

theorem is32_fromUnixSeconds {s : Nat} (h : s < 2 ^ 32) : (fromUnixSeconds s).Is32 :=
  ⟨Int.natCast_nonneg s, by simp only [fromUnixSeconds]; omega⟩

/-- The view never overshoots a time that is not negative. -/
theorem unixSeconds_le (h : 0 ≤ t.timestamp) : (t.unixSeconds : Int) ≤ t.timestamp := by
  unfold unixSeconds
  split <;> omega

/-- A time whose view is below `u32::MAX` is at most its view. -/
theorem le_unixSeconds (h : t.unixSeconds < 2 ^ 32 - 1) : t.timestamp ≤ t.unixSeconds := by
  unfold unixSeconds at h ⊢
  split at h <;> split <;> omega

theorem is32_of_mitGeneraltime {u : KerberosTime} (h : t.mitGeneraltime = some u) : u.Is32 := by
  unfold mitGeneraltime at h
  split at h
  · cases h
  · cases h
    exact ⟨Int.emod_nonneg _ (by decide), Int.emod_lt_of_pos _ (by decide)⟩

/-- A 32-bit time survives encoding and decoding. -/
theorem Is32.mitGeneraltime_eq (h : t.Is32) : t.mitGeneraltime = some t := by
  obtain ⟨h0, h1⟩ := h
  have hne : t.timestamp ≠ -1 := by omega
  rw [mitGeneraltime, if_neg hne, Int.emod_eq_of_lt h0 h1]

/-! ### Arithmetic -/

/-- Adding a 32-bit signed step to a 32-bit time never overflows. -/
theorem Is32.addSeconds_eq (h : t.Is32) {s : Int}
    (hlo : -2 ^ 31 ≤ s) (hhi : s < 2 ^ 31) : t.addSeconds s = .ok ⟨t.timestamp + s⟩ := by
  obtain ⟨h0, h1⟩ := h
  have hstep : s.natAbs ≤ 9223372036854775 := by omega
  have hrange : inChronoRange (t.timestamp + s) = true := by
    simp only [inChronoRange, decide_eq_true_eq]
    omega
  simp only [addSeconds, hstep, hrange, and_self, if_true]

end KerberosTime

/-! ### Wrapping subtraction -/

theorem wrappingSubSigned_bounds (a b : Nat) :
    -2 ^ 31 ≤ wrappingSubSigned a b ∧ wrappingSubSigned a b < 2 ^ 31 := by
  simp only [wrappingSubSigned]
  split <;> omega

/-- Two values at most `2 ^ 31` apart, the first not ahead by all of it, subtract without
wrapping. -/
theorem wrappingSubSigned_eq {a b : Nat} (hab : a < b + 2 ^ 31) (hba : b ≤ a + 2 ^ 31) :
    wrappingSubSigned a b = (a : Int) - b := by
  simp only [wrappingSubSigned]
  split <;> omega

/-- A value more than `2 ^ 31` behind wraps to a positive difference. -/
theorem wrappingSubSigned_pos_of_far {a b : Nat} (ha : a < 2 ^ 32) (hb : b < 2 ^ 32)
    (hba : a + 2 ^ 31 < b) : 0 < wrappingSubSigned a b := by
  simp only [wrappingSubSigned]
  split <;> omega

/-- A value `2 ^ 31` or more ahead wraps to a negative difference. -/
theorem wrappingSubSigned_neg_of_ahead {a b : Nat} (ha : a < 2 ^ 32) (hb : b < 2 ^ 32)
    (hab : b + 2 ^ 31 ≤ a) : wrappingSubSigned a b < 0 := by
  simp only [wrappingSubSigned]
  split <;> omega

theorem i64OrMax_le (n : Nat) : i64OrMax n ≤ n := by
  unfold i64OrMax
  split <;> omega

theorem i64OrMax_pos {n : Nat} (h : 0 < n) : 0 < i64OrMax n := by
  unfold i64OrMax
  split <;> omega

end Kerber
