import Mathlib.Algebra.Order.Ring.Int
import Mathlib.Data.List.Basic

/-!
# Kerberos flags

`KerberosFlags` is a bit string, bit 0 first; `TicketFlags` and `KdcOptions` are the two uses of
it the issuing code has.  A bit past the end of the string reads as clear, and setting one is a
no-op: a decoder hands over whatever length the message had.  `bit_withBit` is the one fact the
flag proofs compute with.
-/

namespace Kerber

/-- A bit string, bit 0 first. -/
structure KerberosFlags where
  bits : List Bool
deriving DecidableEq

abbrev TicketFlags := KerberosFlags

abbrev KdcOptions := KerberosFlags

/-! ### The numbers of the bits (`flag_bit`) -/

namespace FlagBit

def forwardable : Nat := 1
def forwarded : Nat := 2
def proxiable : Nat := 3
def proxy : Nat := 4
def mayPostdate : Nat := 5
def postdated : Nat := 6
def invalid : Nat := 7
def renewable : Nat := 8
def initial : Nat := 9
def preAuthent : Nat := 10
def hwAuthent : Nat := 11
def transitedPolicyChecked : Nat := 12
def okAsDelegate : Nat := 13
def cnameInAddlTkt : Nat := 14
def canonicalize : Nat := 15
def encPaRep : Nat := 15
def anonymous : Nat := 16
def disableTransitedCheck : Nat := 26
def renewableOk : Nat := 27
def encTktInSkey : Nat := 28
def renew : Nat := 30
def validate : Nat := 31

end FlagBit

open FlagBit

namespace KerberosFlags

/-- `none()`: 32 clear bits. -/
def none : KerberosFlags :=
  ⟨List.replicate 32 false⟩

/-- `bit(n)`. -/
def bit (f : KerberosFlags) (n : Nat) : Bool :=
  f.bits.getD n false

/-- `with_bit(n, on)`. -/
def withBit (f : KerberosFlags) (n : Nat) (on : Bool) : KerberosFlags :=
  ⟨f.bits.set n on⟩

def renewable (f : KerberosFlags) : Bool := f.bit FlagBit.renewable
def forwardable (f : KerberosFlags) : Bool := f.bit FlagBit.forwardable
def proxiable (f : KerberosFlags) : Bool := f.bit FlagBit.proxiable
def invalid (f : KerberosFlags) : Bool := f.bit FlagBit.invalid

/-- The packed 32-bit integer with bit 0 as its most significant bit (`flags_to_u32`). -/
def toU32 (f : KerberosFlags) : UInt32 :=
  (List.range 32).foldl
    (fun v i => if f.bit i then v ||| ((1 : UInt32) <<< UInt32.ofNat (31 - i)) else v) 0

/-- The options the KDC knows, packed. -/
def supported : UInt32 :=
  [FlagBit.forwardable, forwarded, FlagBit.proxiable, proxy, FlagBit.renewable,
    cnameInAddlTkt, canonicalize, disableTransitedCheck,
    renewableOk, encTktInSkey, renew, mayPostdate,
    postdated, validate].foldl
      (fun v b => v ||| ((1 : UInt32) <<< UInt32.ofNat (31 - b))) 0

def unsupportedBits (f : KdcOptions) : UInt32 :=
  f.toU32 &&& ~~~supported

/-- `as_invalid_bits`: the options only a TGS request has. -/
def asInvalidBits (f : KdcOptions) : UInt32 :=
  f.toU32 &&& [forwarded, proxy, renew, validate,
    encTktInSkey, cnameInAddlTkt].foldl
      (fun v b => v ||| ((1 : UInt32) <<< UInt32.ofNat (31 - b))) 0

/-! ### Reading after setting -/

theorem bit_withBit (f : KerberosFlags) (n m : Nat) (on : Bool) :
    (f.withBit n on).bit m = if n = m ∧ n < f.bits.length then on else f.bit m := by
  simp only [bit, withBit, List.getD_eq_getElem?_getD, List.getElem?_set]
  by_cases hnm : n = m
  · by_cases hn : n < f.bits.length
    · simp [hnm, hnm ▸ hn]
    · have hm : ¬ m < f.bits.length := hnm ▸ hn
      simp [hnm, hm]
  · simp [hnm]

/-- Setting one bit leaves the others. -/
@[simp] theorem bit_withBit_ne (f : KerberosFlags) {n m : Nat} (h : n ≠ m) (on : Bool) :
    (f.withBit n on).bit m = f.bit m := by
  rw [bit_withBit, if_neg (fun hc => h hc.1)]

/-- Clearing a bit clears it, whatever the length of the string. -/
@[simp] theorem bit_withBit_false (f : KerberosFlags) (n : Nat) :
    (f.withBit n false).bit n = false := by
  rw [bit_withBit]
  split
  · rfl
  · rename_i h
    have hn : f.bits.length ≤ n := by omega
    simp [bit, List.getElem?_eq_none hn]

/-- A bit that is set after `withBit` was set by it or before it. -/
theorem bit_of_bit_withBit {f : KerberosFlags} {n m : Nat} {on : Bool}
    (h : (f.withBit n on).bit m = true) : (n = m ∧ on = true) ∨ f.bit m = true := by
  rw [bit_withBit] at h
  split at h
  · exact .inl ⟨‹_ ∧ _›.1, h⟩
  · exact .inr h

/-- A set bit stays set unless it is cleared by number. -/
theorem bit_withBit_of_bit {f : KerberosFlags} {n m : Nat} {on : Bool} (h : f.bit m = true)
    (hn : n = m → on = true) : (f.withBit n on).bit m = true := by
  rw [bit_withBit]
  split
  · exact hn ‹_ ∧ _›.1
  · exact h

@[simp] theorem length_withBit (f : KerberosFlags) (n : Nat) (on : Bool) :
    (f.withBit n on).bits.length = f.bits.length := by
  simp [withBit]

@[simp] theorem length_none : none.bits.length = 32 := rfl

@[simp] theorem bit_none (n : Nat) : none.bit n = false := by
  simp only [bit, none, List.getD_eq_getElem?_getD, List.getElem?_replicate]
  split <;> rfl

end KerberosFlags

end Kerber
