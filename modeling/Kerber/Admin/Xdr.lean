import Kerber.Lib.Endian
import Kerber.Types.Str

/-!
# XDR

The integers and opaque strings of the kadm5 records (`kadm5/xdr.rs`).  A reader is the bytes that
are left.
-/

namespace Kerber.Admin

/-- The octets that fill up to a multiple of four. -/
def xdrPad (n : Nat) : Nat := (4 - n % 4) % 4

/-- `XdrR::u32`. -/
def xdrU32 (b : Str) : Option (UInt32 × Str) :=
  if b.length < 4 then none else some (be32At b 0, b.drop 4)

/-- `XdrR::bool`. -/
def xdrBool (b : Str) : Option (Bool × Str) := do
  let (n, b) ← xdrU32 b
  return (n != 0, b)

/-- `XdrR::opaque`; the padding may be missing at the end. -/
def xdrOpaque (b : Str) : Option (Str × Str) := do
  let (n, b) ← xdrU32 b
  if b.length < n.toNat then none
  else some (b.take n.toNat, b.drop (n.toNat + xdrPad n.toNat))

/-- `XdrW::opaque`. -/
def putOpaque (d : Str) : Str :=
  be32 (if d.length < 2 ^ 32 then UInt32.ofNat d.length else 0) ++ d ++ List.replicate (xdrPad d.length) 0

/-! ### Reading what was written -/

@[simp] theorem xdrU32_be32 (n : UInt32) (rest : Str) : xdrU32 (be32 n ++ rest) = some (n, rest) := by
  have hlen : ¬ (be32 n ++ rest).length < 4 := by
    rw [List.length_append, length_be32]
    omega
  rw [xdrU32, if_neg hlen, be32At_be32]
  rfl

theorem xdrOpaque_putOpaque {d : Str} (h : d.length < 2 ^ 32) (rest : Str) :
    xdrOpaque (putOpaque d ++ rest) = some (d, rest) := by
  have hn : (UInt32.ofNat d.length).toNat = d.length := by
    rw [UInt32.toNat_ofNat']
    exact Nat.mod_eq_of_lt h
  have hlen : ¬ (d ++ (List.replicate (xdrPad d.length) 0 ++ rest)).length < d.length := by
    rw [List.length_append]
    omega
  have hdrop : (d ++ (List.replicate (xdrPad d.length) 0 ++ rest)).drop (d.length + xdrPad d.length)
      = rest := by
    rw [← List.append_assoc]
    refine List.drop_left' ?_
    rw [List.length_append, List.length_replicate]
  rw [xdrOpaque, putOpaque, if_pos h, List.append_assoc, List.append_assoc, xdrU32_be32]
  dsimp only [bind, Option.bind]
  rw [hn, if_neg hlen, hdrop, List.take_left']
  rfl

end Kerber.Admin
