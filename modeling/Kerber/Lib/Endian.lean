import Mathlib.Algebra.Order.Ring.Int
import Mathlib.Data.List.Basic

/-!
# Integers as bytes

Fixed-width integers in both byte orders, and reading them back out of a byte string at an
offset.
-/

namespace Kerber

/-- The `k`-th byte of a number, the lowest first. -/
def byteOf (n k : Nat) : UInt8 :=
  UInt8.ofNat (n / 256 ^ k)

def le16 (x : UInt16) : List UInt8 :=
  [byteOf x.toNat 0, byteOf x.toNat 1]

def le32 (x : UInt32) : List UInt8 :=
  [byteOf x.toNat 0, byteOf x.toNat 1, byteOf x.toNat 2, byteOf x.toNat 3]

def le64 (x : UInt64) : List UInt8 :=
  le32 (UInt32.ofNat x.toNat) ++ le32 (UInt32.ofNat (x.toNat / 2 ^ 32))

def be32 (x : UInt32) : List UInt8 :=
  [byteOf x.toNat 3, byteOf x.toNat 2, byteOf x.toNat 1, byteOf x.toNat 0]

def beWord16 (x : UInt16) : List UInt8 :=
  [byteOf x.toNat 1, byteOf x.toNat 0]

def be64 (x : UInt64) : List UInt8 :=
  be32 (UInt32.ofNat (x.toNat / 2 ^ 32)) ++ be32 (UInt32.ofNat x.toNat)

/-- The 16-bit integer whose bytes are given lowest first. -/
def joinBytes16 (b0 b1 : UInt8) : UInt16 :=
  UInt16.ofNat (b0.toNat + 256 * b1.toNat)

/-- The 32-bit integer whose bytes are given lowest first. -/
def joinBytes32 (b0 b1 b2 b3 : UInt8) : UInt32 :=
  UInt32.ofNat (b0.toNat + 256 * b1.toNat + 65536 * b2.toNat + 16777216 * b3.toNat)

variable (b : List UInt8) (pos : Nat)

/-- The little-endian 16-bit integer at an offset. -/
def le16At : UInt16 :=
  joinBytes16 (b.getD pos 0) (b.getD (pos + 1) 0)

/-- The little-endian 32-bit integer at an offset. -/
def le32At : UInt32 :=
  joinBytes32 (b.getD pos 0) (b.getD (pos + 1) 0) (b.getD (pos + 2) 0) (b.getD (pos + 3) 0)

/-- The little-endian 64-bit integer at an offset. -/
def le64At : UInt64 :=
  UInt64.ofNat ((le32At b pos).toNat + 2 ^ 32 * (le32At b (pos + 4)).toNat)

/-- The big-endian 16-bit integer at an offset. -/
def be16At : UInt16 :=
  joinBytes16 (b.getD (pos + 1) 0) (b.getD pos 0)

/-- The big-endian 32-bit integer at an offset. -/
def be32At : UInt32 :=
  joinBytes32 (b.getD (pos + 3) 0) (b.getD (pos + 2) 0) (b.getD (pos + 1) 0) (b.getD pos 0)

/-- The big-endian 64-bit integer at an offset. -/
def be64At : UInt64 :=
  UInt64.ofNat ((be32At b (pos + 4)).toNat + 2 ^ 32 * (be32At b pos).toNat)

@[simp] theorem length_le16 (x : UInt16) : (le16 x).length = 2 := rfl

@[simp] theorem length_le32 (x : UInt32) : (le32 x).length = 4 := rfl

@[simp] theorem length_be32 (x : UInt32) : (be32 x).length = 4 := rfl

theorem toNat_byteOf (n k : Nat) : (byteOf n k).toNat = n / 256 ^ k % 256 := by
  simp [byteOf]

@[simp] theorem joinBytes16_byteOf (x : UInt16) :
    joinBytes16 (byteOf x.toNat 0) (byteOf x.toNat 1) = x := by
  apply UInt16.toNat_inj.mp
  have hx := x.toNat_lt
  simp only [joinBytes16, toNat_byteOf, UInt16.toNat_ofNat']
  omega

@[simp] theorem joinBytes32_byteOf (x : UInt32) :
    joinBytes32 (byteOf x.toNat 0) (byteOf x.toNat 1) (byteOf x.toNat 2) (byteOf x.toNat 3) =
      x := by
  apply UInt32.toNat_inj.mp
  have hx := x.toNat_lt
  simp only [joinBytes32, toNat_byteOf, UInt32.toNat_ofNat']
  omega

theorem take_four_eq_le32 {b : List UInt8} (h : 4 ≤ b.length) : b.take 4 = le32 (le32At b 0) := by
  obtain ⟨b0, b1, b2, b3, rest, rfl⟩ : ∃ b0 b1 b2 b3 rest, b = b0 :: b1 :: b2 :: b3 :: rest := by
    match b, h with
    | b0 :: b1 :: b2 :: b3 :: rest, _ => exact ⟨b0, b1, b2, b3, rest, rfl⟩
  have h0 := b0.toNat_lt
  have h1 := b1.toNat_lt
  have h2 := b2.toNat_lt
  have h3 := b3.toNat_lt
  show [b0, b1, b2, b3] = le32 (joinBytes32 b0 b1 b2 b3)
  simp only [le32, joinBytes32, byteOf, List.cons.injEq, and_true, ← UInt8.toNat_inj,
    UInt8.toNat_ofNat', UInt32.toNat_ofNat']
  omega

/-! ### Reading at an offset

With these a word read out of a concatenation of words simplifies to the word that was put there.
-/

@[simp] theorem le32At_le32 (x : UInt32) (rest : List UInt8) : le32At (le32 x ++ rest) 0 = x :=
  joinBytes32_byteOf x

@[simp] theorem le64At_le64 (x : UInt64) (rest : List UInt8) : le64At (le64 x ++ rest) 0 = x := by
  have hlow : le32At (le64 x ++ rest) 0 = UInt32.ofNat x.toNat := by
    rw [le64, List.append_assoc, le32At_le32]
  have hhigh : le32At (le64 x ++ rest) 4 = UInt32.ofNat (x.toNat / 2 ^ 32) := by
    rw [le64, List.append_assoc]
    exact le32At_le32 _ rest
  have hx := x.toNat_lt
  apply UInt64.toNat_inj.mp
  rw [le64At, hlow, hhigh]
  simp only [UInt64.toNat_ofNat', UInt32.toNat_ofNat']
  omega

@[simp] theorem le16At_le16 (x : UInt16) (rest : List UInt8) : le16At (le16 x ++ rest) 0 = x :=
  joinBytes16_byteOf x

@[simp] theorem le16At_le16_self (x : UInt16) : le16At (le16 x) 0 = x :=
  joinBytes16_byteOf x

@[simp] theorem le32At_cons_succ (a : UInt8) (rest : List UInt8) (i : Nat) :
    le32At (a :: rest) (i + 1) = le32At rest i := rfl

@[simp] theorem le16At_cons_succ (a : UInt8) (rest : List UInt8) (i : Nat) :
    le16At (a :: rest) (i + 1) = le16At rest i := rfl

@[simp] theorem le32At_le32_add (x : UInt32) (rest : List UInt8) (i : Nat) :
    le32At (le32 x ++ rest) (i + 4) = le32At rest i := rfl

@[simp] theorem le16At_le32_add (x : UInt32) (rest : List UInt8) (i : Nat) :
    le16At (le32 x ++ rest) (i + 4) = le16At rest i := rfl

@[simp] theorem le32At_le16_add (x : UInt16) (rest : List UInt8) (i : Nat) :
    le32At (le16 x ++ rest) (i + 2) = le32At rest i := rfl

@[simp] theorem le16At_le16_add (x : UInt16) (rest : List UInt8) (i : Nat) :
    le16At (le16 x ++ rest) (i + 2) = le16At rest i := rfl

@[simp] theorem be16At_beWord16 (x : UInt16) (rest : List UInt8) :
    be16At (beWord16 x ++ rest) 0 = x :=
  joinBytes16_byteOf x

@[simp] theorem be32At_be32 (x : UInt32) (rest : List UInt8) : be32At (be32 x ++ rest) 0 = x :=
  joinBytes32_byteOf x

@[simp] theorem be64At_be64 (x : UInt64) (rest : List UInt8) : be64At (be64 x ++ rest) 0 = x := by
  have hhigh : be32At (be64 x ++ rest) 0 = UInt32.ofNat (x.toNat / 2 ^ 32) := by
    rw [be64, List.append_assoc, be32At_be32]
  have hlow : be32At (be64 x ++ rest) 4 = UInt32.ofNat x.toNat := by
    rw [be64, List.append_assoc]
    exact be32At_be32 _ rest
  have hx := x.toNat_lt
  apply UInt64.toNat_inj.mp
  rw [be64At, hlow, hhigh]
  simp only [UInt64.toNat_ofNat', UInt32.toNat_ofNat']
  omega

end Kerber
