import Mathlib.Algebra.Order.Ring.Int
import Mathlib.Data.List.GetD

/-!
# A file of bytes

`Disk` is the content of one file: a byte for every offset, zero past its end.  A program's
effect on it is a list of `FileOp`s in the order they are made, so that a crash is a first part of
the list.  `read_write_of_disjoint` and `read_write_of_inside` say what a read finds after a
write.
-/

namespace Kerber

open List

variable {bytes : List UInt8} {pos n : Nat}

/-- A file: its bytes, zero from its length on. -/
structure Disk where
  data : Nat → UInt8
  len : Nat
  zero_beyond : ∀ i, len ≤ i → data i = 0

/-- A change to the file. -/
inductive FileOp
  | write (pos : Nat) (bytes : List UInt8)
  | setLen (n : Nat)

namespace Disk

/-- The file with nothing in it. -/
def empty : Disk where
  data := fun _ => 0
  len := 0
  zero_beyond := fun _ _ => rfl

variable (d : Disk)

/-- `n` bytes from `pos` on; past the end they are zero. -/
def read (pos n : Nat) : List UInt8 :=
  (List.range n).map fun i => d.data (pos + i)

/-- Writes bytes at an offset; the file grows when it has to, with zeros up to the offset. -/
def write (pos : Nat) (bytes : List UInt8) : Disk where
  data := fun i => if pos ≤ i ∧ i < pos + bytes.length then bytes.getD (i - pos) 0 else d.data i
  len := max d.len (pos + bytes.length)
  zero_beyond := by
    intro i hi
    rw [if_neg (by omega)]
    exact d.zero_beyond i (by omega)

/-- Cuts the file, or extends it with zeros. -/
def setLen (n : Nat) : Disk where
  data := fun i => if i < n then d.data i else 0
  len := n
  zero_beyond := fun i hi => if_neg (by omega)

def apply : FileOp → Disk
  | .write pos bytes => d.write pos bytes
  | .setLen n => d.setLen n

def applyAll (ops : List FileOp) : Disk :=
  ops.foldl apply d

@[simp] theorem applyAll_append (d : Disk) (ops ops' : List FileOp) :
    d.applyAll (ops ++ ops') = (d.applyAll ops).applyAll ops' :=
  foldl_append

@[simp] theorem apply_write (d : Disk) (pos : Nat) (bytes : List UInt8) :
    d.apply (.write pos bytes) = d.write pos bytes := rfl

/-! ### What a read finds -/

@[simp] theorem length_read (d : Disk) (pos n : Nat) : (d.read pos n).length = n := by
  simp [read]

/-- Reads depend on the bytes of their range only. -/
theorem read_congr {d d' : Disk}
    (h : ∀ i, pos ≤ i → i < pos + n → d.data i = d'.data i) : d.read pos n = d'.read pos n := by
  refine map_congr_left fun i hi => h (pos + i) (by omega) ?_
  have := mem_range.mp hi
  omega

theorem data_write_of_outside {i : Nat}
    (h : i < pos ∨ pos + bytes.length ≤ i) : (d.write pos bytes).data i = d.data i :=
  if_neg (by omega)

theorem data_write_of_inside {i : Nat} (hlo : pos ≤ i)
    (hhi : i < pos + bytes.length) : (d.write pos bytes).data i = bytes.getD (i - pos) 0 :=
  if_pos ⟨hlo, hhi⟩

theorem read_write_of_disjoint {wpos : Nat} (h : pos + n ≤ wpos ∨ wpos + bytes.length ≤ pos) :
    (d.write wpos bytes).read pos n = d.read pos n :=
  read_congr fun _ _ _ => data_write_of_outside d (by omega)

theorem read_write_of_inside {wpos : Nat} (hlo : wpos ≤ pos) (hhi : pos + n ≤ wpos + bytes.length) :
    (d.write wpos bytes).read pos n = (bytes.drop (pos - wpos)).take n := by
  apply ext_getElem
  · simp only [length_read, length_take, length_drop]
    omega
  · intro i hi _
    rw [length_read] at hi
    simp only [read, getElem_map, getElem_range, getElem_take, getElem_drop]
    rw [data_write_of_inside d (by omega) (by omega), getD_eq_getElem _ _ (by omega)]
    congr 1
    omega

theorem read_write_self (pos : Nat) (bytes : List UInt8) :
    (d.write pos bytes).read pos bytes.length = bytes := by
  rw [read_write_of_inside d (Nat.le_refl _) (Nat.le_refl _)]
  simp

/-- A shorter read at the same place is the first part of the longer one. -/
theorem take_read (pos : Nat) {m : Nat} (h : n ≤ m) : (d.read pos m).take n = d.read pos n := by
  simp only [read, ← map_take, take_range, Nat.min_eq_left h]

theorem data_write_zeros (h : d.len ≤ pos) : (d.write pos (replicate n 0)).data = d.data := by
  funext i
  by_cases hi : pos ≤ i ∧ i < pos + (replicate n (0 : UInt8)).length
  · have hin := hi.2
    rw [length_replicate] at hin
    rw [data_write_of_inside d hi.1 hi.2, d.zero_beyond i (by omega),
      getD_replicate _ (by omega)]
  · exact if_neg hi

end Disk

end Kerber
