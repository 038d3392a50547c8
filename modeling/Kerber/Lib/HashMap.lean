import Mathlib.Algebra.Order.Ring.Int
import Mathlib.Data.List.AList

/-!
# Maps

A hash map is Mathlib's `AList`, a list of entries with distinct keys; what a program may rely on is
`AList.lookup`, since the order of the entries is not specified.  `modify` changes the value under a
key in place; `sum` adds up something of every entry.
-/

namespace Kerber

open List

/-- A map from keys to values. -/
abbrev HashMap (κ ν : Type) := AList fun _ : κ => ν

namespace HashMap

variable {κ ν : Type}

def values (m : HashMap κ ν) : List ν :=
  m.entries.map Sigma.snd

/-- Something of every entry, added up. -/
def sum (f : κ → ν → Nat) (m : HashMap κ ν) : Nat :=
  (m.entries.map fun e => f e.1 e.2).sum

variable [DecidableEq κ]

/-- A value changed in place (`get_mut`). -/
def modify (k : κ) (f : ν → ν) (m : HashMap κ ν) : HashMap κ ν :=
  match m.lookup k with
  | some v => m.insert k (f v)
  | none => m

theorem lookup_modify_self (k : κ) (f : ν → ν) (m : HashMap κ ν) :
    (modify k f m).lookup k = (m.lookup k).map f := by
  rw [modify]
  split
  · rename_i v hv
    rw [AList.lookup_insert, hv, Option.map_some]
  · rename_i hv
    rw [hv, Option.map_none]

theorem lookup_modify_ne {k k' : κ} (h : k' ≠ k) (f : ν → ν) (m : HashMap κ ν) :
    (modify k f m).lookup k' = m.lookup k' := by
  rw [modify]
  split
  · rw [AList.lookup_insert_ne h]
  · rfl

theorem lookup_insert (k k' : κ) (v : ν) (m : HashMap κ ν) :
    (m.insert k v).lookup k' = if k' = k then some v else m.lookup k' := by
  split
  · rename_i h
    rw [h, AList.lookup_insert]
  · rename_i h
    rw [AList.lookup_insert_ne h]

theorem lookup_erase (k k' : κ) (m : HashMap κ ν) :
    (m.erase k).lookup k' = if k' = k then none else m.lookup k' := by
  split
  · rename_i h
    rw [h, AList.lookup_erase]
  · rename_i h
    rw [AList.lookup_erase_ne h]

theorem mem_keys_iff {k : κ} {m : HashMap κ ν} : k ∈ m.keys ↔ ∃ v, m.lookup k = some v := by
  rw [← AList.mem_keys, ← AList.lookup_isSome, Option.isSome_iff_exists]

theorem sum_insert {f : κ → ν → Nat} {m : HashMap κ ν} {k : κ} (h : m.lookup k = none) (v : ν) :
    sum f (m.insert k v) = sum f m + f k v := by
  rw [sum, AList.entries_insert_of_notMem (AList.lookup_eq_none.mp h), map_cons, sum_cons,
    Nat.add_comm]
  rfl

theorem sum_erase {f : κ → ν → Nat} {m : HashMap κ ν} {k : κ} {v : ν} (h : m.lookup k = some v) :
    sum f (m.erase k) + f k v = sum f m := by
  obtain ⟨entries, hnodup⟩ := m
  change entries.dlookup k = some v at h
  show ((entries.kerase k).map fun e => f e.1 e.2).sum + f k v = (entries.map fun e => f e.1 e.2).sum
  clear hnodup
  induction entries with
  | nil => cases h
  | cons e entries ih =>
    by_cases hk : k = e.1
    · subst hk
      obtain rfl : e.2 = v := Option.some.inj ((dlookup_cons_eq _ _ _).symm.trans h)
      rw [kerase_cons_eq rfl, map_cons, sum_cons, Nat.add_comm]
    · rw [dlookup_cons_ne _ _ hk] at h
      rw [kerase_cons_ne hk, map_cons, map_cons, sum_cons, sum_cons,
        Nat.add_assoc, ih h]

end HashMap

end Kerber
