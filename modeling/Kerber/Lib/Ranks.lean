import Mathlib.Algebra.Order.Ring.Int
import Mathlib.Data.List.Dedup
import Mathlib.Data.List.Sort

/-!
# The largest values of a list

`largest n l` are the `n` largest of the different values of `l`, the largest first.  A value is one
of them when fewer than `n` of the values are above it (`mem_largest`).
-/

namespace Kerber

open List

theorem falling_insertionSort {α : Type*} [LE α] [LT α] [DecidableLE α] [Std.IsLinearOrder α]
    [Std.LawfulOrderLT α] {l : List α} (h : l.Nodup) :
    (l.insertionSort (fun a b => b ≤ a)).Pairwise (fun a b => b < a) := by
  have hsorted := pairwise_insertionSort (fun a b : α => b ≤ a) l
  have hnodup := (perm_insertionSort (fun a b : α => b ≤ a) l).nodup_iff.mpr h
  refine List.Pairwise.imp₂ ?_ hsorted hnodup
  intro a b hle hne
  exact Std.lt_of_le_of_ne hle (Ne.symm hne)

section Ranks

variable {α : Type*} [LE α] [LT α] [DecidableEq α]

/-- The `n` largest values of a list. -/
def largest [DecidableLE α] (n : Nat) (l : List α) : List α :=
  (l.dedup.insertionSort (fun a b => b ≤ a)).take n

variable [DecidableLT α]

/-- How many values of a list are above `a`. -/
def countAbove (a : α) (l : List α) : Nat :=
  (l.dedup.filter (a < ·)).length

variable [Std.IsLinearOrder α] [Std.LawfulOrderLT α] {a : α} {l l' : List α} {n : Nat}

theorem countAbove_eq_zero (h : ∀ b ∈ l, b ≤ a) : countAbove a l = 0 := by
  rw [countAbove, length_eq_zero_iff, filter_eq_nil_iff]
  intro b hb
  rw [decide_eq_true_eq]
  exact Std.not_lt.mpr (h b (mem_dedup.mp hb))

/-- In a falling list, what stands among the first `n` has fewer than `n` values above it. -/
theorem mem_take_of_falling (h : l.Pairwise (fun a b => b < a)) :
    a ∈ l.take n ↔ a ∈ l ∧ (l.filter (a < ·)).length < n := by
  induction l generalizing n with
  | nil => simp
  | cons b l ih =>
    obtain ⟨hhead, htail⟩ := pairwise_cons.mp h
    cases n with
    | zero => simp
    | succ n =>
      rw [take_succ_cons, mem_cons, mem_cons, ih htail]
      by_cases hba : a = b
      · -- nothing that follows is above the first value
        subst hba
        have hnone : (a :: l).filter (a < ·) = [] := by
          rw [filter_eq_nil_iff]
          intro c hc
          rw [decide_eq_true_eq]
          rcases mem_cons.mp hc with rfl | hc
          · exact Std.lt_irrefl
          · exact Std.not_lt.mpr (Std.le_of_lt (hhead c hc))
        rw [hnone]
        simp
      · constructor
        · rintro (rfl | ⟨hmem, hlt⟩)
          · exact absurd rfl hba
          · refine ⟨.inr hmem, ?_⟩
            rw [filter_cons_of_pos (by simpa using hhead a hmem), length_cons]
            omega
        · rintro ⟨rfl | hmem, hlt⟩
          · exact absurd rfl hba
          · rw [filter_cons_of_pos (by simpa using hhead a hmem), length_cons] at hlt
            exact .inr ⟨hmem, by omega⟩

/-- **The largest values** are those with few above them. -/
theorem mem_largest [DecidableLE α] : a ∈ largest n l ↔ a ∈ l ∧ countAbove a l < n := by
  have hperm := perm_insertionSort (fun a b : α => b ≤ a) l.dedup
  rw [largest, mem_take_of_falling (falling_insertionSort l.nodup_dedup), countAbove,
    hperm.mem_iff, (hperm.filter _).length_eq, mem_dedup]

theorem countAbove_append (h : ∀ b ∈ l, b ≤ a) : countAbove a (l ++ l') = countAbove a l' := by
  refine List.Perm.length_eq ((perm_ext_iff_of_nodup ?_ ?_).mpr ?_)
  · exact (l ++ l').nodup_dedup.filter _
  · exact l'.nodup_dedup.filter _
  · intro b
    rw [mem_filter, mem_filter, mem_dedup, mem_dedup, mem_append,
      decide_eq_true_eq]
    constructor
    · rintro ⟨hmem | hmem, hlt⟩
      · exact absurd hlt (Std.not_lt.mpr (h b hmem))
      · exact ⟨hmem, hlt⟩
    · rintro ⟨hmem, hlt⟩
      exact ⟨.inr hmem, hlt⟩

end Ranks

/-- The larger of two machine words is one of them and bounds both. -/
instance lawfulOrderMaxUInt32 : Std.LawfulOrderMax UInt32 where
  max_eq_or a b := by
    show (if a ≤ b then b else a) = a ∨ (if a ≤ b then b else a) = b
    split
    · exact .inr rfl
    · exact .inl rfl
  max_le_iff a b c := by
    show (if a ≤ b then b else a) ≤ c ↔ a ≤ c ∧ b ≤ c
    split
    · rename_i hab
      exact ⟨fun h => ⟨Std.le_trans hab h, h⟩, fun h => h.2⟩
    · rename_i hab
      exact ⟨fun h => ⟨h, Std.le_trans (Std.le_of_lt (Std.not_le.mp hab)) h⟩, fun h => h.1⟩

end Kerber
