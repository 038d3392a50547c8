import Mathlib.Algebra.Order.Ring.Int
import Mathlib.Data.List.Chain
import Mathlib.Data.List.Infix
import Mathlib.Data.List.Nodup

/-!
# Paths between lists

Lists form a forest in which the parent of `x :: l` is `l`.  `suffixPath c s` climbs from `c` to the
longest common suffix of both and goes down to `s`; without a common suffix it climbs to the last
label of `c` and jumps to the last label of `s`.  It starts at `c` (`head?_suffixPath`), ends at `s`
(`getLast?_suffixPath`), meets no list twice (`nodup_suffixPath`), and each step but the jump takes or
drops one first element (`isChain_suffixPath`).
-/

namespace Kerber

open List

variable {α : Type*}

/-! ### Climbing -/

/-- Each list on the way up is the next one with one element in front. -/
theorem isChain_tails (l : List α) (n : Nat) :
    (l.tails.take n).IsChain fun a b => ∃ x, a = x :: b := by
  refine List.IsChain.take ?_ n
  induction l with
  | nil => exact .singleton _
  | cons x l ih =>
    rw [tails_cons]
    refine ih.cons fun b hb => ?_
    have hhead : l.tails.head? = some l := by cases l <;> rfl
    rw [hhead, Option.mem_some_iff] at hb
    exact ⟨x, by rw [hb]⟩

theorem mem_tails_take {l a : List α} {n : Nat} (hn : n ≤ l.length) :
    a ∈ l.tails.take n ↔ ∃ i < n, a = l.drop i := by
  induction l generalizing n with
  | nil =>
    obtain rfl := Nat.le_zero.mp hn
    simp
  | cons x l ih =>
    cases n with
    | zero => simp
    | succ n =>
      rw [tails_cons, take_succ_cons, mem_cons, ih (Nat.le_of_succ_le_succ hn)]
      constructor
      · rintro (rfl | ⟨i, hi, rfl⟩)
        · exact ⟨0, Nat.succ_pos n, rfl⟩
        · exact ⟨i + 1, Nat.succ_lt_succ hi, rfl⟩
      · rintro ⟨i, hi, rfl⟩
        cases i with
        | zero => exact .inl rfl
        | succ i => exact .inr ⟨i, Nat.lt_of_succ_lt_succ hi, rfl⟩

theorem head?_tails_take (l : List α) {n : Nat} (hn : 0 < n) : (l.tails.take n).head? = some l := by
  obtain ⟨m, rfl⟩ := Nat.exists_eq_succ_of_ne_zero (Nat.pos_iff_ne_zero.mp hn)
  cases l <;> rfl

theorem getLast?_tails_take (l : List α) {n : Nat} (hn : n ≤ l.length) :
    (l.tails.take (n + 1)).getLast? = some (l.drop n) := by
  induction l generalizing n with
  | nil =>
    obtain rfl := Nat.le_zero.mp hn
    rfl
  | cons x l ih =>
    cases n with
    | zero => rfl
    | succ n =>
      have htail := ih (Nat.le_of_succ_le_succ hn)
      rw [tails_cons, take_succ_cons, drop_succ_cons, getLast?_cons, htail]
      rfl

theorem nodup_tails_take (l : List α) (n : Nat) : (l.tails.take n).Nodup := by
  refine List.Nodup.sublist (take_sublist n _) ?_
  induction l with
  | nil => simp
  | cons x l ih =>
    rw [tails_cons, nodup_cons]
    refine ⟨fun hmem => ?_, ih⟩
    -- a tail is not longer than the list
    have hle := ((mem_tails _ _).mp hmem).length_le
    rw [length_cons] at hle
    omega

variable [DecidableEq α] {c s : List α}

/-! ### The longest common suffix -/

/-- How many elements two lists have in common at their fronts. -/
def commonPrefixLength (a b : List α) : Nat :=
  ((a.zip b).takeWhile fun p => p.1 = p.2).length

/-- How many elements two lists have in common at their ends. -/
def commonSuffixLength (c s : List α) : Nat :=
  commonPrefixLength c.reverse s.reverse

theorem commonPrefixLength_spec (a b : List α) :
    commonPrefixLength a b ≤ a.length ∧ commonPrefixLength a b ≤ b.length
      ∧ a.take (commonPrefixLength a b) = b.take (commonPrefixLength a b)
      ∧ ∀ m ≤ a.length, m ≤ b.length → a.take m = b.take m → m ≤ commonPrefixLength a b := by
  induction a generalizing b with
  | nil => exact ⟨Nat.le_refl _, Nat.zero_le _, rfl, fun m hm _ _ => hm⟩
  | cons x a ih =>
    cases b with
    | nil => exact ⟨Nat.zero_le _, Nat.le_refl _, rfl, fun m _ hm _ => hm⟩
    | cons y b =>
      by_cases hxy : x = y
      · subst hxy
        have hlen : commonPrefixLength (x :: a) (x :: b) = commonPrefixLength a b + 1 := by
          simp [commonPrefixLength]
        obtain ⟨ha, hb, htake, hmax⟩ := ih b
        rw [hlen]
        refine ⟨Nat.succ_le_succ ha, Nat.succ_le_succ hb, ?_, fun m hma hmb heq => ?_⟩
        · rw [take_succ_cons, take_succ_cons, htake]
        · cases m with
          | zero => exact Nat.zero_le _
          | succ m =>
            rw [take_succ_cons, take_succ_cons, cons.injEq] at heq
            exact Nat.succ_le_succ (hmax m (Nat.le_of_succ_le_succ hma)
              (Nat.le_of_succ_le_succ hmb) heq.2)
      · have hlen : commonPrefixLength (x :: a) (y :: b) = 0 := by
          simp [commonPrefixLength, hxy]
        rw [hlen]
        refine ⟨Nat.zero_le _, Nat.zero_le _, rfl, fun m _ _ heq => ?_⟩
        cases m with
        | zero => exact Nat.le_refl _
        | succ m =>
          rw [take_succ_cons, take_succ_cons, cons.injEq] at heq
          exact absurd heq.1 hxy

theorem commonSuffixLength_spec (c s : List α) :
    commonSuffixLength c s ≤ c.length ∧ commonSuffixLength c s ≤ s.length
      ∧ c.drop (c.length - commonSuffixLength c s) = s.drop (s.length - commonSuffixLength c s)
      ∧ ∀ m ≤ c.length, m ≤ s.length → c.drop (c.length - m) = s.drop (s.length - m) →
          m ≤ commonSuffixLength c s := by
  have hspec := commonPrefixLength_spec c.reverse s.reverse
  simp only [length_reverse, take_reverse, reverse_inj] at hspec
  exact hspec

/-! ### The path -/

/-- How far the path climbs: to the common suffix, or to the last element. -/
def climb (c s : List α) : Nat :=
  if commonSuffixLength c s = 0 then c.length else c.length - commonSuffixLength c s + 1

/-- How far it goes down: from below the common suffix, or from the last element. -/
def descent (c s : List α) : Nat :=
  if commonSuffixLength c s = 0 then s.length else s.length - commonSuffixLength c s

def suffixPath (c s : List α) : List (List α) :=
  c.tails.take (climb c s) ++ (s.tails.take (descent c s)).reverse

theorem climb_pos (hc : c ≠ []) : 0 < climb c s := by
  have hlen := length_pos_iff.mpr hc
  unfold climb
  split <;> omega

theorem climb_le : climb c s ≤ c.length := by
  have hle := (commonSuffixLength_spec c s).1
  unfold climb
  split <;> omega

theorem descent_le : descent c s ≤ s.length := by
  unfold descent
  split <;> omega

theorem head?_suffixPath (hc : c ≠ []) : (suffixPath c s).head? = some c := by
  rw [suffixPath, head?_append, head?_tails_take c (climb_pos hc)]
  rfl

theorem getLast?_climb (hc : c ≠ []) :
    (c.tails.take (climb c s)).getLast? = some (c.drop (climb c s - 1)) := by
  have hpos := climb_pos (s := s) hc
  have hle := climb_le (c := c) (s := s)
  have hlast := getLast?_tails_take c (n := climb c s - 1) (by omega)
  rwa [Nat.sub_add_cancel hpos] at hlast

theorem getLast?_suffixPath (hc : c ≠ []) (hs : s ≠ []) : (suffixPath c s).getLast? = some s := by
  rw [suffixPath, getLast?_append, getLast?_reverse]
  by_cases hdown : descent c s = 0
  · -- the end is the common suffix itself
    have hlen := length_pos_iff.mpr hs
    obtain ⟨-, hsle, heq, -⟩ := commonSuffixLength_spec c s
    have hcommon : commonSuffixLength c s ≠ 0 := by
      intro hzero
      rw [descent, if_pos hzero] at hdown
      omega
    have hall : s.length - commonSuffixLength c s = 0 := by
      rwa [descent, if_neg hcommon] at hdown
    rw [hdown, take_zero, head?_nil, Option.none_or, getLast?_climb hc, climb,
      if_neg hcommon, Nat.add_sub_cancel, heq, hall, drop_zero]
  · rw [head?_tails_take s (Nat.pos_of_ne_zero hdown)]
    rfl

/-- **No list is met twice**: one that is met on both ways would be a longer common suffix. -/
theorem nodup_suffixPath : (suffixPath c s).Nodup := by
  refine nodup_append'.mpr
    ⟨nodup_tails_take c _, nodup_reverse.mpr (nodup_tails_take s _), ?_⟩
  intro l hup hdown
  rw [mem_reverse] at hdown
  obtain ⟨i, hi, rfl⟩ := (mem_tails_take climb_le).mp hup
  obtain ⟨j, hj, heq⟩ := (mem_tails_take descent_le).mp hdown
  have hcle := climb_le (c := c) (s := s)
  have hlen := congrArg length heq
  rw [length_drop, length_drop] at hlen
  have hmax := (commonSuffixLength_spec c s).2.2.2 (c.length - i) (by omega) (by omega)
  rw [show c.length - (c.length - i) = i by omega, show s.length - (c.length - i) = j by omega] at hmax
  have hle := hmax heq
  unfold descent at hj
  split at hj <;> omega

/-- A step of a path: an element is dropped in front or put there, or the path jumps from the last
element of one list to that of another. -/
def SuffixStep (c s a b : List α) : Prop :=
  (∃ x, a = x :: b) ∨ (∃ x, b = x :: a)
    ∨ commonSuffixLength c s = 0 ∧ a = c.drop (c.length - 1) ∧ b = s.drop (s.length - 1)

/-- **Each step takes or drops one element**, but for the jump between the last ones. -/
theorem isChain_suffixPath (hc : c ≠ []) : (suffixPath c s).IsChain (SuffixStep c s) := by
  refine List.IsChain.append ?_ ?_ ?_
  · exact (isChain_tails c _).imp fun _ _ h => .inl h
  · rw [isChain_reverse]
    exact (isChain_tails s _).imp fun _ _ h => .inr (.inl h)
  · intro a ha b hb
    rw [getLast?_climb hc, Option.mem_some_iff] at ha
    rw [head?_reverse] at hb
    subst ha
    obtain ⟨m, hm⟩ : ∃ m, descent c s = m + 1 := by
      refine Nat.exists_eq_succ_of_ne_zero fun hzero => ?_
      rw [hzero] at hb
      cases hb
    have hdle := descent_le (c := c) (s := s)
    rw [hm, getLast?_tails_take s (by omega), Option.mem_some_iff] at hb
    subst hb
    by_cases hcommon : commonSuffixLength c s = 0
    · refine .inr (.inr ⟨hcommon, ?_, ?_⟩)
      · rw [climb, if_pos hcommon]
      · rw [descent, if_pos hcommon] at hm
        rw [hm, Nat.add_sub_cancel]
    · -- down from the common suffix to the list just below it
      obtain ⟨-, hsle, heq, -⟩ := commonSuffixLength_spec c s
      rw [descent, if_neg hcommon] at hm
      refine .inr (.inl ⟨s[m], ?_⟩)
      rw [climb, if_neg hcommon, Nat.add_sub_cancel, heq, hm]
      exact drop_eq_getElem_cons _

theorem mem_suffixPath {l : List α} (h : l ∈ suffixPath c s) : l ≠ [] ∧ (l <:+ c ∨ l <:+ s) := by
  rcases mem_append.mp h with h | h
  · obtain ⟨i, hi, rfl⟩ := (mem_tails_take climb_le).mp h
    have hle := climb_le (c := c) (s := s)
    refine ⟨?_, .inl (drop_suffix i c)⟩
    rw [Ne, drop_eq_nil_iff]
    omega
  · rw [mem_reverse] at h
    obtain ⟨i, hi, rfl⟩ := (mem_tails_take descent_le).mp h
    have hle := descent_le (c := c) (s := s)
    refine ⟨?_, .inr (drop_suffix i s)⟩
    rw [Ne, drop_eq_nil_iff]
    omega

end Kerber
