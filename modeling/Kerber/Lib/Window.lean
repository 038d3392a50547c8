import Mathlib.Data.Nat.Bitwise
import Mathlib.Data.Set.Insert

/-!
# A window of received numbers

A receiver remembers the last `w` numbers before `next` in a word: bit `i` stands for the number
`next - 1 - i`.  `Shows` is this meaning of the word, and there is a rule for each thing that a
receiver does with it: a new highest number shifts the word (`Shows.advance`), a late one sets a bit
(`Shows.mark`), and a number of the window was seen when its bit is set (`Shows.testBit_iff`).
-/

namespace Kerber.Window

/-- The numbers that a word shows: none reaches `next`, and those of the last `w` are the set bits. -/
structure Shows (w map next : Nat) (seen : Set Nat) : Prop where
  lt_next : ∀ r ∈ seen, r < next
  bit : ∀ i < w, map.testBit i = true ↔ i < next ∧ next - 1 - i ∈ seen

/-- A word that is another one shifted by `n` places, in its lowest `w` bits. -/
def Shifted (w map n map' : Nat) : Prop :=
  ∀ i < w, map'.testBit i = (decide (n ≤ i) && map.testBit (i - n))

variable {w map map' next n r : Nat} {seen : Set Nat}

theorem shifted_shiftLeft (w map n : Nat) : Shifted w map n (map <<< n % 2 ^ w) := by
  intro i hi
  rw [Nat.testBit_mod_two_pow, Nat.testBit_shiftLeft, decide_eq_true hi, Bool.true_and]

/-- Nothing is left of a word that is shifted out. -/
theorem shifted_zero (h : w ≤ n) (map : Nat) : Shifted w map n 0 := by
  intro i hi
  have hlt : ¬ n ≤ i := by omega
  rw [Nat.zero_testBit, decide_eq_false hlt, Bool.false_and]

theorem Shows.empty (w next : Nat) : Shows w 0 next ∅ where
  lt_next r hr := absurd hr (Set.notMem_empty r)
  bit i _ := by
    rw [Nat.zero_testBit]
    exact iff_of_false Bool.false_ne_true fun h => Set.notMem_empty _ h.2

theorem Shows.testBit_iff (h : Shows w map next seen) (hlt : r < next) (hw : next ≤ r + w) :
    map.testBit (next - 1 - r) = true ↔ r ∈ seen := by
  have hback : next - 1 - (next - 1 - r) = r := by omega
  rw [h.bit (next - 1 - r) (by omega), hback]
  exact and_iff_right (by omega)

theorem testBit_or_one_shiftLeft (map k i : Nat) :
    (map ||| 1 <<< k).testBit i = (map.testBit i || decide (k = i)) := by
  rw [Nat.testBit_or, Nat.one_shiftLeft, Nat.testBit_two_pow]

/-- A late number sets its bit. -/
theorem Shows.mark (h : Shows w map next seen) (hlt : r < next) (hw : next ≤ r + w) :
    Shows w (map ||| 1 <<< (next - 1 - r)) next (insert r seen) where
  lt_next q hq := hq.elim (fun heq => heq ▸ hlt) (h.lt_next q)
  bit i hi := by
    rw [testBit_or_one_shiftLeft, Bool.or_eq_true, h.bit i hi, decide_eq_true_iff,
      Set.mem_insert_iff]
    constructor
    · rintro (⟨hi, hmem⟩ | rfl)
      · exact ⟨hi, .inr hmem⟩
      · exact ⟨by omega, .inl (by omega)⟩
    · rintro ⟨hi, rfl | hmem⟩
      · exact .inr (by omega)
      · exact .inl ⟨hi, hmem⟩

/-- A new highest number shifts the word and sets the lowest bit. -/
theorem Shows.advance (h : Shows w map next seen) (hle : next ≤ r)
    (hmap : Shifted w map (r + 1 - next) map') : Shows w (map' ||| 1) (r + 1) (insert r seen) where
  lt_next q hq := hq.elim (fun heq => by omega) fun hq => by have := h.lt_next q hq; omega
  bit i hi := by
    have hone : (map' ||| 1).testBit i = (map'.testBit i || decide (0 = i)) :=
      testBit_or_one_shiftLeft map' 0 i
    rw [hone, Bool.or_eq_true, hmap i hi, Bool.and_eq_true, decide_eq_true_iff,
      decide_eq_true_iff, Set.mem_insert_iff]
    constructor
    · rintro (⟨hshift, hbit⟩ | rfl)
      · obtain ⟨hlt, hmem⟩ := (h.bit _ (by omega)).mp hbit
        have hback : next - 1 - (i - (r + 1 - next)) = r + 1 - 1 - i := by omega
        rw [hback] at hmem
        exact ⟨by omega, .inr hmem⟩
      · exact ⟨by omega, .inl (by omega)⟩
    · rintro ⟨hlt, heq | hmem⟩
      · exact .inr (by omega)
      · -- a number seen before lies below `next`, so its bit was shifted and not out
        have hold := h.lt_next _ hmem
        have hback : next - 1 - (i - (r + 1 - next)) = r + 1 - 1 - i := by omega
        refine .inl ⟨by omega, (h.bit _ (by omega)).mpr ⟨by omega, ?_⟩⟩
        rw [hback]
        exact hmem

end Kerber.Window
