import Mathlib.Algebra.Order.Ring.Int
import Mathlib.Data.List.Basic

/-!
# Numbers in text

Numbers written with digits of a radix and read back, over ASCII bytes: `render` and `valueOf`,
and the readers for unsigned and signed integers of a bounded range (`parseNat`, `parseInt`), which
take a leading sign as Rust's `from_str_radix` does.  `parseNat_render` and `parseInt_renderInt` are
the round trips.
-/

namespace Kerber

open List

variable {radix n : Nat}

/-! ### Digits -/

/-- The digit for a value below 36, in lower case. -/
def digitByte (d : Nat) : UInt8 :=
  if d < 10 then UInt8.ofNat (48 + d) else UInt8.ofNat (87 + d)

/-- The value of a digit or letter; 36 for any other byte. -/
def digitRaw (b : UInt8) : Nat :=
  let n := b.toNat
  if 48 ≤ n ∧ n ≤ 57 then n - 48
  else if 97 ≤ n ∧ n ≤ 122 then n - 87
  else if 65 ≤ n ∧ n ≤ 90 then n - 55
  else 36

def digitVal (radix : Nat) (b : UInt8) : Option Nat :=
  if digitRaw b < radix then some (digitRaw b) else none

/-- Whether a byte is one of the digits `digitByte` writes. -/
def isDigitByte (b : UInt8) : Bool :=
  (48 ≤ b.toNat && b.toNat ≤ 57) || (97 ≤ b.toNat && b.toNat ≤ 122)

theorem isDigitByte_digitByte {d : Nat} (h : d < 36) : isDigitByte (digitByte d) = true := by
  have hall : ∀ d < 36, isDigitByte (digitByte d) = true := by decide
  exact hall d h

theorem digitVal_digitByte {d : Nat} (hd : d < radix) (hr : radix ≤ 36) :
    digitVal radix (digitByte d) = some d := by
  have hall : ∀ d < 36, digitRaw (digitByte d) = d := by decide
  rw [digitVal, hall d (by omega), if_pos hd]

/-! ### Unsigned numbers -/

/-- The number that digits stand for, after `acc`. -/
def valueOf (radix : Nat) : Nat → List UInt8 → Option Nat
  | acc, [] => some acc
  | acc, b :: rest =>
    match digitVal radix b with
    | some d => valueOf radix (acc * radix + d) rest
    | none => none

def renderAux (radix : Nat) : Nat → Nat → List UInt8
  | 0, _ => []
  | fuel + 1, n =>
    if n < radix then [digitByte n]
    else renderAux radix fuel (n / radix) ++ [digitByte (n % radix)]

/-- The digits of a number. -/
def render (radix n : Nat) : List UInt8 :=
  renderAux radix (n + 1) n

theorem valueOf_nil (radix acc : Nat) : valueOf radix acc [] = some acc := rfl

theorem valueOf_digit {d : Nat} (hd : d < radix) (hr : radix ≤ 36) (acc : Nat) (rest : List UInt8) :
    valueOf radix acc (digitByte d :: rest) = valueOf radix (acc * radix + d) rest := by
  rw [valueOf, digitVal_digitByte hd hr]

theorem valueOf_append (radix acc : Nat) (s t : List UInt8) :
    valueOf radix acc (s ++ t) = (valueOf radix acc s).bind fun v => valueOf radix v t := by
  induction s generalizing acc with
  | nil => rfl
  | cons b s ih =>
    rw [cons_append, valueOf, valueOf]
    cases digitVal radix b with
    | none => rfl
    | some d => exact ih _

theorem valueOf_renderAux (h2 : 2 ≤ radix) (h36 : radix ≤ 36) (fuel n : Nat)
    (h : n < fuel) : valueOf radix 0 (renderAux radix fuel n) = some n := by
  induction fuel generalizing n with
  | zero => omega
  | succ fuel ih =>
    rw [renderAux]
    split
    · rename_i hlt
      rw [valueOf_digit hlt h36, valueOf_nil, Nat.zero_mul, Nat.zero_add]
    · rename_i hge
      have hdiv : n / radix < fuel := by
        have := Nat.div_lt_self (show 0 < n by omega) h2
        omega
      have hmod : n % radix < radix := Nat.mod_lt _ (by omega)
      rw [valueOf_append, ih _ hdiv, Option.bind_some, valueOf_digit hmod h36, valueOf_nil,
        Nat.mul_comm, Nat.div_add_mod]

theorem valueOf_render (h2 : 2 ≤ radix) (h36 : radix ≤ 36) (n : Nat) :
    valueOf radix 0 (render radix n) = some n :=
  valueOf_renderAux h2 h36 (n + 1) n (Nat.lt_succ_self n)

theorem mem_renderAux (hpos : 0 < radix) (fuel n : Nat) {b : UInt8}
    (hb : b ∈ renderAux radix fuel n) : ∃ d < radix, b = digitByte d := by
  induction fuel generalizing n with
  | zero => nomatch hb
  | succ fuel ih =>
    rw [renderAux] at hb
    split at hb
    · rename_i hlt
      exact ⟨n, hlt, mem_singleton.mp hb⟩
    · rcases mem_append.mp hb with hb | hb
      · exact ih _ hb
      · exact ⟨n % radix, Nat.mod_lt _ hpos, mem_singleton.mp hb⟩

theorem mem_render (hpos : 0 < radix) {b : UInt8} (hb : b ∈ render radix n) :
    ∃ d < radix, b = digitByte d :=
  mem_renderAux hpos (n + 1) n hb

theorem isDigitByte_of_digit (h36 : radix ≤ 36) {b : UInt8} (h : ∃ d < radix, b = digitByte d) :
    isDigitByte b = true := by
  obtain ⟨d, hd, rfl⟩ := h
  exact isDigitByte_digitByte (by omega)

theorem render_digits (hpos : 0 < radix) (h36 : radix ≤ 36) (n : Nat) :
    ∀ b ∈ render radix n, isDigitByte b = true :=
  fun _ hb => isDigitByte_of_digit h36 (mem_render hpos hb)

theorem renderAux_length_le (fuel : Nat) {k : Nat} (hk : 0 < k)
    (h : n < radix ^ k) : (renderAux radix fuel n).length ≤ k := by
  induction fuel generalizing k n with
  | zero => exact Nat.zero_le k
  | succ fuel ih =>
    rw [renderAux]
    split
    · exact hk
    · rename_i hge
      obtain ⟨k, rfl⟩ : ∃ k', k = k' + 1 := ⟨k - 1, by omega⟩
      have hk' : 0 < k := by
        rcases Nat.eq_zero_or_pos k with rfl | hk'
        · rw [Nat.zero_add, Nat.pow_one] at h
          exact absurd h hge
        · exact hk'
      have hdiv : n / radix < radix ^ k := Nat.div_lt_of_lt_mul (by rwa [Nat.pow_succ'] at h)
      have := ih hk' hdiv
      rw [length_append, length_singleton]
      omega

/-- A number below a power has at most that many digits. -/
theorem render_length_le {k : Nat} (hk : 0 < k) (h : n < radix ^ k) : (render radix n).length ≤ k :=
  renderAux_length_le (n + 1) hk h

theorem render_ne_nil (radix n : Nat) : render radix n ≠ [] := by
  rw [render, renderAux]
  split
  · exact cons_ne_nil _ _
  · exact append_ne_nil_of_right_ne_nil _ (cons_ne_nil _ _)

theorem valueOf_zeros (hpos : 0 < radix) (h36 : radix ≤ 36) (k : Nat)
    (s : List UInt8) : valueOf radix 0 (replicate k (digitByte 0) ++ s) = valueOf radix 0 s := by
  induction k with
  | zero => rfl
  | succ k ih =>
    rw [replicate_succ, cons_append, valueOf_digit hpos h36, Nat.zero_mul]
    exact ih

/-! ### Readers -/

/-- A `+` or `-` in front. -/
def plusByte : UInt8 := 43
def minusByte : UInt8 := 45

/-- The digits after a sign that has digits after it. -/
def dropSign (sign : UInt8) (s : List UInt8) : Option (List UInt8) :=
  match s with
  | b :: d :: rest => if b = sign then some (d :: rest) else none
  | _ => none

/-- Digits, at least one, of a value up to `max`. -/
def parseDigits (radix max : Nat) (s : List UInt8) : Option Nat :=
  if s = [] then none
  else (valueOf radix 0 s).bind fun v => if v ≤ max then some v else none

/-- An unsigned number up to `max`, with `+` allowed in front. -/
def parseNat (radix max : Nat) (s : List UInt8) : Option Nat :=
  parseDigits radix max ((dropSign plusByte s).getD s)

/-- A signed number of `[-(max + 1), max]`. -/
def parseInt (radix max : Nat) (s : List UInt8) : Option Int :=
  match dropSign minusByte s with
  | some digits => (parseDigits radix (max + 1) digits).map fun v : Nat => -(v : Int)
  | none => (parseNat radix max s).map fun v : Nat => (v : Int)

/-- A signed number as it is written. -/
def renderInt (radix : Nat) (i : Int) : List UInt8 :=
  if i < 0 then minusByte :: render radix i.natAbs else render radix i.natAbs

theorem dropSign_of_digits {sign : UInt8} (hsign : isDigitByte sign = false) {s : List UInt8}
    (h : ∀ b ∈ s, isDigitByte b = true) : dropSign sign s = none := by
  match s with
  | [] => rfl
  | [_] => rfl
  | b :: d :: rest =>
    have hne : b ≠ sign := by
      rintro rfl
      rw [h b mem_cons_self] at hsign
      cases hsign
    exact if_neg hne

theorem parseDigits_render {max : Nat} (h2 : 2 ≤ radix) (h36 : radix ≤ 36)
    (h : n ≤ max) : parseDigits radix max (render radix n) = some n := by
  rw [parseDigits, if_neg (render_ne_nil radix n), valueOf_render h2 h36, Option.bind_some,
    if_pos h]

/-- **A number reads back as it was written.** -/
theorem parseNat_render {max : Nat} (h2 : 2 ≤ radix) (h36 : radix ≤ 36) (h : n ≤ max) :
    parseNat radix max (render radix n) = some n := by
  rw [parseNat, dropSign_of_digits (by decide) (render_digits (by omega) h36 n), Option.getD_none,
    parseDigits_render h2 h36 h]

/-- **So does a signed number.** -/
theorem parseInt_renderInt {max : Nat} {i : Int} (h2 : 2 ≤ radix) (h36 : radix ≤ 36)
    (hlo : -(max + 1 : Int) ≤ i) (hhi : i ≤ max) :
    parseInt radix max (renderInt radix i) = some i := by
  by_cases hneg : i < 0
  · have hdrop : dropSign minusByte (renderInt radix i) = some (render radix i.natAbs) := by
      rw [renderInt, if_pos hneg]
      cases hr : render radix i.natAbs with
      | nil => exact absurd hr (render_ne_nil _ _)
      | cons b rest => rw [dropSign, if_pos rfl]
    rw [parseInt, hdrop]
    show (parseDigits radix (max + 1) (render radix i.natAbs)).map _ = _
    rw [parseDigits_render h2 h36 (by omega), Option.map_some]
    congr 1
    omega
  · have hr : renderInt radix i = render radix i.natAbs := if_neg hneg
    have hdrop : dropSign minusByte (render radix i.natAbs) = none :=
      dropSign_of_digits (by decide) (render_digits (by omega) h36 _)
    rw [parseInt, hr, hdrop]
    show (parseNat radix max (render radix i.natAbs)).map _ = _
    rw [parseNat_render h2 h36 (by omega), Option.map_some]
    congr 1
    omega

/-! ### Numbers of a width -/

/-- The digits of a number, with zeros in front of them up to a width. -/
def padded (radix width n : Nat) : List UInt8 :=
  List.replicate (width - (render radix n).length) (digitByte 0) ++ render radix n

section Padded

variable {width : Nat}

theorem mem_padded (hpos : 0 < radix) {b : UInt8} (hb : b ∈ padded radix width n) :
    ∃ d < radix, b = digitByte d := by
  rcases mem_append.mp hb with hb | hb
  · exact ⟨0, hpos, (mem_replicate.mp hb).2⟩
  · exact mem_render hpos hb

theorem padded_ne_nil (radix width n : Nat) : padded radix width n ≠ [] :=
  append_ne_nil_of_right_ne_nil _ (render_ne_nil radix n)

theorem padded_length (hwidth : 0 < width) (h : n < radix ^ width) :
    (padded radix width n).length = width := by
  have := render_length_le hwidth h
  rw [padded, length_append, length_replicate]
  omega

theorem valueOf_padded (h2 : 2 ≤ radix) (h36 : radix ≤ 36) :
    valueOf radix 0 (padded radix width n) = some n := by
  rw [padded, valueOf_zeros (by omega) h36, valueOf_render h2 h36]

theorem parseNat_padded {max : Nat} (h2 : 2 ≤ radix) (h36 : radix ≤ 36) (h : n ≤ max) :
    parseNat radix max (padded radix width n) = some n := by
  have hdigits : ∀ b ∈ padded radix width n, isDigitByte b = true :=
    fun b hb => isDigitByte_of_digit h36 (mem_padded (by omega) hb)
  rw [parseNat, dropSign_of_digits (by decide) hdigits, Option.getD_none, parseDigits,
    if_neg (padded_ne_nil radix width n), valueOf_padded h2 h36, Option.bind_some, if_pos h]

end Padded

/-! ### Bytes as two hexadecimal digits -/

def hexPair (b : UInt8) : List UInt8 :=
  [digitByte (b.toNat / 16), digitByte (b.toNat % 16)]

def pairBytes : List UInt8 → Option (List UInt8)
  | hi :: lo :: rest => do
    let h ← digitVal 16 hi
    let l ← digitVal 16 lo
    let tail ← pairBytes rest
    return UInt8.ofNat (16 * h + l) :: tail
  | [] => some []
  | [_] => none

theorem pairBytes_flatMap_hexPair (bytes : List UInt8) :
    pairBytes (bytes.flatMap hexPair) = some bytes := by
  induction bytes with
  | nil => rfl
  | cons b bytes ih =>
    have hlt := b.toNat_lt
    have hhi : digitVal 16 (digitByte (b.toNat / 16)) = some (b.toNat / 16) :=
      digitVal_digitByte (by omega) (by omega)
    have hlo : digitVal 16 (digitByte (b.toNat % 16)) = some (b.toNat % 16) :=
      digitVal_digitByte (by omega) (by omega)
    have hb : UInt8.ofNat (16 * (b.toNat / 16) + b.toNat % 16) = b := by
      rw [Nat.div_add_mod]
      exact UInt8.ofNat_toNat
    rw [flatMap_cons, hexPair, cons_append, cons_append, nil_append, pairBytes,
      hhi, hlo, ih]
    show some (UInt8.ofNat (16 * (b.toNat / 16) + b.toNat % 16) :: bytes) = _
    rw [hb]

theorem flatMap_hexPair_digits (bytes : List UInt8) :
    ∀ b ∈ bytes.flatMap hexPair, isDigitByte b = true := by
  intro b hb
  obtain ⟨x, _, hx⟩ := mem_flatMap.mp hb
  have hlt := x.toNat_lt
  simp only [hexPair, mem_cons, not_mem_nil, or_false] at hx
  rcases hx with rfl | rfl
  · exact isDigitByte_digitByte (by omega)
  · exact isDigitByte_digitByte (by omega)

end Kerber
