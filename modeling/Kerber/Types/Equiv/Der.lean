import Kerber.Types.Der
import Mathlib.Tactic.IntervalCases

/-!
# DER lengths are read back, and zeroing keeps what is around the PAC
-/

namespace Kerber.Der

open List

variable {pac data out : Str}

/-! ### Lengths -/

theorem lenLen.loop_spec (fuel : Nat) {n : Nat} (hpos : 0 < n) (h : n < 256 ^ fuel) :
    0 < loop fuel n ∧ loop fuel n ≤ fuel ∧ n < 256 ^ loop fuel n := by
  induction fuel generalizing n with
  | zero => omega
  | succ fuel ih =>
    rw [loop, if_neg (by omega)]
    refine ⟨Nat.succ_pos _, ?_⟩
    rcases Nat.eq_zero_or_pos (n / 256) with hzero | hmore
    · rw [hzero]
      cases fuel <;> simp [loop] <;> omega
    · obtain ⟨-, hle, hlt⟩ := ih hmore (by rw [Nat.pow_succ] at h; omega)
      rw [Nat.pow_succ]
      omega

/-- The octets of a number that `k` of them hold. -/
theorem foldl_be64 {n k : Nat} (hk : k ≤ 8) (h : n < 256 ^ k) :
    ((be64 (UInt64.ofNat n)).drop (8 - k)).foldl (fun (len : Nat) b => len * 256 + b.toNat) 0 = n := by
  have h64 : n < 2 ^ 64 := Nat.lt_of_lt_of_le h (Nat.pow_le_pow_right (by decide) hk)
  interval_cases k <;> simp [be64, be32, byteOf] <;> omega

theorem longForm_octet : ∀ k ≤ 8, ¬ (0x80 ||| UInt8.ofNat k) < 0x80 ∧
    ((0x80 ||| UInt8.ofNat k) &&& 0x7F).toNat = k := by
  decide

theorem readLen_pushLen {n : Nat} (h : n < 2 ^ 64) (rest : Str) : readLen (pushLen n ++ rest)
    = if n ≤ rest.length then some (n, (pushLen n).length) else none := by
  by_cases hshort : n < 128
  · have hfirst : UInt8.ofNat n < 0x80 := by rw [UInt8.lt_iff_toNat_lt]; simp; omega
    have hn : (UInt8.ofNat n).toNat = n := by simp; omega
    simp [pushLen, lenLen, hshort, readLen, hfirst, hn]
  · obtain ⟨hpos, hle, hlt⟩ := lenLen.loop_spec 8 (show 0 < n by omega) h
    have hoctets := foldl_be64 hle hlt
    simp only [pushLen, lenLen, if_neg hshort, Nat.add_sub_cancel_left]
    generalize lenLen.loop 8 n = k at *
    obtain ⟨hform, hk⟩ := longForm_octet k hle
    have hlen : ((be64 (UInt64.ofNat n)).drop (8 - k)).length = k := by
      rw [length_drop]
      show 8 - (8 - k) = k
      omega
    rw [if_neg (by omega)]
    generalize (be64 (UInt64.ofNat n)).drop (8 - k) = octets at *
    generalize 0x80 ||| UInt8.ofNat k = first at *
    simp [readLen, hform, hk, hlen, hoctets, take_left' hlen, Nat.add_comm 1, -UInt8.toNat_and]
    omega

/-! ### Zeroing -/

/-- Bytes that are read as one element. -/
def IsTlv (tag : UInt8) (content bytes : Str) : Prop :=
  ∃ hdr rest, bytes = tag :: (hdr ++ content) ∧
    readLen (hdr ++ (content ++ rest)) = some (content.length, hdr.length)

/-- Bytes in which octet strings that hold the PAC became those of one zero and the elements around them
were written anew, the other bytes being kept; and whether there was one. -/
inductive Zeroed (pac : Str) : Str → Str → Bool → Prop
  | keep (bytes : Str) : Zeroed pac bytes bytes false
  | pac {bytes : Str} (h : IsTlv 0x04 pac bytes) : Zeroed pac bytes (pushTlv 0x04 [0]) true
  | around {tag : UInt8} {content inner bytes : Str} (h : IsTlv tag content bytes)
      (hinner : Zeroed pac content inner true) : Zeroed pac bytes (pushTlv tag inner) true
  | append {a b a' b' : Str} {r r' : Bool} (ha : Zeroed pac a a' r) (hb : Zeroed pac b b' r') :
      Zeroed pac (a ++ b) (a' ++ b') (r || r')

theorem readTlv_some {tag : UInt8} {c : Bool} {content : Str} {n : Nat}
    (h : readTlv data = some (tag, c, content, n)) : IsTlv tag content (data.take n) := by
  cases data with
  | nil => cases h
  | cons first rest =>
    simp only [readTlv, head?_cons, Option.bind_eq_bind, Option.bind_some, drop_succ_cons, drop_zero] at h
    split_ifs at h
    obtain ⟨⟨len, lb⟩, hlen, h⟩ := Option.bind_eq_some_iff.mp h
    dsimp only at h
    split_ifs at h with hroom
    cases h
    rw [length_cons] at hroom
    refine ⟨rest.take lb, (rest.drop lb).drop len, ?_, ?_⟩
    · rw [Nat.add_comm 1, Nat.add_right_comm, take_succ_cons, take_add, drop_succ_cons]
    · rw [Nat.add_comm 1, drop_succ_cons, take_append_drop, take_append_drop, hlen, length_take,
        length_take, length_drop]
      congr 2 <;> omega

theorem rewriteAll_zeroed {one : Str → Option (Str × Bool × Nat)} {any : Bool}
    (hone : ∀ d ch r n, one d = some (ch, r, n) → Zeroed pac (d.take n) ch r) (fuel : Nat)
    (h : rewriteAll one fuel data = some (out, any)) : Zeroed pac data out any := by
  induction fuel generalizing data out any with
  | zero =>
    cases data <;> cases h
    exact .keep []
  | succ fuel ih =>
    cases data with
    | nil =>
      cases h
      exact .keep []
    | cons b data =>
      simp only [rewriteAll, Option.bind_eq_bind, Option.bind_eq_some_iff] at h
      obtain ⟨⟨ch, r, n⟩, hch, ⟨children, any'⟩, hchildren, hout⟩ := h
      cases hout
      have hzeroed := (hone _ _ _ _ hch).append (ih hchildren)
      rwa [take_append_drop] at hzeroed

theorem rewriteOne_zeroed (fuel : Nat) {r : Bool} {n : Nat}
    (h : rewriteOne pac fuel data = some (out, r, n)) : Zeroed pac (data.take n) out r := by
  induction fuel generalizing data out r n with
  | zero => cases h
  | succ fuel ih =>
    simp only [rewriteOne, Option.bind_eq_bind, Option.bind_eq_some_iff] at h
    obtain ⟨⟨tag, c, content, tlvLen⟩, htlv, h⟩ := h
    have hread := readTlv_some htlv
    dsimp only at h
    split_ifs at h with hpac hcons hnested
    · cases h
      rw [hpac.1, hpac.2] at hread
      exact .pac hread
    · obtain ⟨⟨children, any⟩, hall, h⟩ := Option.bind_eq_some_iff.mp h
      have hinner := rewriteAll_zeroed (fun _ _ _ _ => ih) _ hall
      cases any <;> cases h
      · exact .keep _
      · exact .around hread hinner
    · split at h
      · rename_i inner len hone
        split_ifs at h with hwhole <;> cases h
        · have hinner := ih hone
          rw [hwhole, take_length] at hinner
          exact .around hread hinner
        · exact .keep _
      · cases h
        exact .keep _
    · cases h
      exact .keep _

/-- **Lengths are read back, and zeroing keeps what is around the PAC**: the octets written for a length
are read as that length and their number, if as many bytes are behind them, and else as nothing; and
zeroing makes the octet string of one zero of one that holds the PAC, and writes anew the lengths of the
elements around it, but keeps every other byte. -/
theorem readLen_and_zeroed :
    (∀ n < 2 ^ 64, ∀ rest, readLen (pushLen n ++ rest)
      = if n ≤ rest.length then some (n, (pushLen n).length) else none) ∧
    ∀ enc pac out, zeroPacAdData enc pac = some out → Zeroed pac enc out true := by
  refine ⟨fun n h rest => readLen_pushLen h rest, fun enc pac out h => ?_⟩
  rw [zeroPacAdData] at h
  split_ifs at h
  split at h
  · rename_i n hone
    split_ifs at h with hwhole
    cases h
    have hzeroed := rewriteOne_zeroed _ hone
    rwa [hwhole, take_length] at hzeroed
  · cases h

/-- A PAC of two octets in a sequence. -/
theorem readLen_and_zeroed_sequence :
    readLen [0x82, 1, 0x2C] = none ∧
      Zeroed [1, 2] [0x30, 4, 0x04, 2, 1, 2] [0x30, 3, 0x04, 1, 0] true :=
  ⟨readLen_and_zeroed.1 300 (by decide) [], readLen_and_zeroed.2 _ _ _ (by decide)⟩

/-- The length of the octet string and that of the sequence change. -/
theorem zeroing_changes_lengths :
    zeroPacAdData [0x30, 4, 0x04, 2, 1, 2] [1, 2] = some [0x30, 3, 0x04, 1, 0] := by
  decide

end Kerber.Der
