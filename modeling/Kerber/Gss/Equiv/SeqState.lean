import Kerber.Gss.SeqState
import Kerber.Lib.Admission
import Kerber.Lib.Window

/-!
# No token is taken twice

`Remembers` says what a receiver's state has on record: the bitmap shows the numbers taken, and the
next number follows the highest of them.  One step keeps this (`tracks_receive`), and
`token_taken_once` is what follows for every delivery: a number is taken at most once, and with the
replay flag alone a number that was not taken is, unless it is more than 63 below the highest.
-/

namespace Kerber.Gss

open Window (Shows Shifted)

/-! ### Machine words -/

/-- The bitmap is shifted as a word of 64 bits, also where the shift leaves nothing of it. -/
theorem shiftMap_eq (recvmap offset : UInt64) :
    ∃ shifted, (SeqState.shiftMap recvmap offset).toNat = shifted ||| 1 ∧
      Shifted 64 recvmap.toNat (offset.toNat + 1) shifted := by
  unfold SeqState.shiftMap
  cases hshl : ((checkedSucc offset).bind toU32).bind (checkedShl recvmap) with
  | some x =>
    obtain ⟨n, hn, hx⟩ := Option.bind_eq_some_iff.mp hshl
    obtain ⟨k, hk, hn⟩ := Option.bind_eq_some_iff.mp hn
    unfold checkedSucc at hk
    unfold toU32 at hn
    unfold checkedShl at hx
    split at hk
    · cases hk
    rename_i hmax
    split at hn
    · rename_i hle
      split at hx
      · rename_i hlt
        cases hk; cases hn; cases hx
        have hsucc : (offset + 1).toNat = offset.toNat + 1 := by
          have hne : offset.toNat ≠ 0xFFFFFFFFFFFFFFFF := fun h => hmax (UInt64.toNat_inj.mp h)
          have := offset.toNat_lt
          rw [UInt64.toNat_add]
          show (offset.toNat + 1) % 2 ^ 64 = _
          omega
        have hn64 : ((offset + 1).toUInt32.toUInt64).toNat = offset.toNat + 1 := by
          have : (offset + 1).toNat ≤ 0xFFFFFFFF := hle
          rw [UInt32.toNat_toUInt64, UInt64.toNat_toUInt32, hsucc]
          omega
        have hlt' : offset.toNat + 1 < 64 := by
          have hlt : ((offset + 1).toUInt32).toNat < 64 := hlt
          rw [← UInt32.toNat_toUInt64, hn64] at hlt
          exact hlt
        refine ⟨recvmap.toNat <<< (offset.toNat + 1) % 2 ^ 64, ?_,
          Window.shifted_shiftLeft 64 _ _⟩
        rw [Option.getD_some, UInt64.toNat_or, UInt64.toNat_shiftLeft, hn64, Nat.mod_eq_of_lt hlt']
        rfl
      · cases hx
    · cases hn
  | none =>
    refine ⟨0, rfl, Window.shifted_zero ?_ _⟩
    by_contra hlt
    have hsmall : offset.toNat < 63 := by omega
    have hsucc : checkedSucc offset = some (offset + 1) := by
      refine if_neg fun h => ?_
      rw [h] at hsmall
      exact absurd hsmall (by decide)
    have hval : (offset + 1).toNat = offset.toNat + 1 := by
      rw [UInt64.toNat_add]
      show (offset.toNat + 1) % 2 ^ 64 = _
      omega
    have hu32 : toU32 (offset + 1) = some (offset + 1).toUInt32 := by
      refine if_pos ?_
      show (offset + 1).toNat ≤ 0xFFFFFFFF
      omega
    have hshift : (checkedShl recvmap (offset + 1).toUInt32).isSome = true := by
      have hlt : (offset + 1).toUInt32 < 64 := by
        show ((offset + 1).toUInt32).toNat < 64
        rw [UInt64.toNat_toUInt32]
        omega
      rw [checkedShl, if_pos hlt]
      rfl
    rw [hsucc, Option.bind_some, hu32, Option.bind_some] at hshl
    rw [hshl] at hshift
    cases hshift

namespace SeqState

variable {s s₀ : SeqState} {seq : UInt64} {seen : Set Nat}

theorem toNat_mask (s : SeqState) : s.mask.toNat = if s.wide then 2 ^ 64 - 1 else 2 ^ 32 - 1 := by
  unfold mask
  split <;> rfl

/-- Below its maximum the counter does not wrap. -/
theorem toNat_succ_mask (h : s.rel seq < s.mask) :
    ((s.rel seq + 1) &&& s.mask).toNat = (s.rel seq).toNat + 1 := by
  have hlt : (s.rel seq).toNat < s.mask.toNat := h
  rw [UInt64.toNat_and, UInt64.toNat_add]
  show ((s.rel seq).toNat + 1) % 2 ^ 64 &&& s.mask.toNat = _
  rw [toNat_mask] at hlt ⊢
  split at hlt
  · rename_i hwide
    rw [if_pos hwide, Nat.and_two_pow_sub_one_eq_mod]
    omega
  · rename_i hwide
    rw [if_neg hwide, Nat.and_two_pow_sub_one_eq_mod]
    omega

/-! ### The receiver's record -/

/-- What a state has on record, in a context with the replay flag that began as `s₀`. -/
structure Remembers (s₀ s : SeqState) (seen : Set Nat) : Prop where
  replay : s.doReplay = true
  wide : s.wide = s₀.wide
  base : s.base = s₀.base
  shows : Shows 64 s.recvmap.toNat s.next.toNat seen
  top : ∀ r, s.next.toNat = r + 1 → r ∈ seen

theorem Remembers.rel_eq (h : Remembers s₀ s seen) (seq : UInt64) : s.rel seq = s₀.rel seq := by
  rw [rel, rel, mask, mask, h.wide, h.base]

theorem Remembers.mask_eq (h : Remembers s₀ s seen) : s.mask = s₀.mask := by
  rw [mask, mask, h.wide]

theorem remembers_new {seqnum : UInt64} {flags : UInt32} {wide : Bool}
    (h : (new seqnum flags wide).doReplay = true) :
    Remembers (new seqnum flags wide) (new seqnum flags wide) ∅ where
  replay := h
  wide := rfl
  base := rfl
  shows := Shows.empty 64 0
  top _ h := absurd h (Nat.succ_ne_zero _).symm

/-! ### One token -/

/-- A number above all others is taken. -/
theorem acceptSeq_of_ge (hreplay : s.doReplay = true) (hge : s.next ≤ s.rel seq) :
    s.acceptSeq seq = (true, { s with
      recvmap := shiftMap s.recvmap (s.rel seq - s.next), next := (s.rel seq + 1) &&& s.mask }) := by
  have hcheck : s.check seq = (if s.rel seq - s.next > 0 ∧ s.doSequence then .gap else .complete,
      { s with
        recvmap := shiftMap s.recvmap (s.rel seq - s.next)
        next := (s.rel seq + 1) &&& s.mask }) := by
    rw [check, hreplay, Bool.not_true, Bool.false_and, if_neg Bool.false_ne_true]
    exact if_pos hge
  rw [acceptSeq, hcheck]
  split_ifs <;> rfl

/-- A number that has left the window is refused. -/
theorem acceptSeq_of_past (hreplay : s.doReplay = true) (hlt : s.rel seq < s.next)
    (hpast : s.next - s.rel seq > 64) : s.acceptSeq seq = (false, s) := by
  have hpw : s.pastWindow seq = true := by
    rw [pastWindow, decide_eq_true hlt, decide_eq_true hpast, Bool.true_and]
  have hcheck : s.check seq = (if s.doSequence then .unseq else .old, s) := by
    rw [check, hreplay, Bool.not_true, Bool.false_and, if_neg Bool.false_ne_true]
    exact (if_neg (UInt64.not_le.mpr hlt)).trans (if_pos hpast)
  rw [acceptSeq, hcheck, hreplay, hpw]
  split_ifs <;> rfl

/-- A number of the window is taken when its bit is clear, which is then set. -/
theorem acceptSeq_of_window (hreplay : s.doReplay = true) (hlt : s.rel seq < s.next)
    (hwin : ¬ s.next - s.rel seq > 64) :
    s.acceptSeq seq =
      if s.recvmap &&& 1 <<< (s.next - s.rel seq - 1) ≠ 0 then (false, s)
      else (true, { s with recvmap := s.recvmap ||| 1 <<< (s.next - s.rel seq - 1) }) := by
  have hpw : s.pastWindow seq = false := by
    rw [pastWindow, decide_eq_false hwin, Bool.and_false]
  have hcheck : s.check seq =
      if s.recvmap &&& 1 <<< (s.next - s.rel seq - 1) ≠ 0 then (.duplicate, s)
      else (if s.doSequence then .unseq else .complete,
        { s with recvmap := s.recvmap ||| 1 <<< (s.next - s.rel seq - 1) }) := by
    rw [check, hreplay, Bool.not_true, Bool.false_and, if_neg Bool.false_ne_true]
    refine (if_neg (UInt64.not_le.mpr hlt)).trans ((if_neg hwin).trans ?_)
    simp only [Bool.true_and, bne_iff_ne]
  rw [acceptSeq, hcheck, hpw, Bool.and_false]
  split_ifs <;> rfl

/-- The bit of the number that is `offset` below the next one. -/
theorem toNat_bit (hlt : s.rel seq < s.next) (hwin : ¬ s.next - s.rel seq > 64) :
    ((1 : UInt64) <<< (s.next - s.rel seq - 1)).toNat
        = 1 <<< (s.next.toNat - 1 - (s.rel seq).toNat) ∧
      s.next.toNat ≤ (s.rel seq).toNat + 64 := by
  have hlt' : (s.rel seq).toNat < s.next.toNat := hlt
  have hsub : (s.next - s.rel seq).toNat = s.next.toNat - (s.rel seq).toNat :=
    UInt64.toNat_sub_of_le _ _ (UInt64.le_of_lt hlt)
  have hle : (s.next - s.rel seq).toNat ≤ 64 := UInt64.not_lt.mp hwin
  have hone : (s.next - s.rel seq - 1).toNat = s.next.toNat - 1 - (s.rel seq).toNat := by
    rw [UInt64.toNat_sub_of_le _ _ (by show 1 ≤ (s.next - s.rel seq).toNat; omega), hsub]
    show s.next.toNat - (s.rel seq).toNat - 1 = _
    omega
  refine ⟨?_, by omega⟩
  have hsmall : s.next.toNat - 1 - (s.rel seq).toNat < 64 := by omega
  rw [UInt64.toNat_shiftLeft, hone, Nat.mod_eq_of_lt hsmall]
  show 1 <<< (s.next.toNat - 1 - (s.rel seq).toNat) % 2 ^ 64 = _
  rw [Nat.one_shiftLeft]
  exact Nat.mod_eq_of_lt (Nat.pow_lt_pow_right (by decide) hsmall)

theorem and_bit_ne_zero_iff {x bit : UInt64} {k : Nat} (h : bit.toNat = 1 <<< k) :
    x &&& bit ≠ 0 ↔ x.toNat.testBit k = true := by
  rw [← not_iff_not, not_not, Bool.not_eq_true, ← UInt64.toNat_inj, UInt64.toNat_and, h,
    Nat.one_shiftLeft]
  show x.toNat &&& 2 ^ k = 0 ↔ _
  rw [Nat.and_two_pow]
  cases x.toNat.testBit k <;> simp

/-- **The receiver's step.**  A number below the counter's maximum is taken when it is above all
others, or in the window and not taken yet; the record grows by the numbers taken. -/
theorem acceptSeq_spec (h : Remembers s₀ s seen) (hmax : s₀.rel seq < s₀.mask) :
    ((s.acceptSeq seq).1 = true ↔ s.next.toNat ≤ (s₀.rel seq).toNat + 64 ∧
      (s₀.rel seq).toNat ∉ seen) ∧
    ((s.acceptSeq seq).1 = true →
      Remembers s₀ (s.acceptSeq seq).2 (insert (s₀.rel seq).toNat seen)) ∧
    ((s.acceptSeq seq).1 = false → (s.acceptSeq seq).2 = s) := by
  rw [← h.rel_eq] at hmax ⊢
  rw [← h.mask_eq] at hmax
  by_cases hge : s.next ≤ s.rel seq
  · have hge' : s.next.toNat ≤ (s.rel seq).toNat := hge
    have hnew : (s.rel seq).toNat ∉ seen := fun hmem => by
      have := h.shows.lt_next _ hmem
      omega
    rw [acceptSeq_of_ge h.replay hge]
    refine ⟨iff_of_true rfl ⟨by omega, hnew⟩, fun _ => ?_, fun hf => by cases hf⟩
    obtain ⟨shifted, hmap, hshift⟩ := shiftMap_eq s.recvmap (s.rel seq - s.next)
    have hsub : (s.rel seq - s.next).toNat + 1 = (s.rel seq).toNat + 1 - s.next.toNat := by
      rw [UInt64.toNat_sub_of_le _ _ hge]
      omega
    rw [hsub] at hshift
    have hnext := toNat_succ_mask hmax
    refine ⟨h.replay, h.wide, h.base, ?_, fun r hr => ?_⟩
    · show Shows 64 (shiftMap _ _).toNat ((s.rel seq + 1) &&& s.mask).toNat _
      rw [hmap, hnext]
      exact h.shows.advance hge' hshift
    · have hr : ((s.rel seq + 1) &&& s.mask).toNat = r + 1 := hr
      rw [hnext] at hr
      exact .inl (Nat.succ.inj hr).symm
  have hlt : s.rel seq < s.next := UInt64.not_le.mp hge
  have hlt' : (s.rel seq).toNat < s.next.toNat := hlt
  by_cases hpast : s.next - s.rel seq > 64
  · have hpast' : 64 < (s.next - s.rel seq).toNat := hpast
    rw [UInt64.toNat_sub_of_le _ _ (UInt64.le_of_lt hlt)] at hpast'
    rw [acceptSeq_of_past h.replay hlt hpast]
    exact ⟨iff_of_false Bool.false_ne_true fun hw => by omega,
      fun hf => absurd hf Bool.false_ne_true, fun _ => rfl⟩
  · obtain ⟨hbit, hwin⟩ := toNat_bit hlt hpast
    have hseen := (and_bit_ne_zero_iff hbit).trans (h.shows.testBit_iff hlt' hwin)
    rw [acceptSeq_of_window h.replay hlt hpast]
    by_cases hdup : s.recvmap &&& 1 <<< (s.next - s.rel seq - 1) ≠ 0
    · rw [if_pos hdup]
      exact ⟨iff_of_false Bool.false_ne_true fun hw => hw.2 (hseen.mp hdup),
        fun hf => absurd hf Bool.false_ne_true, fun _ => rfl⟩
    · rw [if_neg hdup]
      refine ⟨iff_of_true rfl ⟨hwin, fun hmem => hdup (hseen.mpr hmem)⟩, fun _ => ?_,
        fun hf => by cases hf⟩
      refine ⟨h.replay, h.wide, h.base, ?_, fun r hr => .inr (h.top r hr)⟩
      show Shows 64 (s.recvmap ||| 1 <<< (s.next - s.rel seq - 1)).toNat s.next.toNat _
      rw [UInt64.toNat_or, hbit]
      exact h.shows.mark hlt' hwin

/-- The receiver: the number, counted from the first one, if its token is taken. -/
def receive (s₀ : SeqState) : Machine SeqState UInt64 Nat := fun s seq =>
  (if (s.acceptSeq seq).1 then some (s₀.rel seq).toNat else none, (s.acceptSeq seq).2)

theorem receive_eq_some_iff {n : Nat} :
    (receive s₀ s seq).1 = some n ↔ (s.acceptSeq seq).1 = true ∧ (s₀.rel seq).toNat = n := by
  rw [receive, Option.ite_none_right_eq_some, Option.some_inj]

/-- The receiver keeps a record of the numbers it has taken, and takes none of them again. -/
theorem tracks_receive (s₀ : SeqState) :
    Tracks (receive s₀) (fun _ seq => s₀.rel seq < s₀.mask) (· ≠ ·) (Remembers s₀) where
  takes := by
    intro s seen seq n h hmax hn
    obtain ⟨hok, rfl⟩ := receive_eq_some_iff.mp hn
    obtain ⟨htaken, hnext, -⟩ := acceptSeq_spec h hmax
    exact ⟨fun k hk hkey => (htaken.mp hok).2 (hkey ▸ hk), hnext hok⟩
  refuses := by
    intro s seen seq h hmax hnone
    have hrefused : (s.acceptSeq seq).1 = false := by
      cases hok : (s.acceptSeq seq).1 with
      | true =>
        rw [receive, hok, if_pos rfl] at hnone
        cases hnone
      | false => rfl
    show Remembers s₀ (s.acceptSeq seq).2 seen
    rw [(acceptSeq_spec h hmax).2.2 hrefused]
    exact h

/-! ### Deliveries -/

/-- **No token is taken twice.**  In a context with the replay flag, for every delivery of numbers
that stay below the counter's maximum, no number is taken twice; and a number that was not delivered
is taken whenever it is at most 63 below every number taken. -/
theorem token_taken_once {s₀ : SeqState} {first : UInt64} {flags : UInt32} {wide : Bool}
    (hnew : s₀ = new first flags wide) (hreplay : flags &&& gssCReplay ≠ 0)
    {delivery : List UInt64} (hmax : ∀ seq ∈ delivery, s₀.rel seq < s₀.mask) :
    ((receive s₀).outputs s₀ delivery).Nodup ∧
    ∀ seq, s₀.rel seq < s₀.mask → (∀ d ∈ delivery, s₀.rel d ≠ s₀.rel seq) →
      (∀ n ∈ (receive s₀).outputs s₀ delivery, n ≤ (s₀.rel seq).toNat + 63) →
      (acceptSeq ((receive s₀).after s₀ delivery) seq).1 = true := by
  have htracks := tracks_receive s₀
  have hlegal := Machine.legal_of_forall (m := receive s₀) hmax s₀
  have hinit : Remembers s₀ s₀ ∅ := by
    subst hnew
    exact remembers_new (decide_eq_true hreplay)
  refine ⟨htracks.pairwise hinit hlegal, fun seq hseq hfresh hnear => ?_⟩
  have hafter := htracks.after hinit hlegal
  rw [Set.empty_union] at hafter
  refine (acceptSeq_spec hafter hseq).1.mpr ⟨?_, fun hmem => ?_⟩
  · -- the next number is one above the highest that was taken
    cases hnext : ((receive s₀).after s₀ delivery).next.toNat with
    | zero => exact Nat.zero_le _
    | succ top =>
      have := hnear top (hafter.top top hnext)
      omega
  · obtain ⟨d, hd, s, hout⟩ := Machine.exists_of_mem_outputs hmem
    exact hfresh d hd (UInt64.toNat_inj.mp (receive_eq_some_iff.mp hout).2)

/-- A 32-bit counter that wraps, a token lost and one sent twice. -/
theorem token_taken_once_wrapped :
    ((receive (new 0xFFFFFFFF 4 false)).outputs (new 0xFFFFFFFF 4 false) [0xFFFFFFFF, 1, 1]).Nodup ∧
      (acceptSeq ((receive (new 0xFFFFFFFF 4 false)).after (new 0xFFFFFFFF 4 false)
        [0xFFFFFFFF, 1, 1]) 0).1 = true := by
  have hmax : ∀ seq ∈ [0xFFFFFFFF, 1, 1],
      (new 0xFFFFFFFF 4 false).rel seq < (new 0xFFFFFFFF 4 false).mask := by
    simp only [List.forall_mem_cons]
    exact ⟨by decide, by decide, by decide, List.forall_mem_nil _⟩
  have hfresh : ∀ d ∈ [0xFFFFFFFF, 1, 1],
      (new 0xFFFFFFFF 4 false).rel d ≠ (new 0xFFFFFFFF 4 false).rel 0 := by
    simp only [List.forall_mem_cons]
    exact ⟨by decide, by decide, by decide, List.forall_mem_nil _⟩
  obtain ⟨hnodup, htaken⟩ := token_taken_once rfl (by decide) hmax
  exact ⟨hnodup, htaken 0 (by decide) hfresh (by decide)⟩

end SeqState

end Kerber.Gss
