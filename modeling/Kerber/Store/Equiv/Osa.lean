import Kerber.Store.Equiv.Kdbe

/-!
# The kadm5 record read back

`kadm_read_back`: the policy and the password history that `refreshKadmTl` writes into an entry's tagged
data are the ones that loading the entry reads from them.
-/

namespace Kerber

open List

variable {b : Str} {n : Nat} {k : OsaKeyData} {entry : List OsaKeyData} {rec : OsaPrincEnt}

/-- What the fields of a record have room for; a policy is a C string. -/
structure OsaKeyData.Fits (k : OsaKeyData) : Prop where
  ver : k.ver < 2 ^ 16
  kvno : k.kvno < 2 ^ 16
  types : (-2 ^ 15 ≤ k.types.1 ∧ k.types.1 < 2 ^ 15) ∧ -2 ^ 15 ≤ k.types.2 ∧ k.types.2 < 2 ^ 15
  contents : k.contents.1.length < 2 ^ 32 ∧ k.contents.2.length < 2 ^ 32

structure OsaPrincEnt.Fits (rec : OsaPrincEnt) : Prop where
  policy : ∀ p ∈ rec.policy, p.length + 1 < 2 ^ 32 ∧ 0 ∉ p ∧ isUtf8 p = true
  oldKeys : rec.oldKeys.length < 2 ^ 32
  entries : ∀ entry ∈ rec.oldKeys, entry.length < 2 ^ 32 ∧ ∀ k ∈ entry, k.Fits

namespace Osa

theorem u32_be32 (x : UInt32) (rest : Str) : u32 (be32 x ++ rest) = .ok (x, rest) := by
  rw [u32, if_pos (by simp)]
  exact congrArg (fun y => Except.ok (y, rest)) (joinBytes32_byteOf x)

theorem toNat_u32OrZero (h : n < 2 ^ 32) : (u32OrZero n).toNat = n := by
  rw [u32OrZero, if_pos h]
  exact UInt32.toNat_ofNat_of_lt' h

theorem bytes_putBytes (h : b.length < 2 ^ 32) (rest : Str) :
    bytes (putBytes b ++ rest) = .ok (b, rest) := by
  have hn : (UInt32.ofNat b.length).toNat = b.length := UInt32.toNat_ofNat_of_lt' h
  rw [bytes, putBytes, if_pos h, append_assoc, append_assoc, u32_be32, ok_bind]
  simp [hn, rejectIf, drop_append]

theorem u16_be32 (h : n < 2 ^ 16) (what : String) (rest : Str) :
    u16 what (be32 (UInt32.ofNat n) ++ rest) = .ok (n, rest) := by
  have hlt : n < 2 ^ 32 := by omega
  have hn : (UInt32.ofNat n).toNat = n := UInt32.toNat_ofNat_of_lt' hlt
  rw [u16, u32_be32, ok_bind]
  dsimp only
  rw [hn, decide_eq_false (by omega)]
  rfl

theorem i16_be32 {i : Int} (h : -2 ^ 15 ≤ i ∧ i < 2 ^ 15) (rest : Str) :
    i16 (be32 (i32ToU32 i) ++ rest) = .ok (i, rest) := by
  have hi : u32ToI32 (i32ToU32 i) = i := Store.u32ToI32_i32ToU32 (by omega)
  rw [i16, u32_be32, ok_bind]
  dsimp only
  rw [hi, decide_eq_false (by omega), decide_eq_false (by omega)]
  rfl

theorem keyData_encode (h : k.Fits) (rest : Str) : keyData (k.encode ++ rest) = .ok (k, rest) := by
  obtain ⟨h₁, h₂⟩ := h.contents
  unfold keyData OsaKeyData.encode
  simp only [append_assoc, u16_be32 h.ver, u16_be32 h.kvno, i16_be32 h.types.1, i16_be32 h.types.2,
    u32_be32, bytes_putBytes h₁, bytes_putBytes h₂, ok_bind, toNat_u32OrZero h₁, toNat_u32OrZero h₂,
    bne_self_eq_false, Bool.or_false, rejectIf_false_bind]
  rfl

theorem entry_encode (h : entry.length < 2 ^ 32 ∧ ∀ k ∈ entry, k.Fits) (rest : Str) :
    Osa.entry (be32 (u32OrZero entry.length) ++ entry.flatMap OsaKeyData.encode ++ rest)
      = .ok (entry, rest) := by
  rw [Osa.entry, append_assoc, u32_be32, ok_bind]
  dsimp only
  rw [toNat_u32OrZero h.1]
  exact readMany_flatMap (fun k hk => keyData_encode (h.2 k hk)) rest

theorem nullstring_policy (h : b.length + 1 < 2 ^ 32 ∧ 0 ∉ b ∧ isUtf8 b = true) (rest : Str) :
    nullstring (putBytes (b ++ [0]) ++ rest) = .ok (some b, rest) := by
  rw [nullstring, bytes_putBytes (by simpa using h.1)]
  simp [h.2.1, h.2.2, rejectIf]

theorem decode_encode (h : rec.Fits) : OsaPrincEnt.decode rec.encode = .ok rec := by
  have hkeys := readMany_flatMap (fun e he => entry_encode (h.entries e he)) []
  rw [append_nil] at hkeys
  have hnone : ∀ rest, nullstring (be32 0 ++ rest) = .ok (none, rest) := by
    intro rest
    rw [nullstring, bytes, u32_be32]
    simp [rejectIf]
    rfl
  obtain ⟨policy, aux, next, kvno, keys⟩ := rec
  cases policy with
  | none =>
    simp only [OsaPrincEnt.decode, OsaPrincEnt.encode, append_assoc, u32_be32, ok_bind,
      bne_self_eq_false, rejectIf_false_bind, hnone, toNat_u32OrZero h.oldKeys, hkeys]
    rfl
  | some p =>
    simp only [OsaPrincEnt.decode, OsaPrincEnt.encode, append_assoc, u32_be32, ok_bind,
      bne_self_eq_false, rejectIf_false_bind, nullstring_policy (h.policy p rfl),
      toNat_u32OrZero h.oldKeys, hkeys]
    rfl

end Osa

theorem findTl_dropTypes_append {ty : Int32} {types : List Int32} (h : ty ∈ types) (tl new : List TlData) :
    findTl ty (dropTypes types tl ++ new) = findTl ty new := by
  have hnone : (dropTypes types tl).find? (fun t => t.ty = ty) = none := by
    simp only [dropTypes, find?_eq_none, mem_filter, decide_eq_true_eq, and_imp]
    rintro t - ht rfl
    exact ht h
  rw [findTl, find?_append, hnone]
  rfl

theorem or_policy_and_policy (x : UInt32) : (x ||| kadm5Policy) &&& kadm5Policy = kadm5Policy := by
  apply UInt32.toBitVec_inj.mp
  ext i
  simp
  grind

/-- **The policy and the history of an entry are read as they were written.** -/
theorem kadm_read_back (p : Principal)
    (h : ({ policy := p.pwPolicy, oldKeys := p.kadm.oldKeys } : OsaPrincEnt).Fits) :
    kadmOfTl (refreshKadmTl p).tlData = .ok (p.pwPolicy.filter (· ≠ []), (refreshKadmTl p).kadm) := by
  have hfits : ∀ aux next kvno, OsaPrincEnt.Fits
      ⟨p.pwPolicy.filter (· ≠ []), aux, next, kvno, p.kadm.oldKeys⟩ :=
    fun _ _ _ => ⟨fun q hq => h.policy q (Option.eq_some_of_filter_eq_some hq), h.oldKeys, h.entries⟩
  unfold kadmOfTl OsaPrincEnt.fromTl policyFromTl refreshKadmTl
  dsimp only
  rw [findTl_dropTypes_append (by decide), findTl_dropTypes_append (by decide)]
  show (Except.map some (OsaPrincEnt.decode (OsaPrincEnt.encode _)) >>= _) = _
  rw [Osa.decode_encode (hfits ..)]
  show Except.ok (Option.or (OsaPrincEnt.boundPolicy _) none, KadmData.mk ..) = _
  cases hpol : p.pwPolicy.filter (· ≠ []) with
  | none => simp [OsaPrincEnt.boundPolicy]
  | some q =>
    have hq : q ≠ [] := by simpa using (Option.filter_eq_some_iff.mp hpol).2
    simp [OsaPrincEnt.boundPolicy, or_policy_and_policy, hq]
    decide

/-- An entry with a policy. -/
def boundEntry : Principal :=
  { name := ⟨1, [str "a"]⟩, realm := str "R", keys := [], pwPolicy := some [100] }

theorem kadm_read_back_bound : kadmOfTl (refreshKadmTl boundEntry).tlData
    = .ok (some [100], (refreshKadmTl boundEntry).kadm) :=
  kadm_read_back boundEntry
    { policy := by simp [boundEntry]; decide, oldKeys := by simp [boundEntry], entries := nofun }

end Kerber
