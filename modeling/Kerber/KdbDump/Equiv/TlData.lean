import Kerber.KdbDump.Write
import Kerber.KdbDump.Equiv.Record

/-!
# The tagged data of a written entry

What finding a datum gives after data of other types were dropped or added, and from it that an
entry written by `princEntry` has security data that read back (`parseSidTl_princEntry`) and keys of
the shape the format asks for (`keys_princEntry`).
-/

namespace Kerber

open List

variable {mkey : ProtocolKey} {s : PrincipalStore} {env : WriteEnv} {e : DumpPrincipal} {draw : Draw}
variable {omitNra : Bool} {p : Principal} {types : List Int32}

/-! ### Finding data -/

section Find

variable {ty : Int32}

theorem findTl_append_of_ne (tl : List TlData) {more : List TlData} (h : ∀ t ∈ more, t.ty ≠ ty) :
    findTl ty (tl ++ more) = findTl ty tl := by
  have hmore : more.find? (fun t => t.ty = ty) = none := by
    rw [find?_eq_none]
    exact fun t ht => by simpa using h t ht
  rw [findTl, find?_append, hmore, Option.or_none]
  rfl

theorem findTl_filter_of_keeps {keep : TlData → Bool} (h : ∀ t, t.ty = ty → keep t = true)
    (tl : List TlData) : findTl ty (tl.filter keep) = findTl ty tl := by
  rw [findTl, find?_filter, findTl]
  congr 1
  funext t
  by_cases ht : t.ty = ty
  · simp [ht, h t ht]
  · simp [ht]

theorem findTl_dropTypes_of_not_mem (h : ty ∉ types) (tl : List TlData) :
    findTl ty (dropTypes types tl) = findTl ty tl :=
  findTl_filter_of_keeps (fun t ht => by simpa [ht] using h) tl

theorem findTl_dropTypes_of_mem (h : ty ∈ types) (tl : List TlData) :
    findTl ty (dropTypes types tl) = none := by
  rw [findTl, find?_eq_none]
  intro t ht heq
  have hkept := (mem_filter.mp ht).2
  have htype : t.ty = ty := by simpa using heq
  simp [htype, h] at hkept

end Find

/-! ### Security data -/

theorem length_encodeSidTl (domain : RpcSid) (rid : UInt32) :
    (encodeSidTl domain rid).contents.length = 13 + domain.subAuthority.length * 4 := by
  have hsub : (domain.subAuthority.flatMap le32).length = domain.subAuthority.length * 4 := by
    induction domain.subAuthority with
    | nil => rfl
    | cons x xs ih =>
      rw [flatMap_cons, length_append, ih, length_le32, length_cons]
      omega
  have hauth : domain.identifierAuthority.toList.length = 6 := by simp
  simp only [encodeSidTl, length_append, length_cons, length_nil, length_le32, hauth,
    hsub]

/-- Security data that was written reads back. -/
theorem parseSidTl_encodeSidTl {tl : List TlData} {domain : RpcSid} {rid : UInt32}
    (h : findTl tlKerberSid tl = some (encodeSidTl domain rid)) :
    ∃ sid, parseSidTl tl = .ok sid := by
  have hlen := length_encodeSidTl domain rid
  have hfirst : (encodeSidTl domain rid).contents.getD 0 0 = 1 := rfl
  have hcount : ((encodeSidTl domain rid).contents.getD 6 0).toNat ≤ domain.subAuthority.length := by
    show (if domain.subAuthority.length < 256 then UInt8.ofNat domain.subAuthority.length
      else 0).toNat ≤ _
    split
    · rename_i hlt
      rw [UInt8.toNat_ofNat_of_lt' hlt]
    · exact Nat.zero_le _
  have hcorrupt : ((encodeSidTl domain rid).contents.length < 13
      || (encodeSidTl domain rid).contents.getD 0 0 != 1) = false := by
    rw [hfirst, hlen]
    simp
  have htruncated : decide ((encodeSidTl domain rid).contents.length
      < 13 + ((encodeSidTl domain rid).contents.getD 6 0).toNat * 4) = false := by
    rw [hlen]
    exact decide_eq_false (by omega)
  rw [parseSidTl, h]
  show ∃ sid, (rejectIf _ _ >>= fun _ => rejectIf _ _ >>= fun _ => _) = Except.ok sid
  rw [hcorrupt, htruncated]
  exact ⟨_, rfl⟩

theorem findTl_mergeSidTl (tl : List TlData) (domain : RpcSid) (rid : UInt32) :
    findTl tlKerberSid (mergeSidTl tl domain rid)
      = if rid ≠ 0 then some (encodeSidTl domain rid) else none := by
  have hdrop : findTl tlKerberSid (dropTypes [tlKerberSid] tl) = none :=
    findTl_dropTypes_of_mem mem_cons_self tl
  rw [findTl] at hdrop
  rw [mergeSidTl, findTl, find?_append, hdrop, Option.none_or]
  split
  · exact find?_cons_of_pos (by rfl)
  · rfl

/-! ### Each merge keeps the data of other types -/

section Merge

variable {ty : Int32}

theorem findTl_mergeRidHwm (h : tlKerberRidHwm ≠ ty) (tl : List TlData) (next : UInt32) (isKm : Bool) :
    findTl ty (mergeRidHwm tl next isKm) = findTl ty tl := by
  rw [mergeRidHwm, findTl_append_of_ne, findTl_dropTypes_of_not_mem (by simpa using h.symm)]
  intro t ht
  split at ht
  · rw [mem_singleton.mp ht]
    exact h
  · cases ht

theorem not_isS4uNameTl {t : TlData} (h₁ : t.ty ≠ tlConstrainedDelegation)
    (h₂ : t.ty ≠ tlKerberS4uFrom) : isS4uNameTl t = false := by
  simp [isS4uNameTl, h₁, h₂]

theorem findTl_mergeS4uTl (h₁ : tlConstrainedDelegation ≠ ty) (h₂ : tlKerberS4uFrom ≠ ty)
    (tl : List TlData) (p : Principal) : findTl ty (mergeS4uTl tl p) = findTl ty tl := by
  rw [mergeS4uTl, findTl_append_of_ne, findTl_append_of_ne, findTl_filter_of_keeps]
  · rintro t rfl
    rw [not_isS4uNameTl h₁.symm h₂.symm]
    rfl
  · intro t ht
    obtain ⟨name, _, rfl⟩ := mem_map.mp ht
    exact h₁
  · intro t ht
    obtain ⟨name, _, rfl⟩ := mem_map.mp ht
    exact h₂

theorem findTl_mergeKadmTl (h₁ : tlKerberPolicy ≠ ty) (h₂ : tlKadmData ≠ ty) (tl : List TlData)
    (p : Principal) : findTl ty (mergeKadmTl tl p) = findTl ty tl := by
  rw [mergeKadmTl]
  split
  · rfl
  · rw [findTl_append_of_ne, findTl_dropTypes_of_not_mem (by simpa using h₁.symm)]
    intro t ht
    have hty : t.ty = tlKadmData := by simpa using (mem_filter.mp ht).2
    rw [hty]
    exact h₂

theorem findTl_mergeStringAttrsTl (h : tlStringAttrs ≠ ty) (tl : List TlData)
    (attrs : List (Str × Str)) : findTl ty (mergeStringAttrsTl tl attrs) = findTl ty tl := by
  rw [mergeStringAttrsTl, findTl_append_of_ne, findTl_dropTypes_of_not_mem (by simpa using h.symm)]
  intro t ht
  split at ht
  · cases ht
  · rw [mem_singleton.mp ht]
    exact h

theorem findTl_mergeHistTl (h : tlKerberHist ≠ ty) {c : Crypto}
    {tl tl' : List TlData} {hist : List KeyEntry} (hok : mergeHistTl c draw mkey tl hist = .ok tl') :
    findTl ty tl' = findTl ty tl := by
  have hdrop : findTl ty (dropTypes [tlKerberHist] tl) = findTl ty tl :=
    findTl_dropTypes_of_not_mem (by simpa using h.symm) tl
  rw [mergeHistTl] at hok
  split at hok
  · cases hok
    exact hdrop
  · obtain ⟨contents, _, hok⟩ := bind_ok hok
    cases hok
    rw [findTl_append_of_ne, hdrop]
    intro t ht
    rw [mem_singleton.mp ht]
    exact h

end Merge

theorem findTl_sid_dumpTl (env : WriteEnv) (s : PrincipalStore) (p : Principal) :
    findTl tlKerberSid (dumpTl env s p)
      = if p.rid ≠ 0 then some (encodeSidTl s.domainSid p.rid) else none := by
  rw [dumpTl, findTl_mergeStringAttrsTl (by decide), findTl_mergeKadmTl (by decide) (by decide),
    findTl_mergeS4uTl (by decide) (by decide), findTl_mergeRidHwm (by decide), findTl_mergeSidTl]

/-! ### A written entry -/

/-- What `princEntry` computes, step by step. -/
theorem princEntry_ok (h : princEntry env draw s mkey omitNra p = .ok e) :
    entryTl env (0 :: draw) s mkey p = .ok e.tlData ∧
    (p.keys.zipIdx.mapM fun (k, i) => dumpKey env (i :: 1 :: draw) mkey k) = .ok e.keys ∧
    e.name = p.id := by
  rw [princEntry] at h
  obtain ⟨tl, htl, h⟩ := bind_ok h
  obtain ⟨keys, hkeys, h⟩ := bind_ok h
  cases h
  exact ⟨htl, hkeys, rfl⟩

theorem parseSidTl_princEntry (h : princEntry env draw s mkey omitNra p = .ok e) :
    ∃ sid, parseSidTl e.tlData = .ok sid := by
  have hfind : findTl tlKerberSid e.tlData = findTl tlKerberSid (dumpTl env s p) := by
    have htl := (princEntry_ok h).1
    rw [entryTl] at htl
    split at htl
    · exact findTl_mergeHistTl (by decide) htl
    · rw [Except.ok.inj htl]
  rw [findTl_sid_dumpTl] at hfind
  split at hfind
  · exact parseSidTl_encodeSidTl hfind
  · exact ⟨(none, 0), by rw [parseSidTl, hfind]⟩

theorem dumpKey_ok {k : KeyEntry} {e : DumpKeyData} (h : dumpKey env draw mkey k = .ok e) :
    e.kvno = k.kvno ∧ (e.ver = 1 ∧ e.slots.length = 1 ∨ e.ver = 2 ∧ e.slots.length = 2) := by
  rw [dumpKey] at h
  obtain ⟨enc, _, h⟩ := bind_ok h
  split at h
  · cases h
    exact ⟨rfl, .inr ⟨rfl, rfl⟩⟩
  · cases h
    exact ⟨rfl, .inl ⟨rfl, rfl⟩⟩

theorem keys_princEntry (h : princEntry env draw s mkey omitNra p = .ok e) :
    ∀ k ∈ e.keys, k.ver = 1 ∧ k.slots.length = 1 ∨ k.ver = 2 ∧ k.slots.length = 2 :=
  forall_mem_of_mapM_ok (princEntry_ok h).2.1 fun _ _ _ hk => (dumpKey_ok hk).2

end Kerber
