import Kerber.Issue.Cookie
import Kerber.Issue.Equiv.Plain

/-!
# How long a cookie lasts

A cookie is opened for the client it was made for, by the text of the name, and for ten minutes,
while the clock has 31 bits: from 2³¹ on the clock reads as zero, and no cookie is too old
(`openCookie_iff`, `cookie_never_expires`).
-/

namespace Kerber.Issue

variable {l : CookieLibs} {draw : Draw} {client client' : PrincipalName} {contents : List PaData}
  {t n : UInt32} {blob : Str} {store minting opening : KdcStore} {p : Principal} {k : KeyEntry}

/-- What is encrypted is decrypted with its key and with no other, and the keys made of different
texts differ. -/
structure CookieLibs.Authentic (l : CookieLibs) : Prop where
  decrypt : ∀ {draw key usage plain cipher}, l.ciphers.encrypt draw key usage plain = .ok cipher →
    l.ciphers.decrypt key usage cipher = .ok plain
  refuses : ∀ {draw key key' usage plain cipher}, l.ciphers.encrypt draw key usage plain = .ok cipher →
    key' ≠ key → ∀ plain', l.ciphers.decrypt key' usage cipher ≠ .ok plain'
  ne_nil : ∀ {draw key usage plain cipher}, l.ciphers.encrypt draw key usage plain = .ok cipher →
    cipher ≠ []
  derive : ∀ {key seed seed' etype made}, l.ciphers.derivePrfplusEnctype key seed etype = .ok made →
    l.ciphers.derivePrfplusEnctype key seed' etype = .ok made → seed' = seed
  codec : l.secureCookie.Lawful

/-- A cookie made with one database is opened with the same key in the other. -/
def SameKrbtgtKey (minting opening : KdcStore) : Prop :=
  ∃ p k p' k', minting.fetchKrbtgt = .ok (some p) ∧ minting.policy.firstCurrentKey p = .ok k ∧
    opening.fetchKrbtgt = .ok (some p') ∧ opening.policy.findEnctype p' none k.kvno = .ok k' ∧
    k'.key = k.key ∧ opening.realm = minting.realm

/-- The current key is found by its version. -/
theorem findEnctype_current {policy : Policy} (h : policy.firstCurrentKey p = .ok k) :
    policy.findEnctype p none k.kvno = .ok k := by
  unfold Policy.firstCurrentKey Policy.findEnctype findEnctypeIn at *
  cases htop : topKvno p with
  | none =>
    rw [htop] at h
    cases h
  | some top =>
    rw [htop] at h
    simp only [Option.any_none, Bool.false_eq_true, if_false, if_true, Option.all_none,
      Bool.and_true] at h ⊢
    split at h
    · rename_i found hfound
      cases h
      have hkvno : k.kvno = top := by
        simpa using (List.mem_filter.mp (List.mem_of_find?_eq_some hfound)).2
      rw [hkvno, ite_self, hfound]
    · cases h

theorem sameKrbtgtKey_self (hp : store.fetchKrbtgt = .ok (some p))
    (hk : store.policy.firstCurrentKey p = .ok k) : SameKrbtgtKey store store :=
  ⟨p, k, p, k, hp, hk, hp, findEnctype_current hk, rfl, rfl⟩

/-! ### The age of a cookie -/

theorem toInt_cookieTime (n : UInt32) :
    (cookieTime n).toInt = if n.toNat < 2 ^ 31 then (n.toNat : Int) else 0 := by
  unfold cookieTime
  split
  · rename_i hlt
    exact Int32.toInt_ofNat_of_lt hlt
  · rfl

/-- A cookie is too old only as long as the clock has 31 bits. -/
theorem too_old_iff (hclock : t ≤ n) :
    saturatingSub (cookieTime n) (cookieTime t) > cookieLifetime ↔
      n.toNat < 2 ^ 31 ∧ 600 < n.toNat - t.toNat := by
  have hle := UInt32.le_iff_toNat_le.mp hclock
  rw [saturatingSub, toInt_cookieTime, toInt_cookieTime, cookieLifetime]
  split <;> split <;> omega

/-! ### Opening -/

/-- **What is in a cookie that is opened.** -/
theorem openCookie_eq (hl : l.Authentic) (hkey : SameKrbtgtKey minting opening) (hclock : t ≤ n)
    (hne : contents ≠ []) (hmade : makeCookie l draw minting client contents t = .ok blob) :
    openCookie l opening client' blob n =
      if client'.unparseWithRealm minting.realm = client.unparseWithRealm minting.realm ∧
        ¬(n.toNat < 2 ^ 31 ∧ 600 < n.toNat - t.toNat) then contents else [] := by
  obtain ⟨p, k, p', k', hp, hk, hp', hk', hsame, hrealm⟩ := hkey
  rw [makeCookie, makeCookieAt, if_neg hne, hp] at hmade
  dsimp only at hmade
  rw [hk] at hmade
  obtain ⟨key, hderive, hmade⟩ := bind_ok hmade
  obtain ⟨der, hder, hmade⟩ := bind_ok hmade
  obtain ⟨cipher, hcipher, hmade⟩ := bind_ok hmade
  cases hmade
  have hcipher := mapError_ok hcipher
  have hread : (decide ((cookieMagic ++ (be32 k.kvno ++ cipher)).length ≤ 8)
      || !cookieMagic.isPrefixOf (cookieMagic ++ (be32 k.kvno ++ cipher))) = false := by
    have hpos := List.length_pos_of_ne_nil (hl.ne_nil hcipher)
    have hmagic : cookieMagic.length = 4 := rfl
    simp only [List.length_append, length_be32, hmagic, Bool.or_eq_false_iff,
      decide_eq_false_iff_not]
    refine ⟨by omega, ?_⟩
    simp
  have hkvno : be32At (cookieMagic ++ (be32 k.kvno ++ cipher)) 4 = k.kvno := be32At_be32 k.kvno cipher
  have hdrop : (cookieMagic ++ (be32 k.kvno ++ cipher)).drop 8 = cipher := rfl
  rw [openCookie, hread, if_neg Bool.false_ne_true, hp', hkvno, hdrop]
  simp only [Except.toOption, Option.join_some, Option.bind_eq_bind, Option.bind_some, hk', hsame,
    hrealm]
  by_cases htext : client'.unparseWithRealm minting.realm = client.unparseWithRealm minting.realm
  · have hderive' : deriveCookieKey l k.key client' minting.realm = .ok key := by
      rw [deriveCookieKey, htext]
      exact hderive
    rw [hderive']
    simp only [Option.bind_some, hl.decrypt hcipher, hl.codec (mapError_ok hder), too_old_iff hclock,
      htext, true_and]
    split <;> rfl
  · rw [if_neg fun h => htext h.1]
    cases hother : deriveCookieKey l k.key client' minting.realm with
    | error e => rfl
    | ok other =>
      have hdiffer : other ≠ key := by
        rintro rfl
        exact htext (List.append_cancel_left (hl.derive (mapError_ok hderive) (mapError_ok hother)))
      cases hopened : l.ciphers.decrypt other Ku.paFxCookie cipher with
      | error e => simp only [Option.bind_some, hopened, Option.bind_none, Option.getD_none]
      | ok plain => exact absurd hopened (hl.refuses hcipher hdiffer plain)

/-- **A cookie gives its contents to the client it was made for, for ten minutes**, and to no one else,
exactly if it is empty or, for clients whose names have one text, it is too old while the clock has
31 bits, or not too old and the clients are the same. -/
theorem openCookie_iff (l : CookieLibs) (hl : l.Authentic) (draw : Draw) (minting opening : KdcStore)
    (hkey : SameKrbtgtKey minting opening) (client client' : PrincipalName)
    (contents : List PaData) (t n : UInt32) (hclock : t ≤ n) (blob : Str)
    (hmade : makeCookie l draw minting client contents t = .ok blob) :
    openCookie l opening client' blob n =
        (if client'.nameString = client.nameString ∧ n.toNat - t.toNat ≤ 600 then contents else []) ↔
      contents = [] ∨
        (client'.unparseWithRealm minting.realm = client.unparseWithRealm minting.realm →
          (n.toNat < 2 ^ 31 ∧ 600 < n.toNat - t.toNat) ∨
            (client'.nameString = client.nameString ∧ n.toNat - t.toNat ≤ 600)) := by
  by_cases hne : contents = []
  · subst hne
    cases hmade
    simp only [ite_self, true_or, iff_true]
    rfl
  · have htext : client'.nameString = client.nameString →
        client'.unparseWithRealm minting.realm = client.unparseWithRealm minting.realm := by
      intro hname
      rw [PrincipalName.unparseWithRealm, PrincipalName.componentStrings, hname]
      rfl
    rw [openCookie_eq hl hkey hclock hne hmade]
    split <;> split <;> grind

/-! ### A cookie that lasts -/

def aliceName : PrincipalName := ⟨1, [str "alice"]⟩

def aliceState : List PaData := [⟨151, [7]⟩]

def aliceCookieKey : ProtocolKey := ⟨serverKeyA.etype, str "COOKIEalice@R"⟩

/-- Ciphers for one key, and a format for the times of one content. -/
def aliceLibs : CookieLibs where
  ciphers :=
    { encrypt := fun _ key _ plain => if key = aliceCookieKey then .ok (1 :: plain) else .error .integrity
      decrypt := fun key _ cipher => if key = aliceCookieKey then .ok cipher.tail else .error .integrity
      derivePrfplusEnctype := fun _ seed etype => .ok ⟨etype, seed⟩ }
  secureCookie :=
    { encode := fun c => if c.data = aliceState then .ok (be32 c.time.toUInt32) else .error []
      decode := fun b => .ok ⟨(be32At b 0).toInt32, aliceState⟩ }

theorem authentic_aliceLibs : aliceLibs.Authentic where
  decrypt h := by
    simp only [aliceLibs] at h ⊢
    split at h <;> cases h
    rw [if_pos ‹_›]
    rfl
  refuses h hne plain hplain := by
    simp only [aliceLibs] at h hplain
    split at h <;> cases h
    split at hplain <;> cases hplain
    exact hne (by simp_all)
  ne_nil h := by
    simp only [aliceLibs] at h
    split at h <;> cases h
    exact List.cons_ne_nil _ _
  derive h h' := by
    cases h
    cases h'
    rfl
  codec {c bytes} h := by
    simp only [aliceLibs] at h ⊢
    split at h <;> cases h
    rename_i hdata
    rw [← List.append_nil (be32 _), be32At_be32, Int32.toInt32_toUInt32, ← hdata]

def cookieStore : KdcStore :=
  plainStore [plainEntry [str "krbtgt", str "R"] serverKeyA]

def aliceCookie (time : UInt32) : Str :=
  str "MIT1" ++ [0, 0, 0, 1, 1] ++ be32 time

theorem openCookie_in_time :
    openCookie aliceLibs cookieStore aliceName (aliceCookie 1000) 1600 = aliceState := by
  have hkey : SameKrbtgtKey cookieStore cookieStore := sameKrbtgtKey_self rfl rfl
  have hopen := openCookie_iff aliceLibs authentic_aliceLibs [] cookieStore cookieStore hkey aliceName
    aliceName aliceState 1000 1600 (by decide) (aliceCookie 1000) (by decide +kernel)
  exact (hopen.mpr (.inr fun _ => .inr ⟨rfl, by decide⟩)).trans (if_pos ⟨rfl, by decide⟩)

/-- A cookie made in the first second the time has no room for is good for the rest of the clock. -/
theorem cookie_never_expires :
    makeCookie aliceLibs [] cookieStore aliceName aliceState 0x80000000 = .ok (aliceCookie 0) ∧
      openCookie aliceLibs cookieStore aliceName (aliceCookie 0) 0xffffffff = aliceState := by
  decide +kernel

end Kerber.Issue
