import Kerber.Store.Admin

/-!
# What the administrative operations change

Every operation edits one entry: the one its name stands for.  `Edits` says so of a step on the store,
and `Same` what an edit keeps of the entry.  The map of principals keeps each entry under its id
(`Keyed`).
-/

namespace Kerber

open Option Principal List

variable {env : AdminEnv}
variable {history : Option (UInt32 × UInt32 × ProtocolKey)} {prepared : PreparedPassword}
  {ty : Int32} {inputs : ChpassInputs} {plan : PasswordPlan} {keepold : UInt32} {new : TlData}
  {actor : Str}

/-! ### The map of principals -/

namespace PrincipalMap

variable (m : PrincipalMap) (id k : Str) (p : Principal)

theorem get_keep : (m.keep id).get k = m.get k :=
  rfl

theorem get_forget (old : Option Principal) : (m.forget id old).get k = m.get k := by
  cases old with
  | none => rfl
  | some p =>
    rw [forget]
    split <;> rfl

theorem get_reindex (old : Option Principal) : (m.reindex id old).get k = m.get k := by
  rw [← get_forget m id k old]
  unfold reindex
  dsimp only
  cases (m.forget id old).map.lookup id with
  | none => rfl
  | some p =>
    dsimp only
    split <;> rfl

theorem get_store : (m.store id p).get k = if k = id then some p else m.get k := by
  rw [store, get_reindex, get, HashMap.lookup_insert, get]

theorem get_insert : (m.insert id p).get k = if k = id then some p else m.get k := by
  rw [insert, get_store, get_keep]

theorem get_remove : (m.remove id).get k = if k = id then none else m.get k := by
  rw [remove, discard, get_forget, get, HashMap.lookup_erase]
  rfl

theorem get_update (f : Principal → Principal) :
    (m.update id f).get k = if k = id then (m.get id).map f else m.get k := by
  show (HashMap.modify id f m.map).lookup k = _
  split
  · rename_i h
    rw [h, HashMap.lookup_modify_self, get]
  · rename_i h
    rw [HashMap.lookup_modify_ne h, get]

end PrincipalMap

/-! ### Tagged data and aliases -/

theorem findTl_updateTlData (h : new.ty ≠ ty) (tl : List TlData) :
    findTl ty (updateTlData tl new) = findTl ty tl := by
  have hreplace : ∀ tl, findTl ty (updateTlData.replaceFirst new tl) = findTl ty tl := by
    intro tl
    induction tl with
    | nil => rfl
    | cons t tl ih =>
      rw [updateTlData.replaceFirst]
      split
      · rename_i ht
        have hty : ¬ t.ty = ty := fun hty => h (ht.symm.trans hty)
        rw [findTl, findTl, find?_cons_of_neg (by simpa using hty),
          find?_cons_of_neg (by simpa using hty)]
      · rw [findTl, findTl, find?_cons, find?_cons]
        split
        · rfl
        · exact ih
  rw [updateTlData]
  split
  · exact hreplace tl
  · rw [findTl, find?_cons_of_neg (by simpa using h), findTl]

theorem findTl_dropTypes {types : List Int32} (h : ty ∉ types) (tl : List TlData) :
    findTl ty (dropTypes types tl) = findTl ty tl := by
  induction tl with
  | nil => rfl
  | cons t tl ih =>
    rw [dropTypes, filter_cons]
    split
    · rw [findTl, findTl, find?_cons, find?_cons]
      split
      · rfl
      · exact ih
    · rename_i hdrop
      have hty : ¬ t.ty = ty := fun hty => by
        rw [hty] at hdrop
        simp only [decide_eq_true_eq, not_not] at hdrop
        exact h hdrop
      rw [findTl, findTl, find?_cons_of_neg (by simpa using hty)]
      exact ih

theorem findTl_append_ne (h : new.ty ≠ ty) (tl : List TlData) :
    findTl ty (tl ++ [new]) = findTl ty tl := by
  rw [findTl, findTl, find?_append, find?_cons_of_neg (by simpa using h), find?_nil,
    or_none]

theorem aliasTarget_congr {p p' : Principal}
    (h : findTl tlAliasTarget p'.tlData = findTl tlAliasTarget p.tlData) :
    p'.aliasTarget = p.aliasTarget := by
  rw [aliasTarget, aliasTarget, h]

/-- What an edit of an entry keeps: its name, and what it is an alias of. -/
structure Same (p p' : Principal) : Prop where
  name : p'.name = p.name
  realm : p'.realm = p.realm
  aliasOf : p'.aliasTarget = p.aliasTarget

namespace Same

variable {p p' p'' : Principal}

theorem trans (h : Same p p') (h' : Same p' p'') : Same p p'' :=
  ⟨h'.name.trans h.name, h'.realm.trans h.realm, h'.aliasOf.trans h.aliasOf⟩

theorem id (h : Same p p') : p'.id = p.id := by
  rw [Principal.id, Principal.id, h.name, h.realm]

end Same

theorem stampAdminTl_alias (now : UInt32) (actor : Str) (pwdChange : Bool) (p : Principal) :
    (stampAdminTl now actor pwdChange p).aliasTarget = p.aliasTarget := by
  apply aliasTarget_congr
  rw [stampAdminTl]
  rw [findTl_updateTlData (show tlModPrinc ≠ tlAliasTarget by decide)]
  split
  · exact findTl_updateTlData (show tlLastPwdChange ≠ tlAliasTarget by decide) _
  · rfl

theorem same_refreshKadmTl (p : Principal) : Same p (refreshKadmTl p) := by
  refine ⟨rfl, rfl, aliasTarget_congr ?_⟩
  rw [refreshKadmTl]
  rw [findTl_append_ne (show tlKadmData ≠ tlAliasTarget by decide),
    findTl_dropTypes (by decide)]

/-! ### Looking entries up -/

namespace PrincipalStore

variable {s s' : PrincipalStore} {name : PrincipalName} {realm id : Str} {p p' : Principal}

/-- Each entry is kept under its id. -/
def Keyed (s : PrincipalStore) : Prop :=
  ∀ id p, s.map.get id = some p → p.id = id

theorem followAlias_zero (realm : Str) (lookup : Str → Option Principal) (k : Str) :
    followAlias realm lookup 0 k = (lookup k).bind fun p =>
      p.aliasTarget.elim (some k) fun _ => none := by
  delta followAlias
  show bind (lookup k) _ = _
  congr 1
  funext p
  cases p.aliasTarget <;> rfl

theorem followAlias_succ (realm : Str) (lookup : Str → Option Principal) (depth : Nat) (k : Str) :
    followAlias realm lookup (depth + 1) k = (lookup k).bind fun p =>
      p.aliasTarget.elim (some k) fun target =>
        (principalFromUnparsed target realm).toOption.bind fun named =>
          followAlias realm lookup depth (lookupPrincipalId named.1 named.2) := by
  delta followAlias
  show bind (lookup k) _ = _
  congr 1
  funext p
  cases p.aliasTarget with
  | none => rfl
  | some target =>
    show _ = (principalFromUnparsed target realm).toOption.bind _
    dsimp only
    cases principalFromUnparsed target realm <;> rfl

theorem followAlias_spec {realm : Str} {lookup : Str → Option Principal} {depth : Nat} {k id : Str}
    (h : followAlias realm lookup depth k = some id) :
    ∃ p, lookup id = some p ∧ p.aliasTarget = none := by
  induction depth generalizing k with
  | zero =>
    rw [followAlias_zero] at h
    obtain ⟨p, hp, h⟩ := bind_eq_some_iff.mp h
    cases ha : p.aliasTarget with
    | none =>
      rw [ha] at h
      obtain rfl : k = id := some.inj h
      exact ⟨p, hp, ha⟩
    | some target =>
      rw [ha] at h
      cases h
  | succ depth ih =>
    rw [followAlias_succ] at h
    obtain ⟨p, hp, h⟩ := bind_eq_some_iff.mp h
    cases ha : p.aliasTarget with
    | none =>
      rw [ha] at h
      obtain rfl : k = id := some.inj h
      exact ⟨p, hp, ha⟩
    | some target =>
      rw [ha] at h
      obtain ⟨named, -, h⟩ := bind_eq_some_iff.mp h
      exact ih h

/-- A name stands for an entry that is not an alias. -/
theorem resolveId_spec {k : Str} (h : s.resolveId k = some id) :
    ∃ p, s.map.get id = some p ∧ p.aliasTarget = none :=
  followAlias_spec h

/-- What is followed from an entry depends on its alias alone. -/
theorem bind_alias_congr {x x' : Option Principal}
    (h : x'.map aliasTarget = x.map aliasTarget) (f : Option Str → Option Str) :
    (x'.bind fun p => f p.aliasTarget) = x.bind fun p => f p.aliasTarget := by
  have hmap : ∀ y : Option Principal,
      (y.bind fun p => f p.aliasTarget) = (y.map aliasTarget).bind f := by
    intro y
    cases y <;> rfl
  rw [hmap, hmap, h]

theorem followAlias_congr {realm : Str} {lookup lookup' : Str → Option Principal}
    (h : ∀ k, (lookup' k).map aliasTarget = (lookup k).map aliasTarget)
    (depth : Nat) (k : Str) :
    followAlias realm lookup' depth k = followAlias realm lookup depth k := by
  induction depth generalizing k with
  | zero =>
    rw [followAlias_zero, followAlias_zero]
    exact bind_alias_congr (h k) fun target => target.elim (some k) fun _ => none
  | succ depth ih =>
    have hnext : (fun target : Str => (principalFromUnparsed target realm).toOption.bind fun named =>
          followAlias realm lookup' depth (lookupPrincipalId named.1 named.2))
        = fun target => (principalFromUnparsed target realm).toOption.bind fun named =>
          followAlias realm lookup depth (lookupPrincipalId named.1 named.2) := by
      funext target
      congr 1
      funext named
      exact ih _
    rw [followAlias_succ, followAlias_succ, hnext]
    exact bind_alias_congr (h k) fun target => target.elim (some k) fun target =>
      (principalFromUnparsed target realm).toOption.bind fun named =>
        followAlias realm lookup depth (lookupPrincipalId named.1 named.2)

theorem canonicalId_ok : s.canonicalId name realm = .ok id
    ↔ s.resolveId (lookupPrincipalId name realm) = some id := by
  rw [canonicalId]
  cases s.resolveId (lookupPrincipalId name realm) with
  | none => exact ⟨nofun, nofun⟩
  | some id' => exact ⟨fun h => congrArg some (Except.ok.inj h), fun h => congrArg Except.ok (some.inj h)⟩

theorem entryIn_ok : s.entryIn name realm = .ok (id, p)
    ↔ s.resolveId (lookupPrincipalId name realm) = some id ∧ s.map.get id = some p := by
  constructor
  · intro h
    obtain ⟨id', hid, h⟩ := bind_ok h
    cases hp : s.map.get id' with
    | none => rw [hp] at h; cases h
    | some p' =>
      rw [hp] at h
      cases h
      exact ⟨canonicalId_ok.mp hid, hp⟩
  · rintro ⟨hid, hp⟩
    rw [entryIn, canonicalId_ok.mpr hid, ok_bind, hp]
    rfl

theorem getInRealm_some : s.getInRealm name realm = some p
    ↔ ∃ id, s.resolveId (lookupPrincipalId name realm) = some id ∧ s.map.get id = some p :=
  bind_eq_some_iff

theorem get_setEntry (k : Str) (hp : s.map.get id = some p) :
    (s.setEntry id p').map.get k = if k = id then some p' else s.map.get k := by
  rw [setEntry, PrincipalMap.get_update, hp]
  rfl

/-- `s'` is `s` with the entry under `id` put, or taken away. -/
structure Puts (id : Str) (q : Option Principal) (s s' : PrincipalStore) : Prop where
  realm : s'.realm = s.realm
  policies : s'.policies = s.policies
  get : ∀ k, s'.map.get k = if k = id then q else s.map.get k

namespace Puts

variable {q q' : Option Principal} {s'' : PrincipalStore}

theorem get_self (h : Puts id q s s') : s'.map.get id = q := by
  rw [h.get, if_pos rfl]

theorem get_ne (h : Puts id q s s') {k : Str} (hk : k ≠ id) : s'.map.get k = s.map.get k := by
  rw [h.get, if_neg hk]

theorem trans (h : Puts id q s s') (h' : Puts id q' s' s'') : Puts id q' s s'' := by
  refine ⟨h'.realm.trans h.realm, h'.policies.trans h.policies, fun k => ?_⟩
  rw [h'.get, h.get]
  split <;> rfl

theorem keyed (h : Puts id q s s') (hs : s.Keyed) (hq : ∀ p, q = some p → p.id = id) :
    s'.Keyed := by
  intro k p hp
  rw [h.get] at hp
  split at hp
  · rename_i hk
    exact (hq p hp).trans hk.symm
  · exact hs k p hp

/-- An entry that stays what it is an alias of leaves every name standing for what it stood for. -/
theorem resolveId (h : Puts id (some p') s s') (hp : s.map.get id = some p) (hsame : Same p p')
    (k : Str) : s'.resolveId k = s.resolveId k := by
  rw [PrincipalStore.resolveId, PrincipalStore.resolveId, h.realm]
  refine followAlias_congr (fun k => ?_) _ k
  rw [h.get]
  split
  · rename_i hk
    rw [hk, hp, map_some, map_some, hsame.aliasOf]
  · rfl

end Puts

theorem puts_setEntry (hp : s.map.get id = some p) : Puts id (some p') s (s.setEntry id p') :=
  ⟨rfl, rfl, fun k => get_setEntry k hp⟩

theorem puts_insert (s : PrincipalStore) (id : Str) (p : Principal) :
    Puts id (some p) s { s with map := s.map.insert id p } :=
  ⟨rfl, rfl, fun k => PrincipalMap.get_insert s.map id k p⟩

theorem puts_remove (s : PrincipalStore) (id : Str) :
    Puts id none s { s with map := s.map.remove id } :=
  ⟨rfl, rfl, fun k => PrincipalMap.get_remove s.map id k⟩

theorem settleRid_spec (s : PrincipalStore) (p : Principal) :
    ∃ rid next, s.settleRid p = ({ p with rid }, { s with nextRid := next }) := by
  have hbump : ∀ (s : PrincipalStore) rid, ∃ next, s.bumpNextRid rid = { s with nextRid := next } := by
    intro s rid
    rw [bumpNextRid]
    split
    · exact ⟨_, rfl⟩
    · exact ⟨s.nextRid, rfl⟩
  have hassign : ∃ rid next, s.assignRid p = (rid, { s with nextRid := next }) := by
    rw [assignRid]
    split
    · split
      · exact ⟨ridKrbtgt, s.nextRid, rfl⟩
      · rw [allocRid]
        split
        · exact ⟨ridAdministrator, s.nextRid, rfl⟩
        · exact ⟨s.nextRid, succSat s.nextRid, rfl⟩
    · exact ⟨p.rid, s.nextRid, rfl⟩
  obtain ⟨rid, next, hassign⟩ := hassign
  obtain ⟨next', hbump⟩ := hbump { s with nextRid := next } rid
  exact ⟨rid, next', by rw [settleRid, hassign, hbump]⟩

theorem putPrincipal_ok (h : s.putPrincipal p = .ok s') :
    ∃ rid, Puts p.id (some { p with tlData := dropTypes [tlDbArgs] p.tlData, rid }) s s' := by
  rw [putPrincipal] at h
  split at h
  · cases h
  · obtain ⟨rid, next, hset⟩ := settleRid_spec s { p with tlData := dropTypes [tlDbArgs] p.tlData }
    rw [hset] at h
    dsimp only at h
    split at h
    · cases h
    · cases h
      exact ⟨rid, rfl, rfl, fun k => PrincipalMap.get_insert s.map p.id k _⟩

end PrincipalStore

open PrincipalStore

/-! ### Edits of one entry -/

/-- `s'` is `s` with the entry a name stands for edited. -/
def Edits (name : PrincipalName) (realm : Str) (R : Principal → Principal → Prop)
    (s s' : PrincipalStore) : Prop :=
  ∃ id p p', s.resolveId (lookupPrincipalId name realm) = some id ∧ s.map.get id = some p ∧ R p p'
    ∧ Puts id (some p') s s'

section Edits

variable {name : PrincipalName} {realm : Str} {R : Principal → Principal → Prop}
  {s s' s'' : PrincipalStore}

theorem Edits.trans {R' R'' : Principal → Principal → Prop} (h : Edits name realm R s s')
    (h' : Edits name realm R' s' s'') (hsame : ∀ p p', R p p' → Same p p')
    (hR : ∀ p p' p'', R p p' → R' p' p'' → R'' p p'') : Edits name realm R'' s s'' := by
  obtain ⟨id, p, p', hid, hp, hrel, hput⟩ := h
  obtain ⟨id', q, p'', hid', hq, hrel', hput'⟩ := h'
  rw [hput.resolveId hp (hsame p p' hrel), hid] at hid'
  obtain rfl := some.inj hid'
  rw [hput.get_self] at hq
  obtain rfl := some.inj hq
  exact ⟨id, p, p'', hid, hp, hR p p' p'' hrel hrel', hput.trans hput'⟩

theorem editEntryIn_ok {f : Principal → Principal} (h : editEntryIn name realm f s = .ok s') :
    Edits name realm (fun p p' => p' = f p) s s' := by
  obtain ⟨⟨id, p⟩, hentry, h⟩ := bind_ok h
  obtain ⟨hid, hp⟩ := entryIn_ok.mp hentry
  cases h
  exact ⟨id, p, f p, hid, hp, rfl, puts_setEntry hp⟩

theorem applyPwMaxLifeIn_ok (h : applyPwMaxLifeIn s name realm = .ok s') :
    Edits name realm (fun p p' => ∃ pwExpire, p' = { p with pwExpire }) s s' := by
  obtain ⟨⟨id, p⟩, hentry, h⟩ := bind_ok h
  obtain ⟨hid, hp⟩ := entryIn_ok.mp hentry
  cases h
  exact ⟨id, p, _, hid, hp, ⟨_, rfl⟩, puts_setEntry hp⟩

end Edits

/-! ### New passwords -/

theorem recordHistory_ok {c : Crypto} {p p' : Principal} {old : List KeyEntry}
    {nhist histKvno : UInt32} {histKey : ProtocolKey}
    (h : recordHistory c p old nhist histKvno histKey = .ok p') :
    ∃ kadm keyHistory, p' = { p with kadm, keyHistory } := by
  have hfor : ∃ kadm keyHistory, forHistoryKey histKvno p = { p with kadm, keyHistory } := by
    rw [forHistoryKey]
    split
    · exact ⟨p.kadm, p.keyHistory, rfl⟩
    · exact ⟨_, _, rfl⟩
  obtain ⟨kadm, keyHistory, hfor⟩ := hfor
  rw [recordHistory, hfor] at h
  dsimp only at h
  split at h
  · cases h
    exact ⟨kadm, keyHistory, rfl⟩
  · split at h
    · cases h
      exact ⟨kadm, keyHistory, rfl⟩
    · obtain ⟨entry, -, h⟩ := bind_ok h
      cases h
      exact ⟨_, _, rfl⟩

/-- What new keys leave of an entry: the failures are forgotten. -/
structure Rekeyed (keys : List KeyEntry) (p p' : Principal) : Prop extends Same p p' where
  keys : p'.keys = keys
  attributes : p'.attributes = p.attributes &&& ~~~kdbRequiresPwchange
  lockout : Lockout.of p' = { Lockout.of p with failAuthCount := 0 }

theorem rekeyed_afterRekey (env : AdminEnv) (actor : Str) (p q : Principal) (hsame : Same p q)
    (hattributes : q.attributes = p.attributes) (hlockout : Lockout.of q = Lockout.of p) :
    Rekeyed q.keys p (afterRekey env actor q) := by
  have hstamp : Same q (afterRekey env actor q) := ⟨rfl, rfl, stampAdminTl_alias ..⟩
  have hof : Lockout.of (afterRekey env actor q) = { Lockout.of q with failAuthCount := 0 } := rfl
  have hattr : (afterRekey env actor q).attributes = q.attributes &&& ~~~kdbRequiresPwchange := rfl
  exact { hsame.trans hstamp with
    keys := rfl
    attributes := hattr.trans (by rw [hattributes])
    lockout := hof.trans (by rw [hlockout]) }

theorem replacePasswordKeys_ok {p p' : Principal} {newKeys : List KeyEntry}
    (h : replacePasswordKeys env p newKeys history keepold actor = .ok p') :
    Rekeyed (withOldKeys newKeys p.keys keepold) p p' := by
  cases history with
  | none =>
    cases h
    exact rekeyed_afterRekey env actor p { p with keys := withOldKeys newKeys p.keys keepold }
      ⟨rfl, rfl, rfl⟩ rfl rfl
  | some nhist =>
    obtain ⟨q, hq, h⟩ := bind_ok h
    obtain ⟨q', hrec, rfl⟩ := map_ok hq
    obtain ⟨kadm, keyHistory, rfl⟩ := recordHistory_ok hrec
    cases h
    have hsame := same_refreshKadmTl { p with keys := newKeys, kadm, keyHistory }
    exact rekeyed_afterRekey env actor p
      { refreshKadmTl { p with keys := newKeys, kadm, keyHistory } with
        keys := withOldKeys newKeys p.keys keepold }
      ⟨hsame.name, hsame.realm, hsame.aliasOf⟩ rfl rfl

theorem writePassword_ok {s s' : PrincipalStore}
    (h : writePassword env prepared history keepold actor s = .ok s') :
    ∃ p p₁ s₁, s.map.get prepared.plan.inputs.id = some p
      ∧ Rekeyed (withOldKeys prepared.keys p.keys keepold) p p₁
      ∧ Puts prepared.plan.inputs.id (some p₁) s s₁
      ∧ Edits prepared.plan.inputs.name prepared.plan.inputs.realm
          (fun p p' => ∃ pwExpire, p' = { p with pwExpire }) s₁ s' := by
  obtain ⟨_, -, h⟩ := bind_ok h
  cases hp : s.map.get prepared.plan.inputs.id with
  | none => rw [hp] at h; cases h
  | some p =>
    rw [hp] at h
    obtain ⟨p₁, hreplace, h⟩ := bind_ok h
    have hrekeyed := replacePasswordKeys_ok hreplace
    exact ⟨p, { p₁ with salt := saltOfKeys p₁.keys p₁.name p₁.realm }, _, rfl,
      ⟨⟨hrekeyed.name, hrekeyed.realm, hrekeyed.aliasOf⟩, hrekeyed.keys, hrekeyed.attributes,
        hrekeyed.lockout⟩, puts_setEntry hp, applyPwMaxLifeIn_ok h⟩

theorem chpassInputs_ok {s : PrincipalStore} {name : PrincipalName} {realm : Str}
    {etypes : List KeySalt} (h : chpassInputs env s name realm etypes = .ok inputs) :
    inputs.name = name ∧ inputs.realm = realm
      ∧ s.resolveId (lookupPrincipalId name realm) = some inputs.id
      ∧ applyKeysaltPolicy env.toKeyLibs (inputs.policy.bind (·.allowedKeysalts)) etypes
        env.policy.passwordKeysalts = .ok inputs.keysalts
      ∧ ∃ p, s.map.get inputs.id = some p ∧ inputs.policy = s.policyOf p := by
  obtain ⟨_, -, h⟩ := bind_ok h
  obtain ⟨⟨id, p⟩, hentry, h⟩ := bind_ok h
  obtain ⟨hid, hp⟩ := entryIn_ok.mp hentry
  obtain ⟨keysalts, hkeysalts, h⟩ := bind_ok h
  cases h
  exact ⟨rfl, rfl, hid, hkeysalts, p, hp, rfl⟩

theorem chpassPlan_ok {s : PrincipalStore} {password : Str}
    (h : chpassPlan env s inputs password = .ok plan) :
    plan.inputs = inputs ∧ plan.password = password ∧ s.map.get inputs.id = some plan.record
      ∧ plan.kvno = nextKvno plan.record.keys
      ∧ checkPasswordQualityIn env s inputs.name inputs.realm password = .ok () := by
  obtain ⟨_, hcheck, h⟩ := bind_ok h
  cases hp : s.map.get inputs.id with
  | none => rw [hp] at h; cases h
  | some record =>
    rw [hp] at h
    cases h
    exact ⟨rfl, rfl, rfl, rfl, hcheck⟩

theorem derive_ok {libs : KeyLibs} (h : plan.derive libs = .ok prepared) :
    prepared.plan = plan ∧ keysFromPassword libs plan.inputs.keysalts plan.password plan.record.name
      plan.record.realm plan.kvno = .ok prepared.keys := by
  obtain ⟨keys, hkeys, h⟩ := bind_ok h
  cases h
  exact ⟨rfl, hkeys⟩

/-! ### Renames -/

theorem specializeSalts_ok {p p' : Principal} (h : specializeSalts p = .ok p') :
    ∃ keys salt, p' = { p with keys, salt } ∧ ∀ k ∈ keys, ∃ k₀ ∈ p.keys, k.key = k₀.key := by
  obtain ⟨_, -, h⟩ := bind_ok h
  cases h
  refine ⟨_, _, rfl, fun k hk => ?_⟩
  obtain ⟨k₀, hk₀, rfl⟩ := mem_map.mp hk
  exact ⟨k₀, hk₀, rfl⟩

theorem renameEntry_ok {old new : PrincipalName} {oldRealm newRealm actor : Str}
    {s s' : PrincipalStore} (h : renameEntry env old oldRealm new newRealm actor s = .ok s') :
    ∃ p p' s₁, s.get (lookupPrincipalId new newRealm) = none
      ∧ s.map.get (lookupPrincipalId old oldRealm) = some p ∧ p.aliasTarget = none
      ∧ p'.name = new ∧ p'.realm = newRealm ∧ p'.aliasTarget = none
      ∧ p'.attributes = p.attributes ∧ Lockout.of p' = Lockout.of p
      ∧ (∀ k ∈ p'.keys, ∃ k₀ ∈ p.keys, k.key = k₀.key)
      ∧ Puts (lookupPrincipalId old oldRealm) none s s₁
      ∧ Puts (lookupPrincipalId new newRealm) (some p') s₁ s' := by
  obtain ⟨_, hnew, h⟩ := bind_ok h
  cases hp : s.map.get (lookupPrincipalId old oldRealm) with
  | none => rw [hp] at h; cases h
  | some p =>
    rw [hp] at h
    obtain ⟨_, halias, h⟩ := bind_ok h
    obtain ⟨_, -, h⟩ := bind_ok h
    obtain ⟨p₁, hsalts, h⟩ := bind_ok h
    obtain ⟨keys, salt, rfl, hkeys⟩ := specializeSalts_ok hsalts
    cases h
    have hnone : p.aliasTarget = none := by simpa using rejectIf_ok halias
    refine ⟨p, stamp env.now actor false { p with keys, salt, name := new, realm := newRealm }, _,
      ?_, rfl, hnone, rfl, rfl, ?_, rfl, rfl, hkeys, puts_remove s _,
      puts_insert { s with map := s.map.remove (lookupPrincipalId old oldRealm) } _ _⟩
    · simpa using rejectIf_ok hnew
    · exact (stampAdminTl_alias ..).trans hnone

end Kerber
