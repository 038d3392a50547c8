import Kerber.Issue.Kdb
import Kerber.Lib.Ranks
import Kerber.Store.Equiv.Change

/-!
# New keys on an entry

What a password change, `randkey` and `setkey` leave of the keys they made.  Old keys are kept by
their versions, the highest ones first, and the key found without a version is one of the highest:
so new keys are all kept and current when their version is above the old ones.  It is not once the
versions wrap from 65535 to 1, nor where `setkey` is given a lower version.  `rekey_installs_iff`
says exactly when a change that succeeds has installed its keys.
-/

namespace Kerber

open List Change

variable {etypes : List KeySalt}

open PrincipalStore Issue Change

variable {word : Str} {keys' : List KeyEntry} {seen : PrincipalStore} {plan : PasswordPlan}
  {p : Principal} {ks : KeySalt}

/-! ### Versions -/

/-- How many versions of some keys are above `v`. -/
def versionsAbove (v : UInt32) (keys : List KeyEntry) : Nat :=
  countAbove v (keys.map (·.kvno))

section Versions

variable {k : KeyEntry} {keys new old : List KeyEntry} {v n keepold : UInt32}

theorem mem_capKeyVersions :
    k ∈ capKeyVersions keys n ↔ k ∈ keys ∧ versionsAbove k.kvno keys < n.toNat := by
  have htop : topVersions n.toNat keys = largest n.toNat (keys.map (·.kvno)) := rfl
  rw [capKeyVersions, mem_filter, decide_eq_true_eq, htop, mem_largest]
  constructor
  · rintro ⟨hk, -, hlt⟩
    exact ⟨hk, hlt⟩
  · rintro ⟨hk, hlt⟩
    exact ⟨hk, mem_map_of_mem hk, hlt⟩

theorem topVersion_spec (h : topVersion keys = some v) :
    (∃ k ∈ keys, k.kvno = v) ∧ ∀ k ∈ keys, k.kvno ≤ v := by
  obtain ⟨hmem, hle⟩ := max?_eq_some_iff.mp h
  exact ⟨mem_map.mp hmem, fun k hk => hle _ (mem_map_of_mem hk)⟩

theorem topVersion_of_mem (hk : k ∈ keys) (hle : ∀ k' ∈ keys, k'.kvno ≤ k.kvno) :
    topVersion keys = some k.kvno := by
  refine max?_eq_some_iff.mpr ⟨mem_map_of_mem hk, ?_⟩
  intro v hv
  obtain ⟨k', hk', rfl⟩ := mem_map.mp hv
  exact hle k' hk'

/-- Where there are keys, one of them has the highest version. -/
theorem exists_topVersion (hk : k ∈ keys) :
    ∃ top ∈ keys, topVersion keys = some top.kvno ∧ ∀ k' ∈ keys, k'.kvno ≤ top.kvno := by
  cases htop : topVersion keys with
  | none =>
    rw [topVersion, max?_eq_none_iff, map_eq_nil_iff] at htop
    rw [htop] at hk
    cases hk
  | some v =>
    obtain ⟨⟨top, hmem, rfl⟩, hle⟩ := topVersion_spec htop
    exact ⟨top, hmem, rfl, hle⟩

/-- Below the last version, the next one is above them all. -/
theorem lt_nextKvno (h : ∀ k ∈ keys, k.kvno < 65535) : ∀ k ∈ keys, k.kvno < nextKvno keys := by
  intro k hk
  obtain ⟨top, hmem, htop, hle⟩ := exists_topVersion hk
  have hlast := h top hmem
  rw [nextKvno, htop]
  dsimp only
  rw [if_neg (UInt32.not_le.mpr hlast)]
  have hnat := UInt32.le_iff_toNat_le.mp (hle k hk)
  have hbound := UInt32.lt_iff_toNat_lt.mp hlast
  have h65535 : (65535 : UInt32).toNat = 65535 := rfl
  rw [UInt32.lt_iff_toNat_lt, UInt32.toNat_add]
  have hone : (1 : UInt32).toNat = 1 := rfl
  omega

theorem nextKvno_of_last (hk : k ∈ keys) (hlast : 65535 ≤ k.kvno) : nextKvno keys = 1 := by
  obtain ⟨top, -, htop, hle⟩ := exists_topVersion hk
  rw [nextKvno, htop]
  exact if_pos (Std.le_trans hlast (hle k hk))

theorem versionsAbove_new (hv : ∀ k ∈ new, k.kvno = v) :
    versionsAbove v (new ++ old) = versionsAbove v old := by
  rw [versionsAbove, map_append, countAbove_append, versionsAbove]
  intro b hb
  obtain ⟨k, hk, rfl⟩ := mem_map.mp hb
  exact Std.le_of_eq (hv k hk)

theorem versionsAbove_eq_zero (h : ∀ k ∈ keys, k.kvno ≤ v) : versionsAbove v keys = 0 := by
  refine countAbove_eq_zero fun b hb => ?_
  obtain ⟨k, hk, rfl⟩ := mem_map.mp hb
  exact h k hk

theorem mem_of_mem_withOldKeys (h : k ∈ withOldKeys new old keepold) : k ∈ new ++ old := by
  unfold withOldKeys at h
  split at h
  · exact mem_append_left _ h
  · split at h
    · exact h
    · exact (mem_capKeyVersions.mp h).1

theorem mem_withOldKeys (hkeep : keepold ≠ 0) (hk : k ∈ new ++ old) :
    k ∈ withOldKeys new old keepold ↔
      keepold = 1 ∨ versionsAbove k.kvno (new ++ old) < keepold.toNat := by
  unfold withOldKeys
  rw [if_neg hkeep]
  by_cases hone : keepold = 1
  · rw [if_pos hone]
    exact ⟨fun _ => .inl hone, fun _ => hk⟩
  · rw [if_neg hone, mem_capKeyVersions]
    exact ⟨fun h => .inr h.2, fun h => ⟨hk, h.resolve_left hone⟩⟩

def VersionKept (v keepold : UInt32) (old : List KeyEntry) : Prop :=
  keepold ≤ 1 ∨ versionsAbove v old < keepold.toNat

instance (v keepold : UInt32) (old : List KeyEntry) : Decidable (VersionKept v keepold old) :=
  inferInstanceAs (Decidable (_ ∨ _))

/-- **When new keys are kept.** -/
theorem new_kept_iff (hv : ∀ k ∈ new, k.kvno = v) (hne : new ≠ []) :
    (∀ k ∈ new, k ∈ withOldKeys new old keepold) ↔ VersionKept v keepold old := by
  by_cases hkeep : keepold = 0
  · subst hkeep
    exact ⟨fun _ => .inl (by decide), fun _ k hk => hk⟩
  have hone : keepold ≤ 1 ↔ keepold = 1 := by
    constructor
    · intro hle
      have hnat := UInt32.le_iff_toNat_le.mp hle
      have h1 : (1 : UInt32).toNat = 1 := rfl
      have h0 : keepold.toNat ≠ 0 := fun h => hkeep (UInt32.toNat_inj.mp h)
      exact UInt32.toNat_inj.mp (by omega)
    · rintro rfl
      exact Std.le_refl _
  rw [VersionKept, hone]
  constructor
  · intro h
    obtain ⟨k, hk⟩ := exists_mem_of_ne_nil new hne
    have hmem := (mem_withOldKeys hkeep (mem_append_left old hk)).mp (h k hk)
    rwa [hv k hk, versionsAbove_new hv] at hmem
  · intro h k hk
    rw [mem_withOldKeys hkeep (mem_append_left old hk), hv k hk, versionsAbove_new hv]
    exact h

theorem versionKept_next (h : ∀ k ∈ old, k.kvno < 65535) : VersionKept (nextKvno old) keepold old := by
  by_cases hle : keepold ≤ 1
  · exact .inl hle
  · refine .inr ?_
    rw [versionsAbove_eq_zero fun k hk => Std.le_of_lt (lt_nextKvno h k hk)]
    have := UInt32.lt_iff_toNat_lt.mp (UInt32.not_le.mp hle)
    omega

end Versions

/-! ### The current key -/

/-- The key found for each new type without a version is a new one. -/
def Current (new : List KeyEntry) (p : Principal) : Prop :=
  ∀ k ∈ new, ∀ permitted : EncryptionType → Bool, permitted k.etype = true →
    ∃ k' ∈ new, findEnctypeIn p (some k.etype) 0 permitted = .ok k'

section Current

variable {k : KeyEntry} {e : EncryptionType} {permitted : EncryptionType → Bool}
  {new old : List KeyEntry} {keepold : UInt32}

/-- The key found without a version has the highest one. -/
theorem findEnctypeIn_ok (h : findEnctypeIn p (some e) 0 permitted = .ok k) :
    k ∈ p.keys ∧ topKvno p = some k.kvno ∧ k.etype = e := by
  unfold findEnctypeIn at h
  split at h
  · cases h
  cases htop : topKvno p with
  | none =>
    rw [htop] at h
    cases h
  | some top =>
    rw [htop] at h
    dsimp only at h
    split at h
    · rename_i k' hfind
      cases h
      obtain ⟨hk, hmatch⟩ := mem_filter.mp (mem_of_find?_eq_some hfind)
      rw [if_pos rfl, Bool.and_eq_true, decide_eq_true_eq] at hmatch
      obtain ⟨hkvno, hetype⟩ := hmatch
      exact ⟨hk, by rw [hkvno], of_decide_eq_true hetype⟩
    · cases h

theorem findEnctypeIn_of_mem (hk : k ∈ p.keys) (htop : topKvno p = some k.kvno)
    (hpermitted : permitted k.etype = true) :
    ∃ k', findEnctypeIn p (some k.etype) 0 permitted = .ok k' := by
  unfold findEnctypeIn
  have hallowed : ¬ (some k.etype).any (fun e => !permitted e) = true := by
    simp [hpermitted]
  rw [if_neg hallowed, htop]
  dsimp only
  rw [if_pos rfl]
  have hmem : k ∈ p.keys.filter fun k₁ => k₁.kvno = k.kvno && (some k.etype).all (k₁.etype = ·) := by
    rw [mem_filter]
    exact ⟨hk, by simp⟩
  split
  · rename_i k' _
    exact ⟨k', rfl⟩
  · rename_i hnone
    exact absurd hpermitted (find?_eq_none.mp hnone k hmem)

theorem current_of_top (hkept : ∀ k ∈ new, k ∈ p.keys)
    (hold : ∀ k ∈ p.keys, k ∉ new → ∀ k' ∈ new, k.kvno < k'.kvno)
    (hsame : ∀ k ∈ new, ∀ k' ∈ new, k.kvno = k'.kvno) : Current new p := by
  intro k hk permitted hpermitted
  have htop : topKvno p = some k.kvno := by
    refine topVersion_of_mem (hkept k hk) fun k' hk' => ?_
    by_cases hnew : k' ∈ new
    · exact Std.le_of_eq (hsame k' hnew k hk)
    · exact Std.le_of_lt (hold k' hk' hnew k hk)
  obtain ⟨k', hfound⟩ := findEnctypeIn_of_mem (hkept k hk) htop hpermitted
  refine ⟨k', ?_, hfound⟩
  obtain ⟨hk', htop', -⟩ := findEnctypeIn_ok hfound
  by_contra hnew
  have hlt := hold k' hk' hnew k hk
  rw [htop] at htop'
  rw [Option.some.inj htop'] at hlt
  exact Std.lt_irrefl hlt

/-- **When new keys are current**: no old key is kept, or the versions have not come to the last
one. -/
theorem current_iff (hnew : ∀ k ∈ new, k.kvno = nextKvno old) (hne : new ≠ [])
    (hkeys : p.keys = withOldKeys new old keepold) :
    Current new p ↔ keepold = 0 ∨ ∀ k ∈ old, k.kvno < 65535 := by
  have hsame : ∀ k ∈ new, ∀ k' ∈ new, k.kvno = k'.kvno := by
    intro k hk k' hk'
    rw [hnew k hk, hnew k' hk']
  constructor
  · -- a key of the last version is always kept, and it is above version 1
    intro hcurrent
    by_contra hnot
    rw [not_or] at hnot
    obtain ⟨hkeep, hnot⟩ := hnot
    push Not at hnot
    obtain ⟨last, hlast, hge⟩ := hnot
    rw [UInt32.not_lt] at hge
    obtain ⟨k, hk⟩ := exists_mem_of_ne_nil new hne
    obtain ⟨k', hk', hfound⟩ := hcurrent k hk (fun _ => true) rfl
    obtain ⟨-, htop, -⟩ := findEnctypeIn_ok hfound
    have hone : k'.kvno = 1 := by rw [hnew k' hk', nextKvno_of_last hlast hge]
    obtain ⟨o, ho, -, hle⟩ := exists_topVersion hlast
    have hov : 65535 ≤ o.kvno := Std.le_trans hge (hle last hlast)
    have hall : ∀ x ∈ new ++ old, x.kvno ≤ o.kvno := by
      intro x hx
      rcases mem_append.mp hx with hx | hx
      · rw [hnew x hx, nextKvno_of_last hlast hge]
        exact Std.le_trans (by decide) hov
      · exact hle x hx
    have hkept : o ∈ p.keys := by
      rw [hkeys, mem_withOldKeys hkeep (mem_append_right new ho), versionsAbove_eq_zero hall]
      exact .inr (Nat.pos_of_ne_zero fun h => hkeep (UInt32.toNat_inj.mp h))
    have hle' := (topVersion_spec htop).2 o hkept
    rw [hone] at hle'
    exact absurd (Std.le_trans hov hle') (by decide)
  · rintro (rfl | hbelow)
    · have hp : p.keys = new := hkeys
      refine current_of_top (fun k hk => hp ▸ hk) (fun k hk hnot => ?_) hsame
      exact absurd (hp ▸ hk) hnot
    · have habove := lt_nextKvno hbelow
      have hkept : ∀ k ∈ new, k ∈ p.keys := by
        rw [hkeys]
        exact (new_kept_iff hnew hne).mpr (versionKept_next hbelow)
      refine current_of_top hkept (fun k hk hnot k' hk' => ?_) hsame
      rw [hkeys] at hk
      rw [hnew k' hk']
      exact habove k ((mem_append.mp (mem_of_mem_withOldKeys hk)).resolve_left hnot)

end Current

/-! ### Making keys -/

section Making

variable {libs : KeyLibs} {v : UInt32} {keys keys' : List KeyEntry} {keysalts : List KeySalt}
  {password realm : Str} {name : PrincipalName}

/-- Keys of one version are added to others of it, and there are none only where no type was asked
for. -/
def Adds (v : UInt32) (keysalts : List KeySalt) (keys keys' : List KeyEntry) : Prop :=
  (∀ k ∈ keys, k.kvno = v) →
    (∀ k ∈ keys', k.kvno = v) ∧ (keys' = [] ↔ keys = [] ∧ keysalts = [])

theorem Adds.nil : Adds v [] keys keys := fun hv => ⟨hv, by simp⟩

theorem Adds.skip {f : KeyEntry → Bool} (hany : keys.any f = true)
    (h : Adds v keysalts keys keys') : Adds v (ks :: keysalts) keys keys' := by
  intro hv
  obtain ⟨hall, hnil⟩ := h hv
  refine ⟨hall, hnil.trans ?_⟩
  constructor
  · rintro ⟨rfl, -⟩
    cases hany
  · rintro ⟨-, hcons⟩
    cases hcons

theorem Adds.push {new : KeyEntry} (hnew : new.kvno = v)
    (h : Adds v keysalts (keys ++ [new]) keys') : Adds v (ks :: keysalts) keys keys' := by
  intro hv
  obtain ⟨hall, hnil⟩ := h fun k hk => by
    rcases mem_append.mp hk with hk | hk
    · exact hv k hk
    · rw [mem_singleton.mp hk, hnew]
  exact ⟨hall, hnil.trans (by simp)⟩

theorem Adds.of_nil (h : Adds v keysalts [] keys) :
    (∀ k ∈ keys, k.kvno = v) ∧ (keys = [] ↔ keysalts = []) := by
  obtain ⟨hall, hnil⟩ := h fun _ hk => nomatch hk
  exact ⟨hall, hnil.trans (by simp)⟩

theorem addKeysFromPassword_ok
    (h : addKeysFromPassword libs password name realm v keys keysalts = .ok keys') :
    Adds v keysalts keys keys' := by
  induction keysalts generalizing keys with
  | nil =>
    cases h
    exact .nil
  | cons ks rest ih =>
    rw [addKeysFromPassword] at h
    split at h
    · rename_i hany
      exact (ih h).skip hany
    · obtain ⟨salt, -, h⟩ := bind_ok h
      obtain ⟨key, -, h⟩ := bind_ok h
      refine (ih h).push ?_
      split <;> rfl

theorem keysFromPassword_ok (h : keysFromPassword libs keysalts password name realm v = .ok keys) :
    (∀ k ∈ keys, k.kvno = v) ∧ (keys = [] ↔ keysalts = []) :=
  (addKeysFromPassword_ok h).of_nil

theorem addRandomKeys_ok (h : addRandomKeys libs v keys keysalts = .ok keys') :
    Adds v keysalts keys keys' := by
  induction keysalts generalizing keys with
  | nil =>
    cases h
    exact .nil
  | cons ks rest ih =>
    rw [addRandomKeys] at h
    split at h
    · rename_i hany
      exact (ih h).skip hany
    · obtain ⟨key, -, h⟩ := bind_ok h
      exact (ih h).push rfl

theorem randomKeys_ok (h : randomKeys libs keysalts v = .ok keys) :
    (∀ k ∈ keys, k.kvno = v) ∧ (keys = [] ↔ keysalts = []) :=
  (addRandomKeys_ok h).of_nil

end Making

/-! ### The history principal -/

section History

variable {env : AdminEnv} {actor : Str} {db db' : Database} {s : PrincipalStore}

theorem resolveId_self {id : Str} (hp : s.map.get id = some p) (halias : p.aliasTarget = none) :
    s.resolveId id = some id := by
  show followAlias s.realm s.map.get maxAliasDepth id = some id
  rw [show maxAliasDepth = (maxAliasDepth - 1) + 1 from rfl, followAlias_succ, hp, Option.bind_some,
    halias]
  rfl

theorem historyKey_of_entry (hp : s.map.get (historyId s.realm) = some p)
    (halias : p.aliasTarget = none) :
    s.historyKey = (maxByKvno p.keys).map fun k => (k.kvno, k.key) := by
  have hget : s.getName kadminHistory = some p := by
    show (s.resolveId (historyId s.realm)).bind s.map.get = some p
    rw [resolveId_self hp halias]
    exact hp
  unfold historyKey
  rw [hget]
  cases h : maxByKvno p.keys <;> simp [h]

theorem maxByKvno_eq_none {keys : List KeyEntry} (h : maxByKvno keys = none) : keys = [] := by
  cases keys with
  | nil => rfl
  | cons k keys =>
    rw [maxByKvno] at h
    split at h
    · cases h
    · split at h <;> cases h

/-- The keys of an entry once there is a history key: the same, or those of a history principal that
had none. -/
def KeysAs (old keys : List KeyEntry) : Prop :=
  keys = old ∨ old = [] ∧ ∃ k, keys = [k] ∧ k.kvno = initialHistKvno

/-- Making the history principal leaves every other entry, and one without keys in its place. -/
theorem ensureHistoryPrincipal_keys {id : Str} (hp : db.store.map.get id = some p)
    (halias : p.aliasTarget = none) :
    Leads (ensureHistoryPrincipal env actor) db (fun _ db' => db'.store.historyKey.isSome
      ∧ ∃ p', db'.store.map.get id = some p' ∧ KeysAs p.keys p'.keys) fun _ => True := by
  refine ensureHistoryPrincipal_leads trivial (fun h hkey => ?_) fun s key hkey hmake =>
    ⟨trivial, fun _ => ?_⟩
  · rw [hkey]
    exact ⟨rfl, p, hp, .inl rfl⟩
  · obtain ⟨q, hput, -, hqalias, -, -, k, hqkeys, hkvno⟩ := makeHistory_ok hmake
    constructor
    · have hself := hput.get_self
      rw [← hput.realm] at hself
      show s.historyKey.isSome
      rw [historyKey_of_entry hself hqalias, hqkeys]
      rfl
    · by_cases hid : id = historyId db.store.realm
      · -- the entry had no key, or it would have been the history key
        subst hid
        rw [historyKey_of_entry hp halias, Option.map_eq_none_iff] at hkey
        exact ⟨q, hput.get_self, .inr ⟨maxByKvno_eq_none hkey, k, hqkeys, hkvno⟩⟩
      · exact ⟨p, (hput.get_ne hid).trans hp, .inl rfl⟩

theorem needHistory_keys {needed : Bool} {id : Str} (hp : db.store.map.get id = some p)
    (halias : p.aliasTarget = none) :
    Leads (needHistory env actor needed) db (fun _ db' => (needed → db'.store.historyKey.isSome)
      ∧ ∃ p', db'.store.map.get id = some p' ∧ KeysAs p.keys p'.keys) fun _ => True := by
  cases needed with
  | false => exact ⟨fun h => (nomatch h), p, hp, .inl rfl⟩
  | true =>
    exact (ensureHistoryPrincipal_keys hp halias).bind fun _ _ _ h => ⟨fun _ => h.1, h.2⟩

end History

/-! ### The operations -/

/-- The operations that give an entry new keys.  A password change may be planned on the store as it
was `seen` before the lock was taken. -/
inductive Rekey
  | password (name : PrincipalName) (realm password : Str) (etypes : List KeySalt)
  | staged (seen : PrincipalStore) (name : PrincipalName) (realm password : Str)
      (etypes : List KeySalt)
  | random (name : PrincipalName) (realm : Str) (etypes : List KeySalt)
  | given (name : PrincipalName) (realm : Str) (keys : List KeyEntry)

namespace Rekey

/-- The name the operation is about. -/
def id : Rekey → Str
  | .password name realm _ _ => lookupPrincipalId name realm
  | .staged _ name realm _ _ => lookupPrincipalId name realm
  | .random name realm _ => lookupPrincipalId name realm
  | .given name realm _ => lookupPrincipalId name realm

def prepare (env : AdminEnv) (seen : PrincipalStore) (name : PrincipalName) (realm word : Str)
    (etypes : List KeySalt) : Except Error (Option PreparedPassword) := do
  match ← planPassword env seen name realm word etypes with
  | some plan => return some (← plan.derive env.toKeyLibs)
  | none => return none

/-- The operation, and whether it was carried out: a prepared change is not where it no longer fits
the store. -/
def run (env : AdminEnv) (actor : Str) (keepold : UInt32) : Rekey → Change Bool
  | .password name realm word etypes => do
    setPasswordEtypesKeepoldNIn env name realm word keepold actor etypes
    return true
  | .staged seen name realm word etypes => do
    match ← read fun _ => prepare env seen name realm word etypes with
    | some prepared => applyPassword env prepared keepold actor
    | none => return false
  | .random name realm etypes => do
    let _ ← chrandEtypesKeepoldIn env name realm etypes keepold actor
    return true
  | .given name realm keys => do
    setKeysIn env name realm keys keepold actor
    return true

/-- The part of the operation that makes the new keys, with the id of the entry they are for. -/
def make (env : AdminEnv) (actor : Str) (keepold : UInt32) : Rekey → Change (Str × List KeyEntry)
  | .password name realm word etypes => do
    let inputs ← read fun s => chpassInputs env s name realm etypes
    needHistory env actor inputs.policy.isSome
    let prepared ← read fun s => do
      (← chpassPlan env s inputs (cPassword word)).derive env.toKeyLibs
    return (inputs.id, prepared.keys)
  | .staged seen name realm word etypes => do
    match ← read fun _ => prepare env seen name realm word etypes with
    | some prepared => return (prepared.plan.inputs.id, prepared.keys)
    | none => throw .notFound
  | .random name realm etypes => read fun s => chrandKeys env s name realm etypes keepold
  | .given name realm keys => read fun s => setKeysChecked env s name realm keys keepold

def newKeys (env : AdminEnv) (actor : Str) (keepold : UInt32) (r : Rekey) (db : Database) :
    Option (Str × List KeyEntry) :=
  match r.make env actor keepold db with
  | .ok made _ => some made
  | .error _ _ => none

/-- What the operation is for: the new keys are on the entry, and after a password change or
`randkey` they are the current ones. -/
def Installs (new : List KeyEntry) (p : Principal) : Rekey → Prop
  | .given _ _ _ => ∀ k ∈ new, k ∈ p.keys
  | _ => (∀ k ∈ new, k ∈ p.keys) ∧ Current new p

/-- The version `setkey` gives its keys. -/
def givenVersion (keys old : List KeyEntry) : UInt32 :=
  match keys with
  | [] => nextKvno old
  | k :: _ => if k.kvno = 0 then nextKvno old else k.kvno

/-- No key was asked for: the types that the policy or the request leaves are none. -/
def NoneWanted (env : AdminEnv) (s : PrincipalStore) (p : Principal) (etypes : List KeySalt) : Prop :=
  applyKeysaltPolicy env.toKeyLibs ((s.policyOf p).bind (·.allowedKeysalts)) etypes
    env.policy.passwordKeysalts = .ok []

/-- When a password change or `randkey` installs its keys: no old key is kept, or the versions have
not come to the last one. -/
def Fresh (env : AdminEnv) (keepold : UInt32) (s : PrincipalStore) (p : Principal)
    (etypes : List KeySalt) : Prop :=
  keepold = 0 ∨ (∀ k ∈ p.keys, k.kvno < 65535) ∨ NoneWanted env s p etypes

/-- When an operation on an entry of the store installs its keys. -/
def Fits (env : AdminEnv) (keepold : UInt32) (s : PrincipalStore) (p : Principal) : Rekey → Prop
  | .given _ _ keys => VersionKept (givenVersion keys p.keys) keepold p.keys
  | .password _ _ _ etypes => Fresh env keepold s p etypes
  | .staged _ _ _ _ etypes => Fresh env keepold s p etypes
  | .random _ _ etypes => Fresh env keepold s p etypes

end Rekey

section Runs

variable {env : AdminEnv} {actor : Str} {keepold : UInt32} {b db done : Database}

/-- The last steps of each operation leave the store. -/
theorem finish_leads {now : UInt32} {id : Str} {Q : Unit → Database → Prop} {E : Database → Prop}
    (h : ∀ done, done.store = db.store → done.changed = true → Q () done) :
    Leads (do zeroFailCount now id; save) db Q E := by
  rw [Leads, finish_run]
  refine h _ ?_ rfl
  cases db.store.map.get id <;> rfl

theorem commitPassword_keys {prepared : PreparedPassword}
    (hkey : prepared.plan.inputs.policy.isSome → db.store.historyKey.isSome) :
    Leads (commitPassword env prepared keepold actor) db (fun _ done =>
      ∃ p p', db.store.map.get prepared.plan.inputs.id = some p
        ∧ done.store.map.get prepared.plan.inputs.id = some p'
        ∧ p'.keys = withOldKeys prepared.keys p.keys keepold ∧ done.changed = true)
      fun _ => True := by
  have hsteps : ∀ history, Leads (writeSteps env actor prepared keepold history) db (fun _ done =>
      ∃ p p', db.store.map.get prepared.plan.inputs.id = some p
        ∧ done.store.map.get prepared.plan.inputs.id = some p'
        ∧ p'.keys = withOldKeys prepared.keys p.keys keepold ∧ done.changed = true)
      fun _ => True := by
    intro history
    refine .edit trivial fun s' hwrite => finish_leads fun done hstore hchanged => ?_
    obtain ⟨p, p₁, s₁, hp, hrekeyed, hput, id₂, q, q', -, hq, ⟨pwExpire, rfl⟩, hput₂⟩ :=
      writePassword_ok hwrite
    refine ⟨p, ?_⟩
    rw [hstore, hput₂.get]
    by_cases hid₂ : prepared.plan.inputs.id = id₂
    · rw [if_pos hid₂]
      rw [← hid₂, hput.get_self] at hq
      cases hq
      exact ⟨_, hp, rfl, hrekeyed.keys, hchanged⟩
    · rw [if_neg hid₂, hput.get_self]
      exact ⟨p₁, hp, rfl, hrekeyed.keys, hchanged⟩
  rw [commitPassword_eq]
  cases hpol : prepared.plan.inputs.policy with
  | some pol =>
    have hstays : Leads (ensureHistoryPrincipal env actor) db (fun _ mid => mid = db)
        fun _ => True := by
      refine ensureHistoryPrincipal_leads trivial (fun _ _ => rfl) fun _ _ hnone _ => ?_
      rw [hpol, hnone] at hkey
      cases hkey rfl
    refine hstays.bind ?_
    rintro _ _ - rfl
    exact hsteps _
  | none => exact hsteps none

variable {name : PrincipalName} {s : PrincipalStore} {keys : List KeyEntry} {realm : Str}

theorem rekeyEntry_ok {id : Str} {s' : PrincipalStore}
    (h : rekeyEntry env name realm keys keepold actor s = .ok s')
    (hid : s.resolveId (lookupPrincipalId name realm) = some id) (hp : s.map.get id = some p) :
    ∃ p', s'.map.get id = some p' ∧ p'.keys = withOldKeys keys p.keys keepold := by
  obtain ⟨s₁, hedit, h⟩ := bind_ok h
  have hedits : Edits name realm (fun p p' => p'.keys = withOldKeys keys p.keys keepold) s s' := by
    refine (editEntryIn_ok hedit).trans (applyPwMaxLifeIn_ok h) ?_ ?_
    · rintro p _ rfl
      exact ⟨rfl, rfl, stampAdminTl_alias ..⟩
    · rintro p _ _ rfl ⟨pwExpire, rfl⟩
      rfl
  obtain ⟨id', q, p', hid', hq, hkeys, hput⟩ := hedits
  rw [hid] at hid'
  obtain rfl := Option.some.inj hid'
  rw [hp] at hq
  obtain rfl := Option.some.inj hq
  exact ⟨p', hput.get_self, hkeys⟩

/-- What an operation that was carried out leaves: the entry it is about, the keys it was planned on
and those it made, and the entry with these. -/
structure Renews (env : AdminEnv) (actor : Str) (keepold : UInt32) (r : Rekey) (b done : Database)
    (id : Str) (p : Principal) (old new : List KeyEntry) (p' : Principal) : Prop where
  changed : done.changed = true
  resolves : b.store.resolveId r.id = some id
  entry : b.store.map.get id = some p
  made : r.newKeys env actor keepold b = some (id, new)
  entry' : done.store.map.get id = some p'
  planned : KeysAs p.keys old
  keys : p'.keys = withOldKeys new old keepold

/-- The new keys have the version after those the operation was planned on, and there are none only
where none was asked for. -/
def RenewsNext (env : AdminEnv) (actor : Str) (keepold : UInt32) (r : Rekey) (b done : Database)
    (etypes : List KeySalt) : Prop :=
  ∃ id p old new p', Renews env actor keepold r b done id p old new p'
    ∧ (∀ k ∈ new, k.kvno = nextKvno old)
    ∧ (new = [] ↔ Rekey.NoneWanted env b.store p etypes)

theorem newKeys_of_make {r : Rekey} {mid : Database} {made : Str × List KeyEntry}
    (h : r.make env actor keepold b = .ok made mid) : r.newKeys env actor keepold b = some made := by
  rw [Rekey.newKeys, h]

theorem noneWanted_iff {keysalts : List KeySalt}
    (h : applyKeysaltPolicy env.toKeyLibs ((s.policyOf p).bind (·.allowedKeysalts)) etypes
      env.policy.passwordKeysalts = .ok keysalts) :
    keysalts = [] ↔ Rekey.NoneWanted env s p etypes := by
  rw [Rekey.NoneWanted, h, Except.ok.injEq]

theorem password_renews :
    Leads ((Rekey.password name realm word etypes).run env actor keepold) b (fun _ done =>
      RenewsNext env actor keepold (.password name realm word etypes) b done etypes)
      fun _ => True := by
  refine Leads.bind ?_ fun _ _ _ h => h
  rw [setPassword_eq]
  refine .read trivial fun inputs hinputs => ?_
  obtain ⟨-, -, hid, hkeysalts, p, hp, hpolicy⟩ := chpassInputs_ok hinputs
  obtain ⟨q, hq, halias⟩ := resolveId_spec hid
  rw [hp] at hq
  obtain rfl := Option.some.inj hq
  refine (needHistory_keys hp halias).bind ?_
  rintro _ mid hhist ⟨hkey, q, hq, hkeysAs⟩
  refine .read trivial fun prepared hplanned => ?_
  have hmake : (Rekey.password name realm word etypes).make env actor keepold b
      = .ok (inputs.id, prepared.keys) mid := by
    show (read _ >>= _ : Change _) b = _
    rw [bind_ok_run (read_run hinputs), bind_ok_run hhist, bind_ok_run (read_run hplanned)]
    rfl
  obtain ⟨plan, hplan, hderive⟩ := bind_ok hplanned
  obtain ⟨rfl, hkeys⟩ := derive_ok hderive
  obtain ⟨rfl, -, hrecord, hkvno, -⟩ := chpassPlan_ok hplan
  rw [hq] at hrecord
  obtain rfl := Option.some.inj hrecord
  obtain ⟨hall, hnil⟩ := keysFromPassword_ok hkeys
  refine (commitPassword_keys hkey).imp ?_
  rintro _ done ⟨q', p', hq', hp', hkept, hchanged⟩
  rw [hq] at hq'
  obtain rfl := Option.some.inj hq'
  rw [hpolicy] at hkeysalts
  refine ⟨_, p, _, prepared.keys, p', ⟨hchanged, hid, hp, newKeys_of_make hmake, hp', hkeysAs,
    hkept⟩, ?_, hnil.trans (noneWanted_iff hkeysalts)⟩
  intro k hk
  rw [hall k hk, hkvno]

theorem sameKeys_kvno (h : sameKeys keys keys' = true) :
    keys.map (·.kvno) = keys'.map (·.kvno) := by
  induction keys generalizing keys' with
  | nil =>
    cases keys' with
    | nil => rfl
    | cons k' keys' => cases h
  | cons k keys ih =>
    cases keys' with
    | nil => cases h
    | cons k' keys' =>
      simp only [sameKeys, length_cons, zip_cons_cons, all_cons, Bool.and_eq_true,
        decide_eq_true_eq, Nat.add_right_cancel_iff] at h
      obtain ⟨hlen, ⟨⟨⟨⟨-, hkvno⟩, -⟩, -⟩, -⟩, hall⟩ := h
      have hrest : sameKeys keys keys' = true := by
        simp only [sameKeys, Bool.and_eq_true, decide_eq_true_eq]
        exact ⟨hlen, hall⟩
      rw [map_cons, map_cons, hkvno, ih hrest]

theorem nextKvno_congr (h : keys.map (·.kvno) = keys'.map (·.kvno)) :
    nextKvno keys = nextKvno keys' := by
  rw [nextKvno, nextKvno, topVersion, topVersion, h]

theorem planPassword_ok (h : planPassword env seen name realm word etypes = .ok (some plan)) :
    ∃ inputs, chpassInputs env seen name realm etypes = .ok inputs
      ∧ chpassPlan env seen inputs (cPassword word) = .ok plan := by
  obtain ⟨inputs, hinputs, h⟩ := bind_ok h
  refine ⟨inputs, hinputs, ?_⟩
  split at h
  · cases h
  · obtain ⟨plan', hplan, h⟩ := bind_ok h
    cases h
    exact hplan

theorem stands_spec (h : plan.stands s = true) :
    s.resolveId (lookupPrincipalId plan.inputs.name plan.inputs.realm) = some plan.inputs.id
      ∧ (∃ p, s.map.get plan.inputs.id = some p ∧ plan.inputs.policy = s.policyOf p
        ∧ p.keys.map (·.kvno) = plan.record.keys.map (·.kvno))
      ∧ (plan.inputs.policy.isSome → s.historyKey.isSome) := by
  simp only [PasswordPlan.stands, Bool.and_eq_true, decide_eq_true_eq, Bool.or_eq_true] at h
  obtain ⟨⟨⟨hid, hrecord⟩, hpolicy⟩, hkey⟩ := h
  refine ⟨hid, ?_, ?_⟩
  · cases hp : s.map.get plan.inputs.id with
    | none =>
      rw [hp] at hrecord
      cases hrecord
    | some p =>
      rw [hp] at hrecord
      have hsame : sameKeys p.keys plan.record.keys = true := by
        have hrec : sameRecord p plan.record = true := hrecord
        simp only [sameRecord, Bool.and_eq_true] at hrec
        exact hrec.1.1
      refine ⟨p, rfl, ?_, sameKeys_kvno hsame⟩
      rw [← hpolicy, boundPolicy, hp]
      rfl
  · intro hsome
    rcases hkey with hnone | hkey
    · rw [Option.isNone_iff_eq_none] at hnone
      rw [hnone] at hsome
      cases hsome
    · exact hkey

theorem staged_renews :
    Leads ((Rekey.staged seen name realm word etypes).run env actor keepold) b (fun v done =>
      v = true → RenewsNext env actor keepold (.staged seen name realm word etypes) b done etypes)
      fun _ => True := by
  refine .read trivial fun found hfound => ?_
  cases found with
  | none => exact fun h => nomatch h
  | some prepared =>
    have hmake : (Rekey.staged seen name realm word etypes).make env actor keepold b
        = .ok (prepared.plan.inputs.id, prepared.keys) b := by
      show (read _ >>= _ : Change _) b = _
      rw [bind_ok_run (read_run hfound)]
      rfl
    obtain ⟨planned, hplanned, hprepare⟩ := bind_ok hfound
    cases planned with
    | none => cases hprepare
    | some plan =>
      obtain ⟨prepared', hderive, hprepare⟩ := bind_ok hprepare
      cases hprepare
      obtain ⟨inputs, hinputs, hplan⟩ := planPassword_ok hplanned
      obtain ⟨rfl, hkeys⟩ := derive_ok hderive
      obtain ⟨rfl, -, -, hkvno, -⟩ := chpassPlan_ok hplan
      obtain ⟨hname, hrealm, -, hkeysalts, -⟩ := chpassInputs_ok hinputs
      show Leads (if prepared.plan.stands b.store then _ else _) b _ _
      split
      · rename_i hstands
        obtain ⟨hid, ⟨p, hp, hpolicy, hkvnos⟩, hkey⟩ := stands_spec hstands
        refine (commitPassword_keys hkey).bind ?_
        rintro _ done - ⟨q, p', hq, hp', hkept, hchanged⟩ -
        rw [hp] at hq
        obtain rfl := Option.some.inj hq
        obtain ⟨hall, hnil⟩ := keysFromPassword_ok hkeys
        rw [hpolicy] at hkeysalts
        rw [hname, hrealm] at hid
        refine ⟨_, p, p.keys, prepared.keys, p', ⟨hchanged, hid, hp, newKeys_of_make hmake, hp',
          .inl rfl, hkept⟩, ?_, hnil.trans (noneWanted_iff hkeysalts)⟩
        intro k hk
        rw [hall k hk, hkvno, nextKvno_congr hkvnos]
      · exact fun h => nomatch h

variable {new : List KeyEntry}

theorem chrandKeys_ok {id : Str} (h : chrandKeys env s name realm etypes keepold = .ok (id, new)) :
    ∃ p, s.resolveId (lookupPrincipalId name realm) = some id ∧ s.map.get id = some p
      ∧ (∀ k ∈ new, k.kvno = nextKvno p.keys) ∧ (new = [] ↔ Rekey.NoneWanted env s p etypes) := by
  obtain ⟨_, h⟩ := rejectIf_bind_ok h
  obtain ⟨⟨id', p⟩, hentry, h⟩ := bind_ok h
  obtain ⟨hid, hp⟩ := entryIn_ok.mp hentry
  obtain ⟨useKs, hkeysalts, h⟩ := bind_ok h
  obtain ⟨new', hnew, h⟩ := bind_ok h
  obtain ⟨_, -, h⟩ := bind_ok h
  cases h
  obtain ⟨hall, hnil⟩ := randomKeys_ok hnew
  refine ⟨p, hid, hp, hall, hnil.trans ?_⟩
  rw [← noneWanted_iff hkeysalts]
  split
  · cases useKs <;> simp
  · rfl

theorem random_renews :
    Leads ((Rekey.random name realm etypes).run env actor keepold) b (fun _ done =>
      RenewsNext env actor keepold (.random name realm etypes) b done etypes) fun _ => True := by
  refine Leads.bind ?_ fun _ _ _ h => h
  refine .read trivial fun ⟨id, new⟩ hkeys => .edit trivial fun s' hs' => ?_
  obtain ⟨p, hid, hp, hall, hnil⟩ := chrandKeys_ok hkeys
  obtain ⟨p', hp', hkept⟩ := rekeyEntry_ok hs' hid hp
  rw [← bind_assoc]
  refine Leads.bind (finish_leads fun done hstore hchanged => ?_) fun _ _ _ h => h
  have hmake := read_run (g := fun s => chrandKeys env s name realm etypes keepold) hkeys
  refine ⟨id, p, p.keys, new, p', ⟨hchanged, hid, hp, newKeys_of_make hmake, ?_, .inl rfl, hkept⟩,
    hall, hnil⟩
  rw [hstore]
  exact hp'

theorem setKeysChecked_ok {id : Str} (h : setKeysChecked env s name realm keys keepold = .ok (id, new)) :
    ∃ p, s.resolveId (lookupPrincipalId name realm) = some id ∧ s.map.get id = some p
      ∧ (∀ k ∈ new, k.kvno = Rekey.givenVersion keys p.keys) ∧ new ≠ [] := by
  cases keys with
  | nil => cases h
  | cons k keys =>
    obtain ⟨_, h⟩ := rejectIf_bind_ok h
    obtain ⟨_, h⟩ := rejectIf_bind_ok h
    obtain ⟨⟨id', p⟩, hentry, h⟩ := bind_ok h
    obtain ⟨hid, hp⟩ := entryIn_ok.mp hentry
    obtain ⟨_, h⟩ := rejectIf_bind_ok h
    obtain ⟨_, -, h⟩ := bind_ok h
    obtain ⟨_, h⟩ := rejectIf_bind_ok h
    cases h
    refine ⟨p, hid, hp, fun k' hk' => ?_, by simp⟩
    obtain ⟨k₀, -, rfl⟩ := mem_map.mp hk'
    rfl

theorem given_renews :
    Leads ((Rekey.given name realm keys).run env actor keepold) b (fun _ done =>
      ∃ id p new p', Renews env actor keepold (.given name realm keys) b done id p p.keys new p'
        ∧ (∀ k ∈ new, k.kvno = Rekey.givenVersion keys p.keys) ∧ new ≠ []) fun _ => True := by
  refine Leads.bind ?_ fun _ _ _ h => h
  refine .read trivial fun ⟨id, new⟩ hkeys => .edit trivial fun s' hs' =>
    finish_leads fun done hstore hchanged => ?_
  obtain ⟨p, hid, hp, hall, hne⟩ := setKeysChecked_ok hkeys
  obtain ⟨p', hp', hkept⟩ := rekeyEntry_ok hs' hid hp
  have hmake := read_run (g := fun s => setKeysChecked env s name realm keys keepold) hkeys
  refine ⟨id, p, new, p', ⟨hchanged, hid, hp, newKeys_of_make hmake, ?_, .inl rfl, hkept⟩, hall,
    hne⟩
  rw [hstore]
  exact hp'

theorem installs_next_iff {p p' : Principal} {old : List KeyEntry} (hplanned : KeysAs p.keys old)
    (hkeys : p'.keys = withOldKeys new old keepold) (hall : ∀ k ∈ new, k.kvno = nextKvno old)
    (hnil : new = [] ↔ Rekey.NoneWanted env s p etypes) :
    (∀ k ∈ new, k ∈ p'.keys) ∧ Current new p' ↔ Rekey.Fresh env keepold s p etypes := by
  have hbelow : (∀ k ∈ old, k.kvno < 65535) ↔ ∀ k ∈ p.keys, k.kvno < 65535 := by
    rcases hplanned with rfl | ⟨hnone, k, rfl, hkvno⟩
    · rfl
    · rw [hnone]
      refine ⟨fun _ _ hk => (nomatch hk), fun _ k' hk' => ?_⟩
      rw [mem_singleton.mp hk', hkvno]
      decide
  by_cases hne : new = []
  · refine ⟨fun _ => .inr (.inr (hnil.mp hne)), fun _ => ?_⟩
    rw [hne]
    exact ⟨fun _ hk => (nomatch hk), fun _ hk => (nomatch hk)⟩
  · rw [current_iff hall hne hkeys, Rekey.Fresh, ← hnil, ← hbelow]
    constructor
    · rintro ⟨-, hzero | hlast⟩
      · exact .inl hzero
      · exact .inr (.inl hlast)
    · intro h
      have hcurrent : keepold = 0 ∨ ∀ k ∈ old, k.kvno < 65535 := by
        rcases h with hzero | hlast | hnone
        · exact .inl hzero
        · exact .inr hlast
        · exact absurd hnone hne
      refine ⟨?_, hcurrent⟩
      rw [hkeys, new_kept_iff hall hne]
      rcases hcurrent with hzero | hlast
      · exact .inl (by rw [hzero]; decide)
      · exact versionKept_next hlast

theorem Rekey.run_installs_iff {r : Rekey} (hrun : r.run env actor keepold b = .ok true done) :
    done.changed = true ∧ ∃ id p new p', b.store.resolveId r.id = some id
      ∧ b.store.map.get id = some p ∧ r.newKeys env actor keepold b = some (id, new)
      ∧ done.store.map.get id = some p'
      ∧ (r.Installs new p' ↔ r.Fits env keepold b.store p) := by
  cases r with
  | password name realm word etypes =>
    obtain ⟨id, p, old, new, p', h, hall, hnil⟩ := password_renews.ok hrun
    exact ⟨h.changed, id, p, new, p', h.resolves, h.entry, h.made, h.entry',
      installs_next_iff h.planned h.keys hall hnil⟩
  | staged seen name realm word etypes =>
    obtain ⟨id, p, old, new, p', h, hall, hnil⟩ := staged_renews.ok hrun rfl
    exact ⟨h.changed, id, p, new, p', h.resolves, h.entry, h.made, h.entry',
      installs_next_iff h.planned h.keys hall hnil⟩
  | random name realm etypes =>
    obtain ⟨id, p, old, new, p', h, hall, hnil⟩ := random_renews.ok hrun
    exact ⟨h.changed, id, p, new, p', h.resolves, h.entry, h.made, h.entry',
      installs_next_iff h.planned h.keys hall hnil⟩
  | given name realm keys =>
    obtain ⟨id, p, new, p', h, hall, hne⟩ := given_renews.ok hrun
    refine ⟨h.changed, id, p, new, p', h.resolves, h.entry, h.made, h.entry', ?_⟩
    show (∀ k ∈ new, k ∈ p'.keys) ↔ _
    rw [h.keys]
    exact new_kept_iff hall hne

end Runs

/-- **When a change of keys installs them.**  For every password change, `randkey` and `setkey` that
succeeds, on every database: the new keys are on the entry, and current after a password change or
`randkey`, exactly when no old key is kept or the versions have not come to the last one; for
`setkey`, when fewer versions than are kept stand above the one it gives. -/
theorem rekey_installs_iff (env : AdminEnv) (actor : Str) (keepold : UInt32) (r : Rekey)
    (db db' : Database)
    (hrun : change env.answers (r.run env actor keepold) db = (.ok (.ok true), db')) :
    ∃ id p new p', db.disk.resolveId r.id = some id ∧ db.disk.map.get id = some p
      ∧ r.newKeys env actor keepold db.begun = some (id, new)
      ∧ db'.store.map.get id = some p' ∧ db'.disk = db'.store
      ∧ (r.Installs new p' ↔ r.Fits env keepold db.disk p) := by
  have hends := change_ends env.answers (r.run env actor keepold) db
  rw [hrun] at hends
  cases hends with
  | unchanged v done hlock hdone hchanged =>
    obtain ⟨hchanged', -⟩ := Rekey.run_installs_iff hdone
    rw [hchanged] at hchanged'
    cases hchanged'
  | saved v _ done hlock hdone hchanged hsave hr =>
    rcases hr with hr | ⟨e, -, hr⟩
    · cases hr
      obtain ⟨-, id, p, new, p', hid, hp, hnew, hp', hiff⟩ := Rekey.run_installs_iff hdone
      exact ⟨id, p, new, p', hid, hp, hnew, hp', rfl, hiff⟩
    · cases hr

/-! ### A password change at the last version -/

def wornKey (kvno : UInt32) : KeyEntry :=
  KeyEntry.new .aes256CtsHmacSha196 ⟨.aes256CtsHmacSha196, render 10 kvno.toNat⟩ kvno

/-- A database whose one principal has come to the last key version. -/
def wornDatabase : Database :=
  { aliceDatabase with store := wornStore, disk := wornStore }
where
  wornStore : PrincipalStore :=
    { aliceDatabase.disk with
      map := ({} : PrincipalMap).insert (str "alice@R")
        { aliceFailing with keys := [wornKey 65535, wornKey 65534] } }

def newPassword : Rekey :=
  .password ⟨1, [str "alice"]⟩ (str "R") (str "secret") [⟨.aes256CtsHmacSha196, 0⟩]

def lostKey : KeyEntry :=
  KeyEntry.new .aes256CtsHmacSha196 ⟨.aes256CtsHmacSha196, str "secretRalice"⟩ 1

/-- The password is changed with one old version to be kept, and the change succeeds: the entry has
its two old keys and not the new one. -/
theorem password_change_loses_key :
    (change {} (newPassword.run (plainAdminEnv {}) (str "admin") 2) wornDatabase).1 = .ok (.ok true)
      ∧ newPassword.newKeys (plainAdminEnv {}) (str "admin") 2 wornDatabase.begun
        = some (str "alice@R", [lostKey])
      ∧ ∃ p', (change {} (newPassword.run (plainAdminEnv {}) (str "admin") 2)
            wornDatabase).2.store.map.get (str "alice@R") = some p'
          ∧ ¬ newPassword.Installs [lostKey] p' := by
  have hkeys : ((change {} (newPassword.run (plainAdminEnv {}) (str "admin") 2)
      wornDatabase).2.store.map.get (str "alice@R")).map (·.keys)
        = some [wornKey 65535, wornKey 65534] := by
    decide +kernel
  obtain ⟨p', hp', hkeys⟩ := Option.map_eq_some_iff.mp hkeys
  refine ⟨by decide +kernel, by decide +kernel, p', hp', fun h => ?_⟩
  have hmem := h.1 lostKey List.mem_cons_self
  rw [hkeys] at hmem
  exact absurd hmem (by decide +kernel)

/-- With no old key kept, the same change installs its key. -/
theorem rekey_installs_plain :
    ∃ id p new p', wornDatabase.disk.resolveId newPassword.id = some id
      ∧ wornDatabase.disk.map.get id = some p
      ∧ newPassword.newKeys (plainAdminEnv {}) (str "admin") 0 wornDatabase.begun = some (id, new)
      ∧ (change {} (newPassword.run (plainAdminEnv {}) (str "admin") 0)
          wornDatabase).2.store.map.get id = some p'
      ∧ newPassword.Installs new p' := by
  have hok : (change {} (newPassword.run (plainAdminEnv {}) (str "admin") 0) wornDatabase).1
      = .ok (.ok true) := by
    decide +kernel
  obtain ⟨id, p, new, p', hid, hp, hnew, hp', -, hiff⟩ :=
    rekey_installs_iff (plainAdminEnv {}) (str "admin") 0 newPassword wornDatabase _ (Prod.ext hok rfl)
  exact ⟨id, p, new, p', hid, hp, hnew, hp', hiff.mpr (.inl rfl)⟩

end Kerber
