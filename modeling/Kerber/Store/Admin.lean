import Kerber.Store.Password

/-!
# Administrative operations on entries

The kadm5 unlock and rename paths (`store/principal.rs`) and new random or given keys (`store/keys.rs`),
as steps of a change.
-/

namespace Kerber

variable (env : AdminEnv) (s : PrincipalStore) (name : PrincipalName) (realm : Str)

/-! ### Modifying -/

def editEntryIn (f : Principal → Principal) (s : PrincipalStore) : Except Error PrincipalStore := do
  let (id, p) ← s.entryIn name realm
  return s.setEntry id (f p)

/-- `admin_unlock_in`, on the entry. -/
def adminUnlock (now : UInt32) (actor : Str) (p : Principal) : Principal :=
  stampAdminTl now actor false
    { p with
      failAuthCount := 0
      tlData := dropTypes [tlLastAdminUnlock] p.tlData ++ [⟨tlLastAdminUnlock, le32 now⟩] }

/-- The failures of an entry forgotten, in the entry and in its lockout record. -/
def forgetFailures (f : Principal → Principal) : Change Unit := do
  let id ← Change.read fun s => s.canonicalId name realm
  Change.edit (editEntryIn name realm f)
  Change.zeroFailCount env.now id
  Change.save

def adminUnlockIn (realm actor : Str) : Change Unit :=
  forgetFailures env name realm fun p => adminUnlock env.now (canonicalModActor actor p.realm) p

def clearFailAuthCountIn (realm actor : Str) : Change Unit :=
  forgetFailures env name realm fun p => stamp env.now actor false { p with failAuthCount := 0 }

/-! ### Keys -/

def sameSlot (a b : KeyEntry) : Bool :=
  let salt (k : KeyEntry) := (k.saltType.filter (0 < ·)).getD 0
  a.etype = b.etype && salt a = salt b

def hasDupSlots : List KeyEntry → Bool
  | [] => false
  | k :: keys => keys.any (sameSlot k) || hasDupSlots keys

def rekeyEntry (keys : List KeyEntry)
    (keepold : UInt32) (actor : Str) (s : PrincipalStore) : Except Error PrincipalStore := do
  let s ← editEntryIn name realm
    (fun p => afterRekey env actor { p with keys := withOldKeys keys p.keys keepold }) s
  applyPwMaxLifeIn s name realm

/-- What `chrand_etypes_keepold_in` finds before it edits: the entry's id and its new keys. -/
def chrandKeys (etypes : List KeySalt) (keepold : UInt32) : Except Error (Str × List KeyEntry) := do
  let history := isHistoryName s name realm
  rejectIf (history && 0 < keepold) protectedPrincipal
  let (id, existing) ← s.entryIn name realm
  let useKs ← applyKeysaltPolicy env.toKeyLibs ((s.policyOf existing).bind (·.allowedKeysalts))
    etypes env.policy.passwordKeysalts
  let newKeys ← randomKeys env.toKeyLibs (if history then useKs.take 1 else useKs)
    (nextKvno existing.keys)
  env.hook (.chpass name realm keepold none (newKeys.map (·.etype)))
  return (id, newKeys)

def chrandEtypesKeepoldIn
    (etypes : List KeySalt) (keepold : UInt32) (actor : Str) : Change (List KeyEntry) := do
  let (id, newKeys) ← Change.read fun s => chrandKeys env s name realm etypes keepold
  Change.edit (rekeyEntry env name realm newKeys keepold actor)
  Change.zeroFailCount env.now id
  Change.save
  return newKeys

/-- What `set_keys_in` finds before it edits: the entry's id and the keys with their version. -/
def setKeysChecked
    (keys : List KeyEntry) (keepold : UInt32) : Except Error (Str × List KeyEntry) := do
  match keys with
  | [] => throw (.invalidArgument (str "Invalid argument"))
  | k :: _ =>
    rejectIf (isHistoryName s name realm) protectedPrincipal
    let want := k.kvno
    rejectIf (keys.any (·.kvno ≠ want)) (.crypto (str "setkey kvno"))
    let (id, p) ← s.entryIn name realm
    rejectIf (want ≠ 0 && (65535 < want || 0 < keepold && p.keys.any (·.kvno = want)))
      (.crypto (str "setkey kvno"))
    let kvno := if want = 0 then nextKvno p.keys else want
    let _ ← applyKeysaltPolicy env.toKeyLibs ((s.policyOf p).bind (·.allowedKeysalts))
      (keys.map fun k => ⟨k.etype, (k.saltType.filter (0 < ·)).getD 0⟩) []
    rejectIf (hasDupSlots keys)
      (.invalidArgument (str "Multiple values for single or folded enctype"))
    return (id, keys.map fun k => { k with kvno })

def setKeysIn (keys : List KeyEntry) (keepold : UInt32) (actor : Str) : Change Unit := do
  let (id, keys) ← Change.read fun s => setKeysChecked env s name realm keys keepold
  Change.edit (rekeyEntry env name realm keys keepold actor)
  Change.zeroFailCount env.now id
  Change.save

/-! ### Renaming -/

/-- The edit of `rename_unchecked`. -/
def renameEntry (old : PrincipalName) (oldRealm : Str) (new : PrincipalName)
    (newRealm actor : Str) (s : PrincipalStore) : Except Error PrincipalStore := do
  let oldId := lookupPrincipalId old oldRealm
  rejectIf (s.get (lookupPrincipalId new newRealm)).isSome .alreadyExists
  match s.map.get oldId with
  | none => throw .notFound
  | some p =>
    rejectIf p.aliasTarget.isSome .aliasUnsupported
    env.hook (.rename old oldRealm new newRealm)
    let p ← specializeSalts p
    let p := stamp env.now actor false { p with name := new, realm := newRealm }
    return { s with map := (s.map.remove oldId).insert p.id p }

def renameUnchecked (old : PrincipalName) (oldRealm : Str) (new : PrincipalName)
    (newRealm actor : Str) : Change Unit := do
  Change.edit (renameEntry env old oldRealm new newRealm actor)
  Change.renameLockout (lookupPrincipalId old oldRealm) (lookupPrincipalId new newRealm)
  Change.save

end Kerber
