import Kerber.Store.Change

/-!
# Password changes

What a new password is checked against, and how it becomes the keys of an entry
(`store/password.rs`), with the principal that keeps the key of the histories (`store/history.rs`).

A change is planned (`chpassPlan`), its keys are derived (`PasswordPlan.derive`), and it is committed
(`commitPassword`).  `setPasswordEtypesKeepoldNIn` does all of it inside one change; a change that was
planned before the lock was taken is committed by `applyPassword`, if what the plan read still holds.
-/

namespace Kerber

/-- `u32::saturating_add`. -/
def addSat (a b : UInt32) : UInt32 :=
  if a.toNat + b.toNat < 2 ^ 32 then a + b else 0xFFFFFFFF

def lastPwdUnix (p : Principal) : UInt32 :=
  match findTl tlLastPwdChange p.tlData with
  | some t => if 4 ≤ t.contents.length then le32At t.contents 0 else 0
  | none => 0

/-- `c_password`: the bytes before the first NUL. -/
def cPassword (password : Str) : Str :=
  password.takeWhile (· ≠ 0)

/-! ### Quality -/

/-- The character classes of a byte, as `check_against_policy` tells them apart. -/
inductive CharClass
  | lower
  | upper
  | digit
  | punct
  | other
deriving DecidableEq

/-- The class of a byte; one outside ASCII is of the last class. -/
def charClass (c : UInt8) : CharClass :=
  if 97 ≤ c ∧ c ≤ 122 then .lower
  else if 65 ≤ c ∧ c ≤ 90 then .upper
  else if 48 ≤ c ∧ c ≤ 57 then .digit
  else if 33 ≤ c ∧ c ≤ 126 then .punct
  else .other

def checkAgainstPolicy (password : Str) (pol : NamedPolicy) : Except Error Unit := do
  rejectIf (0 < pol.minLength && password.length < pol.minLength.toNat)
    (.passwordPolicy (str "min_length " ++ render 10 pol.minLength.toNat))
  rejectIf (0 < pol.minClasses && (password.map charClass).dedup.length < pol.minClasses.toNat)
    (.passwordPolicy (str "min_classes " ++ render 10 pol.minClasses.toNat))

variable (env : AdminEnv) (s : PrincipalStore) (name : PrincipalName)

/-- The keys a password must not repeat under a policy that keeps `history` of them, the current one
included. -/
def barredKeys (p : Principal) (history : UInt32) : List KeyEntry :=
  p.keys ++ p.keyHistory.filter fun k => k.kvno ∈ topVersions (history.toNat - 1) p.keyHistory

/-- Whether a password gives one of the barred keys; the entry's salt is used for all. -/
def repeatsKey (libs : KeyLibs) (p : Principal) (history : UInt32) (password : Str) : Bool :=
  (barredKeys p history).any fun k =>
    match libs.stringToKey k.etype password p.salt with
    | .ok new => new.bytes = k.key.bytes
    | .error _ => false

def checkPasswordQualityIn (realm : Str) (password : Str) : Except Error Unit :=
  let password := cPassword password
  match s.getInRealm name realm with
  | none => .ok ()
  | some p => do
    let pol := s.policyOf p
    match pol with
    | some pol => checkAgainstPolicy password pol
    | none => pure ()
    env.pwqual name realm (if pol.isSome then p.pwPolicy else none) password
    match pol with
    | some pol =>
      rejectIf (pol.history != 0 && repeatsKey env.toKeyLibs p pol.history password)
        (.passwordPolicy (str "history"))
    | none => pure ()

/-! ### The history principal -/

namespace PrincipalStore

def masterEtype : EncryptionType :=
  (((s.get (str "K/M@" ++ s.realm)).bind (·.keys.head?)).map (·.etype)).getD .aes256CtsHmacSha196

/-- The store with `kadmin/history` made, and its key: the entry is put, then put again with the key
that is used. -/
def makeHistory (actor : Str) (s : PrincipalStore) :
    Except Error (PrincipalStore × ProtocolKey) := do
  let etype := s.masterEtype
  let first ← env.randomKey 0 etype
  let p := Principal.fromKeys kadminHistory s.realm [KeyEntry.new etype first 1]
    (kadminHistory.defaultSalt s.realm) 0 64
  let p := stamp env.now actor true
    (refreshKadmTl { p with maxRenewableLife := env.policy.maxRenewableLife })
  let s ← s.putPrincipal p
  let key ← env.randomKey 1 etype
  match s.map.get p.id with
  | none => throw .notFound
  | some p =>
    let s ← s.putPrincipal
      (stamp env.now actor true { p with keys := [KeyEntry.new etype key initialHistKvno] })
    return (s, key)

end PrincipalStore

/-- `ensure_history_principal`: it is written at once, whatever becomes of the change. -/
def ensureHistoryPrincipal (actor : Str) : Change (UInt32 × ProtocolKey) := do
  match (← get).store.historyKey with
  | some h => return h
  | none =>
    let (s, key) ← Change.read (PrincipalStore.makeHistory env actor)
    Change.edit fun _ => .ok s
    Change.saveThrough env.answers
    return (initialHistKvno, key)

/-! ### Planning -/

structure ChpassInputs where
  name : PrincipalName
  (realm id : Str)
  policy : Option NamedPolicy
  keysalts : List KeySalt

structure PasswordPlan where
  inputs : ChpassInputs
  record : Principal
  kvno : UInt32
  password : Str

structure PreparedPassword where
  plan : PasswordPlan
  keys : List KeyEntry

def PasswordPlan.derive (libs : KeyLibs) (plan : PasswordPlan) : Except Error PreparedPassword := do
  let keys ← keysFromPassword libs plan.inputs.keysalts plan.password plan.record.name
    plan.record.realm plan.kvno
  return { plan, keys }

def isHistoryName (realm : Str) : Bool :=
  realm = s.realm && name.componentsJoined = str "kadmin/history"

def protectedPrincipal : Error :=
  .invalidArgument (str "Cannot change protected principal")

def chpassInputs (realm : Str) (etypes : List KeySalt) : Except Error ChpassInputs := do
  rejectIf (isHistoryName s name realm) protectedPrincipal
  let (id, p) ← s.entryIn name realm
  let policy := s.policyOf p
  let keysalts ← applyKeysaltPolicy env.toKeyLibs (policy.bind (·.allowedKeysalts)) etypes
    env.policy.passwordKeysalts
  return { name, realm, id, policy, keysalts }

def chpassPlan (inputs : ChpassInputs) (password : Str) : Except Error PasswordPlan := do
  checkPasswordQualityIn env s inputs.name inputs.realm password
  match s.map.get inputs.id with
  | none => throw .notFound
  | some record => return { inputs, record, kvno := nextKvno record.keys, password }

/-- `plan_password`; there is no plan when `kadmin/history` has to be made first. -/
def planPassword (realm : Str)
    (password : Str) (etypes : List KeySalt) : Except Error (Option PasswordPlan) := do
  let inputs ← chpassInputs env s name realm etypes
  if inputs.policy.isSome ∧ s.historyKey.isNone then return none
  return some (← chpassPlan env s inputs (cPassword password))

/-! ### Committing -/

def applyPwMaxLifeIn (realm : Str) : Except Error PrincipalStore := do
  let (id, p) ← s.entryIn name realm
  let maxLife := ((s.policyOf p).map (·.pwMaxLife)).getD 0
  return s.setEntry id
    { p with pwExpire := if maxLife = 0 then 0 else addSat (lastPwdUnix p) maxLife }

/-- What every new password or key does to an entry beside its keys. -/
def afterRekey (actor : Str) (p : Principal) : Principal :=
  stamp env.now actor true
    { p with attributes := p.attributes &&& ~~~kdbRequiresPwchange, failAuthCount := 0 }

/-- `replace_password_keys`, on the entry.  `history` is how many passwords the policy keeps, and the
history key. -/
def replacePasswordKeys (p : Principal) (newKeys : List KeyEntry)
    (history : Option (UInt32 × UInt32 × ProtocolKey)) (keepold : UInt32) (actor : Str) :
    Except Error Principal := do
  let old := p.keys
  let p := { p with keys := newKeys }
  let p ← match history with
    | some (nhist, histKvno, histKey) =>
      (recordHistory env.crypto p old nhist histKvno histKey).map refreshKadmTl
    | none => pure p
  return afterRekey env actor { p with keys := withOldKeys newKeys old keepold }

/-- The edit of `commit_password`. -/
def writePassword (prepared : PreparedPassword)
    (history : Option (UInt32 × UInt32 × ProtocolKey)) (keepold : UInt32) (actor : Str)
    (s : PrincipalStore) : Except Error PrincipalStore := do
  let inputs := prepared.plan.inputs
  env.hook (.chpass inputs.name inputs.realm keepold (some prepared.plan.password)
    (inputs.keysalts.map (·.etype)))
  match s.map.get inputs.id with
  | none => throw .notFound
  | some p =>
    let p ← replacePasswordKeys env p prepared.keys history keepold actor
    let s := s.setEntry inputs.id { p with salt := saltOfKeys p.keys p.name p.realm }
    applyPwMaxLifeIn s inputs.name inputs.realm

def commitPassword (prepared : PreparedPassword) (keepold : UInt32) (actor : Str) :
    Change Unit := do
  let history ← match prepared.plan.inputs.policy with
    | some pol => do
      let h ← ensureHistoryPrincipal env actor
      pure (some (pol.history, h))
    | none => pure none
  Change.edit (writePassword env prepared history keepold actor)
  Change.zeroFailCount env.now prepared.plan.inputs.id
  Change.save

/-- `set_password_etypes_keepold_n_in`.  A password that is refused still leaves `kadmin/history`. -/
def setPasswordEtypesKeepoldNIn (realm password : Str)
    (keepold : UInt32) (actor : Str) (etypes : List KeySalt) : Change Unit := do
  let inputs ← Change.read fun s => chpassInputs env s name realm etypes
  if inputs.policy.isSome then
    let _ ← ensureHistoryPrincipal env actor
  let prepared ← Change.read fun s => do
    (← chpassPlan env s inputs (cPassword password)).derive env.toKeyLibs
  commitPassword env prepared keepold actor

/-- `same_keys`: the type inside a key is not compared. -/
def sameKeys (a b : List KeyEntry) : Bool :=
  a.length = b.length
    && (a.zip b).all fun (x, y) =>
      x.etype = y.etype && x.kvno = y.kvno && x.saltType = y.saltType && x.kdbSalt = y.kdbSalt
        && x.key.bytes = y.key.bytes

def sameRecord (a b : Principal) : Bool :=
  sameKeys a.keys b.keys && sameKeys a.keyHistory b.keyHistory
    && { a with keys := b.keys, keyHistory := b.keyHistory } = b

/-- Whether what a plan read is still so. -/
def PasswordPlan.stands (plan : PasswordPlan) (s : PrincipalStore) : Bool :=
  s.resolveId (lookupPrincipalId plan.inputs.name plan.inputs.realm) = some plan.inputs.id
    && (s.map.get plan.inputs.id).any (sameRecord · plan.record)
    && s.boundPolicy plan.inputs.id = plan.inputs.policy
    && (plan.inputs.policy.isNone || s.historyKey.isSome)

def applyPassword (prepared : PreparedPassword) (keepold : UInt32) (actor : Str) : Change Bool := do
  if prepared.plan.stands (← get).store then
    commitPassword env prepared keepold actor
    return true
  else return false

end Kerber
