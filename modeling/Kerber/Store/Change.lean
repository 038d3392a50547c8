import Kerber.Kdc.LockoutFile
import Kerber.Store.Keys

/-!
# Changes of the database

A change runs under the exclusive lock of the database (`PrincipalStore::change` of `store.rs`): the
store is brought up to date, edited in memory and written, and a change that fails is undone.  The
lockout records are not part of this: they are written in place while the change runs.

`Database` is a store with what lies behind it, `Change` a step of a change, `change` the whole of
one.  What the lock, the log and the disk answer is given by `Answers`, the rest of what a change asks
for by `AdminEnv`.
-/

namespace Kerber

/-! ### Looking entries up -/

namespace PrincipalStore

variable (s : PrincipalStore)

def canonicalId (name : PrincipalName) (realm : Str) : Except Error Str :=
  match s.resolveId (lookupPrincipalId name realm) with
  | some id => .ok id
  | none => .error .notFound

def getInRealm (name : PrincipalName) (realm : Str) : Option Principal :=
  s.get (lookupPrincipalId name realm)

def entryIn (name : PrincipalName) (realm : Str) : Except Error (Str × Principal) := do
  let id ← s.canonicalId name realm
  match s.map.get id with
  | some p => return (id, p)
  | none => throw .notFound

/-- The policy an entry is bound to. -/
def policyOf (p : Principal) : Option NamedPolicy :=
  p.pwPolicy.bind s.policies.lookup

def boundPolicy (id : Str) : Option NamedPolicy :=
  (s.map.get id).bind s.policyOf

/-- What is written through `get_mut`. -/
def setEntry (id : Str) (p : Principal) : PrincipalStore :=
  { s with map := s.map.update id fun _ => p }

def putPrincipal (p : Principal) : Except Error PrincipalStore :=
  match dbArgsPutError p.tlData with
  | some e => .error e
  | none =>
    let settled := s.settleRid { p with tlData := dropTypes [tlDbArgs] p.tlData }
    let p := settled.1
    let s := settled.2
    if p.name.componentsJoined ≠ str "K/M" ∧ (s.map.ridOwner p.rid).any (· ≠ p.id) then
      .error (.invalidArgument (str "duplicate RID"))
    else .ok { s with map := s.map.insert p.id p }

end PrincipalStore

def Principal.fromKeys (name : PrincipalName) (realm : Str) (keys : List KeyEntry) (salt : Str)
    (attributes : UInt32) (maxLife : Nat) : Principal :=
  { name, realm, keys, salt, attributes, maxLife, mkvno := 1, dbEntryLen := kdbV1BaseLength }

def canonicalModActor (actor realm : Str) : Str :=
  if 64 ∈ actor then actor else actor ++ str "@" ++ realm

/-- `stamp_admin_tl`. -/
def stamp (now : UInt32) (actor : Str) (pwdChange : Bool) (p : Principal) : Principal :=
  stampAdminTl now (canonicalModActor actor p.realm) pwdChange p

/-! ### What a change asks for -/

/-- `store::Policy`, as far as the administrative operations read it. -/
structure AdminPolicy where
  requiresPreauth : Bool
  (maxLife maxRenewableLife : Nat)
  defaultPrincipalFlags : Option UInt32
  defaultPrincipalExpiration : UInt32
  supportedEnctypes : List KeySalt

def AdminPolicy.passwordKeysalts (policy : AdminPolicy) : List KeySalt :=
  if policy.supportedEnctypes = [] then
    [⟨.aes256CtsHmacSha196, 0⟩, ⟨.aes128CtsHmacSha196, 0⟩]
  else policy.supportedEnctypes

/-- A call of the kadm5 hooks, before a change is committed. -/
inductive HookCall
  | chpass (princ : PrincipalName) (realm : Str) (keepold : UInt32) (password : Option Str)
      (etypes : List EncryptionType)
  | create (princ : PrincipalName) (realm : Str) (mask : UInt32) (password : Option Str)
      (etypes : List EncryptionType)
  | modify (princ : PrincipalName) (realm : Str) (mask : UInt32)
  | rename (old : PrincipalName) (oldRealm : Str) (new : PrincipalName) (newRealm : Str)
  | remove (princ : PrincipalName) (realm : Str)
  | alias (alias_ : PrincipalName) (aliasRealm : Str) (target : PrincipalName) (targetRealm : Str)

/-- What the lock, the update log and the disk answer; `none` is success. -/
structure Answers where
  /-- Taking the exclusive lock and reading what others have written. -/
  lock : Option Error := none
  /-- `save_through`. -/
  through : Option Error := none
  /-- Preparing the log and writing the change. -/
  save : Option Error := none
  /-- `finish_staged`, after the change has been written. -/
  finish : Option Error := none
  /-- Whether the database can be read again. -/
  rereads : Bool := true

/-- The surroundings of a change: the time, the realm's configuration, the plugin modules and the
libraries. -/
structure AdminEnv extends KeyLibs where
  policy : AdminPolicy
  now : UInt32
  hook : HookCall → Except Error Unit
  /-- `pwqual::run`, for a principal, its policy and a password. -/
  pwqual : PrincipalName → Str → Option Str → Str → Except Error Unit
  answers : Answers

/-! ### Changes -/

/-- A store, the database behind it as reading it gives it, and the lockout records beside it. -/
structure Database where
  (store disk : PrincipalStore)
  lockouts : HashMap Str Lockout
  changed : Bool := false
  wroteThrough : Bool := false

namespace Database

def lockoutOf (db : Database) (p : Principal) : Lockout :=
  (db.lockouts.lookup p.id).getD (Lockout.of p)

/-- `LockoutState::update`. -/
def updateLockout (db : Database) (p : Principal) (stamp : UInt32) (update : LockoutUpdate) :
    Database :=
  { db with lockouts := db.lockouts.insert p.id (update.apply (db.lockoutOf p) stamp) }

def renameRow (db : Database) (oldId newId : Str) : Database :=
  match db.lockouts.lookup oldId with
  | some l => { db with lockouts := (db.lockouts.insert newId l).erase oldId }
  | none => db

def readBack (a : Answers) (db : Database) : Database :=
  if a.rereads then { db with store := db.disk } else db

end Database

/-- A step of a change.  What it did stays when it fails. -/
abbrev Change := EStateM Error Database

namespace Change

variable {α : Type}

def read (f : PrincipalStore → Except Error α) : Change α := fun db =>
  match f db.store with
  | .ok a => .ok a db
  | .error e => .error e db

def edit (f : PrincipalStore → Except Error PrincipalStore) : Change Unit := fun db =>
  match f db.store with
  | .ok s => .ok () { db with store := s }
  | .error e => .error e db

/-- `save_if_configured`. -/
def save : Change Unit := fun db => .ok () { db with changed := true }

def saveThrough (a : Answers) : Change Unit := fun db =>
  match a.through with
  | none => .ok () { db with wroteThrough := true, disk := db.store }
  | some e => .error e { db with wroteThrough := true }

/-- `zero_fail_count_in_file`, for the entry under an id. -/
def zeroFailCount (now : UInt32) (id : Str) : Change Unit := fun db =>
  match db.store.map.get id with
  | some p => .ok () (db.updateLockout p now { zeroFailCount := true })
  | none => .ok () db

/-- `rename_lockout_in_file`. -/
def renameLockout (oldId newId : Str) : Change Unit := fun db =>
  .ok () (db.renameRow oldId newId)

end Change

/-- `change`: the outer answer is the database's, the inner one the operation's. -/
def change {α : Type} (a : Answers) (f : Change α) (db : Database) :
    Except Error (Except Error α) × Database :=
  match a.lock with
  | some e => (.error e, db)
  | none =>
    let before := { db with store := db.disk, changed := false, wroteThrough := false }
    match f before with
    | .ok v done =>
      if done.changed then
        match a.save with
        | some e => (.error e, done.readBack a)
        | none =>
          let saved := { done with disk := done.store }
          match a.finish with
          | some e => (.error e, saved)
          | none => (.ok (.ok v), saved)
      else (.ok (.ok v), done)
    | .error e done =>
      -- What was written through is not undone: the store is read again.
      (.ok (.error e), if done.wroteThrough then done.readBack a
        else { done with store := before.store })

end Kerber
