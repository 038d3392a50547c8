import Kerber.KdbDump.TlData
import Kerber.Store.PrincipalMap

/-!
# The principal store

The in-memory database (`store.rs`) with its RIDs (`store/rid.rs`), aliases (`kdb.rs`) and the key of
the password histories (`store/history.rs`).
-/

namespace Kerber

structure NamedPolicy where
  name : Str
  (minLength minClasses history maxFail pwFailcntInterval pwLockoutDuration pwMinLife : UInt32)
  pwMaxLife : UInt32
  allowedKeysalts : Option Str
deriving DecidableEq

structure Lockout where
  lastSuccess : UInt32 := 0
  lastFailed : UInt32 := 0
  failAuthCount : UInt32 := 0
deriving DecidableEq

def Lockout.of (p : Principal) : Lockout :=
  { lastSuccess := p.lastSuccess, lastFailed := p.lastFailed, failAuthCount := p.failAuthCount }

/-- `PrincipalStore`: what reading, writing and reloading the database use.  `overlay` holds the
lockout counters kept beside the database. -/
structure PrincipalStore where
  realm : Str
  map : PrincipalMap := {}
  policies : HashMap Str NamedPolicy := ∅
  domainSid : RpcSid
  nextRid : UInt32
  loadedSpan : Option (Nat × Nat) := none
  overlay : HashMap Str Lockout := ∅

def ridAdministrator : UInt32 := 500
def ridKrbtgt : UInt32 := 502
def ridFirstUser : UInt32 := 1000

/-- `u32::saturating_add(1)`. -/
def succSat (n : UInt32) : UInt32 :=
  if n = 0xFFFFFFFF then n else n + 1

namespace PrincipalStore

variable (s : PrincipalStore)

def principalById (id : Str) : Option Principal :=
  s.map.get id

def lockoutKept (p : Principal) : Lockout :=
  (s.overlay.lookup p.id).getD (Lockout.of p)

/-! ### Aliases -/

def maxAliasDepth : Nat := 10

/-- The loop of `resolve_alias_id`; `depth` is how many links may still be followed. -/
def followAlias (realm : Str) (lookup : Str → Option Principal) : Nat → Str → Option Str
  | depth, id => do
    let p ← lookup id
    match p.aliasTarget with
    | none => return id
    | some target =>
      match depth, principalFromUnparsed target realm with
      | depth + 1, .ok (name, targetRealm) =>
        followAlias realm lookup depth (lookupPrincipalId name targetRealm)
      | _, _ => none

def resolveId (id : Str) : Option Str :=
  followAlias s.realm s.map.get maxAliasDepth id

def get (s : PrincipalStore) (id : Str) : Option Principal := do
  s.map.get (← s.resolveId id)

def getName (name : PrincipalName) : Option Principal :=
  s.get (lookupPrincipalId name s.realm)

/-! ### RIDs -/

def bumpNextRid (rid : UInt32) : PrincipalStore :=
  if ridFirstUser ≤ rid ∧ s.nextRid ≤ rid then { s with nextRid := succSat rid } else s

def eqIgnoreAsciiCase (a b : Str) : Bool :=
  let lower (c : UInt8) : UInt8 := if 65 ≤ c && c ≤ 90 then c + 32 else c
  a.map lower = b.map lower

def allocRid (name : PrincipalName) : UInt32 × PrincipalStore :=
  if name.nameType = PrincipalName.ntPrincipal
      ∧ eqIgnoreAsciiCase name.componentsJoined (str "Administrator")
      ∧ (s.map.ridOwner ridAdministrator).isNone then
    (ridAdministrator, s)
  else (s.nextRid, { s with nextRid := succSat s.nextRid })

/-- The RID an entry gets. -/
def assignRid (p : Principal) : UInt32 × PrincipalStore :=
  if p.rid = 0 ∧ p.aliasTarget.isNone then
    if p.name.isKrbtgtFor s.realm ∧ p.realm = s.realm then (ridKrbtgt, s)
    else s.allocRid p.name
  else (p.rid, s)

def settleRid (p : Principal) : Principal × PrincipalStore :=
  let got := s.assignRid p
  ({ p with rid := got.1 }, got.2.bumpNextRid got.1)

/-! ### Password histories -/

def kadminHistory : PrincipalName :=
  ⟨PrincipalName.ntPrincipal, [str "kadmin", str "history"]⟩

/-- The last of the keys with the largest number (`max_by_key`). -/
def maxByKvno : List KeyEntry → Option KeyEntry
  | [] => none
  | k :: keys =>
    match maxByKvno keys with
    | none => some k
    | some best => if best.kvno < k.kvno then some k else some best

def historyKey : Option (UInt32 × ProtocolKey) := do
  let p ← s.getName kadminHistory
  let k ← maxByKvno p.keys
  return (k.kvno, k.key)

end PrincipalStore

end Kerber
