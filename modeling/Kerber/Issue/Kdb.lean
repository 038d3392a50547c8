import Kerber.Issue.KdcUtil
import Kerber.Pac.Sign
import Kerber.Store.Store
import Kerber.Types.Transited

/-!
# The database and the policy of the realm

What the issuing code reads of the database (`kdb::PrincipalRead`) and of the realm's policy
(`store::Policy`), and how it picks the key of an entry.
-/

namespace Kerber.Issue

inductive KeyLookup
  | noMatchingKey
  | noPermittedKey
deriving DecidableEq

def KeyLookup.message : KeyLookup → Str
  | noPermittedKey => str "No matching key in entry having a permitted enctype"
  | noMatchingKey => str "No matching key in entry"

variable (policy : Policy) (p : Principal) (store : KdcStore)

/-- The highest key version of an entry. -/
def topKvno : Option UInt32 :=
  (p.keys.map (·.kvno)).max?

def firstCurrentKey : Option KeyEntry :=
  (topKvno p).bind fun kvno => p.keys.find? (·.kvno = kvno)

/-- `Principal::find_enctype`. -/
def findEnctypeIn (etype : Option EncryptionType) (kvno : UInt32)
    (permitted : EncryptionType → Bool) : Except KeyLookup KeyEntry :=
  if etype.any fun e => !permitted e then .error .noPermittedKey
  else
    match topKvno p with
    | none => .error .noMatchingKey
    | some top =>
      let kvno := if kvno = 0 then top else kvno
      let matching := p.keys.filter fun k => k.kvno = kvno && etype.all (k.etype = ·)
      match matching.find? fun k => permitted k.etype with
      | some k => .ok k
      | none => .error (if matching = [] then .noMatchingKey else .noPermittedKey)

/-- `store::Policy`, as far as the issuing code reads it. -/
structure Policy extends RealmPolicy where
  permittedEnctypes : Option (List EncryptionType)
  (allowWeakCrypto allowRc4 allowDes3 : Bool)
  capaths : Transited.Capaths
  (rejectBadTransit disablePac adIdentity restrictAnon : Bool)
  (hostBasedServices noHostReferral : Str)
  disableLockout : Bool
  skew : Int
  pkinitRequireFreshness : Bool
  (pkinitIndicators spakePreauthIndicators : List Str)
  encryptedChallengeIndicator : Option Str
  realmForHost : Str → Option Str

namespace Policy

def etypePermitted (e : EncryptionType) : Bool :=
  policy.permittedEnctypes.all fun v => v.contains e

def findEnctype (etype : Option EncryptionType) (kvno : UInt32) : Except KeyLookup KeyEntry :=
  findEnctypeIn p etype kvno policy.etypePermitted

def firstCurrentKey : Except KeyLookup KeyEntry :=
  policy.findEnctype p none 0

end Policy

/-- `kdb::PrincipalRead`. -/
structure KdcStore where
  realm : Str
  policy : Policy
  fetch : Str → Except Error (Option Principal)
  /-- The buffers of `pac_identity(name, realm)`. -/
  pacIdentity : PrincipalName → Str → PacIdentity
  namedPolicyFor : Principal → Option NamedPolicy

namespace KdcStore

def fetchName (name : PrincipalName) : Except Error (Option Principal) :=
  store.fetch (lookupPrincipalId name store.realm)

def fetchKrbtgt : Except Error (Option Principal) :=
  store.fetchName (.krbtgt store.realm)

def allowedToDelegate (server : Principal) (proxy : PrincipalName) : Bool :=
  server.s4uAllowedTo.any fun entry =>
    match principalFromUnparsed entry store.realm with
    | .ok (name, realm) => PrincipalName.compare name realm proxy store.realm
    | .error _ => false

def allowedFrom (resource : Principal) (client : PrincipalName) (clientRealm : Str) : Bool :=
  resource.s4uAllowedFrom.contains (client.unparseWithRealm clientRealm)

/-- The part of the database the times and flags are computed from. -/
def read : PrincipalRead where
  realm := store.realm
  policy := store.policy.toRealmPolicy
  fetchName := store.fetchName

end KdcStore

end Kerber.Issue
