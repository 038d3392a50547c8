import Kerber.Issue.Kdb
import Kerber.Issue.Message
import Mathlib.Data.List.Sort

/-!
# Checks both exchanges make

What the AS and the TGS exchange check of a request and its entries (`issue/kdc_util.rs`), with the
lockout of a client (`lockout.rs`) and the choice of the encryption types.
-/

namespace Kerber.Issue

open Status Err

def findPa (padata : Option (List PaData)) (ty : Int32) : Option Str :=
  padata.bind fun ps => (ps.find? (·.padataType = ty)).map (·.padataValue)

def utf8Realm (r : Str) : Except Error Str :=
  if isUtf8 r then .ok r else .error (proto generic unknownReason)

/-- The libraries the exchanges use beside those of a single ticket. -/
structure KdcLibs extends Libs where
  body : Codec ReqBody
  /-- `kdc_req_body_der`: the body in a request as it was received. -/
  kdcReqBodyDer : Str → Option Str
  /-- Whether a PA-PAC-OPTIONS asks for resource-based constrained delegation. -/
  pacOptions : Str → Except Str Bool
  /-- Whether a PA-PAC-REQUEST asks for a PAC. -/
  pacRequest : Str → Except Str Bool
  fromMitName : Str → Option EncryptionType
  /-- `parse_enctype_list(text, allow_weak)`. -/
  parseEnctypeList : Str → Bool → Option (List EncryptionType)

/-! ### Lockout -/

def lastAdminUnlock (p : Principal) : UInt32 :=
  match p.tlData.find? (·.ty = tlLastAdminUnlock) with
  | some t => if t.contents.length = 4 then le32At t.contents 0 else 0
  | none => 0

def lockedCheckP (stamp maxFail lockoutDuration : UInt32) (p : Principal) : Bool :=
  if !(p.lastFailed > lastAdminUnlock p) then false
  else if maxFail == 0 || p.failAuthCount < maxFail then false
  else if lockoutDuration == 0 then true
  else p.lastFailed + lockoutDuration > stamp

/-- `lookup_lockout_policy`: the maximum and the duration of the client's policy. -/
def lookupLockoutPolicy (store : KdcStore) (p : Principal) : UInt32 × UInt32 :=
  (store.namedPolicyFor p).elim (0, 0) fun pol => (pol.maxFail, pol.pwLockoutDuration)

def lockoutCheckPolicy (store : KdcStore) (p : Principal) (stamp : UInt32) : Except Error Unit :=
  if store.policy.disableLockout then .ok ()
  else
    let limits := lookupLockoutPolicy store p
    rejectIf (lockedCheckP stamp limits.1 limits.2 p) (proto clientRevoked lockedOut)

/-! ### The client and the server -/

def anonymousRealm : Str := str "WELLKNOWN:ANONYMOUS"

def anonymousPrincipalName : PrincipalName :=
  ⟨PrincipalName.ntWellknown, [str "WELLKNOWN", str "ANONYMOUS"]⟩

/-- `is_anonymous_principal`: the name type does not count. -/
def isAnonymousPrincipal (name : PrincipalName) : Bool :=
  name.nameString == anonymousPrincipalName.nameString

def checkAnon (store : KdcStore) (client server : PrincipalName) : Except Error Unit :=
  rejectIf (store.policy.restrictAnon && isAnonymousPrincipal client
      && !server.isLocalTgsPrincipal store.realm)
    (proto policy anonymousNotAllowed)

def validateAsRequest (store : KdcStore) (client server : Principal) (body : KdcReqBody)
    (now : UInt32) : Except Error Unit := do
  rejectIf (body.kdcOptions.asInvalidBits != 0) (proto badoption invalidAsOptions)
  let pwchangeSvc := attr server kdbPwchangeService
  rejectIf (client.expiration != 0 && now > client.expiration)
    (proto nameExp clientExpired)
  rejectIf (client.pwExpire != 0 && now > client.pwExpire && !pwchangeSvc)
    (proto keyExpired clientKeyExpired)
  rejectIf (server.expiration != 0 && now > server.expiration)
    (proto serviceExp serviceExpired)
  rejectIf (attr client kdbRequiresPwchange && !pwchangeSvc)
    (proto keyExpired requiredPwchange)
  rejectIf ((body.kdcOptions.bit FlagBit.mayPostdate || body.kdcOptions.bit FlagBit.postdated)
      && (attr client kdbDisallowPostdated || attr server kdbDisallowPostdated))
    (proto cannotPostdate postdateNotAllowed)
  rejectIf (attr client kdbDisallowAllTix) (proto clientRevoked clientLockedOut)
  rejectIf (attr server kdbDisallowAllTix) (proto sPrincipalUnknown serviceLockedOut)
  rejectIf (attr server kdbDisallowSvr) (proto mustUseUser2user serviceNotAllowed)
  checkAnon store client.name (body.sname.getD (.krbtgt store.realm))
  lockoutCheckPolicy store client now

/-! ### Keys and encryption types -/

/-- The distinct key versions of an entry, the highest first. -/
def kvnosDown (p : Principal) : List UInt32 :=
  ((p.keys.map (·.kvno)).insertionSort (· ≥ ·)).dedup

def findServerKey (policy : Policy) (p : Principal) (searchEnctype : Option EncryptionType)
    (kvno : UInt32) : Except Error (ProtocolKey × UInt32) :=
  let key :=
    if kvno = 0 then
      (kvnosDown p).findSome? fun v => (policy.findEnctype p searchEnctype v).toOption
    else (policy.findEnctype p searchEnctype kvno).toOption
  match key with
  | none => .error (proto generic processTgs)
  | some k =>
    if searchEnctype.any (· ≠ k.etype) then .error (proto generic processTgs)
    else .ok (k.key, k.kvno)

def stringAttr (p : Principal) (key : Str) : Option Str :=
  (p.stringAttrs.find? (·.1 = key)).map (·.2)

section

variable (l : KdcLibs)

/-- The encryption types of the `session_enctypes` attribute, when it has any. -/
def sessionEnctypes (policy : Policy) (server : Principal) : Option (List EncryptionType) :=
  match stringAttr server (str "session_enctypes") with
  | some raw => if raw = [] then none else l.parseEnctypeList raw policy.allowWeakCrypto
  | none => none

def dbentrySupportsEnctype (policy : Policy) (server : Principal) (enctype : EncryptionType) :
    Bool :=
  match sessionEnctypes l policy server with
  | some list => list.contains enctype
  | none => enctype = .aes256CtsHmacSha196 || (policy.findEnctype server (some enctype) 0).isOk

/-- Whether `select_session_keytype` takes an encryption type. -/
def sessionKeytypeOk (policy : Policy) (server : Principal) (e : EncryptionType) : Bool :=
  policy.etypePermitted e && !(e == .des3CbcSha1 && !policy.allowDes3)
    && !(e == .rc4Hmac && !policy.allowRc4) && dbentrySupportsEnctype l policy server e

def selectSessionKeytype (policy : Policy) (server : Principal) (requested : List Int32) :
    Except Error EncryptionType :=
  match (requested.filterMap fun n => (EncryptionType.known n).toOption).find?
      (sessionKeytypeOk l policy server) with
  | some e => .ok e
  | none => .error (proto etypeNosupp badEncryptionType)

/-- `PAC_REQUEST`. -/
def paPacRequest : Int32 := 128

def includePacP (padata : Option (List PaData)) : Bool :=
  match findPa padata paPacRequest with
  | none => true
  | some raw => (l.pacRequest raw).toOption.getD true

def includePacForReply (store : KdcStore) (server : Principal) (padata : Option (List PaData))
    (isAsReq subjectHadPac anonymous : Bool) : Bool :=
  if attr server kdbNoAuthDataRequired then false
  else if store.policy.disablePac || anonymous then false
  else if isAsReq then includePacP l padata
  else subjectHadPac

end

def pacHasAdData (policy : Policy) (subjectPac : Option Str) (initial : Bool) : Bool :=
  if initial then policy.adIdentity
  else
    match subjectPac with
    | none => false
    | some raw =>
      match Pac.parse raw with
      | .error _ => false
      | .ok pac => pac.buffers.any (·.kind == pacLogonInfo)

end Kerber.Issue
