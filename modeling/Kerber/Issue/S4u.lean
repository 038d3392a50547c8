import Kerber.Issue.Checks
import Kerber.Issue.Reply

/-!
# Second tickets and requests on behalf of a user

The PAC of a presented ticket, the second ticket of a request, and the checks of the requests that
use it: user-to-user, S4U2Self and S4U2Proxy (`krb5_kdc::ad`, `issue/tgs_policy.rs`).
-/

namespace Kerber.Issue

open FlagBit Status Err

structure SecondTicket where
  part : TicketPart
  server : Principal
  pac : Option Str

/-- `S4u2Self`; `x509` is the PA-S4U-X509-USER the user was named in. -/
structure S4u2Self where
  user : PrincipalName
  realm : Str
  «local» : Option Principal
  x509 : Option Str

def utf8OrEmpty (r : Str) : Str :=
  if isUtf8 r then r else []

/-! ### The PAC of a presented ticket -/

def pacVerifyRetryable : Except Error Unit → Bool
  | .error (.protocol code _ _ _) => code = modified || code = etypeNosupp
  | _ => false

def wireUnsupportedPacCksum : Error → Error
  | .protocol code text eData detail =>
    .protocol (if code = etypeNosupp then generic else code) text eData detail
  | e => e

section

variable (l : KdcLibs)

def pacPrivsvrKey (server : Principal) (tgtKey : ProtocolKey) : Except Error ProtocolKey :=
  match stringAttr server (str "pac_privsvr_enctype") with
  | none => .ok tgtKey
  | some val =>
    match l.fromMitName val with
    | none => .error (proto generic headerPac)
    | some et =>
      if tgtKey.etype = et then .ok tgtKey
      else (l.ciphers.derivePrfplusEnctype tgtKey (str "pac_privsvr") et).mapError fun _ =>
        proto generic headerPac

def tryVerifyPac (pac : Str) (serverKey : ProtocolKey) (headerServer : Principal)
    (tgtKey : ProtocolKey) (encDer : Str) : Except Error Unit := do
  let privsvr ← pacPrivsvrKey l headerServer tgtKey
  verifyPacSignatures l.macs pac serverKey (some privsvr) (some encDer)
    (shouldHaveTicketSignature headerServer.name)

/-- `kvno.saturating_sub(1)`. -/
def kvnoBefore (kvno : UInt32) : UInt32 :=
  if kvno = 0 then 0 else kvno - 1

def olderKey (policy : Policy) (tgt : Principal) (kvno : UInt32) : Option KeyEntry :=
  match policy.findEnctype tgt none kvno with
  | .ok k => some k
  | .error _ => tgt.keyHistory.find? fun k => k.kvno = kvno && policy.etypePermitted k.etype

/-- The loop of `get_verified_pac` over older keys, from `kvno` down. -/
def retryOlderKeys (policy : Policy) (pac : Str) (ticketKey : ProtocolKey)
    (headerServer tgt : Principal) (der : Str) : Nat → UInt32 → Except Error Unit
  | 0, _ => .error (proto modified headerPac)
  | tries + 1, kvno =>
    if kvno = 0 then .error (proto modified headerPac)
    else
      match olderKey policy tgt kvno with
      | none => .error (proto modified headerPac)
      | some old =>
        if (tryVerifyPac l pac ticketKey headerServer old.key der).isOk then .ok ()
        else retryOlderKeys policy pac ticketKey headerServer tgt der tries (kvnoBefore kvno)

/-- `get_verified_pac` for the PAC of a service ticket. -/
def verifyServicePac (policy : Policy) (part : TicketPart) (pac : Str) (ticketKey : ProtocolKey)
    (headerServer tgt : Principal) : Except Error Unit :=
  match policy.firstCurrentKey tgt with
  | .error _ => .error (proto generic headerPac)
  | .ok cur => do
    let der ← ticketChecksumDer l.toLibs part
    let first := tryVerifyPac l pac ticketKey headerServer cur.key der
    if pacVerifyRetryable first then
      retryOlderKeys l policy pac ticketKey headerServer tgt der 2
        (kvnoBefore (currentKvno tgt))
    else first

/-- `get_verified_pac`: the PAC of a ticket, verified with the key the ticket is under and, for a
service ticket, with the key of the local TGS. -/
def getVerifiedPac (policy : Policy) (part : TicketPart) (ticketKey : ProtocolKey)
    (headerServer : Principal) (localTgt : Option Principal) : Except Error (Option Str) :=
  match pacFromTicketPart l.ad part with
  | none => .ok none
  | some pac =>
    if headerServer.name.isKrbtgt then do
      (verifyPacSignatures l.macs pac ticketKey none none false).mapError wireUnsupportedPacCksum
      return some pac
    else
      match localTgt with
      | none => .error (proto generic headerPac)
      | some tgt => do
        verifyServicePac l policy part pac ticketKey headerServer tgt
        return some pac

end

/-! ### What a PAC says of its client -/

def pacClientInfoEq (pac : Pac) (authtime : UInt32) (name : Str) (realm : Option Str) : Bool :=
  match pac.uniqueBuffer pacClientInfo with
  | .ok (some buf) =>
    match parseClientInfo buf with
    | some (gotTime, gotName) =>
      gotTime == authtime && gotName == realm.elim name fun r => name ++ str "@" ++ r
    | none => false
  | _ => false

def TicketPart.authSeconds (t : TicketPart) : UInt32 :=
  UInt32.ofNat t.authtime.unixSeconds

def pacClientMatches (pac : Pac) (encTkt : TicketPart) : Bool :=
  pacClientInfoEq pac encTkt.authSeconds encTkt.cname.componentsJoined none

/-- `pac_princ_with_realm`: one at sign parses with the realm required, two as an enterprise
name. -/
def pacPrincWithRealm (pac : Pac) : Option (PrincipalName.ParsedName × UInt32) := do
  let buf ← (pac.uniqueBuffer pacClientInfo).toOption.join
  let (authtime, name) ← parseClientInfo buf
  let n := name.count 64
  if n ≠ 1 ∧ n ≠ 2 then none
  else
    let parsed ← (PrincipalName.parseNameEx name [] (n = 2)).toOption
    if parsed.hasRealm then some (parsed, authtime) else none

def pacDelegation (pac : Pac) : Option S4uDelegationInfo := do
  let buf ← (pac.uniqueBuffer pacDelegationInfo).toOption.join
  (S4uDelegationInfo.parse buf).toOption

def verifyDelegPac (pac : Pac) (encTkt : TicketPart) (target : Option PrincipalName) : Bool :=
  match pacPrincWithRealm pac, pacDelegation pac with
  | some (_, authtime), some di =>
    authtime == encTkt.authSeconds
      && target.all (fun server => di.proxyTarget == server.componentsJoined)
      && di.transitedServices.getLast?
        == some (encTkt.cname.unparseWithRealm (utf8OrEmpty encTkt.crealm))
  | _, _ => false

def rbcdPacClient (pac : Str) : Except Error (PrincipalName × Str) := do
  let refusal := proto badoption rbcdPacPrinc
  let parsed ← (Pac.parse pac).mapError fun _ => refusal
  match pacPrincWithRealm parsed with
  | none => .error refusal
  | some (name, _) => do
    let princ ← (PrincipalName.tryNew PrincipalName.ntMsPrincipal name.components).mapError fun _ =>
      refusal
    return (princ, name.realm)

def checkNormalTgsPac (encTkt : TicketPart) (pac : Option Str) (server : Principal)
    (isCrossrealm : Bool) : Except Error Unit :=
  match pac with
  | none => .ok ()
  | some raw => do
    let parsed ← (Pac.parse raw).mapError mapPacErr
    rejectIf (!pacClientMatches parsed encTkt
        && !(isCrossrealm && server.name.isCrossTgsPrincipal server.realm
          && verifyDelegPac parsed encTkt none))
      (proto badoption headerPac)

/-! ### The second ticket -/

/-- The local TGS a second ticket is verified with: a ticket for a TGS has no signature of it. -/
def secondTicketTgt (extra : Ticket) (localTgt : Option Principal) :
    Except Error (Option Principal) :=
  if extra.sname.isKrbtgt then .ok none
  else localTgt.elim (.error (proto generic getLocalTgt)) fun t => .ok (some t)

/-- `decrypt_2ndtkt` for a ticket whose server entry was found. -/
def openSecondTicket (l : KdcLibs) (store : KdcStore) (extra : Ticket) (server : Principal)
    (localTgt : Option Principal) : Except Error SecondTicket := do
  rejectIf (attr server kdbDisallowAllTix || attr server kdbDisallowSvr)
    (proto sPrincipalUnknown secondTktServer)
  let tktEtype ← (EncryptionType.ofIana extra.encPart.etype).mapError fun _ =>
    proto generic secondTktServer
  let (key, _) ← (findServerKey store.policy server (some tktEtype)
    (extra.encPart.kvno.getD 0)).mapError (withStatus · secondTktServer)
  let part ← (decryptTicketPart l.toLibs key extra).mapError fun _ =>
    proto badIntegrity secondTktDecrypt
  let tgt ← secondTicketTgt extra localTgt
  let pac ← (getVerifiedPac l store.policy part key server tgt).mapError
    (withStatus · secondTktPac)
  return { part, server, pac }

/-- `decrypt_2ndtkt`; `body` is the body of the request as it was received. -/
def decrypt2ndtkt (l : KdcLibs) (store : KdcStore) (body : ReqBody) (localTgt : Option Principal) :
    Except Error (Option SecondTicket) :=
  if !body.kdcOptions.bit cnameInAddlTkt && !body.kdcOptions.bit encTktInSkey then
    .ok none
  else
    match body.additionalTickets.bind List.head? with
    | none => .ok none
    | some extra => do
      let realm ← utf8Realm extra.realm
      let found ← store.fetch (lookupPrincipalId extra.sname realm)
      match found with
      | none => .error (proto sPrincipalUnknown secondTktServer)
      | some server => (openSecondTicket l store extra server localTgt).map some

variable (store : KdcStore) (body : KdcReqBody)

/-- `check_tgs_u2u`: the client of the second ticket is the server. -/
def checkTgsU2u (stkt : Option SecondTicket) (dest : Principal) : Except Error Unit :=
  match stkt with
  | none => .error (proto badoption no2ndTkt)
  | some st => do
    rejectIf (!st.server.name.isLocalTgsPrincipal st.server.realm
        || !st.server.name.isKrbtgtFor dest.realm)
      (proto policy secondTktNotTgs)
    let crealm ← utf8Realm st.part.crealm
    let found ← store.fetch (lookupPrincipalId st.part.cname crealm)
    match found with
    | none => .error (proto serverNomatch secondTktMismatch)
    | some client =>
      rejectIf (client.name != dest.name || client.realm != dest.realm)
        (proto serverNomatch secondTktMismatch)

/-! ### S4U2Self -/

def s4u2selfAsInvalidOptions : Bool :=
  body.kdcOptions.bit forwarded || body.kdcOptions.bit proxy
    || body.kdcOptions.bit validate || body.kdcOptions.bit renew
    || body.kdcOptions.bit encTktInSkey || body.kdcOptions.bit cnameInAddlTkt

/-- The server entry `check_tgs_s4u2self` validates the user against. -/
def emptyServer : Principal :=
  { name := ⟨PrincipalName.ntUnknown, []⟩, realm := [], keys := [] }

/-- The PAC checks of `check_tgs_s4u2self`: the PAC of a local user's request is the service's own,
the one of a foreign user's request names the user. -/
def checkS4u2selfPac (s4u : S4u2Self) (encTkt : TicketPart)
    (pac : Pac) (now : UInt32) : Except Error Unit :=
  match s4u.local with
  | some client => do
    rejectIf (!pacClientMatches pac encTkt)
      (proto badoption s4u2selfLocalPacClient)
    validateAsRequest store client emptyServer body now
  | none =>
    rejectIf (!pacClientInfoEq pac encTkt.authSeconds s4u.user.componentsJoined (some s4u.realm))
      (proto badoption s4u2selfForeignPacClient)

def checkTgsS4u2self (s4u : S4u2Self)
    (headerCross isReferral : Bool) (encTkt : TicketPart) (headerPac : Option Str) (now : UInt32) :
    Except Error Unit := do
  rejectIf (s4u2selfAsInvalidOptions body) (proto badoption invalidS4u2selfOptions)
  rejectIf (!headerCross && isReferral) (proto sPrincipalUnknown lookingUpServer)
  rejectIf (s4u.local.isSome && headerCross && !isReferral)
    (proto cPrincipalUnknown notCrossRealmRequest)
  rejectIf (s4u.local.isNone && !headerCross) (proto policy s4u2selfClientNotOurs)
  rejectIf (s4u.local.isNone && s4u.user.nameString.isEmpty)
    (proto policy invalidXrealmS4u2selfRequest)
  let raw ← headerPac.elim (.error (proto tgtRevoked s4u2selfNoPac)) .ok
  let parsed ← (Pac.parse raw).mapError fun _ =>
    proto badoption s4u2selfLocalPacClient
  checkS4u2selfPac store body s4u encTkt parsed now

/-! ### S4U2Proxy -/

def nonTgtOrU2u : Bool :=
  body.kdcOptions.bit forwarded || body.kdcOptions.bit proxy
    || body.kdcOptions.bit renew || body.kdcOptions.bit validate
    || body.kdcOptions.bit encTktInSkey

def isClientDbAlias (entry : Principal) (princ : PrincipalName) : Bool :=
  match store.fetchName princ with
  | .ok (some p) => p.name == entry.name && p.realm == entry.realm
  | _ => false

/-- The checks of `check_tgs_s4u2proxy` for a header ticket of another realm: the second ticket is
the foreign KDC's word on who is impersonated. -/
def checkCrossEvidence (header : TicketPart) (st : SecondTicket) (stPac : Pac)
    (destRealm : Str) (isReferral : Bool) : Except Error Unit := do
  let inst := utf8OrEmpty ((st.server.name.nameString[1]?).getD [])
  rejectIf (isReferral || !st.server.name.isCrossTgsPrincipal st.server.realm || inst != destRealm
      || st.part.cname != header.cname
      || utf8OrEmpty st.part.crealm != utf8OrEmpty header.crealm)
    (proto badoption xrealmEvidenceTicketMismatch)
  rejectIf (!verifyDelegPac stPac st.part body.sname)
    (proto badoption s4u2proxyCrossStktPac)

/-- The checks of `check_tgs_s4u2proxy` for a header ticket of this realm: the second ticket was
issued to the service that presents it. -/
def checkLocalEvidence (header : TicketPart) (st : SecondTicket) (stPac : Pac) :
    Except Error Unit := do
  rejectIf (!isClientDbAlias store st.server header.cname)
    (proto serverNomatch evidenceTicketMismatch)
  rejectIf (!pacClientMatches stPac st.part) (proto badoption s4u2proxyLocalStktPac)

/-- `check_tgs_s4u2proxy`, for a second ticket that is there. -/
def checkTgsS4u2proxy (header : TicketPart)
    (headerPac : Option Str) (st : SecondTicket) (destRealm : Str)
    (isCrossrealm isReferral : Bool) : Except Error Unit := do
  rejectIf (!st.part.flags.forwardable) (proto badoption evidenceTktNotForwardable)
  rejectIf (nonTgtOrU2u body) (proto badoption invalidS4u2proxyOptions)
  rejectIf (body.sname.any PrincipalName.isKrbtgt) (proto policy notAllowedToDelegate)
  let hpac ← headerPac.elim (.error (proto tgtRevoked s4u2proxyNoHeaderPac)) .ok
  let headerParsed ← (Pac.parse hpac).mapError fun _ =>
    proto badoption s4u2proxyHeaderPac
  rejectIf (!pacClientMatches headerParsed header) (proto badoption s4u2proxyHeaderPac)
  let spac ← st.pac.elim (.error (proto modified s4u2proxyNoStktPac)) .ok
  let stParsed ← (Pac.parse spac).mapError fun _ =>
    proto badoption s4u2proxyLocalStktPac
  if isCrossrealm then checkCrossEvidence body header st stParsed destRealm isReferral
  else checkLocalEvidence store header st stParsed

/-- `PAC_OPTIONS`. -/
def paPacOptions : Int32 := 167

def paPacRbcd (l : KdcLibs) (padata : Option (List PaData)) : Except Error Bool :=
  match findPa padata paPacOptions with
  | none => .ok false
  | some raw => (l.pacOptions raw).mapError fun _ =>
      proto badoption invalidS4u2proxyOptions

def checkS4u2proxyPolicy (l : KdcLibs) (store : KdcStore) (padata : Option (List PaData))
    (dest impersonatorName : PrincipalName) (impersonatorRealm : Str)
    (impersonator resource : Principal) (isCrossrealm isReferral : Bool) : Except Error Unit := do
  let supportRbcd ← paPacRbcd l padata
  if isReferral then
    rejectIf (!supportRbcd) (proto badoption unsupportedS4u2proxyRequest)
  else
    let byResource := supportRbcd && KdcStore.allowedFrom resource impersonatorName impersonatorRealm
    let byImpersonator := !isCrossrealm && store.allowedToDelegate impersonator dest
    rejectIf (!byResource && !byImpersonator)
      (proto badoption (if supportRbcd || !isCrossrealm then notAllowedToDelegate
        else unsupportedS4u2proxyRequest))

end Kerber.Issue
