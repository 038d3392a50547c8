import Kerber.Issue.S4u
import Kerber.Issue.Server
import Kerber.Issue.TgsReq

/-!
# A TGS request from its bytes to the ticket

`issueTgsFrom` follows a request through all of `issue/tgs_req.rs`: the header ticket, the FAST
layer, the server, the S4U user and the second ticket, the indicators, the keys and the transited
path, the flags and times, and the ticket that is minted.  The checks of flags and times are the
ones of `issueTgsBody`; what that takes from its environment is computed here.

The acceptance of the header ticket up to the checksum over the body, the FAST layer, the S4U2Self
padata, the filter for foreign logon information and the encryption of the reply are functions of
what the source gives them (`Run`).
-/

namespace Kerber.Issue.Tgs

open FlagBit Status Err

/-- `HeaderTgt`: what is left of an accepted AP-REQ. -/
structure Header where
  sname : PrincipalName
  realm : Str
  encTkt : TicketPart
  (tgtKey session : ProtocolKey)
  subkey : Option EncryptionKey
  cksum : Option Checksum
  server : Principal

structure FastOk where
  armorKey : ProtocolKey
  innerPadata : List PaData
  innerBody : Str
  nonce : UInt32
  hidesClient : Bool

/-- `TgsReq`. -/
structure Req where
  msgType : Int
  padata : Option (List PaData)
  body : ReqBody

/-- What a reply is made from beside the ticket. -/
structure ReplyInput where
  ticket : Ticket
  cname : PrincipalName
  crealm : Str
  sname : PrincipalName
  session : ProtocolKey
  times : TgsTimes
  caddr : Option HostAddresses
  x509 : Option Str
  header : Header
  fast : Option FastOk
  padata : Option (List PaData)
  nonce : UInt32
  wantEncPa : Bool
  raw : Option Str

/-- `IssuedTgs`; `reply` is the reply around the ticket. -/
structure IssuedTgs where
  ticket : Ticket
  reply : Str
  sessionKey : ProtocolKey
deriving DecidableEq

/-- The KDC as one request finds it: its libraries, its database, the clock readings in the order
they are taken, its random keys and its modules. -/
structure Run where
  libs : KdcLibs
  store : KdcStore
  checkNow : KerberosTime
  (s4uNow dbNow : UInt32)
  issueNow : KerberosTime
  randomKey : EncryptionType → Except Error ProtocolKey
  draw : Draw
  /-- `process_tgs_header` up to the checksum over the body. -/
  acceptHeader : Str → Option HostAddress → Except Error Header
  /-- `unwrap_fast_tgs`: the FAST padata, the AP-REQ, the subkey and the session key. -/
  unwrapFastTgs : Option Str → Str → Option EncryptionKey → ProtocolKey →
    Except Error (Option FastOk)
  wrapAsFast : Option FastOk → ReqBody → Error → Error
  processS4u2selfReq : ProtocolKey → Option EncryptionKey → Option (List PaData) → UInt32 →
    Except Error (Option S4u2Self)
  /-- `filter_cross_realm_logon` with the SID of the local domain. -/
  filterCrossRealmLogon : Str → Except Error Str
  authdataModules : List AuthdataModule
  /-- The answers of the active policy modules. -/
  kdcpolicies : ReqBody → Principal → TicketPart → List Str → List (Except Error PolicyAdjustment)
  /-- The reply around a ticket. -/
  sealReply : ReplyInput → Except Error Str

/-! ### The header ticket -/

def paTgsReq : Int32 := 1
def paFxFast : Int32 := 136
def paReqEncPaRep : Int32 := 149

/-- The refusal of a checksum over the body that does not verify. -/
def cksumRefusal : CryptoError → Error
  | .unsupportedChecksum _ | .badChecksumSize => proto generic processTgs
  | _ => proto badIntegrity processTgs

/-- The checksum of the authenticator over the body of the request. -/
def checkBodyCksum (m : Macs) (h : Header) (bodyDer : Str) : Except Error Unit :=
  match h.cksum with
  | none => .error (proto inappCksum processTgs)
  | some ck => do
    rejectIf (!cksumtypeIsKnown ck.cksumtype) (proto sumtypeNosupp processTgs)
    (m.verifyChecksumType h.session Ku.tgsReqAuthCksum bodyDer ck.cksumtype ck.checksum).mapError
      cksumRefusal

variable (run : Run) (body : ReqBody) (g : Gathered) (r : Resolved)

def processTgsHeader (apRaw bodyDer : Str) (sender : Option HostAddress) : Except Error Header := do
  let h ← run.acceptHeader apRaw sender
  checkBodyCksum run.libs.macs h bodyDer
  return h

/-- The bytes of the body the checksum is over. -/
def bodyDer (req : Req) (raw : Option Str) : Except Error Str :=
  match raw.bind run.libs.kdcReqBodyDer with
  | some slice => .ok slice
  | none => (run.libs.body.encode req.body).mapError Error.asn1

/-! ### Gathering -/

/-- `TgsGather`. -/
structure Gathered where
  header : Header
  padata : Option (List PaData)
  (renew validate : Bool)
  sname : PrincipalName
  headerPac : Option Str
  server : Principal

/-- The part of it the flags and times are computed from. -/
def Gathered.toTgsGather (body : ReqBody) : TgsGather where
  encTkt := g.header.encTkt.toEncTicketPart
  headerSname := g.header.sname
  headerRealm := g.header.realm
  renew := g.renew
  validate := g.validate
  sname := g.sname
  reqRealm := body.realm
  server := g.server

def gatherTgsReqInfo (req : Req) (body : ReqBody) (fast : Option FastOk)
    (header : Header) : Except Error Gathered := do
  rejectIf (body.kdcOptions.unsupportedBits != 0) (proto badoption unknownReason)
  let renew := body.kdcOptions.bit renew
  let validate := body.kdcOptions.bit validate
  rejectIf (renew && validate) (proto badoption ticketNotRenewable)
  let sname ← body.sname.elim (.error (proto sPrincipalUnknown nullServer)) .ok
  let reqRealm ← utf8Realm body.realm
  rejectIf (reqRealm != run.store.realm) (proto generic getLocalTgt)
  let krbtgt ← run.store.fetchKrbtgt
  let headerPac ←
    getVerifiedPac run.libs run.store.policy header.encTkt header.tgtKey header.server krbtgt
  let server ← searchSprinc run.store sname body.realm body.toKdcReqBody
  return { header, padata := fast.elim req.padata fun f => some f.innerPadata, renew, validate,
           sname, headerPac, server }

/-! ### The client, the server and the second ticket -/

/-- What the S4U2Self padata of a request settles. -/
structure SelfPart where
  server : Principal
  client : PrincipalName × Str
  s4u : Option S4u2Self
  referral : Bool

/-- The S4U2Self part of `check_tgs_req`. -/
def resolveSelf : Except Error SelfPart := do
  let encTkt := g.header.encTkt
  let headerClient ← run.store.fetchName encTkt.cname
  match ← run.processS4u2selfReq g.header.session g.header.subkey g.padata body.nonce with
  | none =>
    return { server := g.server, client := (encTkt.cname, encTkt.crealm), s4u := none,
             referral := false }
  | some s4u => do
    let isReferral := tgsIssuingReferral g.sname body.realm g.server
    let isSelf := encTkt.crealm == run.store.realm
      && headerClient.any fun c => c.realm == g.server.realm && c.name == g.server.name
    rejectIf (!isReferral && !isSelf)
      (proto badmatch invalidS4u2selfRequestServerMismatch)
    checkTgsS4u2self run.store body.toKdcReqBody s4u (g.header.realm != run.store.realm) isReferral
      encTkt g.headerPac run.s4uNow
    return { server := { g.server with
               attributes := g.server.attributes &&& ~~~kdbNoAuthDataRequired }
             client := if isReferral then (encTkt.cname, encTkt.crealm) else (s4u.user, s4u.realm)
             s4u := some s4u, referral := isReferral }

/-- `carried_logon`: the logon information of a foreign ticket is filtered. -/
def carriedLogon (headerRealm : Str) (subjectPac : Option Str) : Except Error (Option Str) :=
  match subjectPac.bind fun p => (Pac.parse p).toOption.bind fun parsed =>
      (parsed.uniqueBuffer pacLogonInfo).toOption.join with
  | none => .ok none
  | some logon =>
    if headerRealm = run.store.realm then .ok (some logon)
    else (run.filterCrossRealmLogon logon).map some

/-- Whom a ticket is for and what its PAC is made from. -/
structure Subject where
  s4u2proxy : Bool
  client : PrincipalName × Str
  s4uSubject : Option (PrincipalName × Str)
  (pac evidenceLogon : Option Str)

/-- The client of an S4U2Proxy request across realms, whom the PAC of the second ticket names. -/
def rbcdClient (st : SecondTicket) : Except Error (PrincipalName × Str) := do
  let pac ← st.pac.elim (.error (proto badoption rbcdPacPrinc)) .ok
  rbcdPacClient pac

/-- The user an S4U2Proxy request impersonates: the client of the second ticket, or across realms
the one its PAC names. -/
def proxiedUser (server : Principal)
    (isCrossrealm isReferral : Bool) (st : SecondTicket) : Except Error (PrincipalName × Str) :=
  let check := checkTgsS4u2proxy run.store body.toKdcReqBody g.header.encTkt g.headerPac st
    server.realm isCrossrealm isReferral
  if isCrossrealm then do
    let user ← rbcdClient st
    check
    return user
  else do
    check
    let crealm ← utf8Realm st.part.crealm
    return (st.part.cname, crealm)

def selfLogon (s4u : S4u2Self) : Except Error (Option Str) :=
  if s4u.local.isNone then carriedLogon run g.header.realm g.headerPac else .ok none

/-- The branches of `check_tgs_req` for a request with a second ticket's client, an ordinary one and
an S4U2Self one. -/
def resolveSubject (self : SelfPart)
    (isCrossrealm isReferral : Bool) (stkt : Option SecondTicket) : Except Error Subject :=
  if body.kdcOptions.bit cnameInAddlTkt then
    match stkt with
    | none => .error (proto generic unknownReason)
    | some st => do
      let user ← proxiedUser run body g self.server isCrossrealm isReferral st
      return { s4u2proxy := true, client := if isReferral then self.client else user,
               s4uSubject := some user, pac := st.pac, evidenceLogon := none }
  else
    match self.s4u with
    | none => do
      checkNormalTgsPac g.header.encTkt g.headerPac self.server isCrossrealm
      let evidenceLogon ← carriedLogon run g.header.realm g.headerPac
      return { s4u2proxy := false, client := self.client, s4uSubject := none, pac := g.headerPac,
               evidenceLogon }
    | some s4u => do
      let evidenceLogon ← selfLogon run g s4u
      return { s4u2proxy := false, client := self.client, s4uSubject := some (s4u.user, s4u.realm),
               pac := g.headerPac, evidenceLogon }

/-- What the first half of `check_tgs_req` settles. -/
structure Resolved where
  self : SelfPart
  (isReferral isCrossrealm : Bool)
  localTgt : Option Principal
  stkt : Option SecondTicket
  subject : Subject

/-- The part of it the flags and times are computed from. -/
def Resolved.toTgsResolved : TgsResolved where
  s4u2self := r.self.s4u.isSome
  s4uLocal := r.self.s4u.bind (·.local)
  s4uReferral := r.self.referral
  s4u2proxy := r.subject.s4u2proxy
  stkt := r.stkt.map (·.part.toEncTicketPart)
  ticketCname := r.subject.client.1
  ticketCrealm := r.subject.client.2

/-- The user-to-user check of `check_tgs_req`. -/
def checkU2u (stkt : Option SecondTicket) (server : Principal) : Except Error Unit :=
  if body.kdcOptions.bit encTktInSkey then checkTgsU2u run.store stkt server else .ok ()

/-- `check_tgs_req` up to the policy of the server.  The second ticket is the one of the body as it
was received. -/
def resolve (outer body : ReqBody) (g : Gathered) : Except Error Resolved := do
  let self ← resolveSelf run body g
  let isReferral := tgsIssuingReferral g.sname body.realm self.server
  let isCrossrealm := g.header.realm != self.server.realm
  let localTgt ← run.store.fetchKrbtgt
  let stkt ← decrypt2ndtkt run.libs run.store outer localTgt
  rejectIf (g.header.encTkt.crealm == run.store.realm && isCrossrealm && self.s4u.isNone)
    (proto policy invalidLineage)
  checkU2u run body stkt self.server
  let subject ← resolveSubject run body g self isCrossrealm isReferral stkt
  return { self, isReferral, isCrossrealm, localTgt, stkt, subject }

/-! ### Indicators, keys and the transited path -/

def indicatorTicket : TicketPart :=
  r.stkt.elim g.header.encTkt (·.part)

def localTgtKey : Except Error (Principal × KeyEntry) :=
  match r.localTgt with
  | none => .error (proto generic getLocalTgt)
  | some tgt =>
    ((run.store.policy.firstCurrentKey tgt).mapError fun _ =>
      proto generic getLocalTgt).map (tgt, ·)

/-- The indicators of a request, checked against those the server requires. -/
def authIndicators (tgt : Principal) (tgtKey : ProtocolKey) : Except Error (List Str) :=
  if r.self.s4u.isSome then .ok []
  else do
    let indicators ← getAuthIndicators run.libs.toLibs run.store.policy (indicatorTicket g r) tgt
      tgtKey
    checkIndicators r.self.server indicators
    return indicators

def checkProxyPolicy : Except Error Unit :=
  if r.subject.s4u2proxy then
    match r.stkt with
    | none => .error (proto generic unknownReason)
    | some st =>
      checkS4u2proxyPolicy run.libs run.store g.padata g.sname g.header.encTkt.cname
        g.header.encTkt.crealm st.server r.self.server r.isCrossrealm r.isReferral
  else .ok ()

def get2ndtktEnctype (st : SecondTicket) : Except Error (Option EncryptionType) :=
  match EncryptionType.known st.part.key.keytype with
  | .error _ => .error (proto etypeNosupp badEtypeIn2ndTkt)
  | .ok et => .ok (if body.etype.contains st.part.key.keytype then some et else none)

/-- The key a ticket is encrypted in. -/
structure TicketKey where
  key : ProtocolKey
  kvno : UInt32
  etype : EncryptionType

/-- The key of the second ticket and its encryption type, for a user-to-user request
(`u2u_from_stkt`). -/
def u2uKey : Except Error (Option (TicketKey × Option EncryptionType)) :=
  if body.kdcOptions.bit encTktInSkey then
    match r.stkt with
    | none => .error (proto badoption no2ndTkt)
    | some st => do
      let offered ← get2ndtktEnctype body st
      let key ← st.part.key.toProtocolKey
      return some (⟨key, 0, key.etype⟩, offered)
  else .ok none

def sessionEtype (u2u : Option (TicketKey × Option EncryptionType)) : Except Error EncryptionType :=
  match u2u with
  | some (_, some et) => .ok et
  | _ => selectSessionKeytype run.libs run.store.policy r.self.server body.etype

def ticketKey (u2u : Option (TicketKey × Option EncryptionType)) : Except Error TicketKey :=
  match u2u with
  | some (key, _) => .ok key
  | none =>
    match run.store.policy.firstCurrentKey r.self.server with
    | .error e => .error (protoD generic findingServerKey e.message)
    | .ok skey => .ok ⟨skey.key, skey.kvno, skey.etype⟩

/-- The client realm the transited path begins in. -/
def tktClientRealm : Str :=
  if r.self.s4u.isSome || r.subject.s4u2proxy then r.subject.client.2 else g.header.encTkt.crealm

/-- The transited field of the new ticket: across realms, the realm of the header ticket is added. -/
def newTransited : Except Error TransitedEncoding :=
  let transited := g.header.encTkt.transited
  if r.isCrossrealm && g.header.realm != tktClientRealm g r then do
    rejectIf (transited.trType != 1) (proto trtypeNosupp validateTransitType)
    (transited.appendRealm g.header.realm).mapError fun _ =>
      proto illCrTkt addToTransitedList
  else .ok transited

/-- Whether every realm of a transited field is on the path; a field that does not expand is not. -/
def transitChecked (policy : Policy) (crealm srealm : Str) (t : TransitedEncoding) : Bool :=
  if crealm = anonymousRealm then true
  else
    match t.realmsFor crealm srealm with
    | .ok hops => Transited.transitAllowed policy.capaths crealm srealm hops
    | .error _ => false

/-- What the second half of `check_tgs_req` settles. -/
structure Policed where
  indicators : List Str
  sessionEtype : EncryptionType
  key : TicketKey
  transited : TransitedEncoding
  setTransitedFlag : Bool

/-- `check_tgs_req` after the policy of the server. -/
def policyChecks : Except Error Policed := do
  let (tgt, tgtKey) ← localTgtKey run r
  let indicators ← authIndicators run g r tgt tgtKey.key
  checkProxyPolicy run g r
  checkAnon run.store g.header.encTkt.cname r.self.server.name
  let u2u ← u2uKey body r
  let sessionEtype ← sessionEtype run body r u2u
  let key ← ticketKey run r u2u
  let transited ← newTransited g r
  let setTransitedFlag := !body.kdcOptions.bit disableTransitedCheck
    && transitChecked run.store.policy (tktClientRealm g r) body.realm transited
  let inherited := (g.renew || g.validate)
    && g.header.encTkt.flags.bit transitedPolicyChecked
  rejectIf (!(inherited || setTransitedFlag) && run.store.policy.rejectBadTransit)
    (proto policy badTransit)
  return { indicators, sessionEtype, key, transited, setTransitedFlag }

/-! ### Flags and times -/

/-- The environment of the flags and times once the other steps are done. -/
def timesEnv (p : Policed) : TgsEnv where
  store := run.store.read
  checkNow := run.checkNow
  dbNow := run.dbNow
  issueNow := run.issueNow
  verifyPac := .ok ()
  searchSprinc _ := .ok g.server
  resolve _ := .ok r.toTgsResolved
  policyChecks _ _ := .ok p.setTransitedFlag
  randomKey := .ok ()
  policies := run.kdcpolicies body r.self.server g.header.encTkt p.indicators
  encode := .ok ()

def checkStktRealm (stkt : Option SecondTicket) : Except Error Unit :=
  stkt.elim (.ok ()) fun st => discard (utf8Realm st.part.crealm)

/-- What `check_tgs_req` hands to `tgs_issue_ticket`. -/
structure Checked where
  gathered : Gathered
  resolved : Resolved
  policed : Policed
  session : ProtocolKey
  times : TgsTimes

def checkTgsReq (outer body : ReqBody) (g : Gathered) : Except Error Checked := do
  checkTgsConstraintsSkeleton run.checkNow body.toKdcReqBody g.header.sname g.header.realm
    g.header.encTkt.toEncTicketPart g.sname body.realm g.renew g.validate
  let r ← resolve run outer body g
  checkTgsPolicyFlags run.dbNow r.self.server body.toKdcReqBody g.header.sname.isKrbtgt
    g.header.encTkt.toEncTicketPart
  let p ← policyChecks run body g r
  let session ← run.randomKey p.sessionEtype
  checkStktRealm r.stkt
  let times ← tgsFlagsTimesPolicy (timesEnv run body g r p) body.toKdcReqBody (g.toTgsGather body)
    r.toTgsResolved p.setTransitedFlag
  return { gathered := g, resolved := r, policed := p, session, times }

/-! ### Issuing -/

/-- The service an S4U2Proxy request in one realm passes through. -/
def delegationHop : Option Str :=
  if r.subject.s4u2proxy && !r.isCrossrealm then
    r.stkt.map fun st => st.server.name.unparseWithRealm st.server.realm
  else none

def s4uClientInfo : Option Str :=
  if r.self.s4u.isSome || r.subject.s4u2proxy then
    if r.isReferral then
      match r.subject.s4uSubject with
      | some (n, realm) => some (n.componentsJoined ++ str "@" ++ realm)
      | none => some r.subject.client.1.componentsJoined
    else some r.subject.client.1.componentsJoined
  else none

/-- Whether a ticket is a local user's own, as S4U2Self gives it. -/
def initialPac : Bool :=
  (r.self.s4u.bind (·.local)).isSome

/-- The key the client's authorization data may be under. -/
def clientKey (h : Header) : Except Error ProtocolKey :=
  h.subkey.elim (.ok h.session) EncryptionKey.toProtocolKey

/-- The PAC of the subject with this delegation added, when it has Active Directory data. -/
def updatedPac (c : Checked) (adData : Bool) : Except Error (Option Str) :=
  match adData, delegationHop c.resolved, c.resolved.subject.pac with
  | true, some hop, some raw => (updateDelegationInfo raw c.gathered.sname hop).map some
  | _, _, _ => .ok none

def ticketPac (c : Checked) (adData : Bool) (updated : Option Str) : TicketPac :=
  let r := c.resolved
  if adData then
    .ad r.subject.evidenceLogon (if initialPac r then none else updated.or r.subject.pac)
      (s4uClientInfo r) (if initialPac r then r.subject.s4uSubject else none)
  else
    .mit { subject := r.subject.pac, s4u := r.self.s4u.isSome || r.subject.s4u2proxy,
           issuingReferral := r.isReferral,
           delegation := (delegationHop r).map (c.gathered.sname, ·),
           altcprinc := r.subject.s4uSubject }

def ticketSname (c : Checked) : PrincipalName :=
  if c.gathered.renew || c.gathered.validate then c.gathered.header.sname
  else if c.resolved.isReferral then c.resolved.self.server.name
  else c.gathered.sname

def tgsTicketCaddr (renew validate : Bool) (header : TicketPart) : Option HostAddresses :=
  if renew || validate then header.caddr
  else if body.kdcOptions.bit forwarded || body.kdcOptions.bit proxy then
    body.addresses
  else header.caddr

def tgsReplyCaddr (renew validate : Bool) : Option HostAddresses :=
  if renew || validate
      || !(body.kdcOptions.bit forwarded || body.kdcOptions.bit proxy) then none
  else body.addresses

/-- The entry of the local TGS and its current key. -/
def krbtgtKey : Except Error (Principal × KeyEntry) := do
  let found ← run.store.fetchKrbtgt
  let krbtgt ← found.elim (.error (proto generic getLocalTgt)) .ok
  let key ← (run.store.policy.firstCurrentKey krbtgt).mapError fun _ =>
    proto generic getLocalTgt
  return (krbtgt, key)

/-- The key the PAC is signed with for the KDC: the one between the realms for a referral with
Active Directory data. -/
def pacKdcKey (c : Checked) (adData : Bool) (krbtgtKey : ProtocolKey) : Except Error ProtocolKey :=
  let server := c.resolved.self.server
  pacPrivsvrKey run.libs server
    (if adData && server.name.isKrbtgt && !server.name.isKrbtgtFor run.store.realm then
      c.policed.key.key
    else krbtgtKey)

/-- The part of `tgs_issue_ticket` before the ticket is minted. -/
def ticketToMint (c : Checked) : Except Error MintTicket := do
  let r := c.resolved
  let h := c.gathered.header
  let (krbtgt, krbtgtKey) ← krbtgtKey run
  let includePac := includePacForReply run.libs run.store r.self.server c.gathered.padata false
    r.subject.pac.isSome (c.times.flags.bit anonymous)
  let adData := includePac && pacHasAdData run.store.policy r.subject.pac (initialPac r)
  let kdcKey ← pacKdcKey run c adData krbtgtKey.key
  let clientKey ← clientKey h
  let extraAd ← (handleAuthdata run.libs.ciphers run.libs.ad run.authdataModules true
    (c.times.flags.bit anonymous) body.encAuthorizationData (some h.session)
    (some clientKey) h.encTkt.authorizationData (some c.session)
    (some (krbtgt.name, run.store.realm))).mapError authdataFailed
  let updated ← updatedPac c adData
  return {
    serviceKey := c.policed.key.key, kvno := c.policed.key.kvno, serviceEtype := c.policed.key.etype
    session := c.session, srealm := run.store.realm, sname := ticketSname c
    crealm := r.subject.client.2, cname := r.subject.client.1
    authtime := c.times.authtime, endtime := c.times.end, flags := c.times.flags, kdcKey
    transited := c.policed.transited, renewTill := c.times.ticketRenewTill
    pac := if includePac then some (ticketPac c adData updated) else none
    starttime := c.times.starttime
    caddr := tgsTicketCaddr body c.gathered.renew c.gathered.validate h.encTkt
    extraAd, indicators := c.policed.indicators, krbtgt, krbtgtKey := krbtgtKey.key
    noAuthData := attr r.self.server kdbNoAuthDataRequired }

/-- What `tgs_issue_ticket` makes the reply from.  The padata the client wants back is also looked
for in the request as it was received. -/
def replyInput (req : Req) (raw : Option Str) (body : ReqBody) (fast : Option FastOk) (c : Checked)
    (ticket : Ticket) : ReplyInput where
  ticket
  cname := c.resolved.subject.client.1
  crealm := c.resolved.subject.client.2
  sname := ticketSname c
  session := c.session
  times := c.times
  caddr := tgsReplyCaddr body c.gathered.renew c.gathered.validate
  x509 := c.resolved.self.s4u.bind (·.x509)
  header := c.gathered.header
  fast
  padata := c.gathered.padata
  nonce := fast.elim body.nonce (·.nonce)
  wantEncPa := (findPa req.padata paReqEncPaRep).isSome
    || fast.any fun f => (findPa (some f.innerPadata) paReqEncPaRep).isSome
  raw

def tgsIssueTicket (req : Req) (raw : Option Str) (body : ReqBody)
    (fast : Option FastOk) (c : Checked) : Except Error IssuedTgs := do
  let m ← ticketToMint run body c
  let ticket ← m.mint run.libs.toLibs run.store run.draw
  let reply ← run.sealReply (replyInput req raw body fast c ticket)
  return { ticket, reply, sessionKey := c.session }

def issueTgsBody (req : Req) (raw : Option Str) (body : ReqBody) (fast : Option FastOk)
    (header : Header) : Except Error IssuedTgs := do
  let g ← gatherTgsReqInfo run req body fast header
  let c ← checkTgsReq run req.body body g
  tgsIssueTicket run req raw body fast c

def innerBody (run : Run) (outer : ReqBody) (fast : Option FastOk) : Except Error ReqBody :=
  fast.elim (.ok outer) fun f => (run.libs.body.decode f.innerBody).mapError Error.asn1

def issueTgsFrom (req : Req) (raw : Option Str) (sender : Option HostAddress) :
    Except Error IssuedTgs := do
  let der ← bodyDer run req raw
  rejectIf (req.msgType != 12) (proto generic unknownReason)
  let paTgs ← (findPa req.padata paTgsReq).elim
    (.error (proto padataTypeNosupp processTgs)) .ok
  let header ← processTgsHeader run paTgs der sender
  let fast ← run.unwrapFastTgs (findPa req.padata paFxFast) paTgs header.subkey header.session
  let body ← innerBody run req.body fast
  (issueTgsBody run req raw body fast header).mapError (run.wrapAsFast fast body)

end Kerber.Issue.Tgs
