import Kerber.Issue.AsReq
import Kerber.Issue.Preauth
import Kerber.Issue.Tgs

/-!
# An AS request from its bytes to the ticket

`issueAsFrom` follows a request through all of `issue/as_req.rs`: the FAST layer, the client and the
server, pre-authentication, the flags and times, and the ticket that is minted.

What the FAST layer, the hints in an error, the KDC's own padata and the encryption of the reply
compute are functions of what the source gives them (`Run`).  The count of failed attempts that is
kept after the outcome is left out.
-/

namespace Kerber.Issue.As

open FlagBit Status Err

open Tgs (FastOk Req)

/-- What a reply is made from beside the ticket. -/
structure ReplyInput where
  ticket : Ticket
  client : Principal
  cname : PrincipalName
  crealm : Str
  sname : PrincipalName
  (session asRepKey : ProtocolKey)
  times : TgsTimes
  addresses : Option HostAddresses
  extraPadata : List PaData
  /-- The client's key, when the reply describes it. -/
  described : Option KeyEntry
  etypes : List Int32
  fast : Option FastOk
  padata : Option (List PaData)
  nonce : UInt32
  wantEncPa : Bool
  raw : Option Str

/-- `IssuedAs`; `reply` is the reply around the ticket. -/
structure IssuedAs where
  ticket : Ticket
  reply : Str
  (sessionKey asRepKey : ProtocolKey)
deriving DecidableEq

/-- The KDC as one request finds it. -/
structure Run where
  kdc : PreauthKdc
  kdcTime : UInt32
  /-- `selected_preauth`. -/
  modules : List PreauthModule
  authdataModules : List AuthdataModule
  /-- The answers of the active policy modules. -/
  kdcpolicies : ReqBody → Principal → Principal → List Str → List (Except Error PolicyAdjustment)
  randomKey : EncryptionType → Except Error ProtocolKey
  draw : Draw
  /-- The DER of a request. -/
  encodeReq : Req → Except Str Str
  /-- `unwrap_fast_as`: the FAST padata and the bytes of the body. -/
  unwrapFast : Option Str → Str → Except Error (Option FastOk)
  /-- `wrap_as_fast`, which leaves the error of a parked request alone. -/
  wrapAsFast : Option FastOk → ReqBody → Error → Error
  preauthHintEdata : Principal → Option KeyEntry → List Int32 → Option ProtocolKey →
    Option (List PaData) → Str
  /-- The error data of a challenge. -/
  challengeEdata : Principal → Option KeyEntry → Option (List PaData) → Str → Str
  (kdcEncryptedChallenge paPkinitKx : ProtocolKey → ProtocolKey → Except Error PaData)
  /-- The reply around a ticket, and the key it is encrypted in. -/
  sealReply : ReplyInput → Except Error (Str × ProtocolKey)

/-- The database. -/
abbrev Run.store (run : Run) : KdcStore := run.kdc.store

/-- The libraries. -/
abbrev Run.libs (run : Run) : PreauthLibs := run.kdc.libs

/-! ### The client and the server -/

def lookupAsPrinc (store : KdcStore) (name : PrincipalName) (lookingUp : String) :
    Except Error (Option Principal) :=
  (store.fetchName name).mapError fun e =>
    match e with
    | .protocol code text eData detail =>
      if code = svcUnavailable then .protocol code (some lookingUp) none detail
      else protoD generic lookingUp (errorText (.protocol code text eData detail))
    | e => protoD generic lookingUp (errorText e)

def selectClientKey (policy : Policy) (princ : Principal) (requested : List Int32) :
    Option KeyEntry :=
  requested.findSome? fun n =>
    (EncryptionType.known n).toOption.bind fun e => (policy.findEnctype princ (some e) 0).toOption

structure AsLookup where
  client : Principal
  (cname sname : PrincipalName)
  server : Principal
  sessionEtype : EncryptionType
  workPadata : Option (List PaData)
  reqCname : PrincipalName
  ckey : Option KeyEntry

variable (run : Run) (req : Req) (raw : Option Str) (body : ReqBody)

variable (l : AsLookup) (fast : Option FastOk) (pre : AsPreauth)

def lookupClient : Except Error AsLookup := do
  let store := run.store
  let realm ← utf8Realm body.realm
  rejectIf (realm != store.realm) (proto cPrincipalUnknown clientNotFound)
  let reqCname ← body.cname.elim (.error (proto cPrincipalUnknown nullClient)) .ok
  let found ← lookupAsPrinc store reqCname lookingUpClient
  let client ← found.elim (.error (proto cPrincipalUnknown clientNotFound)) .ok
  let sname := body.sname.getD (.krbtgt store.realm)
  let found ← lookupAsPrinc store sname lookingUpServer
  let server ← found.elim (.error (proto sPrincipalUnknown serverNotFound)) .ok
  validateAsRequest store client server body.toKdcReqBody run.kdcTime
  let sessionEtype ← selectSessionKeytype run.libs.toKdcLibs store.policy server body.etype
  return {
    client
    cname := if reqCname.nameType = PrincipalName.ntEnterprise
        ∨ body.kdcOptions.bit canonicalize then client.name else reqCname
    sname, server, sessionEtype
    workPadata := fast.elim req.padata fun f => some f.innerPadata
    reqCname, ckey := selectClientKey store.policy client body.etype }

/-! ### Pre-authentication -/

def authindAdd (indicators : List Str) (ind : Str) : List Str :=
  if ind ∈ indicators then indicators else indicators ++ [ind]

/-- The bytes of a body: the ones that were received, else its encoding. -/
def bodyDer (l : KdcLibs) (body : ReqBody) (raw : Option Str) : Except Error Str :=
  match raw.bind l.kdcReqBodyDer with
  | some slice => .ok slice
  | none => (l.body.encode body).mapError Error.asn1

def attachPreauthHint (eData : Str) : Error → Error
  | .protocol code text none detail =>
    if code = Err.preauthFailed ∨ code = Err.preauthExpired then
      .protocol Err.preauthFailed text (some eData) detail
    else .protocol code text none detail
  | e => e

/-- Whether the encrypted challenge is loaded. -/
def ecLoaded : Bool :=
  run.modules.any (·.isEncryptedChallenge)

/-- An encrypted challenge outside of FAST is refused. -/
def checkChallengeArmored (padata : Option (List PaData)) (eData : Str) : Except Error Unit :=
  rejectIf (ecLoaded run && fast.isNone
      && (padata.getD []).any fun p => p.padataType = paEncryptedChallenge)
    (attachPreauthHint eData (finishVerifyPadata (.preauthModule 2
      (str "Encrypted Challenge used outside of FAST tunnel"))))

/-- Whether a request is for an anonymous ticket, which only the anonymous principal may ask for. -/
def anonymousAs (reqCname : PrincipalName) : Except Error Bool :=
  if body.kdcOptions.bit anonymous then do
    rejectIf (!isAnonymousPrincipal reqCname)
      (proto badoption validateAnonymousPrincipal)
    return true
  else .ok false

/-- What pre-authentication leaves behind. -/
structure Outcome where
  asRepKey : Option ProtocolKey
  extraPadata : List PaData
  (skipTimestamp replyKeyReplaced : Bool)
  indicators : List Str

/-- What the answer of the modules means for the reply. -/
def applyAction : Option PreauthAction → Except Error Outcome
  | some (.pkinit key pa signed) =>
    .ok { asRepKey := some key, extraPadata := [pa], skipTimestamp := true, replyKeyReplaced := true
          indicators := if signed then run.store.policy.pkinitIndicators.foldl authindAdd [] else [] }
  | some (.challenge eData) =>
    .error (.protocol morePreauthDataRequired (some preauthFailed)
      (some (run.challengeEdata l.client l.ckey l.workPadata eData)) none)
  | some (.otp key indicators) =>
    .ok { asRepKey := some key, extraPadata := [], skipTimestamp := true, replyKeyReplaced := false
          indicators := indicators.foldl authindAdd [] }
  | some (.spakeDone key) =>
    .ok { asRepKey := some key, extraPadata := [], skipTimestamp := true, replyKeyReplaced := false
          indicators := run.store.policy.spakePreauthIndicators.foldl authindAdd [] }
  | some .encTsOk =>
    .ok { asRepKey := l.ckey.map (·.key), extraPadata := [], skipTimestamp := true
          replyKeyReplaced := false, indicators := [] }
  | none =>
    .ok { asRepKey := l.ckey.map (·.key), extraPadata := [], skipTimestamp := false
          replyKeyReplaced := false, indicators := [] }

/-- The encrypted challenge of an armored request, when there is one to verify. -/
def challengeBlob : Option (FastOk × Str) := do
  let f ← fast
  let blob ← findPa (some f.innerPadata) paEncryptedChallenge
  if ecLoaded run && !blob.isEmpty then some (f, blob) else none

/-- The encrypted challenge, which counts when no module has verified anything. -/
def applyChallenge (ckey : Option KeyEntry) (o : Outcome) : Except Error Outcome :=
  if o.skipTimestamp then .ok o
  else
    match challengeBlob run fast with
    | none => .ok o
    | some (f, blob) => do
      let ckey ← ckey.elim (.error (finishVerifyPadata
        (.preauthModule 2 (str "No such file or directory")))) .ok
      (verifyEncryptedChallenge run.kdc ckey.key f.armorKey blob).mapError finishVerifyPadata
      let pa ← run.kdcEncryptedChallenge f.armorKey ckey.key
      return { o with
        skipTimestamp := true, extraPadata := o.extraPadata ++ [pa]
        indicators := run.store.policy.encryptedChallengeIndicator.elim o.indicators
          (authindAdd o.indicators) }

structure AsPreauth where
  lookup : AsLookup
  cname : PrincipalName
  outcome : Outcome
  (hwPreauth anonymousAs : Bool)
  rock : PreauthRock
  answer : Option (PreauthModule × PreauthAction)

/-- What the modules are given. -/
def preauthRock (asReqDer paBody : Str) (cname : PrincipalName) : PreauthRock where
  client := l.client
  padata := l.workPadata
  ikey := l.ckey.map (·.key)
  etype := l.ckey.map (·.etype)
  armorKey := fast.map (·.armorKey)
  asReqDer
  bodyDer := paBody
  cname

/-- The request as it was received, else its encoding. -/
def asReqDer : Except Error Str :=
  raw.elim ((run.encodeReq req).mapError Error.asn1) .ok

/-- The error of a failed module with the hints, which a parked request is not given. -/
def moduleFailed (eData : Str) (e : Error) : Error :=
  if run.kdc.otpParkPending then e else attachPreauthHint eData e

def finishPreauth (l : AsLookup) : Except Error AsPreauth := do
  let hint armor := run.preauthHintEdata l.client l.ckey body.etype armor l.workPadata
  let armor := fast.map (·.armorKey)
  let der ← bodyDer run.libs.toKdcLibs body raw
  checkChallengeArmored run fast l.workPadata (hint none)
  let anonymous ← anonymousAs body l.reqCname
  let cname := if anonymous then anonymousPrincipalName else l.cname
  let asReqDer ← asReqDer run req raw
  let rock := preauthRock l fast asReqDer (fast.elim der (·.innerBody)) cname
  let answer ← (runAsPreauth run.kdc rock run.modules).mapError (moduleFailed run (hint armor))
  let outcome ← applyAction run l (answer.map (·.2))
  let outcome ← applyChallenge run fast l.ckey outcome
  rejectIf ((attr l.client kdbRequiresPreAuth || anonymous) && !outcome.skipTimestamp)
    (.preauthRequired (hint armor))
  let hwPreauth := false
  rejectIf (attr l.client kdbRequiresHwAuth && !hwPreauth)
    (.protocol preauthRequired (some neededHwPreauth) (some (hint armor)) none)
  return { lookup := l, cname, outcome, hwPreauth, anonymousAs := anonymous, rock, answer }

/-! ### The ticket -/

/-- The session key; an anonymous client has a part in it. -/
def sessionKey (asRepKey : ProtocolKey) : Except Error (ProtocolKey × List PaData) := do
  let session ← run.randomKey pre.lookup.sessionEtype
  if pre.anonymousAs then do
    let pa ← run.paPkinitKx asRepKey session
    let key ← (run.libs.krbFxCf2 session asRepKey (str "PKINIT") (str "KEYEXCHANGE")).mapError
      Error.ofCrypto
    return (key, [pa])
  else return (session, [])

/-- The flags and times of the ticket. -/
def asTimes : Except Error TgsTimes := do
  let store := run.store.read
  let client := pre.lookup.client
  let server := pre.lookup.server
  let now := KerberosTime.fromUnixSeconds run.kdcTime.toNat
  let starttime := requestStart now body.toKdcReqBody
  let flags := getTicketFlags body.kdcOptions (some client) server none
    |>.withBit preAuthent pre.outcome.skipTimestamp
    |>.withBit hwAuthent pre.hwPreauth
  let endtime ← kdcGetTicketEndtime store starttime none body.till (some client) server
  let renewed :=
    kdcGetTicketRenewtime store body.toKdcReqBody none (some client) server flags starttime endtime
  let times ← enforceKdcpolicy now
    (run.kdcpolicies body client server pre.outcome.indicators) (endtime, renewed.1)
  return { authtime := now, starttime, «end» := times.1, flags := renewed.2
           ticketRenewTill := times.2 }

/-- The server name in the ticket: a canonicalized name of the TGS is the one of the database. -/
def ticketSname : PrincipalName :=
  if body.kdcOptions.bit canonicalize && l.sname.isKrbtgt && l.server.name.isKrbtgt then
    l.server.name
  else l.sname

/-- The entry of the local TGS and its current key. -/
def krbtgtKey (store : KdcStore) : Except Error (Principal × KeyEntry) := do
  let found ← store.fetchKrbtgt
  let krbtgt ← found.elim (.error (proto generic getLocalTgt)) .ok
  let key ← (store.policy.firstCurrentKey krbtgt).mapError fun _ =>
    proto generic getLocalTgt
  return (krbtgt, key)

/-- The keys of a reply: the server's, the one of the reply and the session key. -/
structure Keys where
  server : KeyEntry
  (asRepKey session : ProtocolKey)
  kxPadata : List PaData

/-- The first part of `finish_process_as_req`. -/
def replyKeys : Except Error Keys := do
  let server ← (run.store.policy.firstCurrentKey pre.lookup.server).mapError fun e =>
    protoD generic findingServerKey e.message
  let asRepKey ← pre.outcome.asRepKey.elim
    (.error (proto etypeNosupp cantFindClientKey)) .ok
  let (session, kxPadata) ← sessionKey run pre asRepKey
  return { server, asRepKey, session, kxPadata }

/-- The part of `finish_process_as_req` between the times and the ticket. -/
def ticketToMint (keys : Keys) (times : TgsTimes) : Except Error MintTicket := do
  let store := run.store
  let server := pre.lookup.server
  let anonymous := times.flags.bit anonymous
  let includePac := includePacForReply run.libs.toKdcLibs store server req.padata true true anonymous
  let (krbtgt, krbtgtKey) ← krbtgtKey store
  let kdcKey ← pacPrivsvrKey run.libs.toKdcLibs server
    (if pre.lookup.sname.isKrbtgtFor store.realm then keys.server.key else krbtgtKey.key)
  let extraAd ← (handleAuthdata run.libs.ciphers run.libs.ad run.authdataModules false anonymous none
    none none none none none).mapError authdataFailed
  checkIndicators server pre.outcome.indicators
  return {
    serviceKey := keys.server.key, kvno := keys.server.kvno, serviceEtype := keys.server.etype
    session := keys.session, srealm := store.realm, sname := ticketSname body pre.lookup
    crealm := if pre.anonymousAs then anonymousRealm else store.realm, cname := pre.cname
    authtime := times.authtime, endtime := times.end, flags := times.flags, kdcKey
    transited := .empty, renewTill := times.ticketRenewTill
    pac := if includePac then
        some (if pacHasAdData store.policy none true then .ad none none none none
          else .mit ⟨none, false, false, none, none⟩)
      else none
    starttime := times.starttime, caddr := body.addresses, extraAd
    indicators := pre.outcome.indicators, krbtgt, krbtgtKey := krbtgtKey.key
    noAuthData := attr server kdbNoAuthDataRequired }

def replyInput (keys : Keys) (times : TgsTimes) (m : MintTicket) (ticket : Ticket) :
    ReplyInput where
  ticket
  client := pre.lookup.client
  cname := m.cname
  crealm := m.crealm
  sname := m.sname
  session := keys.session
  asRepKey := keys.asRepKey
  times
  addresses := body.addresses
  extraPadata := pre.outcome.extraPadata ++ keys.kxPadata
  described := if pre.outcome.replyKeyReplaced then none else pre.lookup.ckey
  etypes := body.etype
  fast
  padata := pre.lookup.workPadata
  nonce := fast.elim body.nonce (·.nonce)
  wantEncPa := (findPa req.padata Tgs.paReqEncPaRep).isSome
    || fast.any fun f => (findPa (some f.innerPadata) Tgs.paReqEncPaRep).isSome
  raw

def finishProcessAsReq : Except Error IssuedAs := do
  let keys ← replyKeys run pre
  let times ← asTimes run body pre
  let m ← ticketToMint run req body pre keys times
  let ticket ← m.mint run.libs.toLibs run.store run.draw
  let (reply, asRepKey) ← run.sealReply (replyInput req raw body fast pre keys times m ticket)
  return { ticket, reply, sessionKey := keys.session, asRepKey }

def issueAsSteps : Except Error IssuedAs := do
  let l ← lookupClient run req body fast
  let pre ← finishPreauth run req raw body fast l
  finishProcessAsReq run req raw body fast pre

def innerBody (run : Run) (outer : ReqBody) (fast : Option FastOk) : Except Error ReqBody :=
  fast.elim (.ok outer) fun f => (run.libs.body.decode f.innerBody).mapError Error.asn1

def issueAsFrom : Except Error IssuedAs := do
  let der ← bodyDer run.libs.toKdcLibs req.body raw
  rejectIf (req.msgType != 10) (proto generic validateMessageType)
  let fast ← run.unwrapFast (findPa req.padata Tgs.paFxFast) der
  let body ← innerBody run req.body fast
  (issueAsSteps run req raw body fast).mapError (run.wrapAsFast fast body)

end Kerber.Issue.As
