import Kerber.Issue.Checks

/-!
# Pre-authentication

The modules that verify the padata of an AS request (`plugins.rs`) and what they share: the order
they are asked in, the errors that reach the client, and PKINIT's check that a certificate speaks for
the client (`preauth.rs`).

Certificate paths, signatures, the key agreement and the DER of all messages are functions of what
the source gives them (`PreauthLibs`, `PkinitKdc`), as are the OTP and SPAKE modules.
-/

namespace Kerber.Issue

open Status Err PrincipalName

def paEncTimestamp : Int32 := 2
def paPkAsReq : Int32 := 16
def paEncryptedChallenge : Int32 := 138

/-- `PreauthAction`: what a module made of the padata.  All but a challenge mean that it verified. -/
inductive PreauthAction
  | pkinit (key : ProtocolKey) (pa : PaData) (signed : Bool)
  | challenge (eData : Str)
  | spakeDone (key : ProtocolKey)
  | encTsOk
  | otp (key : ProtocolKey) (indicators : List Str)

/-- `PreauthRock`, apart from the database. -/
structure PreauthRock where
  client : Principal
  padata : Option (List PaData)
  ikey : Option ProtocolKey
  etype : Option EncryptionType
  armorKey : Option ProtocolKey
  (asReqDer bodyDer : Str)
  cname : PrincipalName

/-- The libraries pre-authentication uses. -/
structure PreauthLibs extends KdcLibs where
  encryptedData : Str → Except Str EncryptedData
  /-- The time in a PA-ENC-TS-ENC. -/
  patimestamp : Str → Except Str KerberosTime
  /-- The body of an AS-REQ. -/
  asReqBody : Str → Option ReqBody
  preauthDecodeFailure : Str → Bool → Error
  /-- `krb_fx_cf2(key1, key2, pepper1, pepper2)`. -/
  krbFxCf2 : ProtocolKey → ProtocolKey → Str → Str → Except CryptoError ProtocolKey

structure CertSans where
  principals : List (Str × Int × List Str)
  upns : List Str

structure CmsAuthPack where
  eContent : Str
  signer : Option Str

/-- `PkinitKdc`, with the checks of certificates and messages it is used for. -/
structure PkinitKdc where
  (allowUpn requireEku : Bool)
  /-- The signed data of a PA-PK-AS-REQ. -/
  signedAuthPack : Str → Except Str Str
  /-- `cms_signeddata_verify` with the anchors of the KDC, its faults as `cms_fault` reports them
  for a client. -/
  cmsSigneddataVerify : PrincipalName → Str → Except Error CmsAuthPack
  certSans : Str → Bool → Option CertSans
  /-- Whether `cert_eku` accepts the certificate of a client. -/
  certEku : Str → Bool
  /-- `cert_match(rule, cert)`. -/
  certMatch : Str → Str → Except Str Bool
  /-- `parse_authpack_freshness`. -/
  authpackCtime : Str → Option Nat
  /-- `parse_authpack_maybe_dh`. -/
  authpackMaybeDh : Str → Option (UInt32 × Option Str)
  serverCheckDh : PrincipalName → Str → Except Error Str
  authpackPaChecksumOk : Str → Str → Bool
  parseAuthpackFreshnessToken : Str → Option Str
  checkFreshnessToken : Str → Except Error Unit
  /-- The key agreement and the PA-PK-AS-REP: the content, the peer, the nonce, the client's name,
  the encryption type and the request. -/
  returnPadata : Str → Str → UInt32 → PrincipalName → EncryptionType → Str →
    Except Error (ProtocolKey × PaData)

/-- What the modules verify with. -/
structure PreauthKdc where
  libs : PreauthLibs
  store : KdcStore
  /-- The clock of a check. -/
  now : KerberosTime
  pkinit : Option PkinitKdc
  (processOtp processSpake : PreauthRock → Except Error (Option PreauthAction))
  /-- `otp_park_pending()` after a module failed: the request waits for an OTP server. -/
  otpParkPending : Bool

/-! ### Errors for the client -/

/-- The codes `filter_preauth_error` lets through. -/
def passThrough : List Int :=
  [badIntegrity, skew, preauthRequired, etypeNosupp, clientNotTrusted,
    invalidSig, dhKeyParametersNotAccepted, 70, 71, 72, 73, clientNameMismatch,
    inconsistentKeyPurpose, 78, 79, 80, 81, certificateMismatch, kdcNotTrusted, 74,
    noAcceptableKdf, morePreauthDataRequired, discard]

def wireOf (code : Int) : Int :=
  if code = Err.preauthFailed ∨ code ∈ passThrough then code else Err.preauthFailed

def filterPreauthError : Error → Error
  | .preauthRequired eData => .preauthRequired eData
  | .preauthModule code message =>
    .protocol (wireOf code) (some preauthFailed) none
      (if wireOf code = code then some message else none)
  | .protocol code _ eData detail =>
    .protocol (wireOf code) (some preauthFailed) eData
      (if wireOf code = code then detail else none)
  | _ => .protocol Err.preauthFailed (some preauthFailed) none none

def isReturnPadata : Error → Bool
  | .protocol _ (some t) _ _ => t = kdcReturnPadata
  | _ => false

/-- `finish_verify_padata`, apart from the log. -/
def finishVerifyPadata (e : Error) : Error :=
  if isReturnPadata e then e else filterPreauthError e

/-- The refusal of padata without more to say. -/
def preauthFailure : Error := proto Err.preauthFailed preauthFailed

/-! ### Timestamps -/

section

variable (kdc : PreauthKdc)

/-- The time of a check is within the clock skew. -/
def checkSkew (seconds : Nat) : Except Error Unit :=
  rejectIf (kdc.store.policy.skew < ((kdc.now.unixSeconds : Int) - seconds).natAbs)
    (proto skew preauthFailed)

/-- A decrypted PA-ENC-TS-ENC. -/
def checkTimestamp (plain : Str) : Except Error Unit := do
  let ts ← (kdc.libs.patimestamp plain).mapError fun _ => kdc.libs.preauthDecodeFailure plain true
  checkSkew kdc ts.unixSeconds

def verifyEncTimestamp (key : ProtocolKey) (blob : Str) : Except Error Unit := do
  let enc ← (kdc.libs.encryptedData blob).mapError Error.asn1
  let plain ← (kdc.libs.ciphers.decryptEncData key Ku.paEncTimestamp enc.etype enc.cipher).mapError
    Error.ofCrypto
  checkTimestamp kdc plain

def verifyEncryptedChallenge (longTerm armorKey : ProtocolKey) (blob : Str) : Except Error Unit := do
  let enc ← (kdc.libs.encryptedData blob).mapError fun _ => kdc.libs.preauthDecodeFailure blob true
  let chal ← (kdc.libs.krbFxCf2 armorKey longTerm (str "clientchallengearmor")
    (str "challengelongterm")).mapError Error.ofCrypto
  let plain ← (kdc.libs.ciphers.decryptEncData chal Ku.encChallengeClient enc.etype
    enc.cipher).mapError fun _ =>
      Error.preauthModule Err.preauthFailed (str "Incorrect password in encrypted challenge")
  checkTimestamp kdc plain

def keyFailed : Error → Bool
  | .crypto _ | .badEnctype | .desBadParity | .desWeakKey => true
  | _ => false

/-- The loop of the encrypted timestamp over the client's keys. -/
def tryTimestampKeys (blob : Str) : List KeyEntry → Except Error (Option PreauthAction)
  | [] => .error preauthFailure
  | k :: rest =>
    match verifyEncTimestamp kdc k.key blob with
    | .ok () => .ok (some .encTsOk)
    | .error e => if keyFailed e then tryTimestampKeys blob rest else .error e

def kdbNoPermittedKey : Int := -1780008418

variable (pk : PkinitKdc) (rock : PreauthRock)

/-- `process_as` of the encrypted timestamp: the keys of the highest version are tried. -/
def processEncTimestamp : Except Error (Option PreauthAction) :=
  match findPa rock.padata paEncTimestamp with
  | none => .ok none
  | some blob => do
    let enc ← (kdc.libs.encryptedData blob).mapError fun _ =>
      kdc.libs.preauthDecodeFailure blob true
    let etype ← ((EncryptionType.known enc.etype).toOption.filter
        kdc.store.policy.etypePermitted).elim
      (.error (.preauthModule kdbNoPermittedKey KeyLookup.noPermittedKey.message)) .ok
    tryTimestampKeys kdc blob
      (rock.client.keys.filter fun k => some k.kvno = topKvno rock.client && k.etype = etype)

/-! ### PKINIT -/

/-- A name as `match_client` reads it: an enterprise name is the name that is written in it. -/
def readName (n : PrincipalName) (realm : Str) : Str × List Str :=
  if n.nameType = ntEnterprise then
    match parseNameEx n.unparseNoRealm realm false with
    | .ok p => (p.realm, p.components)
    | .error _ => (realm, n.nameString)
  else (realm, n.nameString)

/-- The realm and the name of an entry. -/
def ownName (p : Principal) : Str × List Str :=
  (p.realm, p.name.nameString)

def matchClient (client : Principal) (reqClient : PrincipalName) (reqRealm : Str)
    (name : PrincipalName) (realm : Str) : Bool :=
  readName name realm == readName reqClient reqRealm || (realm, name.nameString) == ownName client
    || match kdc.store.fetch (lookupPrincipalId name realm) with
      | .ok (some entry) => ownName entry == ownName client
      | _ => false

/-- The principals a certificate names, the subject names before the UPNs.  What is no principal name
is passed over. -/
def CertSans.names (sans : CertSans) (realm : Str) : List (PrincipalName × Str) :=
  (sans.principals.filterMap fun (r, nameType, parts) =>
    ((tryNew nameType parts).toOption.map (·, r))) ++
  sans.upns.filterMap fun upn => do
    let p ← (parseNameEx upn realm true).toOption
    let n ← (tryNew ntEnterprise p.components).toOption
    return (n, p.realm)

/-- The refusal of a certificate that names someone else. -/
def clientSanRefusal : Error := proto clientNameMismatch preauthFailed

def authorizeSans (sans : CertSans) (client : Principal) (reqClient : PrincipalName) (realm : Str) :
    Except Error Bool :=
  if sans.principals.isEmpty && sans.upns.isEmpty then .ok false
  else do
    rejectIf (!(sans.names realm).any fun (n, r) => matchClient kdc client reqClient realm n r)
      clientSanRefusal
    return true

/-- The `pkinit_cert_match` rule of an entry: whether there is one, and then it has to accept the
certificate. -/
def authorizeRule (cert : Str) (client : Principal) : Except Error Bool :=
  match stringAttr client (str "pkinit_cert_match") with
  | none => .ok false
  | some rule =>
    match pk.certMatch rule cert with
    | .ok true => .ok true
    | .ok false => .error (proto certificateMismatch preauthFailed)
    | .error e => .error (.preauthModule Err.preauthFailed e)

def authorizeCert (cert : Str) (client : Principal) (reqClient : PrincipalName)
    (realm : Str) : Except Error Unit := do
  let sans ← (pk.certSans cert pk.allowUpn).elim (.error clientSanRefusal) .ok
  let bySan ← authorizeSans kdc sans client reqClient realm
  rejectIf (pk.requireEku && !pk.certEku cert) (proto inconsistentKeyPurpose preauthFailed)
  let byRule ← authorizeRule pk cert client
  rejectIf (!(bySan || byRule)) clientSanRefusal

/-- The client's name in the request as it was received. -/
def pkinitReqCname : PrincipalName :=
  ((kdc.libs.asReqBody rock.asReqDer).bind (·.cname)).getD rock.cname

/-- The signer of a request speaks for the client; one without a signer is anonymous already. -/
def checkSigner (signer : Option Str) : Except Error Unit :=
  match signer with
  | some cert =>
    authorizeCert kdc pk cert rock.client (pkinitReqCname kdc rock) kdc.store.realm
  | none =>
    let anonymous := (kdc.libs.body.decode rock.bodyDer).toOption.any fun b =>
      b.kdcOptions.bit FlagBit.anonymous
    rejectIf (!(anonymous && isAnonymousPrincipal rock.cname))
      (protoD Err.preauthFailed preauthFailed
        (str "Pkinit request not signed, but client not anonymous."))

/-- The peer of the key agreement, when the request has one. -/
def checkPeer (signed : Bool) (spki : Option Str) : Except Error (Option Str) :=
  match spki with
  | some spki => (pk.serverCheckDh rock.cname spki).map some
  | none =>
    if signed then .ok none
    else .error (protoD Err.preauthFailed preauthFailed
      (str "Anonymous pkinit without DH public value not supported."))

/-- The freshness token of a request, which a signed one may need. -/
def checkFreshness (inner : Str) (signed : Bool) : Except Error Unit := do
  let token := pk.parseAuthpackFreshnessToken inner
  token.elim (.ok ()) pk.checkFreshnessToken
  rejectIf (signed && kdc.store.policy.pkinitRequireFreshness && token.isNone) preauthFailure

/-- `process_pkinit` for a request that has PKINIT padata. -/
def verifyPkinit (etype : EncryptionType) (raw : Str) : Except Error (Option PreauthAction) := do
  let cms ← (pk.signedAuthPack raw).mapError fun _ => kdc.libs.preauthDecodeFailure raw false
  let pack ← pk.cmsSigneddataVerify rock.cname cms
  checkSigner kdc pk rock pack.signer
  let inner := pack.eContent
  let ctime ← (pk.authpackCtime inner).elim (.error preauthFailure) .ok
  checkSkew kdc ctime
  let (nonce, spki) ← (pk.authpackMaybeDh inner).elim (.error preauthFailure) .ok
  let peer ← checkPeer pk rock pack.signer.isSome spki
  rejectIf (!pk.authpackPaChecksumOk inner rock.bodyDer) preauthFailure
  checkFreshness kdc pk inner pack.signer.isSome
  let peer ← peer.elim
    (.error (.preauthModule Err.preauthFailed (str "Unsupported PKINIT RSA request"))) .ok
  let (key, pa) ← pk.returnPadata inner peer nonce (pkinitReqCname kdc rock) etype rock.asReqDer
  return some (.pkinit key pa pack.signer.isSome)

/-- `process_as` of PKINIT. -/
def processPkinit : Except Error (Option PreauthAction) :=
  match kdc.pkinit, findPa rock.padata paPkAsReq, rock.etype with
  | some pk, some raw, some etype => verifyPkinit kdc pk rock etype raw
  | some _, some _, none => .error (proto etypeNosupp cantFindClientKey)
  | _, _, _ => .ok none

end

/-! ### The modules -/

/-- The pre-authentication modules: the ones of the KDC and those that are registered. -/
inductive PreauthModule
  | fast
  | pkinit
  | otp
  | spake
  | encryptedChallenge
  | encryptedTimestamp
  | other (processAs : PreauthRock → Except Error (Option PreauthAction))

namespace PreauthModule

/-- `process_as`.  The encrypted challenge is verified after all modules. -/
def processAs (kdc : PreauthKdc) (rock : PreauthRock) :
    PreauthModule → Except Error (Option PreauthAction)
  | fast | encryptedChallenge => .ok none
  | pkinit => processPkinit kdc rock
  | otp => kdc.processOtp rock
  | spake => kdc.processSpake rock
  | encryptedTimestamp => processEncTimestamp kdc rock
  | other processAs => processAs rock

/-- Whether a module is the encrypted challenge (`kdcpreauth_loaded`). -/
def isEncryptedChallenge : PreauthModule → Bool
  | encryptedChallenge => true
  | _ => false

end PreauthModule

/-- `run_as_preauth`: the first module with an answer decides.  It is kept beside its answer. -/
def runAsPreauth (kdc : PreauthKdc) (rock : PreauthRock) :
    List PreauthModule → Except Error (Option (PreauthModule × PreauthAction))
  | [] => .ok none
  | m :: rest =>
    match m.processAs kdc rock with
    | .ok (some a) => .ok (some (m, a))
    | .ok none => runAsPreauth kdc rock rest
    | .error e => .error (if kdc.otpParkPending then e else finishVerifyPadata e)

end Kerber.Issue
