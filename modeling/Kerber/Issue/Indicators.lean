import Kerber.Issue.AuthData
import Kerber.Issue.Kdb
import Kerber.Issue.Message

/-!
# Authentication indicators

The indicators of a ticket are in a CAMMAC, a container that the KDC and the service can both
verify.  `getAuthIndicators` reads those of a presented ticket, `addAuthIndicators` writes those of a
new one (`krb5_kdc::ad`).
-/

namespace Kerber.Issue

section

variable (l : Libs)

def cammacChecksum (key : ProtocolKey) (message : Str) : Except Error Checksum := do
  let mac ← (l.macs.checksum key Ku.cammac message).mapError Error.ofCrypto
  return ⟨key.etype.checksumType, mac⟩

variable (policy : Policy) (encTkt : TicketPart)

/-- `encode_kdcver_encpart`: the ticket with the contents of the CAMMAC as its only authorization
data. -/
def encodeKdcverEncpart (contents : AuthorizationData) : Except Error Str :=
  (l.part.encode { encTkt with authorizationData := some contents }).mapError Error.asn1

/-- The version of the current key of an entry, or 0. -/
def currentKvno (p : Principal) : UInt32 :=
  (firstCurrentKey p).elim 0 (·.kvno)

def cammacCreate (serverKey : ProtocolKey) (tgt : Principal)
    (tgtKey : ProtocolKey) (contents : AuthorizationData) : Except Error AuthorizationData := do
  let derEnctkt ← encodeKdcverEncpart l encTkt contents
  let kdcCksum ← cammacChecksum l tgtKey derEnctkt
  let kvno := currentKvno tgt
  let derAuthdata ← (l.ad.encode contents).mapError Error.asn1
  let svcCksum ← cammacChecksum l serverKey derAuthdata
  let cammac : Cammac :=
    { elements := contents
      kdcVerifier := some ⟨none, if kvno = 0 then none else some kvno, none, kdcCksum⟩
      svcVerifier := some ⟨none, none, none, svcCksum⟩
      otherVerifiers := none }
  let der ← (l.cammac.encode cammac).mapError Error.asn1
  wrapIfRelevant l.ad [⟨adCammac, der⟩]

def addAuthIndicators (extra : AuthorizationData) (indicators : List Str) (serverKey : ProtocolKey)
    (krbtgt : Principal) (krbtgtKey : ProtocolKey) (encTkt : TicketPart) :
    Except Error AuthorizationData :=
  if indicators = [] then .ok extra
  else do
    let der ← (l.texts.encode indicators).mapError Error.asn1
    let wrapped ← cammacCreate l encTkt serverKey krbtgt krbtgtKey [⟨adAuthIndicator, der⟩]
    return extra ++ wrapped

/-! ### Reading -/

/-- The key a KDC verifier is checked with, and its encryption type when it is an older one. -/
def verifierKey (ver : VerifierMac) (tgt : Principal) (tgtKey : ProtocolKey) :
    Option (ProtocolKey × Option Int32) :=
  let want := ver.kvno.getD 0
  if want = 0 ∨ want = currentKvno tgt then some (tgtKey, none)
  else
    match policy.findEnctype tgt none want with
    | .ok k => some (k.key, some k.etype.toIana)
    | .error _ => none

def checkVerifier (cammac : Cammac) (ver : VerifierMac) (encTkt : TicketPart) (key : ProtocolKey)
    (histEtype : Option Int32) : Bool :=
  let verEnctype := ver.enctype.getD 0
  if verEnctype ≠ 0 ∧ histEtype.getD 0 ≠ verEnctype then false
  else
    match encodeKdcverEncpart l encTkt cammac.elements with
    | .error _ => false
    | .ok der =>
      (l.macs.verifyChecksumKeyed key Ku.cammac der ver.mac.cksumtype ver.mac.checksum).isOk

def cammacCheckKdcver (cammac : Cammac) (encTkt : TicketPart) (tgt : Principal)
    (tgtKey : ProtocolKey) : Bool :=
  match cammac.kdcVerifier with
  | none => false
  | some ver =>
    match verifierKey policy ver tgt tgtKey with
    | none => false
    | some (key, histEtype) => checkVerifier l cammac ver encTkt key histEtype

/-- The refusal of `find_authdata` where indicators are read. -/
def indicatorsRefusal (e : Int × Str) : Error :=
  protoD e.1 Status.getAuthIndicators e.2

/-- `authind_extract`: an element that does not decode is passed over. -/
def authindExtract (authdata : AuthorizationData) (indicators : List Str) :
    Except Error (List Str) := do
  let found ← (findAuthdata l.ad (some authdata) none adAuthIndicator).mapError indicatorsRefusal
  return indicators ++ found.flatMap fun el => (l.texts.decode el.adData).toOption.getD []

/-- One CAMMAC of `get_auth_indicators`: its indicators count when the KDC verifier is good. -/
def addVerified (localTgt : Principal)
    (localTgtKey : ProtocolKey) (indicators : List Str) (el : AuthorizationDataValue) :
    Except Error (List Str) := do
  let cammac ← (l.cammac.decode el.adData).mapError fun _ =>
    proto Err.generic Status.getAuthIndicators
  if cammacCheckKdcver l policy cammac encTkt localTgt localTgtKey then
    (authindExtract l cammac.elements indicators).mapError (withStatus · Status.getAuthIndicators)
  else .ok indicators

def getAuthIndicators (localTgt : Principal)
    (localTgtKey : ProtocolKey) : Except Error (List Str) :=
  match encTkt.authorizationData with
  | none => .ok []
  | some ad => do
    let cammacs ← (findAuthdata l.ad (some ad) none adCammac).mapError indicatorsRefusal
    cammacs.foldlM (addVerified l policy encTkt localTgt localTgtKey) []

end

def requireAuth : Str := str "require_auth"

def checkIndicators (server : Principal) (indicators : List Str) : Except Error Unit :=
  match server.stringAttrs.find? (·.1 = requireAuth) with
  | none => .ok ()
  | some (_, req) =>
    rejectIf (!(req.splitOn 32).any fun tok => tok ≠ [] && indicators.contains tok)
      (protoD Err.policy Status.higherAuthenticationRequired
        (str "Required auth indicators not present in ticket: " ++ req))

end Kerber.Issue
