import Kerber.Crypto.Cipher
import Kerber.Types.AuthData

/-!
# Authorization data of a ticket

What a ticket keeps of the authorization data in the request and in the header ticket, and how a
ticket's authorization data is searched (`krb5_kdc::ad`).
-/

namespace Kerber.Issue

open Status

def isKdcIssuedType (adType : Int32) : Bool :=
  [adSignticket, adKdcIssued, adWin2kPac, adCammac, adAuthIndicator].contains adType

section

variable (c : AdCodec)

/-- `is_kdc_issued_authdatum`: looks into a container, but not into one inside it. -/
def isKdcIssuedAuthdatum (ad : AuthorizationDataValue) : Bool :=
  if ad.adType = adIfRelevant then
    match c.decode ad.adData with
    | .error _ => false
    | .ok inner => inner.any fun e => isKdcIssuedType e.adType
  else isKdcIssuedType ad.adType

def hasMandatoryForKdc (ad : AuthorizationData) : Bool :=
  ad.any (·.adType = adMandatoryForKdc)

def addFilteredAuthdata (dst src : AuthorizationData) : AuthorizationData :=
  dst ++ src.filter fun e => !isKdcIssuedAuthdatum c e

/-! ### Searching -/

def findAuthdata1 (adType : Int32) (fromApReq : Bool) (out : AuthorizationData)
    (inAd : AuthorizationData) : Except (Int × Str) AuthorizationData :=
  match inAd with
  | [] => .ok out
  | ad :: rest =>
    if ad.adType = adIfRelevant then
      match _hinner : c.decode ad.adData with
      | .error e => .error (Err.generic, c.refusal ad.adData e)
      | .ok inner =>
        match findAuthdata1 adType fromApReq out inner with
        | .error e => .error e
        | .ok out => findAuthdata1 adType fromApReq out rest
    else if fromApReq && isKdcIssuedType ad.adType then findAuthdata1 adType fromApReq out rest
    else if ad.adType = adType then
      if out.length = 256 then .error (Err.generic, str "More than 256 authdata matched a query")
      else findAuthdata1 adType fromApReq (out ++ [ad]) rest
    else findAuthdata1 adType fromApReq out rest
termination_by adSize inAd
decreasing_by
  all_goals first
    | exact AdCodec.adSize_lt ‹_›
    | (rw [adSize_cons]; omega)

def findAuthdata (ticketAd apReqAd : Option AuthorizationData) (adType : Int32) :
    Except (Int × Str) AuthorizationData := do
  let out ← ticketAd.elim (.ok []) (findAuthdata1 c adType false [])
  apReqAd.elim (.ok out) (findAuthdata1 c adType true out)

/-- The first PAC of `pac_from_ticket_part`. -/
def pacFromAuthdata : AuthorizationData → Option Str
  | [] => none
  | el :: rest =>
    if el.adType = adWin2kPac then some el.adData
    else if el.adType = adIfRelevant then
      match c.decode el.adData with
      | .error _ => pacFromAuthdata rest
      | .ok inner =>
        match inner.find? (·.adType = adWin2kPac) with
        | some pac => some pac.adData
        | none => pacFromAuthdata rest
    else pacFromAuthdata rest

/-- `authorization_with_zeroed_pac`: a single zero for every PAC, in containers to any depth. -/
def authorizationWithZeroedPac (ad : AuthorizationData) : AuthorizationData :=
  match ad with
  | [] => []
  | el :: rest =>
    if el.adType = adWin2kPac then { el with adData := [0] } :: authorizationWithZeroedPac rest
    else if el.adType = adIfRelevant then
      match _hinner : c.decode el.adData with
      | .error _ => el :: authorizationWithZeroedPac rest
      | .ok inner =>
        match c.encode (authorizationWithZeroedPac inner) with
        | .error _ => el :: authorizationWithZeroedPac rest
        | .ok bytes => { el with adData := bytes } :: authorizationWithZeroedPac rest
    else el :: authorizationWithZeroedPac rest
termination_by adSize ad
decreasing_by
  all_goals first
    | exact AdCodec.adSize_lt ‹_›
    | (rw [adSize_cons]; omega)

def wrapIfRelevant (inner : AuthorizationData) : Except Error AuthorizationData := do
  let wrapped ← (c.encode inner).mapError Error.asn1
  return [⟨adIfRelevant, wrapped⟩]

def wrapWin2kPac (pacBytes : Str) : Except Error AuthorizationData :=
  wrapIfRelevant c [⟨adWin2kPac, pacBytes⟩]

end

/-! ### What a ticket takes over -/

def errorText : Error → Str
  | .crypto text => str "crypto: " ++ text
  | .badEnctype => str "Bad encryption type"
  | .desBadParity => str "DES key has bad parity"
  | .desWeakKey => str "DES key is a weak key"
  | .asn1 text => str "asn1: " ++ text
  | .protocol code text _ _ =>
    str "KDC error " ++ renderInt 10 code ++ text.elim [] fun t => str ": " ++ str t
  | .aclDenied => str "ACL denied"
  | .alreadyExists => str "principal exists"
  | .notFound => str "principal not found"
  | .aliasRealm => str "Alias target must be within the same realm"
  | .aliasUnsupported => str "Operation unsupported on alias principal name"
  | .rng => str "rng failed"
  | .passwordPolicy text => str "password policy: " ++ text
  | .badKeysalts => str "Invalid key/salt tuples"
  | .passTooSoon _ => str "Current password's minimum life has not expired"
  | .db text | .invalidArgument text => text
  | .preauthRequired _ => str "preauth required"
  | .preauthModule _ message => message

def keyRefusedAt (e : Error) (status : String) : Error :=
  if e.desKeyCode.isSome then protoD Err.generic status (errorText e) else e

/-- `authdata_failed`, apart from the log. -/
def authdataFailed (e : Error) : Error :=
  keyRefusedAt e handleAuthdata

def mapAdFail : Error → Error
  | .desBadParity => .desBadParity
  | .desWeakKey => .desWeakKey
  | .crypto _ => proto Err.badIntegrity handleAuthdata
  | .asn1 _ => proto Err.generic handleAuthdata
  | .protocol code text eData detail =>
    withStatus (.protocol code text eData detail) handleAuthdata
  | other => protoD Err.generic handleAuthdata (errorText other)

/-- A `KdcAuthdata` module: what it makes of the authorization data of the reply.  That a module
failed is only logged. -/
abbrev AuthdataModule :=
  Bool → AuthorizationData → Option ProtocolKey → Option (PrincipalName × Str) → AuthorizationData

section

variable (ci : Ciphers) (c : AdCodec)

def requestPlain (enc : EncryptedData) (session clientKey : ProtocolKey) : Except CryptoError Str :=
  match ci.decryptEncData session Ku.tgsReqAdSesskey enc.etype enc.cipher with
  | .ok plain => .ok plain
  | .error _ => ci.decryptEncData clientKey Ku.tgsReqAdSubkey enc.etype enc.cipher

def copyRequestAuthdata (enc : EncryptedData) (session clientKey : ProtocolKey)
    (dest : AuthorizationData) : Except Error AuthorizationData := do
  let plain ← (requestPlain ci enc session clientKey).mapError Error.ofCrypto
  let ad ← (c.decode plain).mapError Error.asn1
  rejectIf (hasMandatoryForKdc ad) (proto Err.policy handleAuthdata)
  return addFilteredAuthdata c dest ad

def copyTgtAuthdata (tgtAd dest : AuthorizationData) : Except Error AuthorizationData := do
  rejectIf (hasMandatoryForKdc tgtAd) (proto Err.policy handleAuthdata)
  return addFilteredAuthdata c dest tgtAd

/-- What `handle_authdata` takes from the request. -/
def requestAuthdata (isTgs : Bool) (bodyEncAd : Option EncryptedData)
    (session clientKey : Option ProtocolKey) : Except Error AuthorizationData :=
  match isTgs, bodyEncAd, session, clientKey with
  | true, some enc, some session, some clientKey =>
    (copyRequestAuthdata ci c enc session clientKey []).mapError mapAdFail
  | true, some _, _, _ => .error (proto Err.generic handleAuthdata)
  | _, _, _, _ => .ok []

/-- What `handle_authdata` takes from the header ticket. -/
def tgtAuthdata (isTgs : Bool) (tgtAd : Option AuthorizationData) (out : AuthorizationData) :
    Except Error AuthorizationData :=
  match isTgs, tgtAd with
  | true, some tgt => copyTgtAuthdata c tgt out
  | _, _ => .ok out

def handleAuthdata (modules : List AuthdataModule) (isTgs anonymous : Bool)
    (bodyEncAd : Option EncryptedData) (session clientKey : Option ProtocolKey)
    (tgtAd : Option AuthorizationData) (replySession : Option ProtocolKey)
    (issuer : Option (PrincipalName × Str)) : Except Error (Option AuthorizationData) := do
  let out ← requestAuthdata ci c isTgs bodyEncAd session clientKey
  let out :=
    if anonymous then out
    else modules.foldl (fun out handle => handle isTgs out replySession issuer) out
  let out ← tgtAuthdata c isTgs tgtAd out
  return if out = [] then none else some out

end

end Kerber.Issue
