import Kerber.Types.Str

/-!
# Principal names and protocol errors
-/

namespace Kerber

structure PrincipalName where
  nameType : Int
  nameString : List Str
deriving DecidableEq

namespace PrincipalName

def ntUnknown : Int := 0
def ntPrincipal : Int := 1
def ntSrvInst : Int := 2
def ntSrvHst : Int := 3
def ntEnterprise : Int := 10
def ntWellknown : Int := 11
def ntMsPrincipal : Int := -128

/-- `krbtgt(realm)`. -/
def krbtgt (realm : Str) : PrincipalName :=
  ⟨ntSrvInst, [str "krbtgt", realm]⟩

def isKrbtgt (p : PrincipalName) : Bool :=
  match p.nameString with
  | [first, _] => first == str "krbtgt"
  | _ => false

def isKrbtgtFor (p : PrincipalName) (realm : Str) : Bool :=
  match p.nameString with
  | [first, second] => first == str "krbtgt" && second == realm
  | _ => false

def isLocalTgsPrincipal (p : PrincipalName) (realm : Str) : Bool :=
  p.isKrbtgt && p.isKrbtgtFor realm

def isCrossTgsPrincipal (p : PrincipalName) (realm : Str) : Bool :=
  p.isKrbtgt && !p.isKrbtgtFor realm

end PrincipalName

/-- `krb5_kdc::error::Error`, with the cases the modelled functions raise. -/
inductive Error
  | crypto (text : Str)
  | badEnctype
  | desBadParity
  | desWeakKey
  | asn1 (text : Str)
  | protocol (code : Int) (text : Option String) (eData : Option Str) (detail : Option Str)
  | aclDenied
  | alreadyExists
  | notFound
  | aliasRealm
  | aliasUnsupported
  | rng
  | passwordPolicy (text : Str)
  | badKeysalts
  | passTooSoon (until_ : UInt32)
  | db (text : Str)
  | invalidArgument (text : Str)
  | preauthRequired (eData : Str)
  | preauthModule (code : Int) (message : Str)
deriving DecidableEq

/-- `proto(code, status)`. -/
def proto (code : Int) (status : String) : Error :=
  .protocol code (some status) none none

/-- `proto_d(code, status, detail)`. -/
def protoD (code : Int) (status : String) (detail : Str) : Error :=
  .protocol code (some status) none (some detail)

def withStatus (e : Error) (status : String) : Error :=
  match e with
  | .protocol code _ eData detail => .protocol code (some status) eData detail
  | e => e

/-! ### Error codes (`krb5_types::err`) -/

namespace Err

def nameExp : Int := 1
def serviceExp : Int := 2
def cPrincipalUnknown : Int := 6
def sPrincipalUnknown : Int := 7
def cannotPostdate : Int := 10
def neverValid : Int := 11
def policy : Int := 12
def badoption : Int := 13
def etypeNosupp : Int := 14
def sumtypeNosupp : Int := 15
def padataTypeNosupp : Int := 16
def trtypeNosupp : Int := 17
def clientRevoked : Int := 18
def tgtRevoked : Int := 20
def keyExpired : Int := 23
def preauthFailed : Int := 24
def preauthRequired : Int := 25
def serverNomatch : Int := 26
def mustUseUser2user : Int := 27
def svcUnavailable : Int := 29
def badIntegrity : Int := 31
def tktExpired : Int := 32
def tktNyv : Int := 33
def apRepeat : Int := 34
def notUs : Int := 35
def badmatch : Int := 36
def skew : Int := 37
def badaddr : Int := 38
def msgType : Int := 40
def modified : Int := 41
def badorder : Int := 42
def illCrTkt : Int := 43
def inappCksum : Int := 50
def generic : Int := 60
def clientNotTrusted : Int := 62
def kdcNotTrusted : Int := 63
def invalidSig : Int := 64
def dhKeyParametersNotAccepted : Int := 65
def certificateMismatch : Int := 66
def clientNameMismatch : Int := 75
def inconsistentKeyPurpose : Int := 77
def preauthExpired : Int := 90
def morePreauthDataRequired : Int := 91
def noAcceptableKdf : Int := 100
def tktInvalid : Int := 145
def cryptoInternal : Int := 178
def badEnctype : Int := 188
def badMsize : Int := 190
def discard : Int := -1750600189

end Err

/-! ### Status texts (`krb5_kdc::status`) -/

namespace Status

def addToTransitedList : String := "ADD_TO_TRANSITED_LIST"
def anonymousNotAllowed : String := "ANONYMOUS NOT ALLOWED"
def badEncryptionType : String := "BAD_ENCRYPTION_TYPE"
def badEtypeIn2ndTkt : String := "BAD_ETYPE_IN_2ND_TKT"
def badTgsServerInstance : String := "BAD TGS SERVER INSTANCE"
def badTgsServerName : String := "BAD TGS SERVER NAME"
def badTransit : String := "BAD_TRANSIT"
def cantFindClientKey : String := "CANT_FIND_CLIENT_KEY"
def cantProxyTgt : String := "CAN'T PROXY TGT"
def clientExpired : String := "CLIENT EXPIRED"
def clientKeyExpired : String := "CLIENT KEY EXPIRED"
def clientLockedOut : String := "CLIENT LOCKED OUT"
def clientNotFound : String := "CLIENT_NOT_FOUND"
def dupSkeyDisallowed : String := "DUP_SKEY DISALLOWED"
def evidenceTicketMismatch : String := "EVIDENCE_TICKET_MISMATCH"
def evidenceTktNotForwardable : String := "EVIDENCE_TKT_NOT_FORWARDABLE"
def findingServerKey : String := "FINDING_SERVER_KEY"
def getAuthIndicators : String := "GET_AUTH_INDICATORS"
def getLocalTgt : String := "GET_LOCAL_TGT"
def handleAuthdata : String := "HANDLE_AUTHDATA"
def headerPac : String := "HEADER_PAC"
def higherAuthenticationRequired : String := "HIGHER_AUTHENTICATION_REQUIRED"
def invalidAsOptions : String := "INVALID AS OPTIONS"
def invalidLineage : String := "INVALID LINEAGE"
def invalidS4u2proxyOptions : String := "INVALID_S4U2PROXY_OPTIONS"
def invalidS4u2selfOptions : String := "INVALID S4U2SELF OPTIONS"
def invalidS4u2selfRequestServerMismatch : String := "INVALID_S4U2SELF_REQUEST_SERVER_MISMATCH"
def invalidXrealmS4u2selfRequest : String := "INVALID_XREALM_S4U2SELF_REQUEST"
def kdcReturnPadata : String := "KDC_RETURN_PADATA"
def lockedOut : String := "LOCKED_OUT"
def lookingUpClient : String := "LOOKING_UP_CLIENT"
def lookingUpServer : String := "LOOKING_UP_SERVER"
def neededHwPreauth : String := "NEEDED_HW_PREAUTH"
def no2ndTkt : String := "NO_2ND_TKT"
def noHwPreauth : String := "NO HW PREAUTH"
def nonPostdatableTicket : String := "NON-POSTDATABLE TICKET"
def nonRenewableTicket : String := "NON-RENEWABLE TICKET"
def noPreauth : String := "NO PREAUTH"
def notAllowedToDelegate : String := "NOT_ALLOWED_TO_DELEGATE"
def notCrossRealmRequest : String := "NOT_CROSS_REALM_REQUEST"
def notYetValid : String := "NOT_YET_VALID"
def nullClient : String := "NULL_CLIENT"
def nullServer : String := "NULL_SERVER"
def postdateNotAllowed : String := "POSTDATE NOT ALLOWED"
def preauthFailed : String := "PREAUTH_FAILED"
def processTgs : String := "PROCESS_TGS"
def rbcdPacPrinc : String := "RBCD_PAC_PRINC"
def renewServerMismatch : String := "SERVER DIDN'T MATCH TICKET FOR RENEW/FORWARD/ETC"
def requiredPwchange : String := "REQUIRED PWCHANGE"
def s4u2proxyCrossStktPac : String := "S4U2PROXY_CROSS_STKT_PAC"
def s4u2proxyHeaderPac : String := "S4U2PROXY_HEADER_PAC"
def s4u2proxyLocalStktPac : String := "S4U2PROXY_LOCAL_STKT_PAC"
def s4u2proxyNoHeaderPac : String := "S4U2PROXY_NO_HEADER_PAC"
def s4u2proxyNoStktPac : String := "S4U2PROXY_NO_STKT_PAC"
def s4u2selfClientNotOurs : String := "S4U2SELF_CLIENT_NOT_OURS"
def s4u2selfForeignPacClient : String := "S4U2SELF_FOREIGN_PAC_CLIENT"
def s4u2selfLocalPacClient : String := "S4U2SELF_LOCAL_PAC_CLIENT"
def s4u2selfNoPac : String := "S4U2SELF_NO_PAC"
def secondTktDecrypt : String := "2ND_TKT_DECRYPT"
def secondTktMismatch : String := "2ND_TKT_MISMATCH"
def secondTktNotTgs : String := "2ND_TKT_NOT_TGS"
def secondTktPac : String := "2ND_TKT_PAC"
def secondTktServer : String := "2ND_TKT_SERVER"
def serverLockedOut : String := "SERVER LOCKED OUT"
def serverNotAllowed : String := "SERVER NOT ALLOWED"
def serverNotFound : String := "SERVER_NOT_FOUND"
def serviceExpired : String := "SERVICE EXPIRED"
def serviceLockedOut : String := "SERVICE LOCKED OUT"
def serviceNotAllowed : String := "SERVICE NOT ALLOWED"
def tgtBasedNotAllowed : String := "TGT BASED NOT ALLOWED"
def tgtNotForwardable : String := "TGT NOT FORWARDABLE"
def tgtNotPostdatable : String := "TGT NOT POSTDATABLE"
def tgtNotProxiable : String := "TGT NOT PROXIABLE"
def ticketNotRenewable : String := "TICKET NOT RENEWABLE"
def ticketNotValid : String := "TICKET NOT VALID"
def tktExpired : String := "TKT_EXPIRED"
def unknownReason : String := "UNKNOWN_REASON"
def unknownServer : String := "UNKNOWN_SERVER"
def unsupportedS4u2proxyRequest : String := "UNSUPPORTED_S4U2PROXY_REQUEST"
def validateAnonymousPrincipal : String := "VALIDATE_ANONYMOUS_PRINCIPAL"
def validateMessageType : String := "VALIDATE_MESSAGE_TYPE"
def validateTransitType : String := "VALIDATE_TRANSIT_TYPE"
def validateValidTicket : String := "VALIDATE VALID TICKET"
def xrealmEvidenceTicketMismatch : String := "XREALM_EVIDENCE_TICKET_MISMATCH"

end Status

end Kerber
