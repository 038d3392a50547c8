import Kerber.Pac.Verify
import Kerber.Pac.Delegation

/-!
# Signing a PAC

The two ways the KDC makes the PAC of a ticket (`krb5_kdc::ad`): `mitTicketPac` carries the client
and delegation information, `signReplyPacInner` carries every buffer of the subject's PAC that is no
signature, or makes the buffers of an identity.
-/

namespace Kerber

structure PacTicket where
  (server kdc : ProtocolKey)
  encTktDer : Str
  isServiceTkt : Bool

def isPacSignature (kind : UInt32) : Bool :=
  [pacServerChecksum, pacPrivsvrChecksum, pacTicketChecksum, pacFullChecksum].contains kind

def setSig (kind : UInt32) (cksumtype : Int32) (mac : Str) (buffers : List PacBuffer) :
    List PacBuffer :=
  buffers.map fun b =>
    if b.kind = kind then { b with data := signatureBuffer cksumtype mac } else b

def shouldHaveTicketSignature (sname : PrincipalName) : Bool :=
  !(sname.isKrbtgt || sname.nameString == [str "kadmin", str "changepw"])

/-- `checksum` under the usage of PAC signatures. -/
def Macs.pacChecksum (m : Macs) (key : ProtocolKey) (message : Str) : Except Error Str :=
  (m.checksum key Ku.kerbNonKerbCksumSalt message).mapError Error.ofCrypto

/-- The buffers made from a `PacIdentity`. -/
structure PacIdentity where
  (logonInfo upnDnsInfo attributesInfo requesterSid : Str)

def replaceFirst (kind : UInt32) (data : Str) : List PacBuffer → List PacBuffer
  | [] => []
  | b :: rest =>
    if b.kind = kind then { b with data } :: rest else b :: replaceFirst kind data rest

def carriedBuffers (subject : Pac) (authtime : UInt32) (logonOverride s4uClientInfo : Option Str) :
    List PacBuffer :=
  let buffers := (subject.buffers.filter fun b => !isPacSignature b.kind).map fun b =>
    PacBuffer.new b.kind b.data
  let buffers :=
    match logonOverride with
    | none => buffers
    | some logon =>
      if buffers.any (·.kind == pacLogonInfo) then replaceFirst pacLogonInfo logon buffers
      else .new pacLogonInfo logon :: buffers
  match s4uClientInfo with
  | none => buffers
  | some name =>
    let info := clientInfoBuffer authtime name
    if buffers.any (·.kind == pacClientInfo) then replaceFirst pacClientInfo info buffers
    else buffers ++ [.new pacClientInfo info]

def identityBuffers (cname : PrincipalName) (authtime : UInt32) (identity : PacIdentity)
    (logonOverride s4uClientInfo : Option Str) : List PacBuffer :=
  [.new pacLogonInfo (logonOverride.getD identity.logonInfo),
   .new pacClientInfo
    (clientInfoBuffer authtime (s4uClientInfo.getD cname.componentsJoined)),
   .new pacUpnDnsInfo identity.upnDnsInfo,
   .new pacAttributesInfo identity.attributesInfo,
   .new pacRequesterSid identity.requesterSid]

/-- The buffers of `sign_reply_pac_inner` before the signatures. -/
def replyBuffers (cname : PrincipalName) (authtime : UInt32) (identity : PacIdentity)
    (logonOverride subjectPac s4uClientInfo : Option Str) : Except Error (List PacBuffer) :=
  match subjectPac with
  | some raw =>
    ((Pac.parse raw).mapError mapPacErr).map fun subject =>
      carriedBuffers subject authtime logonOverride s4uClientInfo
  | none => .ok (identityBuffers cname authtime identity logonOverride s4uClientInfo)

def placeholder (key : ProtocolKey) : Str :=
  signatureBuffer key.etype.checksumType (List.replicate key.etype.hmacOutputLen 0)

section

variable (m : Macs)

variable (ticket : PacTicket) (buffers : List PacBuffer)

/-- The buffers of a reply with zeros for the signatures. -/
def withPlaceholders : List PacBuffer :=
  buffers
    ++ (if ticket.isServiceTkt then
        [.new pacTicketChecksum (placeholder ticket.kdc),
         .new pacFullChecksum (placeholder ticket.kdc)]
      else [])
    ++ [.new pacServerChecksum (placeholder ticket.server),
        .new pacPrivsvrChecksum (placeholder ticket.kdc)]

/-- The ticket and full signatures of `sign_reply_pac_inner`, for a service ticket. -/
def signService : Except Error (List PacBuffer) :=
  if ticket.isServiceTkt then do
    let ticketMac ← m.pacChecksum ticket.kdc ticket.encTktDer
    let buffers := setSig pacTicketChecksum ticket.kdc.etype.checksumType ticketMac buffers
    let fullMac ← m.pacChecksum ticket.kdc (Pac.built 0 buffers).bytesForFullChecksum
    return setSig pacFullChecksum ticket.kdc.etype.checksumType fullMac buffers
  else .ok buffers

/-- The signatures of `sign_reply_pac_inner`. -/
def signReplyBuffers : Except Error Str := do
  let buffers ← signService m ticket (withPlaceholders ticket buffers)
  let serverMac ← m.pacChecksum ticket.server (Pac.built 0 buffers).bytesForChecksum
  let buffers := setSig pacServerChecksum ticket.server.etype.checksumType serverMac buffers
  let serverBuf ← (Pac.built 0 buffers).serverChecksum.mapError mapPacErr
  match serverBuf with
  | none => .error (proto Err.generic Status.headerPac)
  | some serverBuf => do
    rejectIf (serverBuf.length < 4) (proto Err.generic Status.headerPac)
    let kdcMac ← m.pacChecksum ticket.kdc (serverBuf.drop 4)
    return (Pac.built 0
      (setSig pacPrivsvrChecksum ticket.kdc.etype.checksumType kdcMac buffers)).toBytes

def signReplyPacInner (cname : PrincipalName) (authtime : UInt32) (ticket : PacTicket)
    (identity : PacIdentity) (logonOverride subjectPac s4uClientInfo : Option Str) :
    Except Error Str := do
  let buffers ← replyBuffers cname authtime identity logonOverride subjectPac s4uClientInfo
  signReplyBuffers m ticket buffers

/-! ### The PAC of MIT's KDC -/

structure HandlePac where
  subject : Option Str
  (s4u issuingReferral : Bool)
  (delegation altcprinc : Option (PrincipalName × Str))

def handleAuthdataError : Error :=
  proto Err.generic Status.handleAuthdata

def clientInfoName (name : PrincipalName) (realm : Option Str) : Str :=
  match realm with
  | none => name.unparseNoRealm
  | some r =>
    if name.nameType = PrincipalName.ntEnterprise then name.componentsJoined ++ str "@" ++ r
    else name.unparseWithRealm r

def subjectDelegation (subject : Option Pac) : Except Error S4uDelegationInfo := do
  let found ← subject.elim (.ok none) fun s =>
    (s.uniqueBuffer pacDelegationInfo).mapError fun _ => handleAuthdataError
  found.elim (.ok ⟨[], []⟩) fun buf =>
    (S4uDelegationInfo.parse buf).mapError fun _ => handleAuthdataError

/-- `delegation_info_for`: the target is replaced and the service added. -/
def delegationInfoFor (subject : Option Pac) (proxyTarget : PrincipalName) (transited : Str) :
    Except Error Str := do
  let di ← subjectDelegation subject
  return S4uDelegationInfo.toBuffer
    ⟨proxyTarget.componentsJoined, di.transitedServices ++ [transited]⟩

def updateDelegationInfo (subjectPac : Str) (proxyTarget : PrincipalName) (transited : Str) :
    Except Error Str := do
  let parsed ← (Pac.parse subjectPac).mapError mapPacErr
  let buf ← delegationInfoFor (some parsed) proxyTarget transited
  return (Pac.built 0 ((parsed.buffers.filter (·.kind != pacDelegationInfo))
    ++ [.new pacDelegationInfo buf])).toBytes

/-- The DELEGATION_INFO buffer of `mit_ticket_pac`. -/
def mitDelegation (req : HandlePac) (subject : Option Pac) : Except Error (List PacBuffer) :=
  match req.delegation with
  | some (target, transited) => do
    let di ← delegationInfoFor subject target transited
    return [.new pacDelegationInfo di]
  | none =>
    match subject with
    | none => .ok []
    | some s => do
      let di ← (s.uniqueBuffer pacDelegationInfo).mapError fun _ => handleAuthdataError
      return di.toList.map (.new pacDelegationInfo)

/-- The client information of `mit_ticket_pac`: the subject's, or the name to make it from. -/
def mitClient (req : HandlePac) (client : PrincipalName) (subject : Option Pac) :
    Except Error (List PacBuffer × Option Str) :=
  if req.s4u && req.issuingReferral then
    match req.altcprinc with
    | some (name, realm) => .ok ([], some (clientInfoName name (some realm)))
    | none => .error handleAuthdataError
  else
    match subject with
    | none => .ok ([], some (clientInfoName client none))
    | some s =>
      if req.s4u then .ok ([], some (clientInfoName client none))
      else
        match s.uniqueBuffer pacClientInfo with
        | .ok (some info) => .ok ([.new pacClientInfo info], none)
        | _ => .error handleAuthdataError

def zeroedSignature (cksumtype : Int32) : Except Error Str :=
  match checksumOutputSize cksumtype with
  | some len => .ok (signatureBuffer cksumtype (List.replicate len 0))
  | none => .error (.crypto (str "PAC checksum type " ++ renderInt 10 cksumtype.toInt ++
      str " has no length"))

/-- The ticket signature of `mit_ticket_pac`, for a service ticket. -/
def mitTicketSignature : Except Error (List PacBuffer) :=
  if ticket.isServiceTkt then do
    let mac ← m.pacChecksum ticket.kdc ticket.encTktDer
    return [.new pacTicketChecksum (signatureBuffer ticket.kdc.etype.checksumType mac)]
  else .ok []

/-- The zeros for the full signature of `mit_ticket_pac`, for a service ticket. -/
def mitFullPlaceholder : Except Error (List PacBuffer) :=
  if ticket.isServiceTkt then do
    let zeros ← zeroedSignature ticket.kdc.etype.checksumType
    return [.new pacFullChecksum zeros]
  else .ok []

/-- The full signature of `mit_ticket_pac`, for a service ticket. -/
def mitSignFull : Except Error (List PacBuffer) :=
  if ticket.isServiceTkt then do
    let fullMac ← m.pacChecksum ticket.kdc (Pac.built 0 buffers).toBytes
    return setSig pacFullChecksum ticket.kdc.etype.checksumType fullMac buffers
  else .ok buffers

def mitTicketPac (req : HandlePac) (client : PrincipalName) (authtime : UInt32)
    (ticket : PacTicket) : Except Error Str := do
  let subject ← req.subject.elim (.ok none) fun raw =>
    ((Pac.parse raw).mapError fun _ => handleAuthdataError).map some
  let delegation ← mitDelegation req subject
  let (carried, clientName) ← mitClient req client subject
  let ticketSig ← mitTicketSignature m ticket
  let info := clientName.toList.map fun name =>
    PacBuffer.new pacClientInfo (clientInfoBuffer authtime name)
  let serverZeros ← zeroedSignature ticket.server.etype.checksumType
  let kdcZeros ← zeroedSignature ticket.kdc.etype.checksumType
  let fullZeros ← mitFullPlaceholder ticket
  let buffers ← mitSignFull m ticket (delegation ++ carried ++ ticketSig ++ info
    ++ [.new pacServerChecksum serverZeros, .new pacPrivsvrChecksum kdcZeros] ++ fullZeros)
  let serverMac ← m.pacChecksum ticket.server (Pac.built 0 buffers).toBytes
  let buffers := setSig pacServerChecksum ticket.server.etype.checksumType serverMac buffers
  let kdcMac ← m.pacChecksum ticket.kdc serverMac
  return (Pac.built 0
    (setSig pacPrivsvrChecksum ticket.kdc.etype.checksumType kdcMac buffers)).toBytes

end

end Kerber
