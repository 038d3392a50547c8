import Kerber.Issue.Indicators

/-!
# Minting a ticket

`mint_ticket` (`issue/reply.rs`): the authorization data of the new ticket, its PAC, which signs the
ticket with a dummy in the place of the PAC, and the encryption under the key of the service.
-/

namespace Kerber.Issue

inductive TicketPac
  | mit (req : HandlePac)
  | ad (logonOverride subjectPac s4uClientInfo : Option Str)
      (identity : Option (PrincipalName × Str))

structure MintTicket where
  serviceKey : ProtocolKey
  kvno : UInt32
  serviceEtype : EncryptionType
  session : ProtocolKey
  srealm : Str
  sname : PrincipalName
  crealm : Str
  cname : PrincipalName
  (authtime endtime : KerberosTime)
  flags : TicketFlags
  kdcKey : ProtocolKey
  transited : TransitedEncoding
  renewTill : Option KerberosTime
  pac : Option TicketPac
  starttime : KerberosTime
  caddr : Option HostAddresses
  extraAd : Option AuthorizationData
  indicators : List Str
  krbtgt : Principal
  krbtgtKey : ProtocolKey
  noAuthData : Bool

/-- `ks(s)`. -/
def ks (s : Str) : Except Error Str :=
  if s.all (· < 128) then .ok s else .error (proto Err.generic Status.unknownReason)

def cryptoAt {α : Type} (r : Except CryptoError α) (status : String) : Except Error α :=
  r.mapError fun e => keyRefusedAt (Error.ofCrypto e) status

def pacFromTicketPart (c : AdCodec) (part : TicketPart) : Option Str :=
  part.authorizationData.bind (pacFromAuthdata c)

section

variable (l : Libs)

def ticketChecksumDer (part : TicketPart) : Except Error Str :=
  (l.part.encode { part with
    authorizationData := part.authorizationData.map (authorizationWithZeroedPac l.ad) }).mapError
      Error.asn1

def decryptTicketPart (key : ProtocolKey) (ticket : Ticket) : Except Error TicketPart := do
  let plain ← (l.ciphers.decryptEncData key Ku.ticket ticket.encPart.etype
    ticket.encPart.cipher).mapError Error.ofCrypto
  (l.part.decode plain).mapError Error.asn1

namespace MintTicket

/-- The part before it has authorization data. -/
def bare (p : MintTicket) (crealm : Str) : TicketPart where
  flags := p.flags
  key := encryptionKey p.session
  crealm
  cname := p.cname
  transited := p.transited
  authtime := p.authtime
  starttime := omitStartIfAuth p.starttime p.authtime
  endtime := p.endtime
  renewTill := p.renewTill
  caddr := p.caddr
  authorizationData := none

def extra (p : MintTicket) (part : TicketPart) : Except Error AuthorizationData :=
  if p.noAuthData then .ok (p.extraAd.getD [])
  else
    (addAuthIndicators l (p.extraAd.getD []) p.indicators p.serviceKey p.krbtgt p.krbtgtKey
      part).mapError authdataFailed

/-- The identity the buffers of an Active Directory PAC are made from. -/
def pacIdentityFor (store : KdcStore) (p : MintTicket) (logonOverride : Option Str)
    (identity : Option (PrincipalName × Str)) : Except Error PacIdentity :=
  match logonOverride with
  | some logon => (l.logonIdentity logon p.crealm).mapError fun e =>
      protoD Err.badIntegrity Status.handleAuthdata (str "PAC logon: " ++ e)
  | none =>
    match identity with
    | some (name, realm) => .ok (store.pacIdentity name realm)
    | none => .ok (store.pacIdentity p.cname p.crealm)

def signPac (store : KdcStore) (p : MintTicket) (pac : TicketPac) (ticket : PacTicket) :
    Except Error Str :=
  match pac with
  | .mit req =>
    (mitTicketPac l.macs req p.cname (UInt32.ofNat p.authtime.unixSeconds) ticket).mapError
      authdataFailed
  | .ad logonOverride subjectPac s4uClientInfo identity => do
    let ident ← pacIdentityFor l store p logonOverride identity
    (signReplyPacInner l.macs p.cname (UInt32.ofNat p.authtime.unixSeconds) ticket ident
      logonOverride subjectPac s4uClientInfo).mapError authdataFailed

/-- What the PAC of a ticket signs: the ticket with a single zero for the PAC. -/
def checksumDer (part : TicketPart) (extra : AuthorizationData) : Except Error Str := do
  let placeholder ← wrapWin2kPac l.ad [0]
  (l.part.encode { part with authorizationData := some (placeholder ++ extra) }).mapError Error.asn1

def part (store : KdcStore) (p : MintTicket) : Except Error TicketPart := do
  let crealm ← ks p.crealm
  let bare := p.bare crealm
  let extra ← p.extra l bare
  match p.pac with
  | some pac => do
    let der ← checksumDer l bare extra
    let signed ← signPac l store p pac
      ⟨p.serviceKey, p.kdcKey, der, shouldHaveTicketSignature p.sname⟩
    let wrapped ← wrapWin2kPac l.ad signed
    return { bare with authorizationData := some (wrapped ++ extra) }
  | none =>
    return { bare with authorizationData := if extra = [] then none else some extra }

/-- `mint_ticket`. -/
def mint (store : KdcStore) (draw : Draw) (p : MintTicket) : Except Error Ticket := do
  let part ← p.part l store
  let der ← (l.part.encode part).mapError Error.asn1
  let cipher ← cryptoAt (l.ciphers.encrypt draw p.serviceKey Ku.ticket der) Status.unknownReason
  let realm ← ks p.srealm
  return { realm, sname := p.sname,
           encPart := ⟨p.serviceEtype.toIana, if p.kvno = 0 then none else some p.kvno, cipher⟩ }

end MintTicket

end

end Kerber.Issue
