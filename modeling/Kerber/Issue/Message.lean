import Kerber.Crypto.Cipher
import Kerber.Issue.KdcUtil
import Kerber.Pac.Sign
import Kerber.Types.AuthData
import Kerber.Types.Transited

/-!
# Messages of the KDC exchanges

The parts of a request and of a ticket beyond those the times and flags are computed from
(`krb5_types`).
-/

namespace Kerber

structure HostAddress where
  addrType : Int32
  address : Str
deriving DecidableEq

abbrev HostAddresses := List HostAddress

structure PaData where
  padataType : Int32
  padataValue : Str
deriving DecidableEq

structure Checksum where
  cksumtype : Int32
  checksum : Str
deriving DecidableEq

/-- `Ticket`; its version is always 5. -/
structure Ticket where
  realm : Str
  sname : PrincipalName
  encPart : EncryptedData
deriving DecidableEq

structure VerifierMac where
  identifier : Option PrincipalName
  kvno : Option UInt32
  enctype : Option Int32
  mac : Checksum
deriving DecidableEq

structure Cammac where
  elements : AuthorizationData
  (kdcVerifier svcVerifier : Option VerifierMac)
  otherVerifiers : Option (List VerifierMac)
deriving DecidableEq

namespace Issue

/-- `EncTicketPart` as a whole. -/
structure TicketPart extends EncTicketPart where
  key : EncryptionKey
  transited : TransitedEncoding
  caddr : Option HostAddresses
  authorizationData : Option AuthorizationData
deriving DecidableEq

/-- `KdcReqBody` as a whole. -/
structure ReqBody extends KdcReqBody where
  cname : Option PrincipalName
  nonce : UInt32
  etype : List Int32
  addresses : Option HostAddresses
  encAuthorizationData : Option EncryptedData
  additionalTickets : Option (List Ticket)
deriving DecidableEq

/-- The libraries under the KDC: the hashes, the ciphers and the DER of its messages. -/
structure Libs where
  macs : Macs
  ciphers : Ciphers
  ad : AdCodec
  part : Codec TicketPart
  cammac : Codec Cammac
  /-- The DER of a list of texts. -/
  texts : Codec (List Str)
  /-- `parse_kerb_validation_info`, and the identity in the logon information for a realm. -/
  logonIdentity : Str → Str → Except Str PacIdentity

/-! ### Times on the wire -/

/-- A time that may be left out, as the decoder reads it. -/
def rereadTime (t : Option KerberosTime) : Option (Option KerberosTime) :=
  match t with
  | none => some none
  | some s => s.mitGeneraltime.map some

/-- The ticket as the next request's decoder reads it. -/
def EncTicketPart.reread (t : EncTicketPart) : Option EncTicketPart := do
  let authtime ← t.authtime.mitGeneraltime
  let starttime ← rereadTime t.starttime
  let endtime ← t.endtime.mitGeneraltime
  let renewTill ← rereadTime t.renewTill
  return { t with authtime, starttime, endtime, renewTill }

/-- The whole ticket as a decoder reads it. -/
def TicketPart.reread (t : TicketPart) : Option TicketPart :=
  t.toEncTicketPart.reread.map fun read => { t with toEncTicketPart := read }

/-- Every time of the ticket is a 32-bit time. -/
def EncTicketPart.Is32 (t : EncTicketPart) : Prop :=
  t.authtime.Is32 ∧ (∀ s ∈ t.starttime, s.Is32) ∧ t.endtime.Is32 ∧ ∀ s ∈ t.renewTill, s.Is32

end Issue

end Kerber
