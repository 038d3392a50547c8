import Kerber.Issue.Message
import Kerber.Protocol.Replay

/-!
# Accepting an AP-REQ

`verify_ap_req_ex` (`ap_req.rs`): the ticket and the authenticator are opened, the authenticator's tag
goes to the replay cache, and then the times are checked.  The decoders, the ciphers, the decryption of
the ticket with the keys of the server and the check of the transited realms are parameters.
-/

namespace Kerber.Protocol

open Issue (TicketPart)

/-- `krb5_protocol::Error`, as far as an acceptor answers with it. -/
inductive Error
  | crypto (text : Str)
  | asn1 (text : Str)
  | krbError (code : Int) (text : Option Str)
  | badS2kParams
  | badEnctype
  | desBadParity
  | desWeakKey
  | kdbNoPermittedKey
  | progEtypeNosupp
  | progSumtypeNosupp
  | nopermEtype (text : Str)
  | truncatedReply
  | io (text : Str)
deriving DecidableEq

/-- `From<krb5_crypto::Error> for Error`. -/
def Error.ofCrypto : CryptoError → Error
  | .badEnctype _ => .badEnctype
  | .desBadParity => .desBadParity
  | .desWeakKey => .desWeakKey
  | .badS2kParams => .badS2kParams
  | e => .crypto e.text

def decryptCode : CryptoError → Option Int
  | .integrity => some Err.badIntegrity
  | .ciphertextTooShort => some Err.badMsize
  | .badEnctype _ | .unsupportedEtype _ => some Err.badEnctype
  | .invalidKeyLength => some Err.cryptoInternal
  | _ => none

/-- `ApReq`; its version and type are fixed. -/
structure ApReq where
  mutualRequired : Bool
  ticket : Ticket
  authenticator : EncryptedData
deriving DecidableEq

/-- `Authenticator`, as far as the acceptors read it. -/
structure Authenticator where
  crealm : Str
  cname : PrincipalName
  cksum : Option Checksum
  ctime : KerberosTime
  seqNumber : Option UInt32
deriving DecidableEq

/-- `ApVerifyParams`, apart from the keys of the server. -/
structure ApVerifyParams where
  expectedServer : Option PrincipalName
  expectedRealm : Option Str
  /-- The keys are looked up by name (`get_entry`). -/
  byLookup : Bool
  skew : Int
  ignoreAcceptorHostname : Bool
  remoteAddr : Option HostAddress
  now : Option KerberosTime
deriving DecidableEq

/-- What is under the acceptor. -/
structure ApLibs where
  macs : Macs
  ciphers : Ciphers
  apReq : Str → Except Error ApReq
  authenticator : Str → Except Error Authenticator
  /-- `decrypt_for_server` with an explicit or looked-up server, `decrypt_by_keytab_walk` without. -/
  decryptTicket : ApVerifyParams → ApReq → Except Error TicketPart
  /-- `transited::check_transited` with the capaths, which answers with an error code. -/
  checkTransited : TicketPart → Str → Except Int Unit
  /-- The text of an error code. -/
  errorMessage : Int → Str

structure ApVerifyOk where
  ticketPart : TicketPart
  sname : PrincipalName
  srealm : Str
  authenticator : Authenticator
  mutualRequired : Bool
  ticketEtype : Int32
deriving DecidableEq

def addressInList (addr : HostAddress) (list : HostAddresses) : Bool :=
  match list with
  | [a] => a.addrType = 20 || a = addr
  | _ => list.contains addr

def addressSearch (addr : HostAddress) (list : Option HostAddresses) : Bool :=
  list.all (addressInList addr)

def isMatching (server : Option PrincipalName) (realm : Option Str) (ignoreHost : Bool) : Bool :=
  match server with
  | none => true
  | some server =>
    match server.nameString with
    | [_, host] =>
      server.nameType == PrincipalName.ntSrvHst && (realm.all (·.isEmpty) || host.isEmpty || ignoreHost)
    | _ => false

namespace ApLibs

variable (l : ApLibs)

def refused (code : Int) : Error := .krbError code (some (l.errorMessage code))

def serverLookedUp (ap : ApReq) (params : ApVerifyParams) : PrincipalName × Str :=
  let ticketRealm := fromUtf8Lossy ap.ticket.realm
  if isMatching params.expectedServer params.expectedRealm params.ignoreAcceptorHostname then
    (ap.ticket.sname, ticketRealm)
  else (params.expectedServer.getD ap.ticket.sname, params.expectedRealm.getD ticketRealm)

/-- The server the ticket is for.  A realm that is no ASCII text stays as the ticket has it. -/
def server (ap : ApReq) (params : ApVerifyParams) : PrincipalName × Str :=
  if params.byLookup then
    let (name, realm) := serverLookedUp ap params
    (name, if realm.all (· < 128) then realm else ap.ticket.realm)
  else (ap.ticket.sname, ap.ticket.realm)

def sessionKey (key : EncryptionKey) (data : EncryptedData) : Except CryptoError ProtocolKey := do
  let etype ← (EncryptionType.known key.keytype).mapError fun _ => .unsupportedEtype key.keytype
  rejectIf (data.etype != enctypeUnknown && data.etype != key.keytype) (.badEnctype data.etype)
  rejectIf (decide (data.cipher.length < etype.minCiphertextLen)) .ciphertextTooShort
  Macs.rekey etype key.keyvalue

def decryptAuthenticator (part : TicketPart) (ap : ApReq) :
    Except CryptoError (ProtocolKey × Str) := do
  let session ← sessionKey part.key ap.authenticator
  let plain ← l.ciphers.decryptEncData session Ku.apReqAuthenticator ap.authenticator.etype
    ap.authenticator.cipher
  return (session, plain)

/-- The answer to a failed decryption. -/
def decryptError (e : CryptoError) : Error :=
  (decryptCode e).elim (Error.ofCrypto e) l.refused

/-- The tag of an AP-REQ, as the file cache keeps it. -/
def replayKey (ap : ApReq) : Option ReplayKey := do
  let etype ← (EncryptionType.known ap.authenticator.etype).toOption
  let key ← ReplayKey.fromCiphertext etype ap.authenticator.cipher
  return key.file2

/-- What is known of an AP-REQ when its tag goes to the cache. -/
structure Opened where
  ap : ApReq
  part : TicketPart
  session : ProtocolKey
  authenticator : Authenticator
  key : ReplayKey
deriving DecidableEq

/-- `verify_inner` up to the replay cache. -/
def openAp (params : ApVerifyParams) (raw : Str) : Except Error Opened := do
  rejectIf raw.isEmpty .truncatedReply
  let ap ← l.apReq raw
  let part ← l.decryptTicket params ap
  let opened ← (l.decryptAuthenticator part ap).mapError l.decryptError
  let authenticator ← l.authenticator opened.2
  rejectIf (authenticator.cname.nameString != part.cname.nameString
    || authenticator.crealm != part.crealm) (l.refused Err.badmatch)
  rejectIf (params.remoteAddr.any fun remote => !addressSearch remote part.caddr)
    (l.refused Err.badaddr)
  (l.checkTransited part (fromUtf8Lossy (server ap params).2)).mapError l.refused
  let key ← (replayKey ap).elim (.error (.crypto (str "ciphertext shorter than its checksum"))) .ok
  return ⟨ap, part, opened.1, authenticator, key⟩

/-- `validate_times`: a ticket without a start time starts at its authentication time. -/
def validateTimes (part : TicketPart) (now : KerberosTime) (skew : Int) : Except Error Unit := do
  let start := part.starttime.getD part.authtime
  rejectIf (decide (now.deltaSeconds start < -skew)) (l.refused Err.tktNyv)
  rejectIf (decide (part.endtime.deltaSeconds now < -skew)) (l.refused Err.tktExpired)

def checkAppCksum (o : Opened) (appCksum : Option Str) : Except Error Unit :=
  match o.authenticator.cksum, appCksum with
  | some ck, some data =>
    if ck.cksumtype = 0x8003 then .ok ()
    else (l.macs.verifyChecksumType o.session Ku.apReqAuthCksum data ck.cksumtype ck.checksum).mapError
      Error.ofCrypto
  | _, _ => .ok ()

/-- `verify_inner` after the replay cache. -/
def finishAp (params : ApVerifyParams) (clock : Nat) (appCksum : Option Str) (o : Opened) :
    Except Error ApVerifyOk := do
  let now := params.now.getD (wall clock)
  l.validateTimes o.part now params.skew
  rejectIf (decide (params.skew < (now.deltaSeconds o.authenticator.ctime).natAbs))
    (l.refused Err.skew)
  rejectIf o.part.flags.invalid (l.refused Err.tktInvalid)
  l.checkAppCksum o appCksum
  let (sname, srealm) := server o.ap params
  return ⟨o.part, sname, srealm, o.authenticator, o.ap.mutualRequired, o.ap.ticket.encPart.etype⟩

/-- One call of an acceptor: when, on what message, and with which parameters. -/
structure Call where
  clock : Nat
  raw : Str
  params : ApVerifyParams
  appCksum : Option Str
deriving DecidableEq

/-- `verify_ap_req_ex`, with the cache it leaves. -/
def verifyApReqEx (g : ReplayCache) (c : Call) : Except Error ApVerifyOk × ReplayCache :=
  match l.openAp c.params c.raw with
  | .error e => (.error e, g)
  | .ok o =>
    let (replayed, g') := g.checkAndStore c.clock o.key c.params.skew
    (if replayed then .error (l.refused Err.apRepeat) else l.finishAp c.params c.clock c.appCksum o,
      g')

end ApLibs

end Kerber.Protocol
