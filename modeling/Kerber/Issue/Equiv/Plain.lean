import Kerber.Issue.Equiv.Reply
import Kerber.Issue.Tgs
import Kerber.Lib.Serial

/-!
# Plain formats of the messages

A lawful format for every message the KDC reads and writes, so that what is stated for all libraries
can be tried on one KDC (`plainKdcLibs`, `Tgs.plainRun`).
-/

namespace Kerber.Issue

open Serial

/-! ### The parts of a message -/

def nameSerial : Serial PrincipalName :=
  (int.pair bytes.list).via (fun n => (n.nameType, n.nameString)) (fun x => ⟨x.1, x.2⟩) fun _ => rfl

def timeSerial : Serial KerberosTime :=
  int.via (·.timestamp) (⟨·⟩) fun _ => rfl

def flagsSerial : Serial KerberosFlags :=
  bool.list.via (·.bits) (⟨·⟩) fun _ => rfl

def keySerial : Serial EncryptionKey :=
  (int32.pair bytes).via (fun k => (k.keytype, k.keyvalue)) (fun x => ⟨x.1, x.2⟩) fun _ => rfl

def adSerial : Serial AuthorizationData :=
  ((int32.pair bytes).via (fun el => (el.adType, el.adData)) (fun x => ⟨x.1, x.2⟩)
    fun _ => rfl).list

def addressesSerial : Serial HostAddresses :=
  ((int32.pair bytes).via (fun a => (a.addrType, a.address)) (fun x => ⟨x.1, x.2⟩)
    fun _ => rfl).list

def transitedSerial : Serial TransitedEncoding :=
  (int.pair bytes).via (fun t => (t.trType, t.contents)) (fun x => ⟨x.1, x.2⟩) fun _ => rfl

def encryptedSerial : Serial EncryptedData :=
  (int32.pair (uint32.option.pair bytes)).via (fun e => (e.etype, e.kvno, e.cipher))
    (fun x => ⟨x.1, x.2.1, x.2.2⟩) fun _ => rfl

def ticketSerial : Serial Ticket :=
  (bytes.pair (nameSerial.pair encryptedSerial)).via (fun t => (t.realm, t.sname, t.encPart))
    (fun x => ⟨x.1, x.2.1, x.2.2⟩) fun _ => rfl

def checksumSerial : Serial Checksum :=
  (int32.pair bytes).via (fun c => (c.cksumtype, c.checksum)) (fun x => ⟨x.1, x.2⟩) fun _ => rfl

def verifierSerial : Serial VerifierMac :=
  (nameSerial.option.pair (uint32.option.pair (int32.option.pair checksumSerial))).via
    (fun v => (v.identifier, v.kvno, v.enctype, v.mac))
    (fun x => ⟨x.1, x.2.1, x.2.2.1, x.2.2.2⟩) fun _ => rfl

/-! ### Messages -/

def partSerial : Serial TicketPart :=
  (flagsSerial.pair (bytes.pair (nameSerial.pair (timeSerial.pair (timeSerial.option.pair
    (timeSerial.pair (timeSerial.option.pair (keySerial.pair (transitedSerial.pair
      (addressesSerial.option.pair adSerial.option)))))))))).via
    (fun t => (t.flags, t.crealm, t.cname, t.authtime, t.starttime, t.endtime, t.renewTill, t.key,
      t.transited, t.caddr, t.authorizationData))
    (fun (flags, crealm, cname, authtime, starttime, endtime, renewTill, key, transited, caddr,
        authorizationData) =>
      { flags, crealm, cname, authtime, starttime, endtime, renewTill, key, transited, caddr,
        authorizationData })
    fun _ => rfl

def bodySerial : Serial ReqBody :=
  (flagsSerial.pair (nameSerial.option.pair (bytes.pair (timeSerial.option.pair (timeSerial.pair
    (timeSerial.option.pair (nameSerial.option.pair (uint32.pair (int32.list.pair
      (addressesSerial.option.pair (encryptedSerial.option.pair
        ticketSerial.list.option))))))))))).via
    (fun b => (b.kdcOptions, b.sname, b.realm, b.from, b.till, b.rtime, b.cname, b.nonce, b.etype,
      b.addresses, b.encAuthorizationData, b.additionalTickets))
    (fun (kdcOptions, sname, realm, «from», till, rtime, cname, nonce, etype, addresses,
        encAuthorizationData, additionalTickets) =>
      { kdcOptions, sname, realm, «from», till, rtime, cname, nonce, etype, addresses,
        encAuthorizationData, additionalTickets })
    fun _ => rfl

def cammacSerial : Serial Cammac :=
  (adSerial.pair (verifierSerial.option.pair (verifierSerial.option.pair
    verifierSerial.list.option))).via
    (fun c => (c.elements, c.kdcVerifier, c.svcVerifier, c.otherVerifiers))
    (fun x => ⟨x.1, x.2.1, x.2.2.1, x.2.2.2⟩) fun _ => rfl

/-- The format of tickets: times are kept in 32 bits, as DER keeps them. -/
def plainPart : Codec TicketPart where
  encode part := part.reread.elim (.error []) partSerial.codec.encode
  decode := partSerial.codec.decode

/-- Libraries that can encode every message. -/
def plainKdcLibs : KdcLibs where
  macs := sumMacs
  ciphers := plainCiphers
  ad := plainAd
  part := plainPart
  cammac := cammacSerial.codec
  texts := bytes.list.codec
  logonIdentity _ _ := .error []
  body := bodySerial.codec
  kdcReqBodyDer _ := none
  pacOptions raw := .ok (raw == [1])
  pacRequest raw := .ok (raw == [1])
  fromMitName _ := none
  parseEnctypeList _ _ := none

/-! ### A KDC to try things on -/

def plainEntry (name : List Str) (key : ProtocolKey) : Principal where
  name := ⟨PrincipalName.ntSrvInst, name⟩
  realm := str "R"
  keys := [.new key.etype key 1]

def plainStore (entries : List Principal) : KdcStore :=
  { emptyStore with
    fetch := fun id => .ok (entries.find? fun p => p.name.unparseWithRealm p.realm = id) }

/-- Options with some bits set. -/
def plainFlags (bits : List Nat) : KerberosFlags :=
  bits.foldl (fun f b => f.withBit b true) .none

/-- A ticket of a client in the realm for the ticket-granting service. -/
def plainTgt (crealm : Str) (cname : List Str) (ad : Option AuthorizationData) : TicketPart where
  flags := plainFlags [FlagBit.forwardable]
  crealm
  cname := ⟨PrincipalName.ntPrincipal, cname⟩
  authtime := .fromUnixSeconds 1000
  starttime := none
  endtime := .fromUnixSeconds 9000
  renewTill := none
  key := encryptionKey serverKeyA
  transited := .empty
  caddr := none
  authorizationData := ad

/-- A request for a service of the realm. -/
def plainBody (options : List Nat) (sname : List Str) (nonce : UInt32)
    (additionalTickets : Option (List Ticket)) : ReqBody where
  kdcOptions := plainFlags options
  sname := some ⟨PrincipalName.ntSrvInst, sname⟩
  realm := str "R"
  «from» := none
  till := .fromUnixSeconds 5000
  rtime := none
  cname := none
  nonce
  etype := [17]
  addresses := none
  encAuthorizationData := none
  additionalTickets

namespace Tgs

/-- An accepted header with the checksum over a body. -/
def plainHeader (realm : Str) (encTkt : TicketPart) (body : ReqBody) : Header where
  sname := .krbtgt (str "R")
  realm
  encTkt
  tgtKey := kdcKeyB
  session := serverKeyA
  subkey := none
  cksum := some ⟨15, List.replicate 12 (serverKeyA.bytes ++ bodySerial.put body).sum⟩
  server := plainEntry [str "krbtgt", str "R"] kdcKeyB

/-- A KDC that accepts one header. -/
def plainRun (entries : List Principal) (header : Header) (fast : Option FastOk) : Run where
  libs := plainKdcLibs
  store := plainStore (plainEntry [str "krbtgt", str "R"] kdcKeyB :: entries)
  checkNow := .fromUnixSeconds 2000
  s4uNow := 2000
  dbNow := 2000
  issueNow := .fromUnixSeconds 2000
  randomKey etype := .ok ⟨etype, List.replicate etype.keyLen 7⟩
  draw := []
  acceptHeader _ _ := .ok header
  unwrapFastTgs _ _ _ _ := .ok fast
  wrapAsFast _ _ e := e
  processS4u2selfReq _ _ _ _ := .ok none
  filterCrossRealmLogon := .ok
  authdataModules := []
  kdcpolicies _ _ _ _ := []
  sealReply _ := .ok []

/-- A request with the header as its only padata. -/
def plainReq (body : ReqBody) : Req :=
  ⟨12, some [⟨paTgsReq, []⟩], body⟩

end Tgs

end Kerber.Issue
