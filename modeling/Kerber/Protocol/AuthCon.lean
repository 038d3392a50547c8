import Kerber.Protocol.ApReq

/-!
# Reading KRB-PRIV and KRB-SAFE

The acceptor's side of an authentication context (`auth_con.rs`, `safe_priv.rs`): a message is opened,
its addresses are checked, and it has to be fresh and in order.  The decoders, the ciphers and the
machine's own addresses are parameters.
-/

namespace Kerber.Protocol

/-! ### Sequence numbers -/

structure RemoteSeq where
  expected : UInt32
  (sane heimdal : Bool)
deriving DecidableEq

/-- `chk_heimdal_seqnum`: old Heimdal extends the sign of a number of one to three octets. -/
def chkHeimdalSeqnum (expSeq inSeq : UInt32) : Bool :=
  (expSeq &&& 0xFF800000 == 0x00800000 && inSeq &&& 0xFF800000 == 0xFF800000
      && inSeq &&& 0x00FFFFFF == expSeq)
    || (expSeq &&& 0xFFFF8000 == 0x00008000 && inSeq &&& 0xFFFF8000 == 0xFFFF8000
      && inSeq &&& 0x0000FFFF == expSeq)
    || (expSeq &&& 0xFFFFFF80 == 0x00000080 && inSeq &&& 0xFFFFFF80 == 0xFFFFFF80
      && inSeq &&& 0x000000FF == expSeq)

namespace RemoteSeq

def new (expected : UInt32) : RemoteSeq := ⟨expected, false, false⟩

def check (s : RemoteSeq) (inSeq : UInt32) : Bool × RemoteSeq :=
  let expSeq := s.expected
  if s.sane then (inSeq == expSeq, s)
  else if inSeq &&& 0xFF800000 = 0xFF800000 then
    if expSeq &&& 0xFF800000 = 0xFF800000 ∧ inSeq = expSeq then (true, s)
    else if s.heimdal = false ∧ inSeq = expSeq then (true, s)
    else if chkHeimdalSeqnum expSeq inSeq then (true, { s with heimdal := true })
    else (false, s)
  else if inSeq = expSeq then
    -- a peer that extended the sign would have sent another number
    let tell := expSeq &&& 0xFFFFFF80 == 0x00000080 || expSeq &&& 0xFFFF8000 == 0x00008000
      || expSeq &&& 0xFF800000 == 0x00800000
    (true, { s with sane := s.sane || tell })
  else if expSeq = 0 ∧ s.heimdal = false then
    if inSeq = 0x100 ∨ inSeq = 0x10000 ∨ inSeq = 0x1000000 then (true, { s with heimdal := true })
    else (false, s)
  else (false, s)

def advance (s : RemoteSeq) : RemoteSeq := { s with expected := s.expected + 1 }

end RemoteSeq

/-! ### Messages -/

/-- `EncKrbPrivPart` and `KrbSafeBody`, which have the same fields; the microseconds are not read. -/
structure KrbSafeBody where
  userData : Str
  timestamp : Option KerberosTime
  seqNumber : Option UInt32
  sAddress : HostAddress
  rAddress : Option HostAddress
deriving DecidableEq

structure KrbSafe where
  safeBody : KrbSafeBody
  cksum : Checksum
deriving DecidableEq

/-- What is under an authentication context. -/
structure AuthLibs where
  macs : Macs
  ciphers : Ciphers
  /-- `decrypt_with_state`: the plaintext, and the cipher state it leaves. -/
  decryptWithState : ProtocolKey → KeyUsage → Str → Str → Except CryptoError Str × Str
  /-- The encrypted part of a `KrbPriv`. -/
  krbPriv : Str → Except Error EncryptedData
  encKrbPrivPart : Str → Except Error KrbSafeBody
  krbSafe : Str → Except Error KrbSafe
  safeBodyDer : Str → Option Str
  /-- `encode_safe_with_body` with an empty checksum. -/
  encodeSafeWithBody : KrbSafe → Str → Except Error Str
  osLocaladdr : Except Error HostAddresses

def authContextDoTime : UInt32 := 1

def authContextDoSequence : UInt32 := 4

/-- `AcceptorAuthContext`, as far as messages are read with it. -/
structure AcceptorAuthContext where
  flags : UInt32
  key : ProtocolKey
  recvSubkey : Option ProtocolKey
  remote : RemoteSeq
  (localAddr remoteAddr : Option HostAddress)
  hostAddrs : Option HostAddresses
  cstate : Option Str
  memrcache : Option ReplayCache
  clockskew : Int
deriving DecidableEq

def krbError (code : Int) (text : String) : Error := .krbError code (some (str text))

namespace AuthLibs

variable (l : AuthLibs)

def checkPrivsafeAddrsIn (body : KrbSafeBody) (remote local_ : Option HostAddress)
    (hosts : Option HostAddresses) : Except Error Unit := do
  let badaddr := krbError Err.badaddr "Incorrect net address"
  rejectIf (remote.any (· != body.sAddress)) badaddr
  match body.rAddress with
  | none => return
  | some got =>
    match local_ with
    | some want => rejectIf (want != got) badaddr
    | none =>
      let list ← hosts.elim l.osLocaladdr .ok
      rejectIf (!addressInList got list) badaddr

/-- The two ways a KRB-SAFE is summed: as a whole, and its body alone. -/
def safeChecksumOk (key : ProtocolKey) (msg : KrbSafe) (dummy bodyDer : Str) : Bool :=
  [dummy, bodyDer].any fun text =>
    (l.macs.verifyChecksumType key Ku.krbSafeCksum text msg.cksum.cksumtype msg.cksum.checksum).isOk

def verifyKrbSafeChecksumIn (key : ProtocolKey) (raw : Str) (remote local_ : Option HostAddress)
    (hosts : Option HostAddresses) : Except Error KrbSafe := do
  rejectIf (raw.head?.all fun b => b &&& 0xDF != 0x54) (krbError Err.msgType "Invalid message type")
  let msg ← l.krbSafe raw
  let bodyDer ← (l.safeBodyDer raw).elim (.error (.asn1 (str "KRB-SAFE-BODY"))) .ok
  rejectIf (!cksumtypeIsKnown msg.cksum.cksumtype) .progSumtypeNosupp
  rejectIf (!cksumtypeIsKnown msg.cksum.cksumtype || !cksumtypeIsKeyed msg.cksum.cksumtype)
    (krbError Err.inappCksum "inapp checksum")
  l.checkPrivsafeAddrsIn msg.safeBody remote local_ hosts
  let dummy ← l.encodeSafeWithBody msg bodyDer
  rejectIf (!l.safeChecksumOk key msg dummy bodyDer) (krbError Err.modified "safe checksum")
  return msg

end AuthLibs

def ciphertextTag (etype : EncryptionType) (cipher : Str) : Except Error Str := do
  let len ← (checksumOutputSize etype.checksumType).elim
    (.error (.crypto (str "no checksum length for the enctype"))) .ok
  rejectIf (decide (cipher.length < len)) (.crypto (str "ciphertext shorter than its checksum"))
  return cipher.drop (cipher.length - len)

/-! ### The context -/

namespace AcceptorAuthContext

/-- The key that messages are read with. -/
def recvKey (ctx : AcceptorAuthContext) : ProtocolKey := ctx.recvSubkey.getD ctx.key

/-- The time that a message without one is taken to have. -/
def sentAt (body : KrbSafeBody) : Nat := (body.timestamp.map (·.unixSeconds)).getD 0

def checkReplay (ctx : AcceptorAuthContext) (clock : Nat) (body : KrbSafeBody) (tag : Str) :
    Except Error Unit × AcceptorAuthContext :=
  if ctx.flags &&& authContextDoTime = 0 then (.ok (), ctx)
  else
    let now : Int := (wall clock).unixSeconds
    if ctx.clockskew < (now - sentAt body).natAbs then
      (.error (krbError Err.skew "Clock skew too great"), ctx)
    else
      let cache := ctx.memrcache.getD (.new clock)
      let (replayed, cache) := cache.checkAndStore clock (.ofTag tag) ctx.clockskew
      (if replayed then .error (krbError Err.apRepeat "Request is a replay") else .ok (),
        { ctx with memrcache := some cache })

def checkSeq (ctx : AcceptorAuthContext) (body : KrbSafeBody) :
    Except Error Unit × AcceptorAuthContext :=
  if ctx.flags &&& authContextDoSequence = 0 then (.ok (), ctx)
  else
    let (inOrder, remote) := ctx.remote.check (body.seqNumber.getD 0)
    if inOrder then (.ok (), { ctx with remote := remote.advance })
    else (.error (krbError Err.badorder "Message out of order"), { ctx with remote })

/-- The end of `rd_priv` and of `rd_safe`: a message has to be fresh and in order. -/
def accept (ctx : AcceptorAuthContext) (clock : Nat) (body : KrbSafeBody) (tag : Str) :
    Except Error Str × AcceptorAuthContext :=
  match ctx.checkReplay clock body tag with
  | (.error e, ctx) => (.error e, ctx)
  | (.ok (), ctx) =>
    let (inOrder, ctx) := ctx.checkSeq body
    (inOrder.map fun _ => body.userData, ctx)

variable (l : AuthLibs)

/-- The plaintext of a KRB-PRIV, and the cipher state after it. -/
def decryptPriv (ctx : AcceptorAuthContext) (enc : EncryptedData) :
    Except CryptoError Str × Option Str :=
  match ctx.cstate with
  | none => (l.ciphers.decryptEncData ctx.recvKey Ku.krbPrivEncPart enc.etype enc.cipher, none)
  | some state =>
    match checkEncDataEtype ctx.recvKey enc.etype with
    | .error e => (.error e, some state)
    | .ok () =>
      let (plain, state) := l.decryptWithState ctx.recvKey Ku.krbPrivEncPart state enc.cipher
      (plain, some state)

def readPriv (raw : Str) : Except Error EncryptedData := do
  rejectIf (raw.head?.all fun b => b &&& 0xDF != 0x55) (krbError Err.msgType "Invalid message type")
  l.krbPriv raw

def openPriv (ctx : AcceptorAuthContext) (enc : EncryptedData) (plain : Except CryptoError Str) :
    Except Error (KrbSafeBody × Str) := do
  let plain ← plain.mapError Error.ofCrypto
  let body ← l.encKrbPrivPart plain
  l.checkPrivsafeAddrsIn body ctx.remoteAddr ctx.localAddr ctx.hostAddrs
  let tag ← ciphertextTag ctx.recvKey.etype enc.cipher
  return (body, tag)

def rdPriv (ctx : AcceptorAuthContext) (clock : Nat) (raw : Str) :
    Except Error Str × AcceptorAuthContext :=
  match readPriv l raw with
  | .error e => (.error e, ctx)
  | .ok enc =>
    let (plain, cstate) := ctx.decryptPriv l enc
    let ctx := { ctx with cstate }
    match ctx.openPriv l enc plain with
    | .error e => (.error e, ctx)
    | .ok (body, tag) => ctx.accept clock body tag

def rdSafe (ctx : AcceptorAuthContext) (clock : Nat) (raw : Str) :
    Except Error Str × AcceptorAuthContext :=
  match l.verifyKrbSafeChecksumIn ctx.recvKey raw ctx.remoteAddr ctx.localAddr ctx.hostAddrs with
  | .error e => (.error e, ctx)
  | .ok msg => ctx.accept clock msg.safeBody msg.cksum.checksum

end AcceptorAuthContext

end Kerber.Protocol
