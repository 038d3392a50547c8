import Kerber.Crypto.Cipher
import Kerber.Gss.SeqState
import Kerber.Types.Der

/-!
# Wrap tokens

Making and opening the wrap tokens of RFC 4121 (`wrap.rs`).  A token is a header of 16 octets and a
body, which is a ciphertext or the message and its checksum; the body is rotated on the way.  The
ciphers and hashes are parameters.
-/

namespace Kerber.Gss

inductive Error
  | inner (text : Str)
  | integrity
  | truncated
  | sequence
  | channelBindings
  | notUs (text : Str)
deriving DecidableEq

/-- `From<krb5_crypto::Error>`. -/
def Error.ofCrypto (e : CryptoError) : Error := .inner e.text

/-- What the crypto library does. -/
structure GssLibs where
  macs : Macs
  ciphers : Ciphers

/-- `GssContext`, as far as the per-message calls read it. -/
structure GssContext where
  session : ProtocolKey
  acceptorSubkey : Option ProtocolKey
  sendSeq : UInt64
  recv : SeqState
  initiator : Bool
deriving DecidableEq

/-! ### Framing -/

def derLenDecode (b : Str) : Except Error (Nat × Nat) :=
  match Der.readLen b with
  | some (len, hlen) => .ok (hlen, len)
  | none => .error .truncated

def gssUnwrapApp (token : Str) : Except Error Str := do
  rejectIf (token.length < 2 || token.headD 0 != 0x60) .truncated
  let (hlen, blen) ← derLenDecode (token.drop 1)
  let start := 1 + hlen
  rejectIf (start + blen != token.length) .truncated
  let body := token.drop start
  rejectIf (body.head? != some 0x06) .truncated
  let (olen, oidLen) ← derLenDecode (body.drop 1)
  rejectIf (body.length < 1 + olen + oidLen) .truncated
  return body.drop (1 + olen + oidLen)

/-- `message_token`: a bare token, or one in the frame of RFC 2743. -/
def messageToken (token : Str) : Except Error Str :=
  if token.head? = some 0x60 then gssUnwrapApp token else .ok token

/-! ### Headers -/

def tokWrap : Str := [0x05, 0x04]

def flagSentByAcceptor : UInt8 := 0x01

def flagSealed : UInt8 := 0x02

def flagAcceptorSubkey : UInt8 := 0x04

def sealUsage (initiator : Bool) : KeyUsage :=
  if initiator then Ku.gssInitiatorSeal else Ku.gssAcceptorSeal

def signUsage (initiator : Bool) : KeyUsage :=
  if initiator then Ku.gssInitiatorSign else Ku.gssAcceptorSign

/-- The fields of a wrap token's header. -/
structure WrapHeader where
  flags : UInt8
  (ec rrc : UInt16)
  seq : UInt64
deriving DecidableEq

def WrapHeader.bytes (h : WrapHeader) : Str :=
  tokWrap ++ [h.flags, 0xFF] ++ beWord16 h.ec ++ beWord16 h.rrc ++ be64 h.seq

/-- The fields as they are read, whatever the first two octets and the filler are. -/
def WrapHeader.ofBytes (b : Str) : WrapHeader :=
  ⟨b.getD 2 0, be16At b 4, be16At b 6, be64At b 8⟩

def wrapHeader (initiator isSealed : Bool) (seq : UInt64) : WrapHeader where
  flags := (if initiator then 0 else flagSentByAcceptor) ||| (if isSealed then flagSealed else 0)
  ec := 0
  rrc := 0
  seq

/-- `rfc4121_ckhdr(TOK_WRAP, flags, seq, false)`. -/
def rfc4121Ckhdr (flags : UInt8) (seq : UInt64) : Str :=
  (⟨flags, 0, 0, seq⟩ : WrapHeader).bytes

def checkDirection (flags : UInt8) (initiator : Bool) : Except Error Unit :=
  rejectIf ((flags &&& flagSentByAcceptor != 0) != initiator) .integrity

/-- `verify_enc_header`: the copy of the header at the end of what was decrypted.  Its rotation count
is not looked at. -/
def verifyEncHeader (plain : Str) (h : WrapHeader) : Bool :=
  if plain.length < 16 + h.ec.toNat then false
  else
    let copy := plain.drop (plain.length - 16)
    copy.take 2 == tokWrap && copy.getD 2 0 == h.flags && copy.getD 3 0 == 0xFF
      && be16At copy 4 == h.ec && be64At copy 8 == h.seq

/-! ### Rotation -/

/-- `rotate_rrc`, on the side of the receiver. -/
def rotateRrc (cipher : Str) (rrc : UInt16) : Str :=
  if cipher = [] then cipher
  else
    let n := rrc.toNat % cipher.length
    if n = 0 then cipher
    else
      let split := cipher.length - n
      cipher.drop split ++ cipher.take split

def applySendRrc (tok : Str) (rrc : UInt16) : Except Error Str :=
  if tok.length < 16 then .error .truncated
  else
    let header := tok.take 6 ++ beWord16 rrc ++ (tok.take 16).drop 8
    let cipher := tok.drop 16
    if cipher.length = 0 then .ok (header ++ cipher)
    else
      let n := rrc.toNat % cipher.length
      if n = 0 then .ok (header ++ cipher) else .ok (header ++ (cipher.drop n ++ cipher.take n))

/-! ### Contexts -/

def mapGssCksum : CryptoError → Error
  | .badChecksumSize => .truncated
  | _ => .integrity

namespace GssContext

variable (l : GssLibs) (ctx : GssContext)

def recvKey (flags : UInt8) : ProtocolKey :=
  match ctx.acceptorSubkey with
  | some k => if flags &&& flagAcceptorSubkey != 0 then k else ctx.session
  | none => ctx.session

def sendKey : ProtocolKey × UInt8 :=
  match ctx.acceptorSubkey with
  | some k => (k, flagAcceptorSubkey)
  | none => (ctx.session, 0)

def acceptSeq (seq : UInt64) : Except Error Unit × GssContext :=
  (if (ctx.recv.acceptSeq seq).1 then .ok () else .error .sequence,
    { ctx with recv := (ctx.recv.acceptSeq seq).2 })

/-- The message of a token that is only signed. -/
def openInteg (h : WrapHeader) (payload : Str) : Except Error Str := do
  let key := ctx.recvKey h.flags
  let ctype := key.etype.checksumType
  let cksumsize ← (checksumOutputSize ctype).elim (.error .truncated) .ok
  rejectIf (cksumsize > payload.length || h.ec.toNat != cksumsize) .truncated
  let split := payload.length - cksumsize
  let data := payload.take split
  (l.macs.verifyChecksumType key (sealUsage !ctx.initiator) (data ++ rfc4121Ckhdr h.flags h.seq) ctype
    (payload.drop split)).mapError mapGssCksum
  return data

/-- The message of a token that is sealed. -/
def openSealed (h : WrapHeader) (payload : Str) : Except Error Str := do
  let plain ← (l.ciphers.decrypt (ctx.recvKey h.flags) (sealUsage !ctx.initiator) payload).mapError
    fun e => if e = .integrity then .integrity else .ofCrypto e
  rejectIf (!verifyEncHeader plain h) .truncated
  return plain.take (plain.length - h.ec.toNat - 16)

/-- The message of a token, by its flags. -/
def openBody (h : WrapHeader) (payload : Str) : Except Error Str :=
  if h.flags &&& flagSealed != 0 then ctx.openSealed l h payload else ctx.openInteg l h payload

/-- `unwrap_v3` up to the sequence number: its number, the message, and whether it was sealed. -/
def openToken (token : Str) : Except Error (UInt64 × Str × Bool) := do
  let inner ← messageToken token
  rejectIf (inner.length < 16 || inner.take 2 != tokWrap) .truncated
  let h := WrapHeader.ofBytes inner
  rejectIf (inner.getD 3 0 != 0xFF) .truncated
  checkDirection h.flags ctx.initiator
  let msg ← ctx.openBody l h (rotateRrc (inner.drop 16) h.rrc)
  return (h.seq, msg, h.flags &&& flagSealed != 0)

def unwrapV3 (token : Str) : Except Error (Str × Bool) × GssContext :=
  match ctx.openToken l token with
  | .error e => (.error e, ctx)
  | .ok (seq, out) => ((ctx.acceptSeq seq).1.map fun _ => out, (ctx.acceptSeq seq).2)

/-- `wrap_conf_inner`; `draw` is the randomness of the encryption. -/
def wrapConfInner (draw : Draw) (plaintext : Str) (ec rrc : UInt16) :
    Except Error Str × GssContext :=
  let (key, extra) := ctx.sendKey
  let header := wrapHeader ctx.initiator true ctx.sendSeq
  let header := { header with flags := header.flags ||| extra, ec }
  match l.ciphers.encrypt draw key (sealUsage ctx.initiator)
      (plaintext ++ List.replicate ec.toNat 0xFF ++ header.bytes) with
  | .error e => (.error (.ofCrypto e), ctx)
  | .ok cipher =>
    (applySendRrc (header.bytes ++ cipher) rrc, { ctx with sendSeq := ctx.sendSeq + 1 })

def wrapWithRrc (draw : Draw) (plaintext : Str) (rrc : UInt16) : Except Error Str × GssContext :=
  ctx.wrapConfInner l draw plaintext 0 rrc

def wrap (draw : Draw) (plaintext : Str) : Except Error Str × GssContext :=
  ctx.wrapConfInner l draw plaintext 0 0

def wrapInteg (plaintext : Str) : Except Error Str × GssContext :=
  let (key, extra) := ctx.sendKey
  let header := wrapHeader ctx.initiator false ctx.sendSeq
  let header := { header with flags := header.flags ||| extra }
  match l.macs.checksum key (sealUsage ctx.initiator) (plaintext ++ header.bytes) with
  | .error e => (.error (.ofCrypto e), ctx)
  | .ok mac =>
    if mac.length ≥ 2 ^ 16 then (.error .truncated, ctx)
    else
      (.ok ({ header with ec := UInt16.ofNat mac.length }.bytes ++ plaintext ++ mac),
        { ctx with sendSeq := ctx.sendSeq + 1 })

end GssContext

end Kerber.Gss
