import Kerber.Gss.Wrap

/-!
# MIC tokens

Making and verifying the detached checksums of RFC 4121 (`mic.rs`).
-/

namespace Kerber.Gss

def tokMic : Str := [0x04, 0x04]

/-- The 16 octets of a MIC token's header. -/
def micBytes (flags : UInt8) (seq : UInt64) : Str :=
  tokMic ++ [flags, 0xFF, 0xFF, 0xFF, 0xFF, 0xFF] ++ be64 seq

def micHeader (initiator : Bool) (extra : UInt8) (seq : UInt64) : Str :=
  micBytes (extra ||| (if initiator then 0 else flagSentByAcceptor)) seq

namespace GssContext

variable (l : GssLibs) (ctx : GssContext)

def getMic (data : Str) : Except Error Str × GssContext :=
  let (key, extra) := ctx.sendKey
  let header := micHeader ctx.initiator extra ctx.sendSeq
  match l.macs.checksum key (signUsage ctx.initiator) (data ++ header) with
  | .error e => (.error (.ofCrypto e), ctx)
  | .ok mic => (.ok (header ++ mic), { ctx with sendSeq := ctx.sendSeq + 1 })

/-- `verify_mic` up to the sequence number. -/
def openMic (data token : Str) : Except Error UInt64 := do
  let inner ← messageToken token
  rejectIf (inner.length < 16 || inner.take 2 != tokMic) .truncated
  let seq := be64At inner 8
  rejectIf ((inner.take 8).drop 3 != [0xFF, 0xFF, 0xFF, 0xFF, 0xFF]) .truncated
  let flags := inner.getD 2 0
  checkDirection flags ctx.initiator
  let key := ctx.recvKey flags
  (l.macs.verifyChecksumType key (signUsage !ctx.initiator) (data ++ micBytes flags seq)
    key.etype.checksumType (inner.drop 16)).mapError mapGssCksum
  return seq

def verifyMic (data token : Str) : Except Error Unit × GssContext :=
  match ctx.openMic l data token with
  | .error e => (.error e, ctx)
  | .ok seq => ctx.acceptSeq seq

end GssContext

end Kerber.Gss
