import Kerber.Lib.Endian
import Kerber.Lib.Except
import Kerber.Types.Utf16

/-!
# The PAC container

A privilege attribute certificate (`krb5_types::pac`) is a header of buffer descriptors (a kind, a
size and an offset) in front of the buffers, each of them padded to eight bytes.  `parse` keeps the
received bytes, and `receivedZeroed` is the copy of them a signature is made over.
-/

namespace Kerber

/-! ### Kinds of buffers -/

def pacLogonInfo : UInt32 := 1
def pacServerChecksum : UInt32 := 6
def pacPrivsvrChecksum : UInt32 := 7
def pacClientInfo : UInt32 := 10
def pacDelegationInfo : UInt32 := 11
def pacUpnDnsInfo : UInt32 := 12
def pacTicketChecksum : UInt32 := 16
def pacAttributesInfo : UInt32 := 17
def pacRequesterSid : UInt32 := 18
def pacFullChecksum : UInt32 := 19

def maxBuffers : Nat := 4096
def pacAlignment : Nat := 8

/-- The number of values of a `usize`. -/
def usizeBound : Nat := 2 ^ 64

def checkedAdd (a b : Nat) : Option Nat :=
  if a + b < usizeBound then some (a + b) else none

structure PacBuffer where
  kind : UInt32
  data : Str
  offset : Nat
deriving DecidableEq

def PacBuffer.new (kind : UInt32) (data : Str) : PacBuffer :=
  ⟨kind, data, 0⟩

/-- `Pac`; `raw` is empty unless it was parsed. -/
structure Pac where
  version : UInt32
  buffers : List PacBuffer
  raw : Str
deriving DecidableEq

inductive PacError
  | truncated
  | integrity
  | missingBuffer
  | malformed
deriving DecidableEq

/-- The text of a `PacError`. -/
def PacError.text : PacError → Str
  | truncated => str "PAC truncated"
  | integrity => str "PAC integrity check failed"
  | missingBuffer => str "PAC missing required buffer"
  | malformed => str "PAC malformed"

namespace Pac

def built (version : UInt32) (buffers : List PacBuffer) : Pac :=
  ⟨version, buffers, []⟩

/-! ### Reading -/

/-- One descriptor at `off` and the buffer it describes. -/
def readBuffer (bytes : Str) (headerLen off : Nat) : Except PacError PacBuffer := do
  let kind := le32At bytes off
  let size := (le32At bytes (off + 4)).toNat
  let offset := (le64At bytes (off + 8)).toNat
  rejectIf (offset % pacAlignment != 0) .malformed
  rejectIf (offset < headerLen || offset > bytes.length || size > bytes.length - offset) .truncated
  .ok ⟨kind, (bytes.drop offset).take size, offset⟩

def parse (bytes : Str) : Except PacError Pac := do
  rejectIf (bytes.length < 8) .malformed
  let count := (le32At bytes 0).toNat
  let version := le32At bytes 4
  rejectIf (version != 0) .malformed
  rejectIf (count < 1 || count > maxBuffers) .truncated
  let headerLen := 8 + 16 * count
  rejectIf (bytes.length < headerLen) .truncated
  let buffers ← (List.range count).mapM fun i => readBuffer bytes headerLen (8 + 16 * i)
  .ok ⟨version, buffers, bytes⟩

/-! ### Writing -/

/-- The zeros behind a buffer. -/
def padLen (n : Nat) : Nat :=
  (8 - n % 8) % 8

/-- The descriptors of buffers whose payloads begin at `payloadOff`. -/
def headers (payloadOff : Nat) : List PacBuffer → Str
  | [] => []
  | b :: rest =>
    let size : UInt32 := if b.data.length < 2 ^ 32 then UInt32.ofNat b.data.length else 0
    le32 b.kind ++ le32 size ++ le64 (UInt64.ofNat payloadOff) ++
      headers (payloadOff + (b.data.length + padLen b.data.length)) rest

def payloads (buffers : List PacBuffer) : Str :=
  buffers.flatMap fun b => b.data ++ List.replicate (padLen b.data.length) 0

variable (p : Pac)

def toBytes : Str :=
  let n : UInt32 :=
    if p.buffers.length < 2 ^ 32 then UInt32.ofNat p.buffers.length else UInt32.ofNat (2 ^ 32 - 1)
  le32 n ++ le32 p.version ++ headers (8 + 16 * p.buffers.length) p.buffers ++ payloads p.buffers

/-! ### Buffers -/

def uniqueBuffer (kind : UInt32) : Except PacError (Option Str) :=
  match p.buffers.filter (·.kind == kind) with
  | [] => .ok none
  | [b] => .ok (some b.data)
  | _ => .error .malformed

/-- `zero_signature_payload`: all but the checksum type. -/
def zeroSignaturePayload (data : Str) : Str :=
  if data.length > 4 then data.take 4 ++ List.replicate (data.length - 4) 0 else data

def bytesZeroing (kinds : List UInt32) : Str :=
  toBytes
    { p with
      buffers := p.buffers.map fun b =>
        if b.kind ∈ kinds then { b with data := zeroSignaturePayload b.data } else b }

def bytesForChecksum : Str :=
  p.bytesZeroing [pacServerChecksum, pacPrivsvrChecksum]

def bytesForFullChecksum : Str :=
  p.bytesZeroing [pacServerChecksum, pacPrivsvrChecksum, pacFullChecksum]

/-- Zeros from `start` to `stop`. -/
def fillZero (bytes : Str) (start stop : Nat) : Str :=
  bytes.take start ++ List.replicate (stop - start) 0 ++ bytes.drop stop

/-- One kind of `zero_in`. -/
def zeroKind (copy : Str) (kind : UInt32) : Except PacError Str :=
  match p.buffers.filter (·.kind == kind) with
  | [] => .error .missingBuffer
  | [b] =>
    if b.data.length < 4 then .error .truncated
    else
      match checkedAdd b.offset 4, checkedAdd b.offset b.data.length with
      | some start, some stop =>
        if stop > copy.length || start > stop then .error .truncated
        else .ok (fillZero copy start stop)
      | _, _ => .error .truncated
  | _ => .error .malformed

def zeroIn (copy : Str) (kinds : List UInt32) : Except PacError Str :=
  kinds.foldlM p.zeroKind copy

def receivedZeroed (kinds : List UInt32) : Except PacError Str :=
  if p.raw = [] then
    if kinds.all fun kind => p.buffers.any (·.kind == kind) then .ok (p.bytesZeroing kinds)
    else .error .missingBuffer
  else p.zeroIn p.raw kinds

def serverChecksum : Except PacError (Option Str) :=
  p.uniqueBuffer pacServerChecksum

def kdcChecksum : Except PacError (Option Str) :=
  p.uniqueBuffer pacPrivsvrChecksum

def ticketChecksum : Except PacError (Option Str) :=
  p.uniqueBuffer pacTicketChecksum

def fullChecksum : Except PacError (Option Str) :=
  p.uniqueBuffer pacFullChecksum

end Pac

/-! ### Contents of buffers -/

def signatureBuffer (cksumtype : Int32) (mac : Str) : Str :=
  le32 cksumtype.toUInt32 ++ mac

/-- Seconds between the epochs of Windows and Unix times, in units of 100 ns. -/
def ntUnixEpoch : Nat := 116444736000000000

/-- `unix_to_nt`; a 32-bit time saturates nothing. -/
def unixToNt (unix : UInt32) : UInt64 :=
  UInt64.ofNat (unix.toNat * 10000000 + ntUnixEpoch)

def clientInfoBuffer (authtime : UInt32) (name : Str) : Str :=
  let utf16 := (encodeUtf16 name).flatMap le16
  let n := if utf16.length < 2 ^ 16 then utf16.length else 2 ^ 16 - 1
  le64 (unixToNt authtime) ++ le16 (UInt16.ofNat n) ++ utf16.take n

/-- The 16-bit integers of a byte string; an odd byte at the end is left out. -/
def le16Units : Str → List UInt16
  | a :: b :: rest => joinBytes16 a b :: le16Units rest
  | _ => []

def parseClientInfo (buf : Str) : Option (UInt32 × Str) :=
  if buf.length < 10 then none
  else
    let nt := (le64At buf 0).toNat
    let nlen := (le16At buf 8).toNat
    if nlen % 2 != 0 || buf.length < 10 + nlen then none
    else
      match fromUtf16 (le16Units ((buf.drop 10).take nlen)) with
      | none => none
      | some name =>
        let unix := (nt - ntUnixEpoch) / 10000000
        if unix < 2 ^ 32 then some (UInt32.ofNat unix, name) else none

example : parseClientInfo (clientInfoBuffer 1000 (str "alice")) = some (1000, str "alice") := by
  decide +kernel

end Kerber
