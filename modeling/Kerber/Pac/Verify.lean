import Kerber.Crypto.Checksum
import Kerber.Pac.Format

/-!
# Verifying the signatures of a PAC

`verify_pac_signatures` and what it calls (`krb5_kdc::ad`).
-/

namespace Kerber

open Status Err

def mapPacErr : PacError → Error
  | .missingBuffer | .truncated | .malformed => proto generic headerPac
  | .integrity => proto modified headerPac

/-- The refusal of a signature whose check failed. -/
def sigError : CryptoError → Error
  | .integrity => proto modified headerPac
  | .unsupportedChecksum _ => proto etypeNosupp headerPac
  | _ => proto generic headerPac

section

variable (m : Macs)

/-- `verify_pac_sig` for a buffer that is there. -/
def verifyPacSigBuffer (key : ProtocolKey) (data buf : Str) (bufferType : UInt32) :
    Except Error Str := do
  rejectIf (buf.length < 4) (proto generic headerPac)
  let cksumtype := (le32At buf 0).toInt32
  rejectIf (bufferType == pacServerChecksum && cksumtype == 14)
    (proto sumtypeNosupp headerPac)
  rejectIf (!cksumtypeIsKeyed cksumtype) (proto generic headerPac)
  match checksumOutputSize cksumtype with
  | none => .error (proto generic headerPac)
  | some want => do
    rejectIf (want > buf.length - 4) (proto generic headerPac)
    let mac := (buf.drop 4).take want
    (m.verifyChecksumType key Ku.kerbNonKerbCksumSalt data cksumtype mac).mapError sigError
    .ok mac

def verifyPacSig (key : ProtocolKey) (data : Str) (buf : Option Str) (bufferType : UInt32) :
    Except Error Str :=
  match buf with
  | none => .error (proto generic headerPac)
  | some buf => verifyPacSigBuffer m key data buf bufferType

/-- The checks of `verify_pac_checksums` under the KDC key. -/
def verifyKdcChecksums (pac : Pac) (kdc : ProtocolKey) (expectFull : Bool) : Except Error Unit := do
  verifyFull
  let serverBuf ← pac.serverChecksum.mapError mapPacErr
  match serverBuf with
  | none => .error (proto generic headerPac)
  | some serverBuf => do
    rejectIf (serverBuf.length < 4) (proto generic headerPac)
    let kdcSig ← pac.kdcChecksum.mapError mapPacErr
    discard (verifyPacSig m kdc (serverBuf.drop 4) kdcSig pacPrivsvrChecksum)
where
  /-- The signature over the whole PAC, for a service ticket. -/
  verifyFull : Except Error Unit :=
    if expectFull then do
      let copy ← (pac.receivedZeroed
        [pacServerChecksum, pacPrivsvrChecksum, pacFullChecksum]).mapError mapPacErr
      let fullSig ← pac.fullChecksum.mapError mapPacErr
      discard (verifyPacSig m kdc copy fullSig pacFullChecksum)
    else .ok ()

/-- `verify_pac_checksums`.  With a KDC key the outcome for the server checksum is overwritten. -/
def verifyPacChecksums (pac : Pac) (server : ProtocolKey) (kdc : Option ProtocolKey)
    (expectFull : Bool) : Except Error Unit := do
  let copy ← (pac.receivedZeroed [pacServerChecksum, pacPrivsvrChecksum]).mapError mapPacErr
  let serverSig ← pac.serverChecksum.mapError mapPacErr
  let last := discard (verifyPacSig m server copy serverSig pacServerChecksum)
  match kdc with
  | none => last
  | some kdc => verifyKdcChecksums m pac kdc expectFull

/-- The ticket signature of `verify_pac_signatures`: with a KDC key, for a service ticket whose
encoding is given. -/
def verifyTicketChecksum (pac : Pac) (kdc : Option ProtocolKey) (encTktDer : Option Str)
    (isServiceTkt : Bool) : Except Error Unit :=
  match kdc, encTktDer, isServiceTkt with
  | some kdc, some der, true => do
    let buf ← pac.ticketChecksum.mapError mapPacErr
    discard (verifyPacSig m kdc der buf pacTicketChecksum)
  | _, _, _ => .ok ()

def verifyPacSignatures (pacBytes : Str) (server : ProtocolKey) (kdc : Option ProtocolKey)
    (encTktDer : Option Str) (isServiceTkt : Bool) : Except Error Unit := do
  let pac ← (Pac.parse pacBytes).mapError fun e =>
    protoD badIntegrity headerPac (str "PAC parse: " ++ e.text)
  verifyTicketChecksum m pac kdc encTktDer isServiceTkt
  verifyPacChecksums m pac server kdc isServiceTkt

end

end Kerber
