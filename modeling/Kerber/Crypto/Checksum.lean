import Kerber.Lib.Except
import Kerber.Store.Crypto

/-!
# Checksums

Which checksum goes with which encryption type, and the checks around a checksum
(`krb5_crypto::etype`, `krb5_crypto::ops`).  What the keyed hashes compute is left to the parameter
`Macs`.
-/

namespace Kerber

variable {key : ProtocolKey}

/-- `krb5_crypto::Error`. -/
inductive CryptoError
  | unsupportedEtype (n : Int32)
  | weakEtypeRefused (n : Int32)
  | invalidKeyLength
  | invalidKeyUsage
  | invalidParams
  | invalidConfounder
  | ciphertextTooShort
  | integrity
  | unsupportedChecksum (n : Int32)
  | badChecksumSize
  | inappChecksum
  | rng
  | badS2kParams
  | badEnctype (n : Int32)
  | desBadParity
  | desWeakKey
deriving DecidableEq

/-- The text of a `CryptoError`. -/
def CryptoError.text : CryptoError → Str
  | unsupportedEtype n => str "unsupported encryption type " ++ renderInt 10 n.toInt
  | weakEtypeRefused n =>
    str "encryption type " ++ renderInt 10 n.toInt ++
      str " is known but refused (allow_weak_crypto is false)"
  | invalidKeyLength => str "protocol key length does not match etype"
  | invalidKeyUsage => str "key usage 0 is not permitted (RFC 3961)"
  | invalidParams => str "invalid string-to-key parameters"
  | invalidConfounder => str "confounder must be 16 octets"
  | ciphertextTooShort => str "ciphertext too short"
  | integrity => str "integrity check failed"
  | unsupportedChecksum n => str "unsupported checksum type " ++ renderInt 10 n.toInt
  | badChecksumSize => str "checksum length does not match output size"
  | inappChecksum => str "inappropriate checksum type"
  | rng => str "failed to generate random confounder"
  | badS2kParams => str "Invalid key generation parameters from KDC"
  | badEnctype _ => str "Bad encryption type"
  | desBadParity => str "DES key has bad parity"
  | desWeakKey => str "DES key is a weak key"

/-- `From<krb5_crypto::Error> for Error`. -/
def Error.ofCrypto : CryptoError → Error
  | .badEnctype _ => .badEnctype
  | .desBadParity => .desBadParity
  | .desWeakKey => .desWeakKey
  | e => .crypto e.text

/-! ### Checksum types -/

namespace EncryptionType

def hmacOutputLen : EncryptionType → Nat
  | aes128CtsHmacSha196 | aes256CtsHmacSha196 => 12
  | aes128CtsHmacSha256128 | rc4Hmac | camellia128CtsCmac | camellia256CtsCmac => 16
  | aes256CtsHmacSha384192 => 24
  | des3CbcSha1 => 20

def minCiphertextLen : EncryptionType → Nat
  | rc4Hmac => 24
  | des3CbcSha1 => 28
  | e => 16 + e.hmacOutputLen

def checksumType : EncryptionType → Int32
  | aes128CtsHmacSha196 => 15
  | aes256CtsHmacSha196 => 16
  | aes128CtsHmacSha256128 => 19
  | aes256CtsHmacSha384192 => 20
  | des3CbcSha1 => 12
  | rc4Hmac => -138
  | camellia128CtsCmac => 17
  | camellia256CtsCmac => 18

end EncryptionType

def cksumtypeIsKeyed (cksumtype : Int32) : Bool :=
  [12, 15, 16, 17, 18, 19, 20, -137, -138].contains cksumtype

def cksumtypeIsUnkeyed (cksumtype : Int32) : Bool :=
  [2, 7, 9, 14].contains cksumtype

/-- `cksumtype_is_known`, which is also `cksumtype_is_coll_proof`. -/
def cksumtypeIsKnown (cksumtype : Int32) : Bool :=
  cksumtypeIsKeyed cksumtype || cksumtypeIsUnkeyed cksumtype

def checksumOutputSize (cksumtype : Int32) : Option Nat :=
  if [2, 7, 17, 18, 19, -137, -138].contains cksumtype then some 16
  else if [9, 12, 14].contains cksumtype then some 20
  else if [15, 16].contains cksumtype then some 12
  else if cksumtype = 20 then some 24
  else none

/-- `EncProv`: the cipher a checksum derives its key with. -/
inductive EncProv
  | aes128
  | aes256
  | des3
  | arcfour
  | camellia128
  | camellia256
deriving DecidableEq

def cksumEnc (ctype : Int32) : Option EncProv :=
  if [15, 19].contains ctype then some .aes128
  else if [16, 20].contains ctype then some .aes256
  else if ctype = 12 then some .des3
  else if ctype = -137 then some .arcfour
  else if ctype = 17 then some .camellia128
  else if ctype = 18 then some .camellia256
  else none

def keyEnc : EncryptionType → EncProv
  | .aes128CtsHmacSha196 | .aes128CtsHmacSha256128 => .aes128
  | .aes256CtsHmacSha196 | .aes256CtsHmacSha384192 => .aes256
  | .des3CbcSha1 => .des3
  | .rc4Hmac => .arcfour
  | .camellia128CtsCmac => .camellia128
  | .camellia256CtsCmac => .camellia256

def keyedCksumAcceptsKey (ctype : Int32) (etype : EncryptionType) : Bool :=
  match cksumEnc ctype with
  | none => true
  | some p => keyEnc etype == p

def cksumtypeComputeEtype (ctype : Int32) : Except CryptoError EncryptionType :=
  if ctype = 15 then .ok .aes128CtsHmacSha196
  else if ctype = 16 then .ok .aes256CtsHmacSha196
  else if ctype = 19 then .ok .aes128CtsHmacSha256128
  else if ctype = 20 then .ok .aes256CtsHmacSha384192
  else if ctype = 12 then .ok .des3CbcSha1
  else if ctype = 17 then .ok .camellia128CtsCmac
  else if ctype = 18 then .ok .camellia256CtsCmac
  else if ctype = -137 then .ok .rc4Hmac
  else .error (.unsupportedChecksum ctype)

/-! ### Making and verifying -/

abbrev KeyUsage := UInt32

namespace Ku

def paEncTimestamp : KeyUsage := 1
def ticket : KeyUsage := 2
def tgsReqAdSesskey : KeyUsage := 4
def tgsReqAdSubkey : KeyUsage := 5
def tgsReqAuthCksum : KeyUsage := 6
def apReqAuthCksum : KeyUsage := 10
def apReqAuthenticator : KeyUsage := 11
def krbPrivEncPart : KeyUsage := 13
def krbSafeCksum : KeyUsage := 15
def kerbNonKerbCksumSalt : KeyUsage := 17
def gssAcceptorSeal : KeyUsage := 22
def gssAcceptorSign : KeyUsage := 23
def gssInitiatorSeal : KeyUsage := 24
def gssInitiatorSign : KeyUsage := 25
def encChallengeClient : KeyUsage := 54
def cammac : KeyUsage := 64
def paFxCookie : KeyUsage := 513

end Ku

/-- The hashes under a checksum. -/
structure Macs where
  /-- The truncated HMAC or CMAC under the key derived for a usage. -/
  keyed : ProtocolKey → KeyUsage → Str → Except CryptoError Str
  /-- `hmac_md5_arcfour_checksum(key, usage, message, ctype)`. -/
  hmacMd5 : Str → KeyUsage → Str → Int32 → Except CryptoError Str
  /-- `unkeyed_checksum(cksumtype, message)`, for the types there are. -/
  unkeyed : Int32 → Str → Str

namespace Macs

variable (m : Macs)

def checksum (key : ProtocolKey) (usage : KeyUsage) (message : Str) : Except CryptoError Str :=
  match key.etype with
  | .rc4Hmac => m.hmacMd5 key.bytes usage message (-138)
  | _ => m.keyed key usage message

def macVerify (got expected : Str) : Except CryptoError Unit :=
  rejectIf (got != expected) .integrity

/-- `ProtocolKey::from_bytes` where its error stays one of the crypto layer. -/
def rekey (etype : EncryptionType) (bytes : Str) : Except CryptoError ProtocolKey :=
  if bytes.length = etype.keyLen then .ok ⟨etype, bytes⟩ else .error .invalidKeyLength

def keyedChecksumForType (key : ProtocolKey) (usage : KeyUsage) (message : Str) (ctype : Int32) :
    Except CryptoError Str :=
  if ctype = -137 ∨ ctype = -138 then m.hmacMd5 key.bytes usage message ctype
  else do
    let etype ← cksumtypeComputeEtype ctype
    let tmp ← rekey etype key.bytes
    m.checksum tmp usage message

/-- The checks of `verify_checksum_type` once the checksum type is known. -/
def verifyChecksumOf (key : ProtocolKey) (usage : KeyUsage) (message : Str) (ctype : Int32)
    (mac : Str) : Except CryptoError Unit :=
  match checksumOutputSize ctype with
  | none => .error (.unsupportedChecksum ctype)
  | some want =>
    if cksumtypeIsUnkeyed ctype then do
      rejectIf (mac.length != want) .badChecksumSize
      macVerify mac (m.unkeyed ctype message)
    else do
      rejectIf (!cksumtypeIsKeyed ctype) (.unsupportedChecksum ctype)
      rejectIf (!keyedCksumAcceptsKey ctype key.etype) (.unsupportedChecksum ctype)
      rejectIf (mac.length != want) .badChecksumSize
      let expected ← m.keyedChecksumForType key usage message ctype
      macVerify mac expected

def verifyChecksumType (key : ProtocolKey) (usage : KeyUsage) (message : Str) (cksumtype : Int32)
    (mac : Str) : Except CryptoError Unit :=
  m.verifyChecksumOf key usage message
    (if cksumtype = 0 then key.etype.checksumType else cksumtype) mac

def verifyChecksumKeyed (key : ProtocolKey) (usage : KeyUsage) (message : Str) (cksumtype : Int32)
    (mac : Str) : Except CryptoError Unit := do
  rejectIf (!cksumtypeIsKeyed cksumtype) .inappChecksum
  m.verifyChecksumType key usage message cksumtype mac

end Macs

/-- A key as `ProtocolKey::from_bytes` makes it. -/
def ProtocolKey.Sound (key : ProtocolKey) : Prop :=
  key.bytes.length = key.etype.keyLen

/-- Hashes of the lengths the source gives them. -/
structure Macs.Sound (m : Macs) : Prop where
  keyed : ∀ {key usage message mac}, m.keyed key usage message = .ok mac →
    mac.length = key.etype.hmacOutputLen
  hmacMd5 : ∀ {key usage message ctype mac}, m.hmacMd5 key usage message ctype = .ok mac →
    mac.length = 16

namespace Macs

variable {m : Macs}

variable {message mac : Str} {usage : KeyUsage}

theorem length_checksum (hm : m.Sound) (h : m.checksum key usage message = .ok mac) :
    mac.length = key.etype.hmacOutputLen := by
  obtain ⟨etype, bytes⟩ := key
  cases etype
  case rc4Hmac => exact hm.hmacMd5 h
  all_goals exact hm.keyed h

theorem checksumOutputSize_checksumType (etype : EncryptionType) :
    checksumOutputSize etype.checksumType = some etype.hmacOutputLen := by
  cases etype <;> rfl

theorem cksumtypeIsKeyed_checksumType (etype : EncryptionType) :
    cksumtypeIsKeyed etype.checksumType = true := by
  cases etype <;> rfl

theorem checksumType_ne_zero (etype : EncryptionType) : etype.checksumType ≠ 0 := by
  cases etype <;> decide

theorem keyedChecksumForType_checksumType (hkey : key.Sound) (usage : KeyUsage) (message : Str) :
    m.keyedChecksumForType key usage message key.etype.checksumType
      = m.checksum key usage message := by
  obtain ⟨etype, bytes⟩ := key
  have hrekey : rekey etype bytes = .ok ⟨etype, bytes⟩ := if_pos hkey
  cases etype
  case rc4Hmac => rfl
  all_goals
    show (rekey _ bytes >>= fun tmp => m.checksum tmp usage message) = _
    rw [hrekey]
    rfl

theorem verifyChecksumType_checksumType (hkey : key.Sound) (usage : KeyUsage) (message mac : Str) :
    m.verifyChecksumType key usage message key.etype.checksumType mac = (do
      rejectIf (mac.length != key.etype.hmacOutputLen) .badChecksumSize
      let expected ← m.checksum key usage message
      macVerify mac expected) := by
  have hkeyed : (!cksumtypeIsKeyed key.etype.checksumType) = false := by
    rw [cksumtypeIsKeyed_checksumType]
    rfl
  have hunkeyed : cksumtypeIsUnkeyed key.etype.checksumType = false := by
    cases key.etype <;> rfl
  have haccepts : (!keyedCksumAcceptsKey key.etype.checksumType key.etype) = false := by
    cases key.etype <;> rfl
  rw [verifyChecksumType, if_neg (checksumType_ne_zero _), verifyChecksumOf,
    checksumOutputSize_checksumType]
  rw [hunkeyed, hkeyed, haccepts, keyedChecksumForType_checksumType hkey]
  rfl

/-- **A checksum verifies** under the key and for the message it was made with. -/
theorem verifyChecksumType_checksum (hm : m.Sound) (hkey : key.Sound)
    (h : m.checksum key usage message = .ok mac) :
    m.verifyChecksumType key usage message key.etype.checksumType mac = .ok () := by
  have hlen : (mac.length != key.etype.hmacOutputLen) = false := by
    rw [length_checksum hm h, bne_self_eq_false]
  rw [verifyChecksumType_checksumType hkey, hlen, h]
  show macVerify mac mac = _
  rw [macVerify, bne_self_eq_false]
  rfl

theorem checksum_of_verifyChecksumType (hkey : key.Sound)
    (h : m.verifyChecksumType key usage message key.etype.checksumType mac = .ok ()) :
    m.checksum key usage message = .ok mac := by
  rw [verifyChecksumType_checksumType hkey] at h
  obtain ⟨-, h⟩ := rejectIf_bind_ok h
  obtain ⟨expected, hexpected, h⟩ := bind_ok h
  have heq : mac = expected := by simpa using rejectIf_ok h
  rw [hexpected, heq]

end Macs

end Kerber
