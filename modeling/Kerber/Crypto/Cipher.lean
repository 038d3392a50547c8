import Kerber.Crypto.Checksum

/-!
# Encryption

Encrypted data and the check around its decryption (`krb5_crypto::ops`).  What the ciphers compute
is left to the parameter `Ciphers`.
-/

namespace Kerber

structure EncryptedData where
  etype : Int32
  kvno : Option UInt32
  cipher : Str
deriving DecidableEq

/-- The ciphers under a key. -/
structure Ciphers where
  /-- `encrypt(key, usage, plain)`. -/
  encrypt : Draw → ProtocolKey → KeyUsage → Str → Except CryptoError Str
  /-- `decrypt(key, usage, ciphertext)`. -/
  decrypt : ProtocolKey → KeyUsage → Str → Except CryptoError Str
  /-- `derive_prfplus_enctype(key, input, etype)`. -/
  derivePrfplusEnctype : ProtocolKey → Str → EncryptionType → Except CryptoError ProtocolKey

def enctypeUnknown : Int32 := 0x01ff

def checkEncDataEtype (key : ProtocolKey) (etype : Int32) : Except CryptoError Unit :=
  rejectIf (etype != enctypeUnknown && etype != key.etype.toIana) (.badEnctype etype)

def Ciphers.decryptEncData (ci : Ciphers) (key : ProtocolKey) (usage : KeyUsage) (etype : Int32)
    (ciphertext : Str) : Except CryptoError Str := do
  checkEncDataEtype key etype
  ci.decrypt key usage ciphertext

/-- `EncryptionType::from_iana(n).or_else(|_| EncryptionType::known(n))`: a weak type is refused by
the first and found by the second. -/
def EncryptionType.ofIana (n : Int32) : Except Error EncryptionType :=
  (EncryptionType.known n).mapError Error.crypto

structure EncryptionKey where
  keytype : Int32
  keyvalue : Str
deriving DecidableEq

/-- The key an `EncryptionKey` stands for. -/
def EncryptionKey.toProtocolKey (k : EncryptionKey) : Except Error ProtocolKey := do
  let etype ← EncryptionType.ofIana k.keytype
  (ProtocolKey.fromBytes etype k.keyvalue).mapError Error.crypto

def encryptionKey (key : ProtocolKey) : EncryptionKey :=
  ⟨key.etype.toIana, key.bytes⟩

/-! ### Refused keys -/

def Error.desKeyCode : Error → Option Int
  | .desBadParity => some (-1765328198)
  | .desWeakKey => some (-1765328197)
  | _ => none

end Kerber
