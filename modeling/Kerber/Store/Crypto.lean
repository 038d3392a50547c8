import Kerber.Lib.Digits
import Kerber.Store.Principal

/-!
# Encryption types and keys

The numbers of the encryption types (`krb5_crypto::etype`), keys from bytes, and the two operations
the database uses on keys.  What a cipher computes is left to the parameter `Crypto`.
-/

namespace Kerber

namespace EncryptionType

def toIana : EncryptionType → Int32
  | des3CbcSha1 => 16
  | aes128CtsHmacSha196 => 17
  | aes256CtsHmacSha196 => 18
  | aes128CtsHmacSha256128 => 19
  | aes256CtsHmacSha384192 => 20
  | rc4Hmac => 23
  | camellia128CtsCmac => 25
  | camellia256CtsCmac => 26

/-- `EncryptionType::known`; the error is its text. -/
def known (n : Int32) : Except Str EncryptionType :=
  if n = 16 then .ok des3CbcSha1
  else if n = 17 then .ok aes128CtsHmacSha196
  else if n = 18 then .ok aes256CtsHmacSha196
  else if n = 19 then .ok aes128CtsHmacSha256128
  else if n = 20 then .ok aes256CtsHmacSha384192
  else if n = 23 then .ok rc4Hmac
  else if n = 25 then .ok camellia128CtsCmac
  else if n = 26 then .ok camellia256CtsCmac
  else .error (str "unsupported encryption type " ++ renderInt 10 n.toInt)

def keyLen : EncryptionType → Nat
  | des3CbcSha1 => 24
  | aes128CtsHmacSha196 | aes128CtsHmacSha256128 | rc4Hmac | camellia128CtsCmac => 16
  | aes256CtsHmacSha196 | aes256CtsHmacSha384192 | camellia256CtsCmac => 32

end EncryptionType

def ProtocolKey.fromBytes (etype : EncryptionType) (raw : Str) : Except Str ProtocolKey :=
  if raw.length = etype.keyLen then .ok ⟨etype, raw⟩
  else .error (str "protocol key length does not match etype")

def KeyEntry.new (etype : EncryptionType) (key : ProtocolKey) (kvno : UInt32) : KeyEntry :=
  { etype, key, kvno, saltType := none, kdbSalt := none }

/-- Which encryption of a run this is: each takes random bytes of its own. -/
abbrev Draw := List Nat

/-- The ciphers under the master key.  Errors are their texts. -/
structure Crypto where
  /-- `kdb_encrypt_key(mkey, raw)`. -/
  kdbEncryptKey : Draw → ProtocolKey → Str → Except Str Str
  /-- `kdb_decrypt_key(mkey, contents)`. -/
  kdbDecryptKey : ProtocolKey → Str → Except Str Str

end Kerber
