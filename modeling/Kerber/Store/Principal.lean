import Kerber.Types.Name

/-!
# Realm principal records

The in-memory record of one database entry (`store/principal.rs`, `store/keys.rs`, `osa.rs`) and
the attribute bits the issuing code reads (`store/flags.rs`).
-/

namespace Kerber

inductive EncryptionType
  | des3CbcSha1
  | aes128CtsHmacSha196
  | aes256CtsHmacSha196
  | aes128CtsHmacSha256128
  | aes256CtsHmacSha384192
  | rc4Hmac
  | camellia128CtsCmac
  | camellia256CtsCmac
deriving DecidableEq

structure ProtocolKey where
  etype : EncryptionType
  bytes : Str
deriving DecidableEq

/-- One key of a principal (`store::KeyEntry`). -/
structure KeyEntry where
  etype : EncryptionType
  key : ProtocolKey
  kvno : UInt32
  saltType : Option Int32
  kdbSalt : Option Str
deriving DecidableEq

/-- One tagged datum of an entry. -/
structure TlData where
  ty : Int32
  contents : Str
deriving DecidableEq

/-- One key of the kadm5 history record, still encrypted in the history key
(`osa::OsaKeyData`; the two slots of `types` and `contents` are its two pairs). -/
structure OsaKeyData where
  (ver kvno : Nat)
  types : Int × Int
  contents : Str × Str
deriving DecidableEq

def initialHistKvno : UInt32 := 2

/-- The kadm5 part of an entry. -/
structure KadmData where
  auxAttributes : UInt32 := 0
  oldKeyNext : UInt32 := 0
  adminHistoryKvno : UInt32 := initialHistKvno
  oldKeys : List (List OsaKeyData) := []
deriving DecidableEq

/-- `store::Principal`.  Unix seconds, 0 never; `maxLife` 0: no limit; renewable life 0: no
renewal. -/
structure Principal where
  name : PrincipalName
  realm : Str
  keys : List KeyEntry
  keyHistory : List KeyEntry := []
  salt : Str := []
  maxLife : Nat := 0
  pwExpire : UInt32 := 0
  attributes : UInt32 := 0
  maxRenewableLife : Nat := 0
  expiration : UInt32 := 0
  lastSuccess : UInt32 := 0
  lastFailed : UInt32 := 0
  failAuthCount : UInt32 := 0
  mkvno : Nat := 0
  dbEntryLen : UInt32 := 0
  tlData : List TlData := []
  eData : Str := []
  rid : UInt32 := 0
  s4uAllowedFrom : List Str := []
  s4uAllowedTo : List Str := []
  pwPolicy : Option Str := none
  kadm : KadmData := {}
  stringAttrs : List (Str × Str) := []
deriving DecidableEq

/-! ### Attribute bits -/

def kdbDisallowPostdated : UInt32 := 0x00000001
def kdbDisallowForwardable : UInt32 := 0x00000002
def kdbDisallowTgtBased : UInt32 := 0x00000004
def kdbDisallowRenewable : UInt32 := 0x00000008
def kdbDisallowProxiable : UInt32 := 0x00000010
def kdbDisallowDupSkey : UInt32 := 0x00000020
def kdbDisallowAllTix : UInt32 := 0x00000040
def kdbRequiresPreAuth : UInt32 := 0x00000080
def kdbRequiresHwAuth : UInt32 := 0x00000100
def kdbRequiresPwchange : UInt32 := 0x00000200
def kdbDisallowSvr : UInt32 := 0x00001000
def kdbPwchangeService : UInt32 := 0x00002000
def kdbOkAsDelegate : UInt32 := 0x00100000
def kdbOkToAuthAsDelegate : UInt32 := 0x00200000
def kdbNoAuthDataRequired : UInt32 := 0x00400000
def kdbV1BaseLength : UInt32 := 38

/-- `attr(p, bit)`. -/
def attr (p : Principal) (bit : UInt32) : Bool :=
  p.attributes &&& bit != 0

end Kerber
