import Kerber.Store.IpropXdr
import Kerber.Store.KdbConvert

/-!
# The values of an update in XDR

Writing the values of an update (`encodeKdbe`) and reading an update with its values
(`decodeIncrUpdate`), of `store/iprop_xdr.rs`.  Keys are wrapped under the master key, so writing
takes the function that wraps, and reading the ciphers.
-/

namespace Kerber.Store

open XdrIn

/-! ### Writing -/

/-- `XdrOut::count`. -/
def putCount (n : Nat) : Str := be32 (u32OrMax n)

def putCounted (parts : List Str) : Str := putCount parts.length ++ parts.flatten

/-- `u32::try_from(n).unwrap_or(0)`. -/
def i32OrZero (n : Int32) : UInt32 := if n < 0 then 0 else n.toUInt32

/-- One key of `encode_keydata`, with its wrapped bytes. -/
def putKey (k : KeyEntry) (enc : Str) : Str :=
  match k.saltType, k.kdbSalt with
  | some saltType, some salt =>
    be32 2 ++ be32 k.kvno ++ be32 2 ++ be32 (i32OrZero k.etype.toIana) ++ be32 saltType.toUInt32
      ++ be32 2 ++ xdrOpaque enc ++ xdrOpaque salt
  | _, _ =>
    be32 1 ++ be32 k.kvno ++ be32 1 ++ be32 (i32OrZero k.etype.toIana) ++ be32 1 ++ xdrOpaque enc

/-- How many of the two slots of a history key are written. -/
def slotCount (ver : Nat) : Nat := max 1 (min ver 2)

/-- One key of `encode_keydata_raw`. -/
def putOsaKey (k : OsaKeyData) : Str :=
  be32 (UInt32.ofNat k.ver) ++ be32 (UInt32.ofNat k.kvno)
    ++ putCounted (([k.types.1, k.types.2].take (slotCount k.ver)).map fun t => be32 (i32ToU32 t))
    ++ putCounted (([k.contents.1, k.contents.2].take (slotCount k.ver)).map xdrOpaque)

/-- `KV5M_DATA`, the number in front of each component. -/
def kv5mData : UInt32 := i32ToU32 (-1760647422)

/-- `encode_princ`. -/
def putPrinc (name : PrincipalName) (realm : Str) : Str :=
  xdrOpaque realm ++ putCounted (name.nameString.map fun c => be32 kv5mData ++ xdrOpaque c)
    ++ be32 (i32ToU32 name.nameType)

/-- A tagged datum. -/
def putTl (t : TlData) : Str := be32 t.ty.toUInt32 ++ xdrOpaque t.contents

section Write

variable {ε : Type} (wrap : Draw → Str → Except ε Str)

def encodeKeydata (draw : Draw) (keys : List KeyEntry) : Except ε Str := do
  let parts ← keys.zipIdx.mapM fun (k, i) => do return putKey k (← wrap (i :: draw) k.key.bytes)
  return putCounted parts

/-- The value of `encode_kdbe` behind its number. -/
def encodeVal (draw : Draw) : KdbeVal → Except ε Str
  | .attrFlags n | .maxLife n | .maxRenewLife n | .exp n | .pwExp n | .lastSuccess n
  | .lastFailed n | .failAuthCount n | .len n | .modTime n | .pwLastChange n | .pwHistKvno n =>
    .ok (be32 n)
  | .princ name realm | .modPrinc name realm => .ok (putPrinc name realm)
  | .keyData keys => encodeKeydata wrap draw keys
  | .tlData tl => .ok (putCounted (tl.map putTl))
  | .modWhere b | .pwPolicy b | .extension _ b => .ok (xdrOpaque b)
  | .pwPolicySwitch on => .ok (be32 (if on then 1 else 0))
  | .pwHist hist => .ok (putCounted (hist.map fun entry => putCounted (entry.map putOsaKey)))

/-- `encode_kdbe`: history keys are not wrapped. -/
def encodeKdbe (vals : List KdbeVal) : Except ε Str := do
  let parts ← vals.zipIdx.mapM fun (v, i) => do return be32 v.attr ++ (← encodeVal wrap [i] v)
  return putCounted parts

end Write

/-! ### Reading -/

def XdrIn.counted {α : Type} (min : Nat) (item : XdrIn → Except XdrError (α × XdrIn)) (r : XdrIn) :
    Except XdrError (List α × XdrIn) := do
  let (n, r) ← r.count min
  readMany item n r

def invalidText (text : Str) : XdrError :=
  .invalid (String.ofList (text.map fun b => Char.ofNat b.toNat))

/-- `i16::try_from(x).unwrap_or(0)` of a signed number. -/
def i16OrZero (x : Int) : Int := if -2 ^ 15 ≤ x ∧ x < 2 ^ 15 then x else 0

variable (crypto : Crypto) (mkey : Option ProtocolKey) (r : XdrIn)

/-- One key of `decode_keydata_raw`. -/
def readOsaKey : Except XdrError (OsaKeyData × XdrIn) := do
  let (ver, r) ← r.u32
  let (kvno, r) ← r.u32
  rejectIf (kvno.toNat ≥ 2 ^ 16) (.invalid "iprop key data kvno")
  let (types, r) ← r.counted 4 u32
  let (contents, r) ← r.counted 4 bytes
  let types := types.map fun t => i16OrZero (u32ToI32 t)
  return ({ ver := min ver.toNat 65535, kvno := kvno.toNat
            types := (types.getD 0 0, types.getD 1 0)
            contents := (contents.getD 0 [], contents.getD 1 []) }, r)

def decodeKeydataRaw : Except XdrError (List OsaKeyData × XdrIn) :=
  r.counted 16 readOsaKey

/-- One component of a name, behind its number. -/
def readComponent : Except XdrError (Str × XdrIn) := do
  let (_, r) ← r.u32
  let (c, r) ← r.bytes
  return (fromUtf8Lossy c, r)

def decodePrinc : Except XdrError ((PrincipalName × Str) × XdrIn) := do
  let (realm, r) ← r.bytes
  let (comps, r) ← r.counted 8 readComponent
  let (ntype, r) ← r.u32
  let name ← (PrincipalName.tryNew (u32ToI32 ntype) comps).mapError fun e => invalidText e.text
  return ((name, fromUtf8Lossy realm), r)

/-- What is known of a key before it is decrypted. -/
structure KeyParts where
  (ver kvno : UInt32)
  enctypes : List UInt32
  contents : List Str

def readKeyParts : Except XdrError (KeyParts × XdrIn) := do
  let (ver, r) ← r.u32
  let (kvno, r) ← r.u32
  let (enctypes, r) ← r.counted 4 u32
  let (contents, r) ← r.counted 4 bytes
  return (⟨ver, kvno, enctypes, contents⟩, r)

/-- The bytes of a key; without a master key the ciphertext itself is tried. -/
def rawKey (enc : Str) : Except XdrError Str :=
  match mkey with
  | some m => (crypto.kdbDecryptKey m enc).mapError invalidText
  | none => .ok enc

/-- The key of some parts; one with an unknown type, without contents or with bytes of another
length is left out. -/
def KeyParts.entry (k : KeyParts) : Except XdrError (Option KeyEntry) := do
  rejectIf (k.ver.toNat > 2) (.invalid s!"iprop key data version {k.ver.toNat}")
  rejectIf (k.kvno.toNat > 65535) (.invalid s!"iprop key data kvno {k.kvno.toNat}")
  match k.enctypes.head?.map UInt32.toInt32, k.contents.head? with
  | some et, some enc =>
    match EncryptionType.known et with
    | .error _ => return none
    | .ok etype =>
      let raw ← rawKey crypto mkey enc
      match ProtocolKey.fromBytes etype raw with
      | .error _ => return none
      | .ok key =>
        let salted := k.ver.toNat ≥ 2
        return some
          { etype, key, kvno := k.kvno
            saltType := if salted then (k.enctypes.drop 1).head?.map UInt32.toInt32 else none
            kdbSalt := if salted then (k.contents.drop 1).head? else none }
  | _, _ => return none

/-- One key of `decode_keydata`. -/
def readKey : Except XdrError (Option KeyEntry × XdrIn) := do
  let (parts, r) ← readKeyParts r
  let entry ← parts.entry crypto mkey
  return (entry, r)

def decodeKeydata : Except XdrError (List KeyEntry × XdrIn) := do
  let (keys, r) ← r.counted 16 (readKey crypto mkey)
  return (keys.filterMap id, r)

/-- One tagged datum. -/
def readTl : Except XdrError (TlData × XdrIn) := do
  let (ty, r) ← r.u32
  let (contents, r) ← r.bytes
  return (⟨ty.toInt32, contents⟩, r)

/-- What is read, put into another value. -/
def readAs {α β : Type} (f : α → β) (item : XdrIn → Except XdrError (α × XdrIn)) (r : XdrIn) :
    Except XdrError (β × XdrIn) := do
  let (x, r) ← item r
  return (f x, r)

/-- The value of `decode_kdbe` behind its number. -/
def decodeVal (tag : UInt32) : XdrIn → Except XdrError (KdbeVal × XdrIn) :=
  if tag = atAttrflags then readAs .attrFlags u32
  else if tag = atMaxLife then readAs .maxLife u32
  else if tag = atMaxRenewLife then readAs .maxRenewLife u32
  else if tag = atExp then readAs .exp u32
  else if tag = atPwExp then readAs .pwExp u32
  else if tag = atLastSuccess then readAs .lastSuccess u32
  else if tag = atLastFailed then readAs .lastFailed u32
  else if tag = atFailAuthCount then readAs .failAuthCount u32
  else if tag = atPrinc then readAs (fun n => .princ n.1 n.2) decodePrinc
  else if tag = atKeydata then readAs .keyData (decodeKeydata crypto mkey)
  else if tag = atTlData then readAs .tlData (counted 8 readTl)
  else if tag = atLen then readAs .len u32
  else if tag = atModPrinc then readAs (fun n => .modPrinc n.1 n.2) decodePrinc
  else if tag = atModTime then readAs .modTime u32
  else if tag = atModWhere then readAs .modWhere bytes
  else if tag = atPwLastChange then readAs .pwLastChange u32
  else if tag = atPwPolicy then readAs .pwPolicy bytes
  else if tag = atPwPolicySwitch then readAs .pwPolicySwitch bool
  else if tag = atPwHistKvno then readAs .pwHistKvno u32
  else if tag = atPwHist then readAs .pwHist (counted 4 decodeKeydataRaw)
  else readAs (.extension tag) bytes

def readVal : Except XdrError (KdbeVal × XdrIn) := do
  let (tag, r) ← r.u32
  decodeVal crypto mkey tag r

def decodeKdbe : Except XdrError (List KdbeVal × XdrIn) :=
  r.counted 8 (readVal crypto mkey)

/-- `decode_incr_update`: the update and how many bytes it takes. -/
def decodeIncrUpdate (b : Str) (mkey : Option ProtocolKey) :
    Except XdrError (IpropUpdate × Nat) := do
  let r : XdrIn := ⟨b, 0⟩
  let (name, r) ← r.bytes
  let (sno, r) ← r.u32
  let (time, r) ← r.u32
  let (_, r) ← r.u32
  let (vals, r) ← decodeKdbe crypto mkey r
  let (deleted, r) ← r.bool
  let (commit, r) ← r.bool
  let r ← r.skipCounted 4 skipBytes
  let r ← r.skipBytes
  return ({ sno, time, name := fromUtf8Lossy name, deleted, commit, vals, raw := b.take r.pos },
    r.pos)

def decodeKdbeBytes (b : Str) (mkey : Option ProtocolKey) : Except XdrError (List KdbeVal) := do
  let (vals, r) ← decodeKdbe crypto mkey ⟨b, 0⟩
  rejectIf (r.pos != b.length) (.invalid "bytes past the values")
  return vals

end Kerber.Store
