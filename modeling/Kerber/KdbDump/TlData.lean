import Kerber.KdbDump.Record
import Kerber.Store.Osa
import Kerber.Types.NameText
import Kerber.Types.Sid

/-!
# Tagged data of an entry

The tagged data the dump reads and writes beside an entry's own fields (`kdb_dump.rs`,
`store/principal.rs`): security identifiers, the RID mark, delegation lists, string attributes, the
kadm5 record and the key history.
-/

namespace Kerber

def tlLastPwdChange : Int32 := 1
def tlModPrinc : Int32 := 2
def tlKadmData : Int32 := 3
def tlMkvno : Int32 := 8
def tlActkvno : Int32 := 9
def tlStringAttrs : Int32 := 0x000b
def tlAliasTarget : Int32 := 0x000c
def tlConstrainedDelegation : Int32 := 0x0400
def tlLastAdminUnlock : Int32 := 0x0700
def tlKerberSid : Int32 := 0x4B01
def tlKerberPolicy : Int32 := 0x4B02
def tlKerberSerial : Int32 := 0x4B03
def tlKerberHist : Int32 := 0x4B04
def tlKerberRidHwm : Int32 := 0x4B05
def tlKerberS4uFrom : Int32 := 0x4B06
def tlDbArgs : Int32 := 0x7fff

def dropTypes (types : List Int32) (tl : List TlData) : List TlData :=
  tl.filter fun t => t.ty ∉ types

/-- The first datum of a type. -/
def findTl (ty : Int32) (tl : List TlData) : Option TlData :=
  tl.find? fun t => t.ty = ty

/-! ### Names ended by NUL -/

variable (tl : List TlData) (p : Principal)

def Principal.aliasTarget : Option Str := do
  let t ← findTl tlAliasTarget p.tlData
  if t.contents.getLast? = some 0 ∧ isUtf8 t.contents.dropLast then some t.contents.dropLast
  else none

def nulName (t : TlData) : Option Str :=
  let raw := t.contents.dropLast
  if t.contents.getLast? = some 0 ∧ 0 ∉ raw ∧ raw ≠ [] ∧ isUtf8 raw then some raw else none

def isS4uNameTl (t : TlData) : Bool :=
  (t.ty = tlConstrainedDelegation || t.ty = tlKerberS4uFrom) && (nulName t).isSome

def nulTl (ty : Int32) (name : Str) : TlData :=
  { ty, contents := name ++ [0] }

def mergeS4uTl : List TlData :=
  (tl.filter fun t => !isS4uNameTl t)
    ++ p.s4uAllowedTo.map (nulTl tlConstrainedDelegation)
    ++ p.s4uAllowedFrom.map (nulTl tlKerberS4uFrom)

/-! ### Identifiers -/

def encodeSidTl (domain : RpcSid) (rid : UInt32) : TlData where
  ty := tlKerberSid
  contents :=
    [1] ++ le32 rid
      ++ [domain.revision, if domain.subAuthority.length < 256
            then UInt8.ofNat domain.subAuthority.length else 0]
      ++ domain.identifierAuthority.toList ++ domain.subAuthority.flatMap le32

def parseSidTl : Except DumpError (Option RpcSid × UInt32) :=
  match findTl tlKerberSid tl with
  | none => .ok (none, 0)
  | some t => do
    let c := t.contents
    rejectIf (c.length < 13 || c.getD 0 0 != 1) (.format (str "corrupt 0x4B01 SID tl_data"))
    let n := (c.getD 6 0).toNat
    rejectIf (c.length < 13 + n * 4) (.format (str "truncated 0x4B01 SID tl_data"))
    return (some
      { revision := c.getD 5 0
        identifierAuthority := Vector.ofFn fun i => c.getD (7 + i) 0
        subAuthority := (List.range n).map fun i => le32At c (13 + 4 * i) },
      le32At c 1)

def mergeSidTl (domain : RpcSid) (rid : UInt32) : List TlData :=
  dropTypes [tlKerberSid] tl ++ if rid ≠ 0 then [encodeSidTl domain rid] else []

def mergeRidHwm (next : UInt32) (isKm : Bool) : List TlData :=
  dropTypes [tlKerberRidHwm] tl ++ if isKm then [⟨tlKerberRidHwm, le32 next⟩] else []

/-! ### String attributes -/

def encodeStringAttrs (attrs : List (Str × Str)) : Str :=
  attrs.flatMap fun kv => kv.1 ++ [0] ++ kv.2 ++ [0]

def mergeStringAttrsTl (attrs : List (Str × Str)) : List TlData :=
  dropTypes [tlStringAttrs] tl
    ++ if attrs = [] then [] else [⟨tlStringAttrs, encodeStringAttrs attrs⟩]

/-! ### The kadm5 record -/

def OsaPrincEnt.fromTl : Except OsaError (Option OsaPrincEnt) :=
  match findTl tlKadmData tl with
  | none => .ok none
  | some t => (OsaPrincEnt.decode t.contents).map some

def refreshKadmTl : Principal :=
  let policy := p.pwPolicy.filter (· ≠ [])
  let aux := if policy.isSome then p.kadm.auxAttributes ||| kadm5Policy
    else p.kadm.auxAttributes &&& ~~~kadm5Policy
  let rec_ : OsaPrincEnt :=
    { policy, auxAttributes := aux, oldKeyNext := p.kadm.oldKeyNext,
      adminHistoryKvno := p.kadm.adminHistoryKvno, oldKeys := p.kadm.oldKeys }
  { p with
    kadm := { p.kadm with auxAttributes := aux }
    tlData := dropTypes [tlKadmData, tlKerberPolicy, tlKerberHist] p.tlData
      ++ [⟨tlKadmData, rec_.encode⟩] }

def mergeKadmTl : List TlData :=
  if (tl.any fun t => t.ty = tlKadmData) || p.pwPolicy.isNone && p.kadm.oldKeys = [] then tl
  else
    dropTypes [tlKerberPolicy] tl
      ++ (refreshKadmTl p).tlData.filter fun t => t.ty = tlKadmData

def policyFromTl : Option Str := do
  let t ← findTl tlKerberPolicy tl
  let name := trim t.contents
  if isUtf8 t.contents ∧ name ≠ [] then some name else none

/-- The policy and the kadm5 data `into_principal` reads. -/
def kadmOfTl : Except OsaError (Option Str × KadmData) := do
  let osa ← OsaPrincEnt.fromTl tl
  return ((osa.bind (·.boundPolicy)).or (policyFromTl tl), (osa.map KadmData.fromOsa).getD {})

/-! ### Key history -/

/-- `u16::to_be_bytes`. -/
def be16 (n : Nat) : Str :=
  [byteOf n 1, byteOf n 0]

/-- `encode_hist`; `draw` numbers the encryptions. -/
def encodeHist (c : Crypto) (draw : Draw) (mkey : ProtocolKey) (keys : List KeyEntry) :
    Except DumpError Str := do
  let entries ← keys.zipIdx.mapM fun (k, i) => do
    let enc ← (c.kdbEncryptKey (i :: draw) mkey k.key.bytes).mapError .crypto
    return be32 (UInt32.ofInt k.etype.toIana.toInt) ++ be32 k.kvno ++ be16 (min enc.length 65535)
      ++ enc
  return be32 (u32OrZero keys.length) ++ entries.flatten

def mergeHistTl (c : Crypto) (draw : Draw) (mkey : ProtocolKey) (tl : List TlData)
    (hist : List KeyEntry) : Except DumpError (List TlData) := do
  let tl := dropTypes [tlKerberHist] tl
  if hist = [] then return tl
  let contents ← encodeHist c draw mkey hist
  return tl ++ [⟨tlKerberHist, contents⟩]

/-! ### Database arguments and other data -/

def dbArgsPutError : Option Error := do
  let t ← findTl tlDbArgs tl
  if t.contents.getLast? ≠ some 0 then some (.invalidArgument (str "Invalid argument"))
  else some (.invalidArgument
    (str "Unsupported argument \"" ++ fromUtf8Lossy t.contents.dropLast ++ str "\" for db2"))

def synthesizeTl (realm : Str) (now : UInt32) (mkvno : Nat) (isKm : Bool) : List TlData :=
  (if isKm then [⟨tlActkvno, le16 1 ++ le16 1 ++ le32 0⟩] else [])
    ++ [⟨tlModPrinc, le32 now ++ str "db_creation@" ++ realm ++ [0]⟩,
        ⟨tlMkvno, le16 (UInt16.ofNat mkvno)⟩,
        ⟨tlLastPwdChange, le32 now⟩]

end Kerber
