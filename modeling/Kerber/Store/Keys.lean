import Mathlib.Data.List.Dedup
import Kerber.Store.KdbConvert
import Kerber.Store.Store

/-!
# The keys of an entry

Key lists as the administrative operations make and prune them (`store/keys.rs`,
`store/password.rs`), their salts (`kdb_dump.rs`) and the ring of past keys (`store/history.rs`).
What the ciphers and the random source give is left to the parameter `KeyLibs`.
-/

namespace Kerber

structure KeySalt where
  etype : EncryptionType
  salt : Int32
deriving DecidableEq

/-- The library functions behind new keys; the random source is asked for its `n`-th answer. -/
structure KeyLibs where
  /-- `string_to_key(etype, password, salt, None)`. -/
  stringToKey : EncryptionType → Str → Str → Except Error ProtocolKey
  /-- `random_key(etype)`. -/
  randomKey : Nat → EncryptionType → Except Error ProtocolKey
  randomSalt : Nat → Except Error Str
  parseKeysalts : Str → List KeySalt
  crypto : Crypto

/-! ### Versions -/

variable (libs : KeyLibs) (keys : List KeyEntry)

/-- The highest key version of a list of keys. -/
def topVersion : Option UInt32 :=
  (keys.map (·.kvno)).max?

def nextKvno : UInt32 :=
  match topVersion keys with
  | some n => if 65535 ≤ n then 1 else n + 1
  | none => 1

/-- The `n` highest versions of a list of keys. -/
def topVersions (n : Nat) (keys : List KeyEntry) : List UInt32 :=
  ((keys.map (·.kvno)).dedup.insertionSort (fun a b => b ≤ a)).take n

def capKeyVersions (n : UInt32) : List KeyEntry :=
  keys.filter fun k => k.kvno ∈ topVersions n.toNat keys

def pruneKeyHistory (depth : UInt32) : List KeyEntry :=
  if depth = 0 then [] else keys.filter fun k => k.kvno ∈ topVersions depth.toNat keys

/-- New keys in front of the old ones that are kept: none for 0, all for 1, else so many versions,
the new one included. -/
def withOldKeys (new old : List KeyEntry) (keepold : UInt32) : List KeyEntry :=
  if keepold = 0 then new
  else if keepold = 1 then new ++ old
  else capKeyVersions (new ++ old) keepold

/-! ### Salts -/

def salttypeNormal : Int32 := 0
def salttypeNorealm : Int32 := 2
def salttypeOnlyrealm : Int32 := 3
def salttypeSpecial : Int32 := 4

def keySalt (k : KeyEntry) (name : PrincipalName) (realm : Str) : Str :=
  let ty := k.saltType.getD salttypeNormal
  if ty = salttypeNorealm then name.nameString.flatten
  else if ty = salttypeOnlyrealm then realm
  else if ty = salttypeSpecial then k.kdbSalt.getD []
  else name.defaultSalt realm

def saltOfKeys (name : PrincipalName) (realm : Str) : Str :=
  match keys with
  | [] => name.defaultSalt realm
  | k :: _ => keySalt k name realm

def knownSalt (saltType : Option Int32) : Bool :=
  saltType.getD salttypeNormal ∈ [salttypeNormal, salttypeNorealm, salttypeOnlyrealm, salttypeSpecial]

def specializeSalts (p : Principal) : Except Error Principal := do
  rejectIf (p.keys.any fun k => !knownSalt k.saltType)
    (.invalidArgument (str "Unsupported salt type"))
  let keys := p.keys.map fun k =>
    { k with saltType := some salttypeSpecial, kdbSalt := some (keySalt k p.name p.realm) }
  return { p with
    keys
    salt := (keys.head?.bind (·.kdbSalt)).getD (p.name.defaultSalt p.realm) }

/-! ### New keys -/

def applyKeysaltPolicy (allowedKeysalts : Option Str)
    (requested supported : List KeySalt) : Except Error (List KeySalt) :=
  match allowedKeysalts.filter (· ≠ []) with
  | none => .ok (if requested = [] then supported else requested)
  | some ak =>
    let ak := libs.parseKeysalts ak
    if requested.any (· ∉ ak) then .error .badKeysalts
    else .ok (if requested = [] then ak else ak.filter (· ∈ requested))

/-- The salt of a new key; `n` numbers the random salts. -/
def newSalt (n : Nat) (ks : KeySalt) (name : PrincipalName) (realm : Str) : Except Error Str :=
  if ks.salt = salttypeNormal then .ok (name.defaultSalt realm)
  else if ks.salt = salttypeNorealm then .ok name.nameString.flatten
  else if ks.salt = salttypeOnlyrealm then .ok realm
  else if ks.salt = salttypeSpecial then libs.randomSalt n
  else .error (.invalidArgument (str "Unsupported salt type"))

/-- The loop of `keys_from_password`: one key for each encryption type, the first that asks for it. -/
def addKeysFromPassword (libs : KeyLibs) (password : Str) (name : PrincipalName) (realm : Str)
    (kvno : UInt32) : List KeyEntry → List KeySalt → Except Error (List KeyEntry)
  | keys, [] => .ok keys
  | keys, ks :: rest =>
    if keys.any (·.etype = ks.etype) then
      addKeysFromPassword libs password name realm kvno keys rest
    else do
      let salt ← newSalt libs keys.length ks name realm
      let key ← libs.stringToKey ks.etype password salt
      let new := KeyEntry.new ks.etype key kvno
      let new := if 0 < ks.salt then { new with saltType := some ks.salt, kdbSalt := some salt } else new
      addKeysFromPassword libs password name realm kvno (keys ++ [new]) rest

def keysFromPassword (keysalts : List KeySalt) (password : Str)
    (name : PrincipalName) (realm : Str) (kvno : UInt32) : Except Error (List KeyEntry) :=
  addKeysFromPassword libs password name realm kvno [] keysalts

/-- The loop of `random_keys`. -/
def addRandomKeys (libs : KeyLibs) (kvno : UInt32) :
    List KeyEntry → List KeySalt → Except Error (List KeyEntry)
  | keys, [] => .ok keys
  | keys, ks :: rest =>
    if keys.any (·.etype = ks.etype) then addRandomKeys libs kvno keys rest
    else do
      let key ← libs.randomKey keys.length ks.etype
      addRandomKeys libs kvno (keys ++ [KeyEntry.new ks.etype key kvno]) rest

def randomKeys (keysalts : List KeySalt) (kvno : UInt32) : Except Error (List KeyEntry) :=
  addRandomKeys libs kvno [] keysalts

/-! ### Past keys -/

/-- `u16::try_from(n).unwrap_or(u16::MAX)`. -/
def u16OrMax (n : UInt32) : Nat :=
  min n.toNat 65535

/-- `i16::try_from(n).unwrap_or(0)`. -/
def i16OrZero (n : Int32) : Int :=
  if -(2 ^ 15) ≤ n.toInt ∧ n.toInt < 2 ^ 15 then n.toInt else 0

/-- One key of `osa::history_entry`. -/
def historyKeyData (c : Crypto) (draw : Draw) (histKey : ProtocolKey) (k : KeyEntry) :
    Except Error OsaKeyData := do
  let enc ← (c.kdbEncryptKey draw histKey k.key.bytes).mapError .crypto
  let salted := match k.saltType, k.kdbSalt with
    | some t, some s => if 0 < t then some (t, s) else none
    | _, _ => none
  return match salted with
    | some (t, s) => ⟨2, u16OrMax k.kvno, (i16OrZero k.etype.toIana, i16OrZero t), (enc, s)⟩
    | none => ⟨1, u16OrMax k.kvno, (i16OrZero k.etype.toIana, 0), (enc, [])⟩

def historyEntry (c : Crypto) (histKey : ProtocolKey) (keys : List KeyEntry) :
    Except Error (List OsaKeyData) :=
  keys.zipIdx.mapM fun (k, i) => historyKeyData c [i] histKey k

/-- The record of past keys when the history key has another version: it starts anew. -/
def forHistoryKey (histKvno : UInt32) (p : Principal) : Principal :=
  if p.kadm.adminHistoryKvno = histKvno then p
  else { p with keyHistory := [], kadm := { p.kadm with
    oldKeys := [], oldKeyNext := 0, adminHistoryKvno := histKvno } }

/-- `record_history`: the keys that are replaced join the past ones, of which `nhist - 1` stay. -/
def recordHistory (c : Crypto) (p : Principal) (old : List KeyEntry) (nhist histKvno : UInt32)
    (histKey : ProtocolKey) : Except Error Principal :=
  let p := forHistoryKey histKvno p
  if nhist ≤ 1 then .ok p
  else
    let top := (topVersion old).getD 0
    let recent := old.filter (·.kvno = top)
    if recent = [] then .ok p
    else do
      let entry ← historyEntry c histKey recent
      let keep := nhist.toNat - 1
      let entries := oldKeysOldestFirst p.kadm ++ [entry]
      let entries := entries.drop (entries.length - keep)
      return { p with
        kadm := { p.kadm with
          oldKeyNext := UInt32.ofNat (entries.length % keep)
          oldKeys := entries }
        keyHistory := pruneKeyHistory (p.keyHistory ++ recent) (nhist - 1) }

end Kerber
