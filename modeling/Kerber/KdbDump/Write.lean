import Kerber.Lib.Crc32
import Kerber.Store.Store

/-!
# Writing entries

The record of a principal (`write_princ_record`) and the batch of records that is appended to the
database for a change (`journal_batch`).  Time and the random bytes of encryption come from outside.
-/

namespace Kerber

/-- What writing depends on beside the store: the ciphers and the clock (`unix_now`). -/
structure WriteEnv where
  crypto : Crypto
  now : UInt32

/-- `u32::try_from(n).unwrap_or(u32::MAX)`. -/
def u32OrMax (n : Nat) : UInt32 :=
  if n < 2 ^ 32 then UInt32.ofNat n else 0xFFFFFFFF

variable (env : WriteEnv) (draw : Draw) (s : PrincipalStore) (mkey : ProtocolKey) (p : Principal)

/-- The two lifetimes of a record; an alias has none. -/
def dumpLifetimes : UInt32 × UInt32 :=
  if p.aliasTarget.isSome then (0, 0) else (u32OrMax p.maxLife, u32OrMax p.maxRenewableLife)

/-- The tagged data of a record but for the key history. -/
def dumpTl : List TlData :=
  let isMaster := p.name.componentsJoined = str "K/M"
  let tl := if p.tlData = [] then synthesizeTl p.realm env.now p.mkvno isMaster else p.tlData
  let tl := dropTypes [tlDbArgs, tlKerberSerial] tl
  let tl := mergeSidTl tl s.domainSid p.rid
  let tl := mergeRidHwm tl s.nextRid (isMaster ∧ p.realm = s.realm)
  let tl := mergeS4uTl tl p
  let tl := mergeKadmTl tl p
  mergeStringAttrsTl tl p.stringAttrs

def dumpKey (k : KeyEntry) : Except DumpError DumpKeyData := do
  let enc ← (env.crypto.kdbEncryptKey draw mkey k.key.bytes).mapError .crypto
  let slot : DumpKeySlot := ⟨k.etype.toIana, enc⟩
  match k.saltType, k.kdbSalt with
  | some st, some sb => return { ver := 2, kvno := k.kvno, slots := [slot, ⟨st, sb⟩] }
  | _, _ => return { ver := 1, kvno := k.kvno, slots := [slot] }

/-- The tagged data of a record: an entry without a kadm5 history carries its key history. -/
def entryTl : Except DumpError (List TlData) :=
  if p.kadm.oldKeys = [] then mergeHistTl env.crypto draw mkey (dumpTl env s p) p.keyHistory
  else .ok (dumpTl env s p)

/-- The entry `write_princ_record` writes; `omitNra` leaves the lockout counters out. -/
def princEntry (omitNra : Bool) (p : Principal) : Except DumpError DumpPrincipal := do
  let tlData ← entryTl env (0 :: draw) s mkey p
  let keys ← p.keys.zipIdx.mapM fun (k, i) => dumpKey env (i :: 1 :: draw) mkey k
  let lockout := if omitNra then {} else s.lockoutKept p
  return {
    attributes := p.attributes
    maxLife := (dumpLifetimes p).1
    maxRenewableLife := (dumpLifetimes p).2
    expiration := p.expiration
    pwExpiration := p.pwExpire
    lastSuccess := lockout.lastSuccess
    lastFailed := lockout.lastFailed
    failAuthCount := lockout.failAuthCount
    dbLen := p.dbEntryLen
    name := p.id
    tlData
    keys
    eData := p.eData }

/-- `write_princ_record`: a line in the format of `DumpPrincipal::record`. -/
def writePrincRecord (omitNra : Bool) (p : Principal) : Except DumpError Str := do
  let e ← princEntry env draw s mkey omitNra p
  return e.record ++ str "\n"

/-! ### Appended changes -/

def journalBegin : Str := str "begin"
def journalEnd : Str := str "end\t"
def journalDel : Str := str "del\t"

/-- The line of a batch for an id: the entry it has now, or its deletion. -/
def journalRecord (id : Str) : Except DumpError Str :=
  match s.principalById id with
  | some p => writePrincRecord env draw s mkey false p
  | none => .ok (journalDel ++ id ++ str "\n")

/-- `{:08x}`. -/
def hex8 (n : Nat) : Str :=
  let digits := render 16 n
  List.replicate (8 - digits.length) (digitByte 0) ++ digits

def journalBatch (ids : List Str) : Except DumpError Str := do
  let records ← ids.zipIdx.mapM fun (id, i) => journalRecord env [i] s mkey id
  let body := records.flatten
  return journalBegin ++ str "\n" ++ body ++ journalEnd ++ hex8 (crc32 body).toNat ++ str "\n"

end Kerber
