import Kerber.Lib.ReadBack
import Kerber.Pac.Verify
import Kerber.Types.Sid

/-!
# The logon information of a PAC

The NDR form of `KERB_VALIDATION_INFO` (`krb5_types::pac`, `pac/ndr.rs`): the SIDs of a user and their
groups, read by `parseKerbValidationInfo` and written by `toNdr`; and the filter for what another realm
says (`krb5_kdc::ad`).
-/

namespace Kerber

/-! ### The data -/

structure RpcUnicode where
  (length maximumLength : UInt16)
  pointed : Bool
  value : Str
deriving DecidableEq

structure GroupMembership where
  (relativeId attributes : UInt32)
deriving DecidableEq

structure ExtraSid where
  sid : RpcSid
  attributes : UInt32
deriving DecidableEq

structure KerbValidationInfo where
  (logonTime logoffTime kickoffTime passwordLastSet passwordCanChange passwordMustChange : UInt64)
  (effectiveName fullName logonScript profilePath homeDirectory homeDirectoryDrive : RpcUnicode)
  (logonCount badPasswordCount : UInt16)
  (userId primaryGroupId : UInt32)
  groups : List GroupMembership
  userFlags : UInt32
  sessionKey : Vector UInt8 16
  (logonServer logonDomainName : RpcUnicode)
  logonDomainId : RpcSid
  reserved1 : UInt32 × UInt32
  (userAccountControl subAuthStatus : UInt32)
  (lastSuccessfulIlogon lastFailedIlogon : UInt64)
  (failedIlogonCount reserved3 : UInt32)
  extraSids : List ExtraSid
  resourceGroupDomainSid : Option RpcSid
  resourceGroups : List GroupMembership
deriving DecidableEq

/-! ### Reading -/

/-- `NdrR`. -/
abbrev Ndr (α : Type) := ByteReader PacError α

namespace Ndr

/-- Takes `n` bytes, if there are so many (`need`). -/
def take (n : Nat) : Ndr Str := do
  let s ← get
  if s.rest.length < n then throw .truncated
  else
    set (⟨s.pos + n, s.rest.drop n⟩ : Input)
    return s.rest.take n

/-- Moves on by `n` bytes, or to the end. -/
def skip (n : Nat) : Ndr Unit :=
  modify fun s => ⟨s.pos + min n s.rest.length, s.rest.drop n⟩

def align4 : Ndr Unit := do
  let s ← get
  skip ((4 - s.pos % 4) % 4)

def u8 : Ndr UInt8 := do return (← take 1).getD 0 0

def u16 : Ndr UInt16 := do return le16At (← take 2) 0

def u32 : Ndr UInt32 := do return le32At (← take 4) 0

def u64 : Ndr UInt64 := do return le64At (← take 8) 0

/-- `bytes`, into an array. -/
def bytes (n : Nat) : Ndr (Vector UInt8 n) := do
  let b ← take n
  return Vector.ofFn fun i => b.getD i 0

def ustr : Ndr RpcUnicode := do
  let length ← u16
  let maximumLength ← u16
  let ptr ← u32
  return ⟨length, maximumLength, ptr != 0, []⟩

def text (raw : Str) : Ndr Str :=
  match fromUtf16 (le16Units raw) with
  | some value => pure value
  | none => throw .truncated

def confString (s : RpcUnicode) : Ndr RpcUnicode := do
  align4
  let maxc ← u32
  let _off ← u32
  let act ← u32
  if act > maxc ∨ act > 1024 then throw .truncated
  else
    let nbytes := act.toNat * 2
    let raw ← take nbytes
    let value ← text raw
    skip ((4 - nbytes % 4) % 4)
    return { s with value }

def takeStr (s : RpcUnicode) : Ndr RpcUnicode :=
  if s.pointed then confString s else pure s

/-- One item of `group_array`. -/
def group : Ndr GroupMembership := do
  let relativeId ← u32
  let attributes ← u32
  return ⟨relativeId, attributes⟩

def groupArray (expect : UInt32) : Ndr (List GroupMembership) := do
  align4
  let maxc ← u32
  if maxc ≠ expect ∨ maxc > 1024 then throw .truncated
  else ByteReader.times group maxc.toNat

def sid : Ndr RpcSid := do
  align4
  let maxc ← u32
  let revision ← u8
  let subc ← u8
  if subc.toUInt32 > maxc ∨ subc > 15 then throw .truncated
  else
    let identifierAuthority ← bytes 6
    let subAuthority ← ByteReader.times u32 subc.toNat
    return ⟨revision, identifierAuthority, subAuthority⟩

/-- The first pass over an item of `extra_sids`. -/
def extraHead : Ndr (UInt32 × UInt32) := do
  let ptr ← u32
  let attributes ← u32
  return (ptr, attributes)

/-- The second pass over it. -/
def extraBody (head : UInt32 × UInt32) : Ndr ExtraSid :=
  if head.1 = 0 then throw .truncated
  else do
    let sid ← sid
    return ⟨sid, head.2⟩

def extraSids (expect : UInt32) : Ndr (List ExtraSid) := do
  align4
  let maxc ← u32
  if maxc ≠ expect ∨ maxc > 64 then throw .truncated
  else
    let heads ← ByteReader.times extraHead maxc.toNat
    ByteReader.each extraBody heads

def pointedList {α : Type} (ptr : UInt32) (r : Ndr (List α)) : Ndr (List α) :=
  if ptr = 0 then pure [] else r

def pointedSid (ptr : UInt32) : Ndr (Option RpcSid) :=
  if ptr = 0 then pure none else do return some (← sid)

def domainSid (ptr : UInt32) : Ndr RpcSid :=
  if ptr = 0 then throw .truncated else sid

/-- The header in front. -/
def preamble : Ndr Unit := do
  let version ← u8
  let endian ← u8
  if version ≠ 1 ∨ endian ≠ 0x10 then throw .truncated
  else
    let _hlen ← u16
    let _filler ← u32
    let _objlen ← u32
    let _pfiller ← u32
    let top ← u32
    if top = 0 then throw .truncated else pure ()

/-- The fixed part: the information without what its pointers point to, and the counts and pointers of
its lists. -/
structure Fixed where
  info : KerbValidationInfo
  (groupCount groupsPtr domainSidPtr sidCount extraPtr rgSidPtr rgCount rgPtr : UInt32)

/-- The first half of `parse_kerb_validation_info`. -/
def fixed : Ndr Fixed := do
  let logonTime ← u64
  let logoffTime ← u64
  let kickoffTime ← u64
  let passwordLastSet ← u64
  let passwordCanChange ← u64
  let passwordMustChange ← u64
  let effectiveName ← ustr
  let fullName ← ustr
  let logonScript ← ustr
  let profilePath ← ustr
  let homeDirectory ← ustr
  let homeDirectoryDrive ← ustr
  let logonCount ← u16
  let badPasswordCount ← u16
  let userId ← u32
  let primaryGroupId ← u32
  let groupCount ← u32
  let groupsPtr ← u32
  let userFlags ← u32
  let sessionKey ← bytes 16
  let logonServer ← ustr
  let logonDomainName ← ustr
  let domainSidPtr ← u32
  let reserved0 ← u32
  let reserved1 ← u32
  let userAccountControl ← u32
  let subAuthStatus ← u32
  let lastSuccessfulIlogon ← u64
  let lastFailedIlogon ← u64
  let failedIlogonCount ← u32
  let reserved3 ← u32
  let sidCount ← u32
  let extraPtr ← u32
  let rgSidPtr ← u32
  let rgCount ← u32
  let rgPtr ← u32
  return {
    info := {
      logonTime, logoffTime, kickoffTime, passwordLastSet, passwordCanChange, passwordMustChange
      effectiveName, fullName, logonScript, profilePath, homeDirectory, homeDirectoryDrive
      logonCount, badPasswordCount, userId, primaryGroupId, groups := [], userFlags, sessionKey
      logonServer, logonDomainName, logonDomainId := ⟨0, .replicate 6 0, []⟩
      reserved1 := (reserved0, reserved1), userAccountControl, subAuthStatus, lastSuccessfulIlogon
      lastFailedIlogon, failedIlogonCount, reserved3, extraSids := [], resourceGroupDomainSid := none
      resourceGroups := [] }
    groupCount, groupsPtr, domainSidPtr, sidCount, extraPtr, rgSidPtr, rgCount, rgPtr }

/-- The second half of `parse_kerb_validation_info`. -/
def pointees (f : Fixed) : Ndr KerbValidationInfo := do
  let effectiveName ← takeStr f.info.effectiveName
  let fullName ← takeStr f.info.fullName
  let logonScript ← takeStr f.info.logonScript
  let profilePath ← takeStr f.info.profilePath
  let homeDirectory ← takeStr f.info.homeDirectory
  let homeDirectoryDrive ← takeStr f.info.homeDirectoryDrive
  let groups ← pointedList f.groupsPtr (groupArray f.groupCount)
  let logonServer ← takeStr f.info.logonServer
  let logonDomainName ← takeStr f.info.logonDomainName
  let logonDomainId ← domainSid f.domainSidPtr
  let extraSids ← pointedList f.extraPtr (extraSids f.sidCount)
  let resourceGroupDomainSid ← pointedSid f.rgSidPtr
  let resourceGroups ← pointedList f.rgPtr (groupArray f.rgCount)
  if effectiveName.value = [] then throw .truncated
  else
    return { f.info with
      effectiveName, fullName, logonScript, profilePath, homeDirectory, homeDirectoryDrive, groups
      logonServer, logonDomainName, logonDomainId, extraSids, resourceGroupDomainSid, resourceGroups }

/-- `parse_kerb_validation_info`, with what is left. -/
def kerbValidationInfo : Ndr KerbValidationInfo := do
  preamble
  let f ← fixed
  pointees f

end Ndr

def parseKerbValidationInfo (data : Str) : Except PacError KerbValidationInfo :=
  (Ndr.kerbValidationInfo.run ⟨0, data⟩).map (·.1)

/-! ### Writing -/

def ndrPtrBase : UInt32 := 0x00020000

/-- `u32::try_from(n).unwrap_or(0)`. -/
def count32 (n : Nat) : UInt32 := if n < 2 ^ 32 then UInt32.ofNat n else 0

structure NdrW where
  b : Str
  next : UInt32

variable (w : NdrW) (info : KerbValidationInfo)

namespace NdrW

/-- `NdrW::default`. -/
def new : NdrW := ⟨[], ndrPtrBase⟩

def put (bytes : Str) : NdrW := { w with b := w.b ++ bytes }

def u8 (v : UInt8) : NdrW := w.put [v]

def u16 (v : UInt16) : NdrW := w.put (le16 v)

def u32 (v : UInt32) : NdrW := w.put (le32 v)

def u64 (v : UInt64) : NdrW := w.put (le64 v)

def align4 : NdrW := w.put (List.replicate ((4 - w.b.length % 4) % 4) 0)

def ptr (present : Bool) : NdrW :=
  if present then
    { w.u32 w.next with next := if w.next.toNat + 4 < 2 ^ 32 then w.next + 4 else 0xFFFFFFFF }
  else w.u32 0

def ustrHdr (s : RpcUnicode) : NdrW :=
  ((w.u16 s.length).u16 s.maximumLength).ptr s.pointed

def ustrBody (s : RpcUnicode) : NdrW :=
  if s.pointed then
    ((((w.align4.u32 (s.maximumLength / 2).toUInt32).u32 0).u32
      (count32 (encodeUtf16 s.value).length)).put ((encodeUtf16 s.value).flatMap le16)).align4
  else w

def groupArray (g : List GroupMembership) : NdrW :=
  g.foldl (fun w m => (w.u32 m.relativeId).u32 m.attributes) (w.align4.u32 (count32 g.length))

def sid (s : RpcSid) : NdrW :=
  let n := s.subAuthority.length
  s.subAuthority.foldl u32
    ((((w.align4.u32 (count32 n)).u8 s.revision).u8 (if n < 2 ^ 8 then UInt8.ofNat n else 0)).put
      s.identifierAuthority.toList)

def extraSids (extras : List ExtraSid) : NdrW :=
  extras.foldl (fun w e => w.sid e.sid)
    (extras.foldl (fun w e => (w.ptr true).u32 e.attributes) (w.align4.u32 (count32 extras.length)))

/-- The header in front, with zeros for the length. -/
def preamble : NdrW :=
  ((((((w.u8 1).u8 0x10).u16 8).u32 0xcccccccc).u32 0).u32 0).ptr true

/-- The first half of `encode_kerb_validation_info`. -/
def fixed : NdrW :=
  let w := w.u64 info.logonTime
  let w := w.u64 info.logoffTime
  let w := w.u64 info.kickoffTime
  let w := w.u64 info.passwordLastSet
  let w := w.u64 info.passwordCanChange
  let w := w.u64 info.passwordMustChange
  let w := w.ustrHdr info.effectiveName
  let w := w.ustrHdr info.fullName
  let w := w.ustrHdr info.logonScript
  let w := w.ustrHdr info.profilePath
  let w := w.ustrHdr info.homeDirectory
  let w := w.ustrHdr info.homeDirectoryDrive
  let w := w.u16 info.logonCount
  let w := w.u16 info.badPasswordCount
  let w := w.u32 info.userId
  let w := w.u32 info.primaryGroupId
  let w := w.u32 (count32 info.groups.length)
  let w := w.ptr !info.groups.isEmpty
  let w := w.u32 info.userFlags
  let w := w.put info.sessionKey.toList
  let w := w.ustrHdr info.logonServer
  let w := w.ustrHdr info.logonDomainName
  let w := w.ptr true
  let w := w.u32 info.reserved1.1
  let w := w.u32 info.reserved1.2
  let w := w.u32 info.userAccountControl
  let w := w.u32 info.subAuthStatus
  let w := w.u64 info.lastSuccessfulIlogon
  let w := w.u64 info.lastFailedIlogon
  let w := w.u32 info.failedIlogonCount
  let w := w.u32 info.reserved3
  let w := w.u32 (count32 info.extraSids.length)
  let w := w.ptr !info.extraSids.isEmpty
  let w := w.ptr info.resourceGroupDomainSid.isSome
  let w := w.u32 (count32 info.resourceGroups.length)
  w.ptr !info.resourceGroups.isEmpty

def pointedList {α : Type} (w : NdrW) (write : NdrW → List α → NdrW) (l : List α) : NdrW :=
  if l.isEmpty then w else write w l

/-- The second half of `encode_kerb_validation_info`. -/
def pointees : NdrW :=
  let w := w.ustrBody info.effectiveName
  let w := w.ustrBody info.fullName
  let w := w.ustrBody info.logonScript
  let w := w.ustrBody info.profilePath
  let w := w.ustrBody info.homeDirectory
  let w := w.ustrBody info.homeDirectoryDrive
  let w := w.pointedList groupArray info.groups
  let w := w.ustrBody info.logonServer
  let w := w.ustrBody info.logonDomainName
  let w := w.sid info.logonDomainId
  let w := w.pointedList extraSids info.extraSids
  let w := info.resourceGroupDomainSid.elim w w.sid
  w.pointedList groupArray info.resourceGroups

end NdrW

namespace KerbValidationInfo

/-- `to_ndr`: the length of the object is put in at the end. -/
def toNdr : Str :=
  let b := ((NdrW.new.preamble.fixed info).pointees info).b
  let objlen := if b.length - 16 < 2 ^ 32 then UInt32.ofNat (b.length - 16) else 0xFFFFFFFF
  b.take 8 ++ le32 objlen ++ b.drop 12

end KerbValidationInfo

/-! ### Buffers of an identity -/

def ntTimeNever : UInt64 := 0x7fffffffffffffff

def seGroupDefault : UInt32 := 7

/-- `RpcUnicode::pointed`. -/
def RpcUnicode.ofStr (s : Str) : RpcUnicode :=
  let n := min ((encodeUtf16 s).length * 2) 0xFFFF
  ⟨UInt16.ofNat n, UInt16.ofNat (if n = 0 then 0 else min (n + 2) 0xFFFF), true, s⟩

def KerbValidationInfo.forClient (client realm : Str) (domainSid : RpcSid) (rid : UInt32) :
    KerbValidationInfo where
  logonTime := 0
  logoffTime := ntTimeNever
  kickoffTime := ntTimeNever
  passwordLastSet := 0
  passwordCanChange := 0
  passwordMustChange := ntTimeNever
  effectiveName := .ofStr client
  fullName := .ofStr []
  logonScript := .ofStr []
  profilePath := .ofStr []
  homeDirectory := .ofStr []
  homeDirectoryDrive := .ofStr []
  logonCount := 1
  badPasswordCount := 0
  userId := rid
  primaryGroupId := 513
  groups := [⟨513, seGroupDefault⟩]
  userFlags := 0x20
  sessionKey := .replicate 16 0
  logonServer := .ofStr []
  logonDomainName := .ofStr realm
  logonDomainId := domainSid
  reserved1 := (0, 0)
  userAccountControl := 0x10
  subAuthStatus := 0
  lastSuccessfulIlogon := 0
  lastFailedIlogon := 0
  failedIlogonCount := 0
  reserved3 := 0
  extraSids := [⟨⟨1, #v[0, 0, 0, 0, 0, 18], [1]⟩, seGroupDefault⟩]
  resourceGroupDomainSid := none
  resourceGroups := []

def logonInfoBuffer (client realm : Str) (domainSid : RpcSid) (rid : UInt32) : Str :=
  (KerbValidationInfo.forClient client realm domainSid rid).toNdr

def requesterSidBuffer (sid : RpcSid) : Str := sid.toMsDtyp

/-! ### The filter -/

/-- The information of another realm without the SIDs of the local domain. -/
def KerbValidationInfo.filtered (domain : RpcSid) : KerbValidationInfo :=
  let info := { info with extraSids := info.extraSids.filter fun e => !e.sid.isInDomain domain }
  if info.resourceGroupDomainSid.any (·.isInDomain domain) then
    { info with resourceGroupDomainSid := none, resourceGroups := [] }
  else info

def filterCrossRealmLogon (domain : RpcSid) (logon : Str) : Except Error Str := do
  let info ← (parseKerbValidationInfo logon).mapError fun e =>
    protoD Err.policy Status.invalidLineage (str "cross-realm PAC: " ++ e.text)
  rejectIf (info.logonDomainId.isInDomain domain) (proto Err.policy Status.invalidLineage)
  return (info.filtered domain).toNdr

end Kerber
