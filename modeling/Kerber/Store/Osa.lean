import Kerber.Lib.Endian
import Kerber.Lib.Except
import Kerber.Store.Principal

/-!
# The kadm5 record

The XDR record of an entry's policy and password history (`osa.rs`): writing one and reading one
back.
-/

namespace Kerber

def osaAdbPrincVersion1 : UInt32 := 0x12345c01
def kadm5Policy : UInt32 := 0x00000800

structure OsaPrincEnt where
  policy : Option Str := none
  auxAttributes : UInt32 := 0
  oldKeyNext : UInt32 := 0
  adminHistoryKvno : UInt32 := initialHistKvno
  oldKeys : List (List OsaKeyData) := []
deriving DecidableEq

inductive OsaError
  | version (v : UInt32)
  | xdr (what : String)
deriving DecidableEq

/-- A signed number as the unsigned one with the same bits (`cast_unsigned`). -/
def i32ToU32 (i : Int) : UInt32 :=
  UInt32.ofNat (i % 2 ^ 32).toNat

/-- The signed number with the same bits (`cast_signed`). -/
def u32ToI32 (x : UInt32) : Int :=
  if x.toNat < 2 ^ 31 then x.toNat else (x.toNat : Int) - 2 ^ 32

/-- `u32::try_from(n).unwrap_or(0)`. -/
def u32OrZero (n : Nat) : UInt32 :=
  if n < 2 ^ 32 then UInt32.ofNat n else 0

/-! ### Writing -/

def putBytes (b : Str) : Str :=
  be32 (if b.length < 2 ^ 32 then UInt32.ofNat b.length else UInt32.ofNat (2 ^ 32 - 1)) ++ b
    ++ List.replicate ((4 - b.length % 4) % 4) 0

def OsaKeyData.encode (k : OsaKeyData) : Str :=
  be32 (UInt32.ofNat k.ver) ++ be32 (UInt32.ofNat k.kvno) ++ be32 (i32ToU32 k.types.1)
    ++ be32 (i32ToU32 k.types.2) ++ be32 (u32OrZero k.contents.1.length)
    ++ be32 (u32OrZero k.contents.2.length) ++ putBytes k.contents.1 ++ putBytes k.contents.2

def OsaPrincEnt.encode (rec : OsaPrincEnt) : Str :=
  be32 osaAdbPrincVersion1
    ++ (match rec.policy with
        | some p => putBytes (p ++ [0])
        | none => be32 0)
    ++ be32 rec.auxAttributes ++ be32 rec.oldKeyNext ++ be32 rec.adminHistoryKvno
    ++ be32 (u32OrZero rec.oldKeys.length)
    ++ rec.oldKeys.flatMap fun entry =>
        be32 (u32OrZero entry.length) ++ entry.flatMap OsaKeyData.encode

/-! ### Reading -/

namespace Osa

/-- `Xdr::u32`, over the bytes not read yet. -/
def u32 (b : Str) : Except OsaError (UInt32 × Str) :=
  if 4 ≤ b.length then
    .ok (joinBytes32 (b.getD 3 0) (b.getD 2 0) (b.getD 1 0) (b.getD 0 0), b.drop 4)
  else .error (.xdr "short int")

def bytes (b : Str) : Except OsaError (Str × Str) := do
  let (n, b) ← u32 b
  let n := n.toNat
  rejectIf (b.length < n) (.xdr "short opaque")
  rejectIf (b.length < n + (4 - n % 4) % 4) (.xdr "short padding")
  return (b.take n, b.drop (n + (4 - n % 4) % 4))

def nullstring (b : Str) : Except OsaError (Option Str × Str) := do
  let (s, b) ← bytes b
  match s.getLast? with
  | none => return (none, b)
  | some last =>
    let body := s.dropLast
    if last = 0 ∧ 0 ∉ body then
      rejectIf (!isUtf8 body) (.xdr "policy utf-8")
      return (some body, b)
    else .error (.xdr "policy not a C string")

/-- A `u32` that must fit in 16 bits. -/
def u16 (what : String) (b : Str) : Except OsaError (Nat × Str) := do
  let (v, b) ← u32 b
  rejectIf (v.toNat ≥ 2 ^ 16) (.xdr what)
  return (v.toNat, b)

/-- A `u32` that must be a signed number of 16 bits. -/
def i16 (b : Str) : Except OsaError (Int × Str) := do
  let (v, b) ← u32 b
  rejectIf (u32ToI32 v < -(2 ^ 15) || u32ToI32 v ≥ 2 ^ 15) (.xdr "type")
  return (u32ToI32 v, b)

/-- `OsaKeyData::decode`. -/
def keyData (b : Str) : Except OsaError (OsaKeyData × Str) := do
  let (ver, b) ← u16 "key_data_ver" b
  let (kvno, b) ← u16 "key_data_kvno" b
  let (t0, b) ← i16 b
  let (t1, b) ← i16 b
  let (l0, b) ← u32 b
  let (l1, b) ← u32 b
  let (c0, b) ← bytes b
  let (c1, b) ← bytes b
  rejectIf (c0.length != l0.toNat || c1.length != l1.toNat) (.xdr "key_data_length")
  return ({ ver, kvno, types := (t0, t1), contents := (c0, c1) }, b)

def entry (b : Str) : Except OsaError (List OsaKeyData × Str) := do
  let (n, b) ← u32 b
  readMany keyData n.toNat b

end Osa

/-- `OsaPrincEnt::decode`; what follows the record is not read. -/
def OsaPrincEnt.decode (b : Str) : Except OsaError OsaPrincEnt := do
  let (version, b) ← Osa.u32 b
  rejectIf (version != osaAdbPrincVersion1) (.version version)
  let (policy, b) ← Osa.nullstring b
  let (auxAttributes, b) ← Osa.u32 b
  let (oldKeyNext, b) ← Osa.u32 b
  let (adminHistoryKvno, b) ← Osa.u32 b
  let (n, b) ← Osa.u32 b
  let (oldKeys, _) ← readMany Osa.entry n.toNat b
  return { policy, auxAttributes, oldKeyNext, adminHistoryKvno, oldKeys }

def OsaPrincEnt.boundPolicy (rec : OsaPrincEnt) : Option Str :=
  if rec.auxAttributes &&& kadm5Policy != 0 then rec.policy.filter (· ≠ []) else none

def KadmData.fromOsa (rec : OsaPrincEnt) : KadmData :=
  { auxAttributes := rec.auxAttributes, oldKeyNext := rec.oldKeyNext,
    adminHistoryKvno := rec.adminHistoryKvno, oldKeys := rec.oldKeys }

/-- `old_keys_oldest_first`: the ring from its next slot on. -/
def oldKeysOldestFirst (kadm : KadmData) : List (List OsaKeyData) :=
  kadm.oldKeys.rotate (kadm.oldKeyNext.toNat % kadm.oldKeys.length)

end Kerber
