import Kerber.Lib.Endian
import Kerber.Lib.Except
import Kerber.Types.Str

/-!
# An update in XDR

The XDR encoding of one log update (`store/iprop_xdr.rs`): writing one from its parts
(`encodeIncrUpdate`) and walking over one without building it (`walkIncrUpdate`), which is how the
update log finds the serial, the time and the commit word of the bytes it stores.
-/

namespace Kerber.Store

inductive XdrError
  | short
  | invalid (text : String)
deriving DecidableEq

/-- `kdbe_time_t`. -/
structure UlogTime where
  seconds : UInt32 := 0
  useconds : UInt32 := 0
deriving DecidableEq

/-! ### Writing -/

/-- `u32::try_from(n).unwrap_or(u32::MAX)`. -/
def u32OrMax (n : Nat) : UInt32 :=
  if n < 2 ^ 32 then UInt32.ofNat n else UInt32.ofNat (2 ^ 32 - 1)

/-- The zero bytes that fill up to a multiple of four. -/
def xdrPad (n : Nat) : Nat := (4 - n % 4) % 4

/-- `XdrOut::opaque`. -/
def xdrOpaque (b : Str) : Str :=
  be32 (u32OrMax b.length) ++ b ++ List.replicate (xdrPad b.length) 0

/-- `encode_incr_update`: no KDCs seen and no futures are written. -/
def encodeIncrUpdate (name : Str) (sno : UInt32) (time : UlogTime) (kdbe : Str)
    (deleted commit : Bool) : Str :=
  xdrOpaque name ++ be32 sno ++ be32 time.seconds ++ be32 time.useconds ++ kdbe
    ++ be32 (if deleted then 1 else 0) ++ be32 (if commit then 1 else 0) ++ be32 0 ++ be32 0

/-! ### Reading -/

/-- `XdrIn`: the bytes not read yet, and how many were. -/
structure XdrIn where
  rest : Str
  pos : Nat

namespace XdrIn

/-- `take(n)`. -/
def take (n : Nat) (r : XdrIn) : Except XdrError (Str × XdrIn) :=
  if n ≤ r.rest.length then .ok (r.rest.take n, ⟨r.rest.drop n, r.pos + n⟩)
  else .error .short

variable (r : XdrIn)

/-- `u32()`, big-endian. -/
def u32 : Except XdrError (UInt32 × XdrIn) := do
  let (s, r) ← r.take 4
  return (joinBytes32 (s.getD 3 0) (s.getD 2 0) (s.getD 1 0) (s.getD 0 0), r)

def bool : Except XdrError (Bool × XdrIn) := do
  let (v, r) ← r.u32
  return (v != 0, r)

/-- `XdrIn::opaque`. -/
def bytes : Except XdrError (Str × XdrIn) := do
  let (n, r) ← r.u32
  let (s, r) ← r.take n.toNat
  let (_, r) ← r.take (xdrPad n.toNat)
  return (s, r)

/-- `count(min)`: a count whose items could not fit in what is left is cut short. -/
def count (min : Nat) (r : XdrIn) : Except XdrError (Nat × XdrIn) := do
  let (n, r) ← r.u32
  if n.toNat * max min 1 > r.rest.length then .error .short
  else return (n.toNat, r)

/-- `for _ in 0..n { step(r)? }`. -/
def repeated (step : XdrIn → Except XdrError XdrIn) : Nat → XdrIn → Except XdrError XdrIn
  | 0, r => .ok r
  | n + 1, r => do repeated step n (← step r)

/-- A `u32` that is skipped. -/
def skipU32 : Except XdrError XdrIn := do
  return (← r.u32).2

def skipBytes : Except XdrError XdrIn := do
  return (← r.bytes).2

def skipCounted (min : Nat) (step : XdrIn → Except XdrError XdrIn) (r : XdrIn) :
    Except XdrError XdrIn := do
  let (n, r) ← r.count min
  repeated step n r

def skipKey : Except XdrError XdrIn := do
  let r ← r.skipU32
  let r ← r.skipU32
  let r ← r.skipCounted 4 skipU32
  r.skipCounted 4 skipBytes

def skipTyped : Except XdrError XdrIn := do
  let r ← r.skipU32
  r.skipBytes

def skipPrinc : Except XdrError XdrIn := do
  let r ← r.skipBytes
  let r ← r.skipCounted 8 skipTyped
  r.skipU32

def skipValue (ty : UInt32) (r : XdrIn) : Except XdrError XdrIn :=
  match ty.toNat with
  | 0 | 1 | 2 | 3 | 4 | 5 | 6 | 7 | 11 | 13 | 15 | 17 | 18 => r.skipU32
  | 8 | 12 => r.skipPrinc
  | 9 => r.skipCounted 16 skipKey
  | 10 => r.skipCounted 8 skipTyped
  | 19 => r.skipCounted 4 (skipCounted 16 skipKey)
  | _ => r.skipBytes

/-- The attributes of an update; the answer collects a bit for each type below 32. -/
def walkValues : Nat → UInt32 → XdrIn → Except XdrError (UInt32 × XdrIn)
  | 0, attrs, r => .ok (attrs, r)
  | n + 1, attrs, r => do
    let (ty, r) ← r.u32
    let attrs := attrs ||| (if ty < 32 then (1 : UInt32) <<< ty else 0)
    let r ← r.skipValue ty
    walkValues n attrs r

end XdrIn

structure IncrLayout where
  name : Str
  sno : UInt32
  time : UlogTime
  (deleted commit : Bool)
  commitAt : Nat
  attrs : UInt32
  (nvals len : Nat)
deriving DecidableEq

def walkIncrUpdate (b : Str) : Except XdrError IncrLayout := do
  let r : XdrIn := ⟨b, 0⟩
  let (name, r) ← r.bytes
  rejectIf (!isUtf8 name) (.invalid "update name is not UTF-8")
  let (sno, r) ← r.u32
  let (seconds, r) ← r.u32
  let (useconds, r) ← r.u32
  let (nvals, r) ← r.count 8
  let (attrs, r) ← r.walkValues nvals 0
  let (deleted, r) ← r.bool
  let commitAt := r.pos
  let (commit, r) ← r.bool
  let r ← r.skipCounted 4 XdrIn.skipBytes
  let r ← r.skipBytes
  rejectIf (r.pos != b.length) (.invalid "bytes past the update")
  return { name, sno, time := ⟨seconds, useconds⟩, deleted, commit, commitAt, attrs, nvals,
           len := r.pos }

end Kerber.Store
