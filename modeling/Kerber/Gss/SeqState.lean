import Mathlib.Data.Nat.Bitwise

/-!
# The sequence numbers of per-message tokens

A context numbers its tokens, and the receiver keeps the next number and a bitmap of the 64 before it
(`seqstate.rs`).  `acceptSeq` is the receiver's decision (`context.rs`).  Numbers are counted from the
first one, modulo 32 or 64 bits.
-/

namespace Kerber.Gss

def gssCReplay : UInt32 := 4

def gssCSequence : UInt32 := 8

inductive SeqStatus
  | complete
  | gap
  | unseq
  | old
  | duplicate
deriving DecidableEq

structure SeqState where
  (doReplay doSequence wide : Bool)
  (base next recvmap : UInt64)
deriving DecidableEq

variable (s : SeqState) (x seqnum : UInt64)

def checkedShl (n : UInt32) : Option UInt64 :=
  if n < 64 then some (x <<< n.toUInt64) else none

/-- `u64::checked_add(1)`. -/
def checkedSucc : Option UInt64 :=
  if x = 0xFFFFFFFFFFFFFFFF then none else some (x + 1)

/-- `u32::try_from` of a `u64`. -/
def toU32 : Option UInt32 :=
  if x ≤ 0xFFFFFFFF then some x.toUInt32 else none

namespace SeqState

def new (flags : UInt32) (wide : Bool) : SeqState where
  doReplay := flags &&& gssCReplay ≠ 0
  doSequence := flags &&& gssCSequence ≠ 0
  wide
  base := seqnum
  next := 0
  recvmap := 0

def mask : UInt64 :=
  if s.wide then 0xFFFFFFFFFFFFFFFF else 0xFFFFFFFF

/-- A number counted from the first one. -/
def rel : UInt64 :=
  (seqnum - s.base) &&& s.mask

def pastWindow : Bool :=
  s.rel seqnum < s.next && s.next - s.rel seqnum > 64

/-- The bitmap when the highest number rises by `offset + 1`. -/
def shiftMap (recvmap offset : UInt64) : UInt64 :=
  (((checkedSucc offset).bind toU32).bind (checkedShl recvmap)).getD 0 ||| 1

def check : SeqStatus × SeqState :=
  if !s.doReplay && !s.doSequence then (.complete, s)
  else
    let rel := s.rel seqnum
    if rel ≥ s.next then
      let offset := rel - s.next
      let s' := { s with recvmap := shiftMap s.recvmap offset, next := (rel + 1) &&& s.mask }
      (if offset > 0 ∧ s.doSequence then .gap else .complete, s')
    else
      let offset := s.next - rel
      if offset > 64 then (if s.doSequence then .unseq else .old, s)
      else
        let bit := 1 <<< (offset - 1)
        if s.doReplay && s.recvmap &&& bit != 0 then (.duplicate, s)
        else
          (if s.doSequence then .unseq else .complete, { s with recvmap := s.recvmap ||| bit })

/-- `accept_seq`: whether the token is taken, where the source answers `Error::Sequence` if it is
not. -/
def acceptSeq (seq : UInt64) : Bool × SeqState :=
  let past := s.doReplay && s.pastWindow seq
  let (status, s') := s.check seq
  (match status with
    | .duplicate | .old => false
    | .unseq => !past
    | .complete | .gap => true, s')

end SeqState

end Kerber.Gss
