import Kerber.Lib.Disk
import Kerber.Store.IpropXdr

/-!
# The update log

The incremental-propagation log (`ulog.rs`): a file with a 40-byte header and a ring of fixed-size
slots, one update a slot, the update with serial `sno` in slot `(sno - 1) % entries`.

An operation is a function from the file to its result and its *acts*: the changes it makes to the
file, in order, with a note where the log is reset and where an update is stored.  The notes change
nothing; they are what a statement about "the update stored last under this serial" refers to.
Words in the file are native-endian in the source and little-endian here.
-/

namespace Kerber.Ulog

open Kerber.Store

/-! ### The file format -/

def kdbUlogHdrMagic : UInt32 := 0x06662323
def kdbUlogMagic : UInt32 := 0x06661212
def kdbVersion : UInt16 := 1
def kdbStable : UInt16 := 1
def kdbUnstable : UInt16 := 2
def ulogBlock : UInt16 := 2048
def maxLogLen : Nat := 0x10000000
def u32Max : UInt32 := 0xFFFFFFFF

def hdrLen : Nat := 40
def entHdrLen : Nat := 28
def entDataAt : Nat := 24
def stateAt : Nat := 36

/-- `UlogError`; `io` is the refusal of a log that is too long. -/
inductive UlogError
  | io
  | corrupt
  | conv
  | error
deriving DecidableEq

structure UlogLast where
  sno : UInt32 := 0
  time : UlogTime := {}
deriving DecidableEq

structure UlogHeader where
  hmagic : UInt32 := 0
  dbVersionNum : UInt16 := 0
  num : UInt32 := 0
  firstTime : UlogTime := {}
  lastTime : UlogTime := {}
  firstSno : UInt32 := 0
  lastSno : UInt32 := 0
  state : UInt16 := 0
  block : UInt16 := 0
deriving DecidableEq

def UlogHeader.decode (b : Str) : UlogHeader :=
  { hmagic := le32At b 0, dbVersionNum := le16At b 4, num := le32At b 8,
    firstTime := ⟨le32At b 12, le32At b 16⟩, lastTime := ⟨le32At b 20, le32At b 24⟩,
    firstSno := le32At b 28, lastSno := le32At b 32, state := le16At b 36, block := le16At b 38 }

/-- `UlogHeader::encode`; two bytes after the version are padding. -/
def UlogHeader.encode (h : UlogHeader) : Str :=
  le32 h.hmagic ++ le16 h.dbVersionNum ++ [0, 0] ++ le32 h.num ++ le32 h.firstTime.seconds
    ++ le32 h.firstTime.useconds ++ le32 h.lastTime.seconds ++ le32 h.lastTime.useconds
    ++ le32 h.firstSno ++ le32 h.lastSno ++ le16 h.state ++ le16 h.block

structure EntHeader where
  umagic : UInt32 := 0
  sno : UInt32 := 0
  time : UlogTime := {}
  commit : Bool := false
  size : UInt32 := 0
deriving DecidableEq

def EntHeader.decode (b : Str) : EntHeader :=
  { umagic := le32At b 0, sno := le32At b 4, time := ⟨le32At b 8, le32At b 12⟩,
    commit := le32At b 16 != 0, size := le32At b 20 }

/-- `EntHeader::encode`; the last four bytes are where the update starts. -/
def EntHeader.encode (e : EntHeader) : Str :=
  le32 e.umagic ++ le32 e.sno ++ le32 e.time.seconds ++ le32 e.time.useconds
    ++ le32 (if e.commit then 1 else 0) ++ le32 e.size ++ [0, 0, 0, 0]

/-! ### Acts -/

/-- What a statement about the log refers to. -/
inductive LogEvent
  | reset
  | stored (sno : UInt32) (update : Str)

/-- One act of an operation. -/
inductive Act
  | file (op : FileOp)
  | note (e : LogEvent)

def fileOps (acts : List Act) : List FileOp :=
  acts.filterMap fun
    | .file op => some op
    | .note _ => none

variable (entries : UInt32) (d : Disk) (hdr : UlogHeader)

def after (acts : List Act) : Disk :=
  d.applyAll (fileOps acts)

def writeHeader : Act :=
  .file (.write 0 hdr.encode)

/-- A write of the header's state word alone (`set_state`). -/
def writeState (state : UInt16) : Act :=
  .file (.write stateAt (le16 state))

/-! ### Reading -/

def header : UlogHeader :=
  UlogHeader.decode (d.read 0 hdrLen)

def entAt (index block : Nat) : Nat :=
  hdrLen + index * block

def entHeader (index block : Nat) : EntHeader :=
  EntHeader.decode (d.read (entAt index block) entHdrLen)

/-- The slot of a serial: `sno.wrapping_sub(1) % entries`. -/
def slotOf (entries sno : UInt32) : Nat :=
  ((sno - 1) % entries).toNat

def checkSno (sno : UInt32) (time : UlogTime) : Bool :=
  let ent := entHeader d (slotOf entries sno) hdr.block.toNat
  ent.sno == sno && ent.time == time

/-- The answers to a replica (`IPROP_OK`, `IPROP_FULL_RESYNC`, `IPROP_NIL`). -/
inductive IpropStatus
  | ok
  | fullResync
  | nil
deriving DecidableEq

def snoStatus (last : UlogLast) : IpropStatus :=
  if last.sno = hdr.lastSno ∧ last.time = hdr.lastTime then .nil
  else if hdr.num = 0 ∨ last.sno > hdr.lastSno ∨ last.sno < hdr.firstSno then .fullResync
  else if !checkSno entries d hdr last.sno last.time then .fullResync
  else .ok

/-! ### Resetting and growing -/

/-- A header in memory, and the acts on the way to it. -/
structure Work where
  hdr : UlogHeader
  acts : List Act

/-- What an operation answers, and its acts. -/
structure Outcome (α : Type) where
  result : Except UlogError α
  acts : List Act

/-- `set_dummy`: an empty entry that stands for the serial a log starts from. -/
def setDummy (sno : UInt32) (time : UlogTime) : Work :=
  let ent : EntHeader := { umagic := kdbUlogMagic, sno, time }
  { hdr :=
      { hdr with num := 1, firstSno := sno, lastSno := sno, firstTime := time, lastTime := time }
    acts := [.file (.write (entAt (slotOf entries sno) hdr.block.toNat) ent.encode)] }

/-- The header a log starts over with, before its dummy. -/
def freshHeader : UlogHeader :=
  { hmagic := kdbUlogHdrMagic, dbVersionNum := kdbVersion, block := ulogBlock }

/-- `reset()`; `now` is the clock it reads. -/
def reset (entries : UInt32) (now : UlogTime) : Work :=
  let dummy := setDummy entries freshHeader 1 now
  let hdr := { dummy.hdr with state := kdbStable }
  { hdr, acts := dummy.acts ++ [writeHeader hdr, .note .reset] }

/-- Zeros from `pos` up to `size`, at most 65536 at a time. -/
def zerosTo (size : Nat) : Nat → Nat → List Act
  | 0, _ => []
  | fuel + 1, pos =>
    if pos < size then
      let n := min (size - pos) 65536
      .file (.write pos (List.replicate n 0)) :: zerosTo size fuel (pos + n)
    else []

def extendTo (block : Nat) : Except UlogError (List Act) :=
  let size := hdrLen + entries.toNat * block
  if size > maxLogLen then .error .io
  else .ok (zerosTo size size d.len)

/-- Moves the slots below `n` to a larger block size, the last one first. -/
def moveSlots (old new : Nat) : Nat → Disk → List Act
  | 0, _ => []
  | i + 1, d =>
    let op := FileOp.write (entAt i new)
      (d.read (entAt i old) old ++ List.replicate (new - old) 0)
    .file op :: moveSlots old new i (d.apply op)

def resize (recsize : Nat) : Except UlogError Work := do
  let newBlock := (recsize / ulogBlock.toNat + 1) * ulogBlock.toNat
  rejectIf (newBlock ≥ 2 ^ 16) .error
  rejectIf (hdrLen + entries.toNat * newBlock > maxLogLen) .error
  let grow ← extendTo entries d newBlock
  let moves := moveSlots hdr.block.toNat newBlock entries.toNat (after d grow)
  let hdr := { hdr with block := UInt16.ofNat newBlock }
  return { hdr, acts := grow ++ moves ++ [writeHeader hdr] }

/-! ### Storing -/

/-- The slot a stored update fills, `block` bytes in all. -/
def slotBytes (block : Nat) (layout : IncrLayout) (update : Str) : Str :=
  let ent : EntHeader :=
    { umagic := kdbUlogMagic, sno := layout.sno, time := layout.time, commit := true,
      size := UInt32.ofNat update.length }
  ent.encode.take entDataAt ++ update
    ++ List.replicate (block - (entDataAt + update.length)) 0

/-- The bounds of the ring after an update is stored. -/
def advance (layout : IncrLayout) : UlogHeader :=
  let hdr := { hdr with lastSno := layout.sno, lastTime := layout.time }
  if hdr.num = 0 then
    { hdr with num := 1, firstSno := layout.sno, firstTime := layout.time }
  else if hdr.num < entries then { hdr with num := hdr.num + 1 }
  else
    let next := entHeader d (layout.sno % entries).toNat hdr.block.toNat
    { hdr with firstSno := next.sno, firstTime := next.time }

/-- `walk_incr_update(update).map_err(|_| UlogError::Conv)`. -/
def walk (update : Str) : Except UlogError IncrLayout :=
  match walkIncrUpdate update with
  | .ok layout => .ok layout
  | .error _ => .error .conv

/-- Slots large enough for a record; they grow when they are not. -/
def roomFor (recsize : Nat) : Except UlogError Work :=
  if recsize > hdr.block.toNat then resize entries d hdr recsize else .ok { hdr, acts := [] }

def putEntry (update : Str) : Except UlogError Work := do
  let layout ← walk update
  rejectIf (update.length ≥ 2 ^ 32) .error
  let room ← roomFor entries d hdr (entHdrLen + update.length)
  let put := Act.file (.write (entAt (slotOf entries layout.sno) room.hdr.block.toNat)
    (slotBytes room.hdr.block.toNat layout update))
  return { hdr := advance entries (after d (room.acts ++ [put])) room.hdr layout
           acts := room.acts ++ [put, .note (.stored layout.sno update)] }

def storeUpdate (update : Str) : Outcome Unit :=
  let start := [writeState kdbUnstable]
  match putEntry entries (after d start) { hdr with state := kdbUnstable } update with
  | .error e => { result := .error e, acts := start }
  | .ok put =>
    { result := .ok (),
      acts := start ++ put.acts ++ [writeHeader { put.hdr with state := kdbStable }] }

def headerOrReset (now : UlogTime) (startOver : Bool) : Work :=
  if startOver then reset entries now else { hdr := header d, acts := [] }

/-- Whether a replayed update does not go on from the last serial. -/
def gap (sno : UInt32) : Bool :=
  hdr.num != 0 && sno != hdr.lastSno + 1

/-- `add_update`; the clock is read for a reset and for the update. -/
def addUpdate (resetNow now : UlogTime) (name : Str)
    (deleted : Bool) (kdbe : Str) : Outcome UlogLast :=
  let work := headerOrReset entries d resetNow
    ((header d).state != kdbStable || (header d).lastSno == u32Max)
  let last : UlogLast := ⟨work.hdr.lastSno + 1, now⟩
  let update := encodeIncrUpdate name last.sno last.time kdbe deleted false
  let put := storeUpdate entries (after d work.acts) work.hdr update
  { result := put.result.map fun _ => last, acts := work.acts ++ put.acts }

def replayUpdate (resetNow : UlogTime) (update : Str) : Outcome Unit :=
  match walk update with
  | .error e => { result := .error e, acts := [] }
  | .ok layout =>
    let work := headerOrReset entries d resetNow
      ((header d).state != kdbStable || gap (header d) layout.sno)
    let put := storeUpdate entries (after d work.acts) work.hdr update
    { result := put.result, acts := work.acts ++ put.acts }

def initHeader (now : UlogTime) : List Act :=
  (reset entries now).acts

def setLast (last : UlogLast) : List Act :=
  let dummy := setDummy entries (header d) last.sno last.time
  dummy.acts ++ [writeHeader dummy.hdr]

end Kerber.Ulog
