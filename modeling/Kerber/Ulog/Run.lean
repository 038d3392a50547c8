import Kerber.Ulog.Log

/-!
# Batches, reading and reopening

The rest of `ulog.rs`: the batch that covers several updates with one unstable mark, the entries
sent to a replica, and opening a log.  `LogOp.exec` puts every operation under one type, so that a
run of the log is a list of them.
-/

namespace Kerber.Ulog

open Kerber.Store

/-! ### Batches -/

/-- `UlogBatch`, without the log and its lock. -/
structure UlogBatch where
  hdr : UlogHeader
  appended : Bool

variable (entries : UInt32) (d : Disk)

variable (b : UlogBatch) (now : UlogTime)

/-- `begin`; the batch starts with this header and nothing appended. -/
def «begin» : Work :=
  let work := headerOrReset entries d now ((header d).state != kdbStable)
  { hdr := { work.hdr with state := kdbUnstable },
    acts := work.acts ++ [writeState kdbUnstable] }

def restart : Work :=
  let fresh := reset entries now
  { hdr := { fresh.hdr with state := kdbUnstable },
    acts := fresh.acts ++ [writeState kdbUnstable] }

/-- A batch's own operations. -/
inductive BatchOp
  | addUpdate (resetNow now : UlogTime) (name : Str) (deleted : Bool) (kdbe : Str)
  | replayUpdate (resetNow : UlogTime) (update : Str)
  | initHeader (now : UlogTime)
  | stage

/-- What an operation of a batch leaves: its result, the batch and the acts. -/
structure BatchStep where
  result : Except UlogError Unit
  batch : UlogBatch
  acts : List Act

/-- The last part of `add_update` and `replay_update`: a batch whose serials cannot go on
restarts, then the update is put. -/
def putOrRestart (hdr : UlogHeader) (now : UlogTime)
    (startOver : Bool) (update : UlogHeader → Str) : BatchStep :=
  let work := if startOver then restart entries now else { hdr, acts := [] }
  match putEntry entries (after d work.acts) work.hdr (update work.hdr) with
  | .error e =>
    { result := .error e, batch := { hdr := work.hdr, appended := true }, acts := work.acts }
  | .ok put =>
    { result := .ok (), batch := { hdr := put.hdr, appended := true },
      acts := work.acts ++ put.acts }

/-- The operations of `UlogBatch`. -/
def BatchOp.exec : BatchOp → BatchStep
  | .addUpdate resetNow now name deleted kdbe =>
    putOrRestart entries d b.hdr resetNow (b.hdr.lastSno == u32Max)
      fun hdr => encodeIncrUpdate name (hdr.lastSno + 1) now kdbe deleted false
  | .replayUpdate resetNow update =>
    match walk update with
    | .error e => { result := .error e, batch := b, acts := [] }
    | .ok layout =>
      putOrRestart entries d b.hdr resetNow (gap b.hdr layout.sno) fun _ => update
  | .initHeader now =>
    let fresh := restart entries now
    { result := .ok (), batch := { hdr := fresh.hdr, appended := true }, acts := fresh.acts }
  | .stage => { result := .ok (), batch := b, acts := [writeHeader b.hdr] }

/-- The operations of a batch in turn, up to the first that fails. -/
def runBatch (entries : UInt32) (d : Disk) (b : UlogBatch) : List BatchOp → BatchStep
  | [] => { result := .ok (), batch := b, acts := [] }
  | op :: ops =>
    let step := op.exec entries d b
    match step.result with
    | .error _ => step
    | .ok () =>
      let rest := runBatch entries (after d step.acts) step.batch ops
      { rest with acts := step.acts ++ rest.acts }

def finish : List Act :=
  [writeHeader { b.hdr with state := kdbStable }]

def abandon : List Act :=
  if b.appended then (reset entries now).acts else [writeState kdbStable]

/-- A whole batch as its callers drive it: finished where every operation went through and the
database was written, abandoned otherwise. -/
structure Batch where
  beginNow : UlogTime
  ops : List BatchOp
  written : Bool
  abandonNow : UlogTime

/-- Everything a batch does to the file. -/
def Batch.acts (entries : UInt32) (d : Disk) (batch : Batch) : List Act :=
  let start := «begin» entries d batch.beginNow
  let run :=
    runBatch entries (after d start.acts) { hdr := start.hdr, appended := false } batch.ops
  let close :=
    if run.result.isOk && batch.written then finish run.batch
    else abandon entries run.batch batch.abandonNow
  start.acts ++ run.acts ++ close

/-! ### Reading for a replica -/

structure UlogUpdates where
  status : IpropStatus
  last : UlogLast := {}
  updates : List Str := []
deriving DecidableEq

def patchCommit (layout : IncrLayout) (commit : Bool) (update : Str) : Str :=
  update.take layout.commitAt ++ be32 (if commit then 1 else 0)
    ++ update.drop (layout.commitAt + 4)

/-- One pass of the loop of `get_entries`: the entry that follows `sno`. -/
def readEntry (block : Nat) (sno : UInt32) : Except UlogError Str := do
  let index := (sno % entries).toNat
  let ent := entHeader d index block
  rejectIf (ent.sno ≠ sno + 1) .corrupt
  rejectIf (ent.size.toNat > block - entDataAt) .conv
  let update := d.read (entAt index block + entDataAt) ent.size.toNat
  let layout ← walk update
  return patchCommit layout ent.commit update

/-- The loop of `get_entries`, for `n` entries after `sno`. -/
def readEntries (entries : UInt32) (d : Disk) (block : Nat) :
    Nat → UInt32 → Except UlogError (List Str)
  | 0, _ => .ok []
  | n + 1, sno => do
    let update ← readEntry entries d block sno
    let rest ← readEntries entries d block n (sno + 1)
    return update :: rest

/-- `get_entries`; an unstable log is reset first. -/
def getEntries (last : UlogLast) : Outcome UlogUpdates :=
  let work := headerOrReset entries d now ((header d).state != kdbStable)
  let d := after d work.acts
  let status := snoStatus entries d work.hdr last
  let result :=
    if status ≠ .ok then .ok { status }
    else do
      let updates ← readEntries entries d work.hdr.block.toNat
        (work.hdr.lastSno.toNat - last.sno.toNat) last.sno
      return { status, last := ⟨work.hdr.lastSno, work.hdr.lastTime⟩, updates }
  { result, acts := work.acts }

/-! ### Opening -/

/-- Whether `check_mapped` finds a log it cannot use. -/
def unusable (hdr : UlogHeader) : Bool :=
  hdr.state != kdbStable ||
    (hdr.num != 0 && (hdr.num > entries || !checkSno entries d hdr hdr.firstSno hdr.firstTime
      || !checkSno entries d hdr hdr.lastSno hdr.lastTime))

/-- The first part of `check_mapped`: a file without the magic becomes a log. -/
def checkMagic : Except UlogError Work :=
  let head := if d.len < hdrLen then List.replicate hdrLen 0 else d.read 0 hdrLen
  let hdr := UlogHeader.decode head
  if hdr.hmagic = kdbUlogHdrMagic then .ok { hdr, acts := [] }
  else if hdr.hmagic = 0 then .ok (reset entries now)
  else if !(str "ulog ").isPrefixOf head then .error .corrupt
  else
    let fresh := reset entries now
    .ok { hdr := fresh.hdr, acts := .file (.setLen 0) :: fresh.acts }

/-- The second part: a log that cannot be used is reset. -/
def checkUsable (work : Work) (now : UlogTime) : Work :=
  if unusable entries (after d work.acts) work.hdr then
    let fresh := reset entries now
    { hdr := fresh.hdr, acts := work.acts ++ fresh.acts }
  else work

/-- `check_mapped`; the two resets read the clock on their own. -/
def checkMapped (magicNow stableNow : UlogTime) : Outcome Unit :=
  match checkMagic entries d magicNow with
  | .error e => { result := .error e, acts := [] }
  | .ok work =>
    let work := checkUsable entries d work stableNow
    if work.hdr.num = entries then { result := .ok (), acts := work.acts }
    else
      match extendTo entries (after d work.acts) work.hdr.block.toNat with
      | .error e => { result := .error e, acts := work.acts }
      | .ok grow => { result := .ok (), acts := work.acts ++ grow }

/-- The part of `map` that a missing file adds. -/
def fillMissing (missing : Bool) : Except UlogError (List Act) :=
  if missing then extendTo entries d ulogBlock.toNat else .ok []

/-- `map`, with the number of slots the log gets. -/
def map (entries : UInt32) (d : Disk) (missing : Bool) (magicNow stableNow : UlogTime) :
    Outcome UInt32 :=
  let entries := max entries 1
  if hdrLen + entries.toNat * ulogBlock.toNat > maxLogLen then
    { result := .error .io, acts := [] }
  else
    match fillMissing entries d missing with
    | .error e => { result := .error e, acts := [] }
    | .ok fill =>
      let mapped := checkMapped entries (after d fill) magicNow stableNow
      { result := mapped.result.map fun _ => entries, acts := fill ++ mapped.acts }

/-! ### Runs -/

/-- The operations on an open log. -/
inductive LogOp
  | addUpdate (resetNow now : UlogTime) (name : Str) (deleted : Bool) (kdbe : Str)
  | replayUpdate (resetNow : UlogTime) (update : Str)
  | batch (batch : Batch)
  | initHeader (now : UlogTime)
  | setLast (last : UlogLast)
  | getEntries (now : UlogTime) (last : UlogLast)
  | reopen (entries : UInt32) (magicNow stableNow : UlogTime)

/-- An open log: its file and the number of slots it was opened with. -/
structure OpenLog where
  disk : Disk
  entries : UInt32

/-- What an operation does to the file. -/
def LogOp.acts (log : OpenLog) : LogOp → List Act
  | .addUpdate resetNow now name deleted kdbe =>
    (Ulog.addUpdate log.entries log.disk resetNow now name deleted kdbe).acts
  | .replayUpdate resetNow update =>
    (Ulog.replayUpdate log.entries log.disk resetNow update).acts
  | .batch plan => plan.acts log.entries log.disk
  | .initHeader now => Ulog.initHeader log.entries now
  | .setLast last => Ulog.setLast log.entries log.disk last
  | .getEntries now last => (Ulog.getEntries log.entries log.disk now last).acts
  | .reopen entries magicNow stableNow => (map entries log.disk false magicNow stableNow).acts

/-- The number of slots after an operation: an opening that fails leaves the log that was open. -/
def LogOp.slots (log : OpenLog) : LogOp → UInt32
  | .reopen entries magicNow stableNow =>
    match (map entries log.disk false magicNow stableNow).result with
    | .ok slots => slots
    | .error _ => log.entries
  | _ => log.entries

def LogOp.exec (log : OpenLog) (op : LogOp) : OpenLog :=
  { disk := after log.disk (op.acts log), entries := op.slots log }

/-- The update stored last under each serial since the last reset. -/
def storedBy (stored : UInt32 → Option Str) : List Act → UInt32 → Option Str
  | [] => stored
  | .file _ :: acts => storedBy stored acts
  | .note .reset :: acts => storedBy (fun _ => none) acts
  | .note (.stored sno update) :: acts =>
    storedBy (fun s => if s = sno then some update else stored s) acts

end Kerber.Ulog
