import Kerber.Store.Equiv.IpropXdr
import Kerber.Ulog.Equiv.Ring

/-!
# The contract of the update log

`LogOp.next` runs one operation on the log together with a record of what was stored since the
last reset; a run is a list of operations (`runOps`).  `Inv` holds of a new log (`inv_created`)
and is kept by each operation that `Fits` (`Inv.next`), so that in every such run what
`get_entries` sends is what was stored (`getEntries_sends_stored`).  What does not fit is a replayed
update that restarts the log at a serial above 2, after which slots from before the restart are
inside the bounds (`stale_entry_is_sent`), and an opening with another number of slots that keeps
the log.
-/

namespace Kerber.Ulog

open Ulog Disk

variable {stableNow magicNow : UlogTime} {answer : UlogUpdates} {start : Nat} {st : Tracked}

open Kerber.Store

variable {entries : UInt32} {stored : UInt32 → Option Str} {hdr : UlogHeader} {d : Disk}
  {last : UlogLast} {now : UlogTime} {sno : UInt32}

/-! ### Runs -/

/-- A log together with the update stored last under each serial since the last reset. -/
structure Tracked where
  log : OpenLog
  stored : UInt32 → Option Str

/-- One operation. -/
def LogOp.next (st : Tracked) (op : LogOp) : Tracked :=
  { log := op.exec st.log, stored := storedBy st.stored (op.acts st.log) }

def runOps (st : Tracked) (ops : List LogOp) : Tracked :=
  ops.foldl LogOp.next st

/-- The log that `map` makes where there was no file. -/
def created (acts : List Act) (entries : UInt32) : Tracked :=
  { log := { disk := after empty acts, entries },
    stored := storedBy (fun _ => none) acts }

/-- A replayed update that restarts the log has a serial of at most 2. -/
def ReplayFits (restarts : Bool) (sno : UInt32) : Prop :=
  restarts → sno.toNat ≤ 2

def BatchOp.Fits (b : UlogBatch) : BatchOp → Prop
  | .replayUpdate _ update =>
    ∀ layout, walk update = .ok layout → ReplayFits (gap b.hdr layout.sno) layout.sno
  | _ => True

def BatchFits (entries : UInt32) (d : Disk) (b : UlogBatch) : List BatchOp → Prop
  | [] => True
  | op :: ops =>
    let step := op.exec entries d b
    op.Fits b ∧ (step.result = .ok () → BatchFits entries (after d step.acts) step.batch ops)

/-- What a run may do: a replay that restarts the log has a serial of at most 2, and a log that is
opened with another number of slots is reset or has not filled the smaller one. -/
def LogOp.Fits (log : OpenLog) : LogOp → Prop
  | .replayUpdate _ update =>
    ∀ layout, walk update = .ok layout →
      ReplayFits ((header log.disk).state != kdbStable || gap (header log.disk) layout.sno)
        layout.sno
  | .batch plan =>
    let start := «begin» log.entries log.disk plan.beginNow
    BatchFits log.entries (after log.disk start.acts) { hdr := start.hdr, appended := false }
      plan.ops
  | .reopen entries _ _ =>
    max entries 1 = log.entries ∨
      unusable (max entries 1) log.disk (header log.disk) ∨
      ((header log.disk).lastSno ≤ max entries 1 ∧ (header log.disk).lastSno ≤ log.entries)
  | _ => True

def RunFits (log : OpenLog) : List LogOp → Prop
  | [] => True
  | op :: ops => op.Fits log ∧ RunFits (op.exec log) ops

/-! ### The invariant of a run -/

/-- A log file with the magic. -/
abbrev IsLog (d : Disk) : Prop := Sound (fun _ => True) d

/-- What holds of the file between two operations. -/
structure FileInv (entries : UInt32) (stored : UInt32 → Option Str) (d : Disk) : Prop where
  isLog : IsLog d
  ring : (header d).state = kdbStable → ∃ start, Ring entries stored d (header d) start

/-- The writes `acts` leave the file with the invariant. -/
abbrev Leaves (entries : UInt32) (stored : UInt32 → Option Str) (d : Disk) (acts : List Act) :
    Prop :=
  FileInv entries (storedBy stored acts) (after d acts)

theorem leaves_append (acts more : List Act) :
    Leaves entries stored d (acts ++ more) ↔
      Leaves entries (storedBy stored acts) (after d acts) more := by
  rw [Leaves, storedBy_append, after_append]

/-- What holds of a log between two operations. -/
structure Inv (st : Tracked) : Prop where
  pos : 0 < st.log.entries.toNat
  file : FileInv st.log.entries st.stored st.log.disk

theorem FileInv.of_ring (hlen : hdrLen ≤ d.len) (hhdr : header d = hdr)
    (hmagic : hdr.hmagic = kdbUlogHdrMagic) (hring : Ring entries stored d hdr start) :
    FileInv entries stored d := by
  subst hhdr
  exact ⟨⟨hlen, hmagic, trivial⟩, fun _ => ⟨start, hring⟩⟩

/-! ### Resetting -/

section Reset

variable (entries : UInt32) (stored : UInt32 → Option Str) (d : Disk) (now : UlogTime)

theorem after_reset : after d (reset entries now).acts =
    (after d (setDummy entries freshHeader 1 now).acts).write 0 (reset entries now).hdr.encode :=
  rfl

theorem header_after_reset :
    header (after d (reset entries now).acts) = (reset entries now).hdr := by
  rw [after_reset, header_write]

theorem len_after_reset : hdrLen ≤ (after d (reset entries now).acts).len := by
  have hlen := le_len_write (after d (setDummy entries freshHeader 1 now).acts) 0
    (reset entries now).hdr.encode
  rw [length_encode, Nat.zero_add] at hlen
  rw [after_reset]
  exact hlen

/-- **A reset makes any file a log** with nothing stored. -/
theorem fileInv_reset (entries' : UInt32) : Leaves entries' stored d (reset entries now).acts :=
  .of_ring (len_after_reset entries d now) (header_after_reset entries d now) rfl
    (ring_reset entries' _ _ now)

end Reset

theorem headerOrReset_spec (h : FileInv entries stored d) (now : UlogTime) (startOver : Bool)
    (hstable : startOver = false → (header d).state = kdbStable) :
    let work := headerOrReset entries d now startOver
    IsLog (after d work.acts) ∧ header (after d work.acts) = work.hdr ∧
      work.hdr.state = kdbStable ∧
      (∃ start, Ring entries (storedBy stored work.acts) (after d work.acts) work.hdr start) ∧
      (startOver = true → work.hdr.lastSno = 1) ∧ (startOver = false → work.hdr = header d) := by
  cases startOver with
  | true =>
    have hreset := fileInv_reset entries stored d now entries
    refine ⟨hreset.isLog, header_after_reset entries d now, rfl, ?_, fun _ => rfl, fun h => ?_⟩
    · exact ⟨1, ring_reset entries _ _ now⟩
    · cases h
  | false =>
    exact ⟨h.isLog, rfl, hstable rfl, h.ring (hstable rfl), fun h => (nomatch h), fun _ => rfl⟩

/-! ### Storing one update -/

section Store

theorem data_writeHeader (d : Disk) (hdr : UlogHeader) (i : Nat) (hi : hdrLen ≤ i) :
    (d.write 0 hdr.encode).data i = d.data i :=
  d.data_write_of_outside (.inr (by rw [length_encode]; omega))

theorem data_writeState (d : Disk) (state : UInt16) (i : Nat) (hi : hdrLen ≤ i) :
    (d.write stateAt (le16 state)).data i = d.data i :=
  d.data_write_of_outside (.inr (by
    have : hdrLen = stateAt + 4 := rfl
    rw [length_le16]
    omega))

theorem Ring.fileInv_writeHeader (h : Ring entries stored d hdr start)
    (hlen : hdrLen ≤ d.len) (hmagic : hdr.hmagic = kdbUlogHdrMagic) :
    FileInv entries stored (after d [writeHeader hdr]) :=
  .of_ring (Nat.le_trans hlen (len_le_write d _ _)) (header_write d _) hmagic
    (h.congr (data_writeHeader d _) hdr.state)

/-- The serials that keep the ring: the next one, or one that starts anew. -/
def Next (hdr : UlogHeader) (update : Str) : Prop :=
  ∀ layout, walk update = .ok layout → update.length < 2 ^ 32 →
    layout.sno.toNat = hdr.lastSno.toNat + 1 ∨ layout.sno.toNat ≤ 1

/-- `put_entry` under the invariant. -/
theorem Ring.putEntry_next {update : Str} {put : Work}
    (h : Ring entries stored d hdr start) (hpos : 0 < entries.toNat) (hlog : IsLog d)
    (hmagic : hdr.hmagic = kdbUlogHdrMagic) (hnext : Next hdr update)
    (hput : Ulog.putEntry entries d hdr update = .ok put) :
    IsLog (after d put.acts) ∧ put.hdr.hmagic = kdbUlogHdrMagic ∧
      ∃ start', Ring entries (storedBy stored put.acts) (after d put.acts) put.hdr start' := by
  obtain ⟨layout, _, hwalk, hshort, _⟩ := putEntry_ok hput
  obtain ⟨hwithin, hmagic', _⟩ :=
    putEntry_within hput hlog.len hmagic (P := fun _ => True) trivial
  exact ⟨hlog.after hwithin, hmagic'.trans hmagic,
    h.putEntry hpos hput hwalk (hnext layout hwalk hshort)⟩

/-- **`store_update` keeps the invariant** when the serial is a next one. -/
theorem storeUpdate_fileInv {update : Str}
    (hring : Ring entries stored d hdr start) (hpos : 0 < entries.toNat) (hlog : IsLog d)
    (hmagic : hdr.hmagic = kdbUlogHdrMagic) (hnext : Next hdr update) :
    Leaves entries stored d (storeUpdate entries d hdr update).acts := by
  have hlog' : IsLog (after d [writeState kdbUnstable]) :=
    hlog.after fun a ha => List.mem_singleton.mp ha ▸ .state trivial
  have hring' : Ring entries stored (after d [writeState kdbUnstable])
      { hdr with state := kdbUnstable } start :=
    hring.congr (data_writeState d _) kdbUnstable
  rw [storeUpdate]
  cases hput : Ulog.putEntry entries (after d [writeState kdbUnstable])
      { hdr with state := kdbUnstable } update with
  | error e =>
    -- the log is left unstable, for the next operation to reset
    refine ⟨hlog', fun hstable => ?_⟩
    have hstate : (header (after d [writeState kdbUnstable])).state = kdbUnstable :=
      congrArg UlogHeader.state (header_writeState d kdbUnstable)
    exact absurd (hstate.symm.trans hstable) (by decide)
  | ok put =>
    obtain ⟨hlog'', hmagic', start', hput'⟩ :=
      hring'.putEntry_next hpos hlog' hmagic hnext hput
    show Leaves entries stored d ([writeState kdbUnstable] ++ put.acts ++ _)
    rw [leaves_append, storedBy_append, after_append]
    exact (hput'.congr (fun _ _ => rfl) kdbStable).fileInv_writeHeader hlog''.len hmagic'

end Store

/-- A serial that goes on, with the wrap from the last one to 0. -/
theorem next_of_eq_add_one (h : sno = hdr.lastSno + 1) :
    sno.toNat = hdr.lastSno.toNat + 1 ∨ sno.toNat ≤ 1 := by
  rw [h, UInt32.toNat_add, UInt32.toNat_one]
  have := hdr.lastSno.toNat_lt
  omega

theorem next_encode (hdr : UlogHeader) (name kdbe : Str) (now : UlogTime) (deleted commit : Bool) :
    Next hdr (encodeIncrUpdate name (hdr.lastSno + 1) now kdbe deleted commit) := by
  intro layout hwalk hshort
  have hname := Nat.lt_of_le_of_lt
    (length_le_encodeIncrUpdate name kdbe (hdr.lastSno + 1) now deleted commit) hshort
  unfold walk at hwalk
  split at hwalk
  · rename_i layout' hincr
    obtain rfl : layout' = layout := Except.ok.inj hwalk
    exact next_of_eq_add_one (walkIncrUpdate_encode_sno hname hincr)
  · cases hwalk

theorem walk_ok_unique {update : Str} {layout layout' : IncrLayout}
    (h : walk update = .ok layout) (h' : walk update = .ok layout') : layout' = layout :=
  Except.ok.inj (h'.symm.trans h)

/-- A replayed update: it goes on, or it restarts the log and its serial is small. -/
theorem next_replay {update : Str} {layout : IncrLayout} (hwalk : walk update = .ok layout)
    (h : layout.sno = hdr.lastSno + 1 ∨ (hdr.lastSno = 1 ∧ layout.sno.toNat ≤ 2)) :
    Next hdr update := by
  intro layout' hwalk' _
  rw [walk_ok_unique hwalk hwalk']
  rcases h with hgo | ⟨hone, hsmall⟩
  · exact next_of_eq_add_one hgo
  · rw [hone]
    have : (1 : UInt32).toNat = 1 := rfl
    omega

theorem Ring.eq_of_not_gap (h : Ring entries stored d hdr start) (hgap : gap hdr sno = false) :
    sno = hdr.lastSno + 1 := by
  have hnum : (hdr.num != 0) = true := by simpa using h.num_ne
  simpa [gap, hnum] using hgap

section Ops

variable (h : FileInv entries stored d)

include h

theorem FileInv.store (hpos : 0 < entries.toNat) (now : UlogTime) {startOver : Bool}
    (hstable : startOver = false → (header d).state = kdbStable) (update : UlogHeader → Str)
    (hnext : ∀ stored' d' hdr start, Ring entries stored' d' hdr start →
      (startOver = true → hdr.lastSno = 1) → (startOver = false → hdr = header d) →
      Next hdr (update hdr)) :
    let work := headerOrReset entries d now startOver
    let acts := work.acts ++
      (storeUpdate entries (after d work.acts) work.hdr (update work.hdr)).acts
    Leaves entries stored d acts := by
  obtain ⟨hlog, hhdr, _, ⟨start, hring⟩, hover, hkept⟩ := headerOrReset_spec h now startOver hstable
  intro work acts
  have hmagic : work.hdr.hmagic = kdbUlogHdrMagic := hhdr ▸ hlog.magic
  refine (leaves_append _ _).mpr ?_
  exact storeUpdate_fileInv hring hpos hlog hmagic (hnext _ _ _ _ hring hover hkept)

theorem FileInv.addUpdate (hpos : 0 < entries.toNat)
    (resetNow now : UlogTime) (name : Str) (deleted : Bool) (kdbe : Str) :
    Leaves entries stored d (addUpdate entries d resetNow now name deleted kdbe).acts := by
  refine h.store hpos resetNow ?_
    (fun hdr => encodeIncrUpdate name (hdr.lastSno + 1) now kdbe deleted false)
    fun _ _ hdr _ _ _ _ => next_encode hdr name kdbe now deleted false
  intro hover
  have := (Bool.or_eq_false_iff.mp hover).1
  simpa using this

theorem FileInv.replayUpdate (hpos : 0 < entries.toNat)
    (resetNow : UlogTime) {update : Str} (hfits : ∀ layout, walk update = .ok layout →
      ReplayFits ((header d).state != kdbStable || gap (header d) layout.sno) layout.sno) :
    Leaves entries stored d (Ulog.replayUpdate entries d resetNow update).acts := by
  rw [Ulog.replayUpdate]
  cases hwalk : walk update with
  | error e => exact h
  | ok layout =>
    refine h.store hpos resetNow ?_ (fun _ => update) ?_
    · intro hover
      have := (Bool.or_eq_false_iff.mp hover).1
      simpa using this
    · intro stored' d' hdr start hring hover hkept
      refine next_replay hwalk ?_
      cases hrestart : (header d).state != kdbStable || gap (header d) layout.sno with
      | true => exact .inr ⟨hover hrestart, hfits layout hwalk hrestart⟩
      | false =>
        have hgap : gap hdr layout.sno = false := by
          rw [hkept hrestart]
          exact (Bool.or_eq_false_iff.mp hrestart).2
        exact .inl (hring.eq_of_not_gap hgap)

theorem FileInv.setLast (last : UlogLast) :
    Leaves entries stored d (Ulog.setLast entries d last) := by
  set dummy := setDummy entries (header d) last.sno last.time with hdummy
  have hring : Ring entries stored (after d dummy.acts) dummy.hdr last.sno.toNat :=
    ring_setDummy entries stored _ (header d) last.sno last.time
  have hlen : hdrLen ≤ (after d dummy.acts).len := Nat.le_trans h.isLog.len (len_le_write d _ _)
  have hacts : Ulog.setLast entries d last = dummy.acts ++ [writeHeader dummy.hdr] := rfl
  rw [hacts, leaves_append]
  exact hring.fileInv_writeHeader hlen h.isLog.magic

theorem FileInv.getEntries (now : UlogTime) (last : UlogLast) :
    Leaves entries stored d (Ulog.getEntries entries d now last).acts := by
  obtain ⟨hlog, hhdr, _, ⟨start, hring⟩, _, _⟩ :=
    headerOrReset_spec h now ((header d).state != kdbStable) (by simp)
  have hacts : (Ulog.getEntries entries d now last).acts =
      (headerOrReset entries d now ((header d).state != kdbStable)).acts := rfl
  rw [hacts]
  rw [← hhdr] at hring
  exact .of_ring hlog.len rfl hlog.magic hring

end Ops

/-! ### Batches -/

/-- What holds between two operations of a batch: its header is in the ring, and is the file's as
long as nothing was appended. -/
structure BatchInv (entries : UInt32) (stored : UInt32 → Option Str) (d : Disk) (b : UlogBatch) :
    Prop where
  isLog : IsLog d
  magic : b.hdr.hmagic = kdbUlogHdrMagic
  ring : ∃ start, Ring entries stored d b.hdr start
  kept : b.appended = false → header d = b.hdr

section Batches

variable {b : UlogBatch}

theorem IsLog.after_writeState (h : IsLog d) (state : UInt16) :
    IsLog (after d [writeState state]) :=
  h.after fun _ ha => List.mem_singleton.mp ha ▸ .state trivial

theorem FileInv.batchInv_begin (h : FileInv entries stored d) (now : UlogTime) :
    BatchInv entries (storedBy stored («begin» entries d now).acts)
      (after d («begin» entries d now).acts)
      { hdr := («begin» entries d now).hdr, appended := false } := by
  obtain ⟨hlog, hhdr, _, ⟨start, hring⟩, _, _⟩ :=
    headerOrReset_spec h now ((header d).state != kdbStable) (by simp)
  simp only [«begin»]
  generalize headerOrReset entries d now ((header d).state != kdbStable) = work at *
  rw [storedBy_append, after_append]
  refine ⟨hlog.after_writeState kdbUnstable, ?_, ⟨start, ?_⟩, fun _ => ?_⟩
  · rw [← hhdr]
    exact hlog.magic
  · exact hring.congr (data_writeState _ _) kdbUnstable
  · rw [← hhdr]
    exact header_writeState _ kdbUnstable

theorem restart_spec (entries : UInt32) (stored : UInt32 → Option Str) (d : Disk) (now : UlogTime) :
    let fresh := restart entries now
    IsLog (after d fresh.acts) ∧
      Ring entries (storedBy stored fresh.acts) (after d fresh.acts) fresh.hdr 1 := by
  have hreset := fileInv_reset entries stored d now entries
  intro fresh
  have hacts : fresh.acts = (reset entries now).acts ++ [writeState kdbUnstable] := rfl
  rw [hacts, storedBy_append, after_append]
  exact ⟨hreset.isLog.after_writeState kdbUnstable,
    (ring_reset entries _ _ now).congr (data_writeState _ _) kdbUnstable⟩

section

variable (h : BatchInv entries stored d b)

include h

theorem BatchInv.putOrRestart (hpos : 0 < entries.toNat)
    (now : UlogTime) (startOver : Bool) (update : UlogHeader → Str)
    (hnext : ∀ stored' d' hdr start, Ring entries stored' d' hdr start →
      (startOver = true → hdr.lastSno = 1) → (startOver = false → hdr = b.hdr) →
      Next hdr (update hdr)) :
    let step := Ulog.putOrRestart entries d b.hdr now startOver update
    BatchInv entries (storedBy stored step.acts) (after d step.acts) step.batch := by
  simp only [Ulog.putOrRestart]
  set work : Work := if startOver then restart entries now else { hdr := b.hdr, acts := [] }
    with hwork
  obtain ⟨hlog, hmagic, hone, hkept, start, hring⟩ :
      IsLog (after d work.acts) ∧ work.hdr.hmagic = kdbUlogHdrMagic ∧
      (startOver = true → work.hdr.lastSno = 1) ∧ (startOver = false → work.hdr = b.hdr) ∧
      ∃ start, Ring entries (storedBy stored work.acts) (after d work.acts) work.hdr start := by
    cases startOver with
    | true =>
      obtain ⟨hlog, hring⟩ := restart_spec entries stored d now
      exact ⟨hlog, rfl, fun _ => rfl, fun h => (nomatch h), 1, hring⟩
    | false => exact ⟨h.isLog, h.magic, fun h => (nomatch h), fun _ => rfl, h.ring⟩
  cases hput : putEntry entries (after d work.acts) work.hdr (update work.hdr) with
  | error e => exact ⟨hlog, hmagic, ⟨start, hring⟩, fun h => (nomatch h)⟩
  | ok put =>
    obtain ⟨hlog', hmagic', hring'⟩ :=
      hring.putEntry_next hpos hlog hmagic (hnext _ _ _ _ hring hone hkept) hput
    refine ⟨?_, hmagic', ?_, fun h => (nomatch h)⟩
    · rw [after_append]
      exact hlog'
    · rw [storedBy_append, after_append]
      exact hring'

/-- **An operation of a batch keeps its invariant.** -/
theorem BatchInv.exec (hpos : 0 < entries.toNat) {op : BatchOp} (hfits : op.Fits b) :
    let step := op.exec entries d b
    BatchInv entries (storedBy stored step.acts) (after d step.acts) step.batch := by
  cases op with
  | addUpdate resetNow now name deleted kdbe =>
    exact h.putOrRestart hpos resetNow (b.hdr.lastSno == u32Max)
      (fun hdr => encodeIncrUpdate name (hdr.lastSno + 1) now kdbe deleted false)
      fun _ _ hdr _ _ _ _ => next_encode hdr name kdbe now deleted false
  | replayUpdate resetNow update =>
    simp only [BatchOp.exec]
    cases hwalk : walk update with
    | error e => exact h
    | ok layout =>
      refine h.putOrRestart hpos resetNow (gap b.hdr layout.sno) (fun _ => update) ?_
      intro _ _ hdr _ hring hover hkept
      refine next_replay hwalk ?_
      cases hgap : gap b.hdr layout.sno with
      | true => exact .inr ⟨hover hgap, hfits layout hwalk hgap⟩
      | false => exact .inl (hring.eq_of_not_gap (by rw [hkept hgap]; exact hgap))
  | initHeader now =>
    obtain ⟨hlog, hring⟩ := restart_spec entries stored d now
    exact ⟨hlog, rfl, ⟨1, hring⟩, fun h => (nomatch h)⟩
  | stage =>
    obtain ⟨start, hring⟩ := h.ring
    refine ⟨h.isLog.after fun a ha => ?_, h.magic, ⟨start, ?_⟩, fun _ => header_write d _⟩
    · exact List.mem_singleton.mp ha ▸ .header h.magic trivial
    · exact hring.congr (data_writeHeader d _) b.hdr.state

theorem BatchInv.runBatch (hpos : 0 < entries.toNat)
    {ops : List BatchOp} (hfits : BatchFits entries d b ops) :
    let run := runBatch entries d b ops
    BatchInv entries (storedBy stored run.acts) (after d run.acts) run.batch := by
  induction ops generalizing stored d b with
  | nil => exact h
  | cons op ops ih =>
    have hstep := h.exec hpos hfits.1
    simp only [runBatch]
    cases hresult : (op.exec entries d b).result with
    | error e => exact hstep
    | ok _ =>
      have hrest := ih hstep (hfits.2 hresult)
      show BatchInv entries (storedBy stored ((op.exec entries d b).acts ++ _))
        (after d ((op.exec entries d b).acts ++ _)) _
      rw [storedBy_append, after_append]
      exact hrest

theorem BatchInv.fileInv_finish : Leaves entries stored d (finish b) := by
  obtain ⟨start, hring⟩ := h.ring
  exact (hring.congr (fun _ _ => rfl) kdbStable).fileInv_writeHeader h.isLog.len h.magic

theorem BatchInv.fileInv_abandon (now : UlogTime) :
    Leaves entries stored d (abandon entries b now) := by
  rw [abandon]
  split
  · exact fileInv_reset entries stored d now entries
  · rename_i happended
    obtain ⟨start, hring⟩ := h.ring
    have hhdr := h.kept (by simpa using happended)
    have hstate : header (after d [writeState kdbStable]) = { b.hdr with state := kdbStable } :=
      (header_writeState d kdbStable).trans (by rw [hhdr])
    exact .of_ring (h.isLog.after_writeState kdbStable).len hstate h.magic
      (hring.congr (data_writeState d _) kdbStable)

end

/-- **A batch keeps the invariant of the file.** -/
theorem FileInv.batch (h : FileInv entries stored d) (hpos : 0 < entries.toNat) {plan : Batch}
    (hfits : (LogOp.batch plan).Fits ⟨d, entries⟩) :
    Leaves entries stored d (plan.acts entries d) := by
  have hrun := (h.batchInv_begin plan.beginNow).runBatch hpos hfits
  simp only [Batch.acts]
  rw [leaves_append, storedBy_append, after_append]
  split
  · exact hrun.fileInv_finish
  · exact hrun.fileInv_abandon plan.abandonNow

end Batches

/-! ### Opening -/

section Open

variable {entries entries' : UInt32}

/-- A ring that neither number of slots has filled is one for both. -/
theorem Ring.reslot (h : Ring entries stored d hdr start) (hle : hdr.lastSno ≤ entries)
    (hle' : hdr.lastSno ≤ entries') : Ring entries' stored d hdr start := by
  have hle := UInt32.le_iff_toNat_le.mp hle
  have hle' := UInt32.le_iff_toNat_le.mp hle'
  refine ⟨h.num_ne, h.start_le_last, h.start_le_first, h.num_le, ?_⟩
  intro s hlo hhi _
  have hslot : slotOf entries' s = slotOf entries s := by
    rw [slotOf_eq _ (by omega), slotOf_eq _ (by omega), Nat.mod_eq_of_lt (by omega),
      Nat.mod_eq_of_lt (by omega)]
  rw [hslot]
  exact h.slots s hlo hhi (by omega)

/-- A longer file holds the same log. -/
theorem FileInv.extendTo (h : FileInv entries stored d) {block : Nat} {grow : List Act}
    (hgrow : extendTo entries' d block = .ok grow) :
    Leaves entries stored d grow := by
  have hz := extendTo_ok hgrow
  have hfiles : ∀ a ∈ grow, a.isFile := by
    rw [hz]
    exact fun a ha => (zerosTo_within (fun _ => True) _ _ _ a ha).1
  obtain ⟨hdata, hlen⟩ : (after d grow).data = d.data ∧ d.len ≤ (after d grow).len := by
    rw [hz]
    exact after_zerosTo _ _ _ d (Nat.le_refl _)
  have hhdr : header (after d grow) = header d := header_congr fun i _ => congrFun hdata i
  refine ⟨⟨Nat.le_trans h.isLog.len hlen, ?_, trivial⟩, ?_⟩
  · rw [hhdr]
    exact h.isLog.magic
  · rw [hhdr, storedBy_of_isFile stored hfiles]
    intro hstable
    obtain ⟨start, hring⟩ := h.ring hstable
    exact ⟨start, hring.congr (fun i _ => congrFun hdata i) _⟩

theorem checkMagic_of_isLog (h : IsLog d) (now : UlogTime) :
    checkMagic entries d now = .ok { hdr := header d, acts := [] } := by
  simp only [checkMagic]
  rw [if_neg (Nat.not_lt.mpr h.len)]
  exact if_pos h.magic

theorem checkUsable_of_unusable (work : Work) (now : UlogTime)
    (h : unusable entries (after d work.acts) work.hdr = true) :
    checkUsable entries d work now =
      { hdr := (reset entries now).hdr, acts := work.acts ++ (reset entries now).acts } :=
  if_pos h

theorem checkUsable_of_usable (work : Work) (now : UlogTime)
    (h : ¬ unusable entries (after d work.acts) work.hdr = true) :
    checkUsable entries d work now = work :=
  if_neg h

/-- `check_mapped` after its resets: the file may still grow. -/
theorem fileInv_checkMapped {work : Work} {slots : UInt32}
    (hmagic : checkMagic entries' d magicNow = .ok work)
    (h : Leaves slots stored d (checkUsable entries' d work stableNow).acts) :
    Leaves slots stored d (checkMapped entries' d magicNow stableNow).acts := by
  simp only [checkMapped, hmagic]
  generalize checkUsable entries' d work stableNow = work at *
  split
  · exact h
  · split
    · exact h
    · rename_i grow hgrow
      show Leaves slots stored d (work.acts ++ grow)
      rw [leaves_append]
      exact h.extendTo hgrow

section

variable (h : FileInv entries stored d) (now : UlogTime) (slots : UInt32)
  (hslots : slots = entries ∨ unusable entries' d (header d) = true ∨
    ((header d).lastSno ≤ slots ∧ (header d).lastSno ≤ entries))
include h hslots

/-- The second part of `check_mapped`, for every number of slots the log may be kept under. -/
theorem FileInv.checkUsable :
    Leaves slots stored d (checkUsable entries' d { hdr := header d, acts := [] } now).acts := by
  by_cases hunusable : unusable entries' d (header d) = true
  · rw [checkUsable_of_unusable { hdr := header d, acts := [] } now hunusable, List.nil_append]
    exact fileInv_reset entries' stored d now slots
  · rw [checkUsable_of_usable { hdr := header d, acts := [] } now hunusable]
    refine ⟨h.isLog, fun hstable => ?_⟩
    obtain ⟨start, hring⟩ := h.ring hstable
    rcases hslots with rfl | hreset | ⟨hnew, hold⟩
    · exact ⟨start, hring⟩
    · exact absurd hreset hunusable
    · exact ⟨start, hring.reslot hold hnew⟩

/-- `check_mapped` on a log, whatever it answers. -/
theorem FileInv.checkMapped (magicNow : UlogTime) :
    Leaves slots stored d (checkMapped entries' d magicNow now).acts :=
  fileInv_checkMapped (checkMagic_of_isLog h.isLog magicNow) (h.checkUsable now slots hslots)

end

theorem map_existing (entries : UInt32) (d : Disk) (magicNow stableNow : UlogTime) :
    map entries d false magicNow stableNow = { result := .error .io, acts := [] } ∨
      map entries d false magicNow stableNow =
        { result := (checkMapped (max entries 1) d magicNow stableNow).result.map
            fun _ => max entries 1,
          acts := (checkMapped (max entries 1) d magicNow stableNow).acts } := by
  simp only [map]
  split
  · exact .inl rfl
  · exact .inr rfl

theorem one_le_max (entries : UInt32) : 0 < (max entries 1).toNat := by
  have hmax : max entries 1 = if entries ≤ 1 then 1 else entries := rfl
  rw [hmax]
  split
  · exact Nat.one_pos
  · rename_i hgt
    have := UInt32.lt_iff_toNat_lt.mp (UInt32.not_le.mp hgt)
    omega

end Open

/-! ### Runs -/

/-- A log opened again, with the number of slots it then has. -/
theorem Inv.reopen (h : Inv st) (hfits : (LogOp.reopen entries magicNow stableNow).Fits st.log) :
    Inv ((LogOp.reopen entries magicNow stableNow).next st) := by
  obtain ⟨⟨d, old⟩, stored⟩ := st
  rcases map_existing entries d magicNow stableNow with hmap | hmap <;>
    simp only [LogOp.next, LogOp.exec, LogOp.acts, LogOp.slots, hmap]
  · -- too long: the log that was open stays
    exact h
  · cases (checkMapped (max entries 1) d magicNow stableNow).result with
    | ok _ => exact ⟨one_le_max entries, h.file.checkMapped stableNow _ hfits magicNow⟩
    | error _ => exact ⟨h.pos, h.file.checkMapped stableNow old (.inl rfl) magicNow⟩

theorem Inv.of_file {op : LogOp} (hpos : 0 < (op.slots st.log).toNat)
    (hfile : FileInv (op.slots st.log) (storedBy st.stored (op.acts st.log))
      (after st.log.disk (op.acts st.log))) : Inv (op.next st) :=
  ⟨hpos, hfile⟩

/-- **One operation keeps the invariant.** -/
theorem Inv.next (h : Inv st) {op : LogOp} (hfits : op.Fits st.log) : Inv (op.next st) := by
  obtain ⟨hpos, hfile⟩ := h
  cases op with
  | addUpdate resetNow now name deleted kdbe =>
    refine .of_file hpos ?_
    exact hfile.addUpdate hpos resetNow now name deleted kdbe
  | replayUpdate resetNow update =>
    refine .of_file hpos ?_
    exact hfile.replayUpdate hpos resetNow hfits
  | batch plan =>
    refine .of_file hpos ?_
    exact hfile.batch hpos hfits
  | initHeader now =>
    refine .of_file hpos ?_
    exact fileInv_reset st.log.entries st.stored st.log.disk now st.log.entries
  | setLast last =>
    refine .of_file hpos ?_
    exact hfile.setLast last
  | getEntries now last =>
    refine .of_file hpos ?_
    exact hfile.getEntries now last
  | reopen entries magicNow stableNow => exact Inv.reopen ⟨hpos, hfile⟩ hfits

/-- **A run keeps the invariant.** -/
theorem Inv.runOps (h : Inv st) {ops : List LogOp} (hfits : RunFits st.log ops) :
    Inv (runOps st ops) := by
  induction ops generalizing st with
  | nil => exact h
  | cons op ops ih => exact ih (h.next hfits.1) hfits.2

/-! ### A new log -/

theorem checkMagic_of_zero (hdata : ∀ i, d.data i = 0) (now : UlogTime) :
    checkMagic entries d now = .ok (reset entries now) := by
  have hread : d.read 0 hdrLen = List.replicate hdrLen 0 := by
    simp [Disk.read, hdata, List.map_const']
  simp only [checkMagic, hread, ite_self]
  rfl

/-- A file of zeros becomes a log that has just been reset. -/
theorem fileInv_of_zero (stored : UInt32 → Option Str) (hdata : ∀ i, d.data i = 0)
    (magicNow stableNow : UlogTime) :
    Leaves entries stored d (checkMapped entries d magicNow stableNow).acts := by
  refine fileInv_checkMapped (checkMagic_of_zero hdata magicNow) ?_
  by_cases hunusable : unusable entries (after d (reset entries magicNow).acts)
      (reset entries magicNow).hdr = true
  · rw [checkUsable_of_unusable _ stableNow hunusable, leaves_append]
    exact fileInv_reset entries _ _ stableNow entries
  · rw [checkUsable_of_usable _ stableNow hunusable]
    exact fileInv_reset entries stored d magicNow entries

theorem eq_of_map_ok {α β : Type} {x : Except UlogError α} {b c : β}
    (h : x.map (fun _ => b) = .ok c) : b = c := by
  cases x with
  | error e => cases h
  | ok _ => exact Except.ok.inj h

/-- **A new log has the invariant.** -/
theorem inv_created {entries slots : UInt32}
    (h : (map entries empty true magicNow stableNow).result = .ok slots) :
    Inv (created (map entries empty true magicNow stableNow).acts slots) := by
  simp only [map] at h ⊢
  split at h
  · cases h
  rename_i hsize
  rw [if_neg hsize]
  cases hfill : fillMissing (max entries 1) empty true with
  | error e =>
    rw [hfill] at h
    cases h
  | ok fill =>
    rw [hfill] at h
    have hslots : slots = max entries 1 := (eq_of_map_ok h).symm
    have hz := extendTo_ok (show extendTo (max entries 1) empty ulogBlock.toNat = .ok fill
      from hfill)
    have hdata : (after empty fill).data = empty.data := by
      rw [hz]
      exact (after_zerosTo _ _ _ empty (Nat.le_refl _)).1
    subst hslots
    refine ⟨one_le_max entries, ?_⟩
    simp only [created]
    rw [storedBy_append, after_append]
    exact fileInv_of_zero _ (fun i => congrFun hdata i) magicNow stableNow

/-! ### What is sent -/

theorem getEntries_of_ok (hanswer : (getEntries entries d now last).result = .ok answer)
    (hok : answer.status = .ok) :
    let work := headerOrReset entries d now ((header d).state != kdbStable)
    snoStatus entries (after d work.acts) work.hdr last = .ok ∧
      readEntries entries (after d work.acts) work.hdr.block.toNat
        (work.hdr.lastSno.toNat - last.sno.toNat) last.sno = .ok answer.updates := by
  simp only [getEntries] at hanswer
  intro work
  split at hanswer
  · rename_i hstatus
    obtain rfl := Except.ok.inj hanswer
    exact absurd hok hstatus
  · rename_i hstatus
    obtain ⟨updates, hread, hanswer⟩ := bind_ok hanswer
    obtain rfl := Except.ok.inj hanswer
    exact ⟨Decidable.not_not.mp hstatus, hread⟩

theorem getEntries_ok (hanswer : (getEntries entries d now last).result = .ok answer)
    (hok : answer.status = .ok) :
    (header d).state = kdbStable ∧ snoStatus entries d (header d) last = .ok ∧
      readEntries entries d (header d).block.toNat
        ((header d).lastSno.toNat - last.sno.toNat) last.sno = .ok answer.updates := by
  obtain ⟨hstatus, hread⟩ := getEntries_of_ok hanswer hok
  by_cases hstable : (header d).state = kdbStable
  · have hkeep : ((header d).state != kdbStable) = false := by simpa using hstable
    rw [hkeep] at hstatus hread
    exact ⟨hstable, hstatus, hread⟩
  · have hover : ((header d).state != kdbStable) = true := by simpa using hstable
    rw [hover] at hstatus
    exact absurd hstatus ((isFresh_reset entries d now).snoStatus_ne entries last)

/-- The entries of an answer, under the invariant: one for each serial after `last` up to the
log's last one, each what was stored under its serial. -/
theorem FileInv.sent (h : FileInv entries stored d) (hpos : 0 < entries.toNat)
    (hanswer : (Ulog.getEntries entries d now last).result = .ok answer)
    (hok : answer.status = .ok) :
    last.sno.toNat + answer.updates.length = (header d).lastSno.toNat ∧
      ∀ i : Nat, ∀ sent, answer.updates[i]? = some sent →
        ∃ update, stored (last.sno + 1 + UInt32.ofNat i) = some update ∧ Sent update sent := by
  obtain ⟨hstable, hstatus, hread⟩ := getEntries_ok hanswer hok
  obtain ⟨_, hhi, hlo, _⟩ := snoStatus_ok hstatus
  obtain ⟨start, hring⟩ := h.ring hstable
  have hstart := hring.start_le_first
  obtain ⟨hlen, hall⟩ := hring.readEntries hpos _ (by omega) (by omega) hread
  exact ⟨by omega, hall⟩

/-- **What `get_entries` sends is what was stored.**  In every run of a new log whose operations fit,
an answer with entries has one for each serial after the replica's up to the log's last one, in
order, and each is the update stored last under its serial since the last reset. -/
theorem getEntries_sends_stored (entries slots : UInt32) (magicNow stableNow : UlogTime)
    (hnew : (map entries empty true magicNow stableNow).result = .ok slots)
    (ops : List LogOp)
    (hfits : RunFits (created (map entries empty true magicNow stableNow).acts slots).log ops)
    {now : UlogTime} {last : UlogLast} {answer : UlogUpdates} :
    let st := runOps (created (map entries empty true magicNow stableNow).acts slots) ops
    (getEntries st.log.entries st.log.disk now last).result = .ok answer → answer.status = .ok →
      last.sno.toNat + answer.updates.length = (header st.log.disk).lastSno.toNat ∧
      ∀ i : Nat, ∀ sent, answer.updates[i]? = some sent →
        ∃ update, st.stored (last.sno + 1 + UInt32.ofNat i) = some update ∧ Sent update sent := by
  intro st hanswer hok
  have hinv : Inv st := (inv_created hnew).runOps hfits
  exact hinv.file.sent hinv.pos hanswer hok

namespace Sample

/-- An update without attributes. -/
def update (sno : UInt32) (time : UlogTime) (commit : Bool) : Str :=
  encodeIncrUpdate [] sno time (be32 0) false commit

/-- The operation that stores it, at a clock that counts seconds. -/
def add (seconds : UInt32) : LogOp :=
  .addUpdate {} { seconds } [] false (be32 0)

/-- A log of four slots. -/
def newLog : Tracked :=
  created (map 4 empty true {} {}).acts 4

end Sample

open Ulog.Sample in
/-- Two updates are stored and the log is opened again; a replica that has the first of them is
sent the second. -/
theorem getEntries_sends_stored_after_reopen :
    let st := runOps newLog [add 2, add 3, .reopen 4 {} {}]
    let answer : UlogUpdates :=
      { status := .ok, last := ⟨3, { seconds := 3 }⟩, updates := [update 3 { seconds := 3 } true] }
    (getEntries st.log.entries st.log.disk {} ⟨2, { seconds := 2 }⟩).result = .ok answer ∧
      (2 : UInt32).toNat + answer.updates.length = (header st.log.disk).lastSno.toNat ∧
      ∀ i : Nat, ∀ sent, answer.updates[i]? = some sent →
        ∃ update, st.stored (2 + 1 + UInt32.ofNat i) = some update ∧ Sent update sent := by
  have hanswer : (getEntries (runOps newLog [add 2, add 3, .reopen 4 {} {}]).log.entries
      (runOps newLog [add 2, add 3, .reopen 4 {} {}]).log.disk {} ⟨2, { seconds := 2 }⟩).result =
        .ok { status := .ok, last := ⟨3, { seconds := 3 }⟩,
              updates := [update 3 { seconds := 3 } true] } := by
    decide +kernel
  refine ⟨hanswer, ?_⟩
  exact getEntries_sends_stored 4 4 {} {} (by decide +kernel) [add 2, add 3, .reopen 4 {} {}]
    ⟨trivial, trivial, .inl (by decide +kernel), trivial⟩ hanswer rfl

open Ulog.Sample in
/-- Serials 2 to 4 are stored; a replayed update of serial 4 is not the next one, so the log is
reset and holds it alone.  The reset leaves the slots of 2 and 3, and both are inside the new
bounds: a replica at serial 2 is sent the serial 3 from before the reset. -/
theorem stale_entry_is_sent :
    let st := runOps newLog
      [add 2, add 3, add 4, .replayUpdate {} (update 4 { seconds := 9 } false)]
    (getEntries st.log.entries st.log.disk {} ⟨2, { seconds := 2 }⟩).result =
        .ok { status := .ok, last := ⟨4, { seconds := 9 }⟩,
              updates := [update 3 { seconds := 3 } true, update 4 { seconds := 9 } true] } ∧
      st.stored 3 = none := by
  decide +kernel

end Kerber.Ulog
