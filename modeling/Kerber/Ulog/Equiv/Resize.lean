import Kerber.Ulog.Equiv.Contract

/-!
# Slots of one size

`resize` moves every slot to a larger block size.  `resize_slots` says what it leaves: the bytes of
each slot at its new place, then zeros.  `Laid` follows the block size through a list of acts: an
entry is written inside a slot of the size in force, and the size changes only together with the
header that records it.  Every operation is laid out in this way (`Opened.laid`), so that over a
whole run each entry stays in its slot and the size stays a multiple of 2048
(`resize_preserves_entries`).
-/

namespace Kerber.Ulog

open List

variable {work : Work} {recsize : Nat}

open Kerber.Store

variable {hdr : UlogHeader} {fill : List Act} {d : Disk} {entries : UInt32} {now : UlogTime}
  {b : UlogBatch}

/-! ### Sizes -/

/-- The block sizes: positive multiples of `ULOG_BLOCK` that the header's word holds. -/
def SlotSize (block : Nat) : Prop :=
  0 < block ∧ ulogBlock.toNat ∣ block ∧ block ≤ 65535

instance (block : Nat) : Decidable (SlotSize block) :=
  inferInstanceAs (Decidable (_ ∧ _ ∧ _))

theorem slotSize_ulogBlock : SlotSize ulogBlock.toNat := by
  decide

/-- The size `resize` chooses. -/
theorem resize_size (h : resize entries d hdr recsize = .ok work) :
    SlotSize work.hdr.block.toNat ∧ recsize < work.hdr.block.toNat := by
  obtain ⟨hnew, hdvd, _⟩ := resize_ok h
  have := work.hdr.block.toNat_lt
  exact ⟨⟨by omega, hdvd, by omega⟩, hnew⟩

/-- **Growing the slots keeps each of them**, with zeros after it. -/
theorem resize_slots (h : resize entries d hdr recsize = .ok work)
    (hlt : hdr.block.toNat < recsize) {i : Nat} (hi : i < entries.toNat) :
    (after d work.acts).read (entAt i work.hdr.block.toNat) work.hdr.block.toNat =
      d.read (entAt i hdr.block.toNat) hdr.block.toNat
        ++ replicate (work.hdr.block.toNat - hdr.block.toNat) 0 := by
  obtain ⟨hnew, _, _, zeros, hzeros, hacts⟩ := resize_ok h
  rw [hacts]
  exact read_moveSlots (by omega) hzeros hi

/-! ### Acts that respect the slots -/

/-- Acts that make room and hold no entry: zeros, and the file emptied. -/
inductive Act.Blank : Act → Prop
  | zeros (pos n : Nat) : Blank (.file (.write pos (List.replicate n 0)))
  | emptied : Blank (.file (.setLen 0))

/-- The write of an entry: the number of its slot and the bytes. -/
def slotWrite (block : Nat) (slot : Nat × Str) : Act :=
  .file (.write (entAt slot.1 block) slot.2)

def FitsSlot (entries : UInt32) (block : Nat) (slot : Nat × Str) : Prop :=
  slot.1 < entries.toNat ∧ slot.2.length ≤ block

/-- `Laid entries block acts final`: with slots of `block` bytes at first and of `final` bytes at
the end, every entry among the acts is written inside one of the slots there are.  A change of the
size makes room, writes slots of the new size and then the header that records it. -/
inductive Laid (entries : UInt32) : Nat → List Act → Nat → Prop
  | nil (block : Nat) : Laid entries block [] block
  | note {block final : Nat} {acts : List Act} (e : LogEvent) (rest : Laid entries block acts final) :
      Laid entries block (.note e :: acts) final
  | state {block final : Nat} {acts : List Act} (state : UInt16)
      (rest : Laid entries block acts final) : Laid entries block (writeState state :: acts) final
  | header {block final : Nat} {acts : List Act} {hdr : UlogHeader}
      (hmagic : hdr.hmagic = kdbUlogHdrMagic) (hblock : hdr.block.toNat = block)
      (rest : Laid entries block acts final) : Laid entries block (writeHeader hdr :: acts) final
  | zeros {block final pos n : Nat} {acts : List Act} (hpos : hdrLen ≤ pos)
      (rest : Laid entries block acts final) :
      Laid entries block (.file (.write pos (List.replicate n 0)) :: acts) final
  | entry {block final : Nat} {acts : List Act} {slot : Nat × Str}
      (hfits : FitsSlot entries block slot) (rest : Laid entries block acts final) :
      Laid entries block (slotWrite block slot :: acts) final
  | change {block final : Nat} {blanks acts : List Act} {slots : List (Nat × Str)}
      {hdr : UlogHeader} (hblanks : ∀ a ∈ blanks, a.Blank)
      (hslots : ∀ slot ∈ slots, FitsSlot entries hdr.block.toNat slot)
      (hmagic : hdr.hmagic = kdbUlogHdrMagic) (hsize : SlotSize hdr.block.toNat)
      (rest : Laid entries hdr.block.toNat acts final) :
      Laid entries block
        (blanks ++ slots.map (slotWrite hdr.block.toNat) ++ writeHeader hdr :: acts) final

section Laid

variable {block mid final : Nat} {acts acts' : List Act}

theorem Laid.append (h : Laid entries block acts mid) (h' : Laid entries mid acts' final) :
    Laid entries block (acts ++ acts') final := by
  induction h with
  | nil block => exact h'
  | note e _ ih => exact .note e (ih h')
  | state s _ ih => exact .state s (ih h')
  | header hmagic hblock _ ih => exact .header hmagic hblock (ih h')
  | zeros hpos _ ih => exact .zeros hpos (ih h')
  | entry hfits _ ih => exact .entry hfits (ih h')
  | change hblanks hslots hmagic hsize _ ih =>
    rw [append_assoc, cons_append]
    exact .change hblanks hslots hmagic hsize (ih h')

theorem Laid.size (h : Laid entries block acts final) (hsize : SlotSize block) :
    SlotSize final := by
  induction h with
  | nil block => exact hsize
  | note e _ ih => exact ih hsize
  | state s _ ih => exact ih hsize
  | header hmagic hblock _ ih => exact ih hsize
  | zeros hpos _ ih => exact ih hsize
  | entry hfits _ ih => exact ih hsize
  | change hblanks hslots hmagic hnew _ ih => exact ih hnew

theorem isLog_writeHeader (d : Disk) (hmagic : hdr.hmagic = kdbUlogHdrMagic) :
    IsLog (d.write 0 hdr.encode) := by
  have hlen := le_len_write d 0 hdr.encode
  rw [length_encode, Nat.zero_add] at hlen
  exact ⟨hlen, by rw [header_write, hmagic], trivial⟩

theorem IsLog.write_beyond (h : IsLog d) {pos : Nat} (hpos : hdrLen ≤ pos) (bytes : Str) :
    IsLog (d.write pos bytes) :=
  h.after_one (.slot hpos)

theorem Laid.log (h : Laid entries block acts final) (hlog : IsLog d)
    (hblock : (Ulog.header d).block.toNat = block) :
    IsLog (after d acts) ∧ (Ulog.header (after d acts)).block.toNat = final := by
  induction h generalizing d with
  | nil block => exact ⟨hlog, hblock⟩
  | note e _ ih => exact ih hlog hblock
  | state s _ ih =>
    rw [after_writeState]
    refine ih (hlog.after_writeState s) ?_
    rw [header_writeState]
    exact hblock
  | @header _ _ _ hdr hmagic hsame _ ih =>
    rw [after_writeHeader]
    refine ih (isLog_writeHeader d hmagic) ?_
    rw [header_write]
    exact hsame
  | zeros hpos _ ih =>
    rw [after_file_cons, Disk.apply_write]
    refine ih (hlog.write_beyond hpos _) ?_
    rw [header_write_beyond d _ hpos]
    exact hblock
  | @entry _ _ _ slot hfits _ ih =>
    rw [slotWrite, after_file_cons, Disk.apply_write]
    refine ih (hlog.write_beyond (hdrLen_le_entAt _ _) _) ?_
    rw [header_write_beyond d _ (hdrLen_le_entAt _ _)]
    exact hblock
  | change hblanks hslots hmagic hsize _ ih =>
    rw [after_append, after_writeHeader]
    exact ih (isLog_writeHeader _ hmagic) (by rw [header_write])

end Laid

/-! ### The operations -/

section Operations

variable {block : Nat}

/-- The header in memory goes with the slots: it has the magic and the size in force. -/
structure HeaderOf (hdr : UlogHeader) (block : Nat) : Prop where
  magic : hdr.hmagic = kdbUlogHdrMagic
  block : hdr.block.toNat = block

theorem headerOf_reset (now : UlogTime) : HeaderOf (reset entries now).hdr ulogBlock.toNat :=
  ⟨rfl, rfl⟩

theorem HeaderOf.withState (h : HeaderOf hdr block) (state : UInt16) :
    HeaderOf { hdr with state } block :=
  ⟨h.magic, h.block⟩

theorem HeaderOf.laid (h : HeaderOf hdr block) : Laid entries block [writeHeader hdr] block :=
  .header h.magic h.block (.nil _)

/-- A log to work on: the size in its header is one. -/
structure Sized (d : Disk) : Prop where
  isLog : IsLog d
  size : SlotSize (header d).block.toNat

theorem zerosTo_blank (size fuel pos : Nat) : ∀ a ∈ zerosTo size fuel pos, a.Blank := by
  induction fuel generalizing pos with
  | zero => exact forall_mem_nil _
  | succ fuel ih =>
    intro a ha
    rw [zerosTo] at ha
    split at ha
    · rcases mem_cons.mp ha with rfl | ha
      · exact .zeros _ _
      · exact ih _ a ha
    · cases ha

theorem laid_zerosTo (size fuel : Nat) {pos : Nat} (hpos : hdrLen ≤ pos) (block : Nat) :
    Laid entries block (zerosTo size fuel pos) block := by
  induction fuel generalizing pos with
  | zero => exact .nil _
  | succ fuel ih =>
    rw [zerosTo]
    split
    · exact .zeros hpos (ih (by omega))
    · exact .nil _

theorem moveSlots_eq_map {old new : Nat} (hle : old ≤ new) (n : Nat) (d : Disk) :
    ∃ slots : List (Nat × Str), moveSlots old new n d = slots.map (slotWrite new) ∧
      ∀ slot ∈ slots, slot.1 < n ∧ slot.2.length = new := by
  induction n generalizing d with
  | zero => exact ⟨[], rfl, fun _ h => nomatch h⟩
  | succ n ih =>
    obtain ⟨slots, heq, hslots⟩ := ih (d.apply (.write (entAt n new)
      (d.read (entAt n old) old ++ replicate (new - old) 0)))
    refine ⟨(n, d.read (entAt n old) old ++ replicate (new - old) 0) :: slots, ?_, ?_⟩
    · rw [moveSlots, heq]
      rfl
    · intro slot hslot
      rcases mem_cons.mp hslot with rfl | hslot
      · refine ⟨n.lt_succ_self, ?_⟩
        rw [length_append, Disk.length_read, length_replicate]
        omega
      · obtain ⟨hlt, hlen⟩ := hslots slot hslot
        exact ⟨Nat.lt_succ_of_lt hlt, hlen⟩

theorem laid_resize (h : resize entries d hdr recsize = .ok work)
    (hmagic : hdr.hmagic = kdbUlogHdrMagic) (hlt : hdr.block.toNat < recsize) (block : Nat) :
    HeaderOf work.hdr work.hdr.block.toNat ∧
      Laid entries block work.acts work.hdr.block.toNat := by
  obtain ⟨hsize, hrec⟩ := resize_size h
  obtain ⟨_, _, hmid, zeros, hzeros, hacts⟩ := resize_ok h
  have hheader : work.hdr.hmagic = kdbUlogHdrMagic := by
    rw [hmid]
    exact hmagic
  obtain ⟨slots, hmoves, hslots⟩ := moveSlots_eq_map
    (show hdr.block.toNat ≤ work.hdr.block.toNat by omega) entries.toNat (after d zeros)
  refine ⟨⟨hheader, rfl⟩, ?_⟩
  rw [hacts, hmoves]
  refine .change ?_ (fun slot hslot => ?_) hheader hsize (.nil _)
  · rw [extendTo_ok hzeros]
    exact zerosTo_blank _ _ _
  · obtain ⟨hin, hlen⟩ := hslots slot hslot
    exact ⟨hin, Nat.le_of_eq hlen⟩

theorem laid_roomFor {room : Work} (h : roomFor entries d hdr recsize = .ok room)
    (hhdr : HeaderOf hdr block) :
    HeaderOf room.hdr room.hdr.block.toNat ∧
      Laid entries block room.acts room.hdr.block.toNat := by
  unfold roomFor at h
  split at h
  · rename_i hlt
    exact laid_resize h hhdr.magic hlt block
  · obtain rfl := Except.ok.inj h
    obtain ⟨hmagic, rfl⟩ := hhdr
    exact ⟨⟨hmagic, rfl⟩, .nil _⟩

section

variable (hpos : 0 < entries.toNat)
include hpos

theorem fits_dummy (hsize : SlotSize block)
    (sno : UInt32) (e : EntHeader) : FitsSlot entries block (slotOf entries sno, e.encode) := by
  have hle : ulogBlock.toNat ≤ block := Nat.le_of_dvd hsize.1 hsize.2.1
  exact ⟨slotOf_lt hpos sno, Nat.le_trans (show entHdrLen ≤ ulogBlock.toNat by decide) hle⟩

/-- A reset starts over with slots of `ULOG_BLOCK` bytes; what was there before it may be cleared
first. -/
theorem laid_blanks_reset (now : UlogTime) (block : Nat)
    {blanks : List Act} (hblanks : ∀ a ∈ blanks, a.Blank) :
    Laid entries block (blanks ++ (reset entries now).acts) ulogBlock.toNat := by
  set dummy : Nat × Str :=
    (slotOf entries 1, { umagic := kdbUlogMagic, sno := 1, time := now : EntHeader }.encode)
  have hslots : ∀ slot ∈ [dummy], FitsSlot entries (reset entries now).hdr.block.toNat slot := by
    intro slot hslot
    rw [mem_singleton.mp hslot]
    exact fits_dummy hpos slotSize_ulogBlock 1 _
  have hchange : Laid entries block _ _ :=
    .change hblanks hslots rfl slotSize_ulogBlock (.note .reset (.nil _))
  rw [append_assoc] at hchange
  exact hchange

theorem laid_reset (now : UlogTime) (block : Nat) :
    Laid entries block (reset entries now).acts ulogBlock.toNat := by
  have hnone : ∀ a ∈ ([] : List Act), a.Blank := fun _ ha => nomatch ha
  have hlaid := laid_blanks_reset hpos now block hnone
  rwa [nil_append] at hlaid

theorem laid_headerOrReset (hlog : Sized d) (now : UlogTime) (startOver : Bool) :
    let work := headerOrReset entries d now startOver
    ∃ block, SlotSize block ∧ HeaderOf work.hdr block ∧
      Laid entries (header d).block.toNat work.acts block := by
  cases startOver with
  | true =>
    exact ⟨_, slotSize_ulogBlock, headerOf_reset now, laid_reset hpos now _⟩
  | false => exact ⟨_, hlog.size, ⟨hlog.isLog.magic, rfl⟩, .nil _⟩

/-- **An update is written inside its slot**, which was made large enough. -/
theorem laid_putEntry {update : Str} {put : Work}
    (h : putEntry entries d hdr update = .ok put) (hhdr : HeaderOf hdr block) :
    HeaderOf put.hdr put.hdr.block.toNat ∧ Laid entries block put.acts put.hdr.block.toNat ∧
      entHdrLen + update.length ≤ put.hdr.block.toNat := by
  obtain ⟨layout, room, _, _, hroom, _, hfits, hacts, hput⟩ := putEntry_ok h
  obtain ⟨hmid, hlaid⟩ := laid_roomFor hroom hhdr
  have hkeeps := advance_keeps entries
    (after d (room.acts ++ [putAct entries room.hdr layout update])) room.hdr layout
  have hblock : put.hdr.block = room.hdr.block := by
    rw [hput]
    exact hkeeps.2.2
  have hlen : (slotBytes room.hdr.block.toNat layout update).length ≤ room.hdr.block.toNat :=
    Nat.le_of_eq (length_slotBytes layout hfits)
  have hentry : FitsSlot entries room.hdr.block.toNat
      (slotOf entries layout.sno, slotBytes room.hdr.block.toNat layout update) :=
    ⟨slotOf_lt hpos _, hlen⟩
  rw [hblock, hacts]
  refine ⟨⟨?_, congrArg UInt16.toNat hblock⟩, hlaid.append ?_, hfits⟩
  · rw [hput, hkeeps.1]
    exact hmid.magic
  · exact .entry hentry (.note _ (.nil _))

theorem laid_storeUpdate (d : Disk) (update : Str) (hhdr : HeaderOf hdr block) :
    ∃ final, Laid entries block (storeUpdate entries d hdr update).acts final := by
  simp only [storeUpdate]
  split
  · exact ⟨_, .state _ (.nil _)⟩
  · rename_i put hput
    obtain ⟨hdone, hlaid, _⟩ := laid_putEntry hpos hput (hhdr.withState kdbUnstable)
    exact ⟨_, (Laid.state _ hlaid).append (hdone.withState kdbStable).laid⟩

theorem laid_store (hlog : Sized d) (now : UlogTime) (startOver : Bool)
    (update : UlogHeader → Str) :
    let work := headerOrReset entries d now startOver
    ∃ final, Laid entries (header d).block.toNat
      (work.acts ++ (storeUpdate entries (after d work.acts) work.hdr (update work.hdr)).acts)
      final := by
  obtain ⟨block, _, hhdr, hstart⟩ := laid_headerOrReset hpos hlog now startOver
  obtain ⟨final, hstore⟩ := laid_storeUpdate hpos _ _ hhdr
  exact ⟨final, hstart.append hstore⟩

theorem laid_addUpdate (hlog : Sized d) (resetNow now : UlogTime)
    (name : Str) (deleted : Bool) (kdbe : Str) :
    ∃ final, Laid entries (header d).block.toNat
      (addUpdate entries d resetNow now name deleted kdbe).acts final :=
  laid_store hpos hlog resetNow _
    fun hdr => encodeIncrUpdate name (hdr.lastSno + 1) now kdbe deleted false

theorem laid_replayUpdate (hlog : Sized d) (resetNow : UlogTime) (update : Str) :
    ∃ final, Laid entries (header d).block.toNat
      (replayUpdate entries d resetNow update).acts final := by
  simp only [replayUpdate]
  split
  · exact ⟨_, .nil _⟩
  · exact laid_store hpos hlog resetNow _ fun _ => update

theorem laid_getEntries (hlog : Sized d) (now : UlogTime) (last : UlogLast) :
    ∃ final, Laid entries (header d).block.toNat (getEntries entries d now last).acts final := by
  obtain ⟨block, _, _, hlaid⟩ := laid_headerOrReset hpos hlog now ((header d).state != kdbStable)
  exact ⟨block, hlaid⟩

theorem laid_setLast (hlog : Sized d) (last : UlogLast) :
    Laid entries (header d).block.toNat (setLast entries d last) (header d).block.toNat :=
  .entry (fits_dummy hpos hlog.size last.sno _) (.header hlog.isLog.magic rfl (.nil _))

/-! ### Batches -/

theorem laid_restart (now : UlogTime) (block : Nat) :
    HeaderOf (restart entries now).hdr ulogBlock.toNat ∧
      Laid entries block (restart entries now).acts ulogBlock.toNat :=
  ⟨(headerOf_reset now).withState kdbUnstable,
    (laid_reset hpos now block).append (.state _ (.nil _))⟩

theorem laid_putOrRestart (d : Disk) (now : UlogTime)
    (startOver : Bool) (update : UlogHeader → Str) (hhdr : HeaderOf hdr block) :
    let step := putOrRestart entries d hdr now startOver update
    ∃ final, HeaderOf step.batch.hdr final ∧ Laid entries block step.acts final := by
  have hwork : ∃ mid, HeaderOf (if startOver then restart entries now else ⟨hdr, []⟩).hdr mid ∧
      Laid entries block (if startOver then restart entries now else ⟨hdr, []⟩).acts mid := by
    cases startOver with
    | true => exact ⟨_, laid_restart hpos now block⟩
    | false => exact ⟨block, hhdr, .nil _⟩
  obtain ⟨mid, hmid, hstart⟩ := hwork
  simp only [putOrRestart]
  split
  · exact ⟨mid, hmid, hstart⟩
  · rename_i put hput
    obtain ⟨hdone, hlaid, _⟩ := laid_putEntry hpos hput hmid
    exact ⟨_, hdone, hstart.append hlaid⟩

theorem laid_batchOp (d : Disk) (hhdr : HeaderOf b.hdr block)
    (op : BatchOp) : let step := op.exec entries d b
    ∃ final, HeaderOf step.batch.hdr final ∧ Laid entries block step.acts final := by
  cases op with
  | addUpdate resetNow now name deleted kdbe =>
    exact laid_putOrRestart hpos d resetNow (b.hdr.lastSno == u32Max)
      (fun hdr => encodeIncrUpdate name (hdr.lastSno + 1) now kdbe deleted false) hhdr
  | replayUpdate resetNow update =>
    simp only [BatchOp.exec]
    split
    · exact ⟨block, hhdr, .nil _⟩
    · rename_i layout _
      exact laid_putOrRestart hpos d resetNow (gap b.hdr layout.sno) (fun _ => update) hhdr
  | initHeader now =>
    exact ⟨_, laid_restart hpos now block⟩
  | stage => exact ⟨block, hhdr, hhdr.laid⟩

theorem laid_runBatch (d : Disk) (hhdr : HeaderOf b.hdr block)
    (ops : List BatchOp) : let run := runBatch entries d b ops
    ∃ final, HeaderOf run.batch.hdr final ∧ Laid entries block run.acts final := by
  induction ops generalizing d b block with
  | nil => exact ⟨block, hhdr, .nil _⟩
  | cons op ops ih =>
    obtain ⟨mid, hmid, hstep⟩ := laid_batchOp hpos d hhdr op
    simp only [runBatch]
    split
    · exact ⟨mid, hmid, hstep⟩
    · obtain ⟨final, hfinal, hrest⟩ := ih (after d (op.exec entries d b).acts) hmid
      exact ⟨final, hfinal, hstep.append hrest⟩

theorem laid_batch (hlog : Sized d) (plan : Batch) :
    ∃ final, Laid entries (header d).block.toNat (plan.acts entries d) final := by
  obtain ⟨block, _, hhdr, hreset⟩ := laid_headerOrReset hpos hlog plan.beginNow
    ((header d).state != kdbStable)
  have hstart := hreset.append (.state kdbUnstable (.nil _))
  set start := «begin» entries d plan.beginNow
  have hbatch : HeaderOf (UlogBatch.mk start.hdr false).hdr block := hhdr.withState kdbUnstable
  obtain ⟨mid, hmid, hrun⟩ := laid_runBatch hpos (after d start.acts) hbatch plan.ops
  have hopen := hstart.append hrun
  simp only [Batch.acts]
  split
  · exact ⟨mid, hopen.append (hmid.withState kdbStable).laid⟩
  · simp only [abandon]
    split
    · exact ⟨_, hopen.append (laid_reset hpos _ _)⟩
    · exact ⟨_, hopen.append (.state _ (.nil _))⟩

end

/-! ### Opening -/

/-- A header on the way to an open log: it is the one in the file, after what filled the file. -/
structure Made (entries : UInt32) (d : Disk) (fill : List Act) (work : Work) : Prop where
  laid : Laid entries (header d).block.toNat (fill ++ work.acts) work.hdr.block.toNat
  isLog : IsLog (after d (fill ++ work.acts))
  hdr : header (after d (fill ++ work.acts)) = work.hdr
  size : SlotSize work.hdr.block.toNat

theorem isLog_reset (entries : UInt32) (d : Disk) (now : UlogTime) :
    IsLog (after d (reset entries now).acts) :=
  ⟨len_after_reset entries d now, by rw [header_after_reset]; rfl, trivial⟩

/-- A log that was reset, after whatever is laid out. -/
theorem made_reset {acts : List Act} (now : UlogTime)
    (h : Laid entries (header d).block.toNat (fill ++ acts ++ (reset entries now).acts)
      ulogBlock.toNat) :
    Made entries d fill ⟨(reset entries now).hdr, acts ++ (reset entries now).acts⟩ := by
  rw [append_assoc] at h
  refine ⟨h, ?_, ?_, slotSize_ulogBlock⟩
  · rw [after_append, after_append]
    exact isLog_reset _ _ _
  · rw [after_append, after_append, header_after_reset]

theorem checkMagic_ok (h : checkMagic entries d now = .ok work) :
    IsLog d ∧ work = { hdr := header d, acts := [] } ∨
      ∃ blanks : List Act, (∀ a ∈ blanks, a.Blank) ∧ work.hdr = (reset entries now).hdr ∧
        work.acts = blanks ++ (reset entries now).acts := by
  simp only [checkMagic] at h
  by_cases hlen : d.len < hdrLen
  · -- a short file counts as zeros
    rw [if_pos hlen] at h
    obtain rfl : reset entries now = work := Except.ok.inj h
    exact .inr ⟨[], forall_mem_nil _, rfl, rfl⟩
  rw [if_neg hlen] at h
  split at h
  · rename_i hmagic
    exact .inl ⟨⟨Nat.not_lt.mp hlen, hmagic, trivial⟩, (Except.ok.inj h).symm⟩
  · split at h
    · obtain rfl := Except.ok.inj h
      exact .inr ⟨[], forall_mem_nil _, rfl, rfl⟩
    · split at h
      · cases h
      · obtain rfl := Except.ok.inj h
        refine .inr ⟨[.file (.setLen 0)], fun a ha => ?_, rfl, rfl⟩
        rw [mem_singleton.mp ha]
        exact .emptied

theorem made_checkMagic (hpos : 0 < entries.toNat) (hfill : ∀ a ∈ fill, a.Blank)
    (hstart : IsLog (after d fill) → fill = [] ∧ SlotSize (header d).block.toNat)
    (h : checkMagic entries (after d fill) now = .ok work) : Made entries d fill work := by
  rcases checkMagic_ok h with ⟨hlog, rfl⟩ | ⟨blanks, hblanks, hhdr, hacts⟩
  · obtain ⟨rfl, hsize⟩ := hstart hlog
    exact ⟨.nil _, hlog, rfl, hsize⟩
  · have hall : ∀ a ∈ fill ++ blanks, a.Blank := by
      intro a ha
      rcases mem_append.mp ha with ha | ha
      · exact hfill a ha
      · exact hblanks a ha
    obtain ⟨whdr, wacts⟩ := work
    subst hhdr hacts
    exact made_reset now (laid_blanks_reset hpos now _ hall)

theorem Made.checkUsable (h : Made entries d fill work) (hpos : 0 < entries.toNat)
    (now : UlogTime) : Made entries d fill (checkUsable entries (after d fill) work now) := by
  by_cases hunusable : unusable entries (after (after d fill) work.acts) work.hdr = true
  · rw [checkUsable_of_unusable work now hunusable]
    exact made_reset now (h.laid.append (laid_reset hpos now _))
  · rw [checkUsable_of_usable work now hunusable]
    exact h

/-- `check_mapped` lays out the file it opens, whatever it answers. -/
theorem Made.checkMapped (h : Made entries d fill work) (hpos : 0 < entries.toNat)
    {magicNow : UlogTime} (hmagic : checkMagic entries (after d fill) magicNow = .ok work)
    (stableNow : UlogTime) :
    let acts := fill ++ (checkMapped entries (after d fill) magicNow stableNow).acts
    Sized (after d acts) ∧
      Laid entries (header d).block.toNat acts (header (after d acts)).block.toNat := by
  have hmade := h.checkUsable hpos stableNow
  simp only [Ulog.checkMapped, hmagic]
  generalize Ulog.checkUsable entries (after d fill) work stableNow = work at hmade
  obtain ⟨hlaid, hlog, hhdr, hsize⟩ := hmade
  have hstop : Sized (after d (fill ++ work.acts)) ∧ Laid entries (header d).block.toNat
      (fill ++ work.acts) (header (after d (fill ++ work.acts))).block.toNat := by
    rw [hhdr]
    exact ⟨⟨hlog, by rw [hhdr]; exact hsize⟩, hlaid⟩
  split
  · exact hstop
  · split
    · exact hstop
    · rename_i grow hgrow
      rw [← after_append] at hgrow
      have hzeros : Laid entries work.hdr.block.toNat grow work.hdr.block.toNat := by
        rw [extendTo_ok hgrow]
        exact laid_zerosTo _ _ hlog.len _
      obtain ⟨hlog', hblock⟩ := hzeros.log hlog (by rw [hhdr])
      rw [← append_assoc, after_append, hblock]
      exact ⟨⟨hlog', by rw [hblock]; exact hsize⟩, hlaid.append hzeros⟩

/-- An existing log opened again. -/
theorem laid_reopen (hlog : Sized d) (entries : UInt32) (magicNow stableNow : UlogTime) :
    let acts := (map entries d false magicNow stableNow).acts
    Sized (after d acts) ∧
      Laid (max entries 1) (header d).block.toNat acts (header (after d acts)).block.toNat := by
  rcases map_existing entries d magicNow stableNow with hmap | hmap
  · rw [hmap]
    exact ⟨hlog, .nil _⟩
  · rw [hmap]
    have hmagic := @checkMagic_of_isLog d (max entries 1) hlog.isLog magicNow
    have hmade : Made (max entries 1) d [] { hdr := header d, acts := [] } :=
      ⟨.nil _, hlog.isLog, rfl, hlog.size⟩
    exact hmade.checkMapped (one_le_max entries) hmagic stableNow

theorem not_isLog_of_zero (hdata : ∀ i, d.data i = 0) : ¬ IsLog d := by
  intro hlog
  have hread : d.read 0 hdrLen = replicate hdrLen 0 := by
    simp [Disk.read, hdata, map_const']
  have hmagic := hlog.magic
  rw [header, hread] at hmagic
  exact absurd hmagic (by decide)

/-- **An opened log has slots of a size**: one that was missing, an older file, or a log that had
them already. -/
theorem laid_map {missing : Bool} {magicNow stableNow : UlogTime} {slots : UInt32}
    (hmissing : missing = true → d = Disk.empty)
    (hsize : IsLog d → SlotSize (header d).block.toNat)
    (hopen : (map entries d missing magicNow stableNow).result = .ok slots) :
    let acts := (map entries d missing magicNow stableNow).acts
    0 < slots.toNat ∧ Sized (after d acts) ∧
      Laid slots (header d).block.toNat acts (header (after d acts)).block.toNat := by
  simp only [map] at hopen ⊢
  split at hopen
  · cases hopen
  rename_i hlong
  rw [if_neg hlong]
  cases hfill : fillMissing (max entries 1) d missing with
  | error e =>
    rw [hfill] at hopen
    cases hopen
  | ok fill =>
    rw [hfill] at hopen
    obtain rfl : max entries 1 = slots := eq_of_map_ok hopen
    refine ⟨one_le_max entries, ?_⟩
    have hblanks : ∀ a ∈ fill, a.Blank := by
      cases missing with
      | false =>
        obtain rfl := Except.ok.inj hfill
        exact forall_mem_nil _
      | true =>
        rw [extendTo_ok (show extendTo _ d _ = .ok fill from hfill)]
        exact zerosTo_blank _ _ _
    have hstart : IsLog (after d fill) → fill = [] ∧ SlotSize (header d).block.toNat := by
      intro hlog
      cases missing with
      | false =>
        obtain rfl := Except.ok.inj hfill
        exact ⟨rfl, hsize hlog⟩
      | true =>
        obtain rfl := hmissing rfl
        refine absurd hlog (not_isLog_of_zero fun i => ?_)
        rw [extendTo_ok (show extendTo _ Disk.empty _ = .ok fill from hfill)]
        exact congrFun (after_zerosTo _ _ _ Disk.empty (Nat.le_refl _)).1 i
    cases hmagic : checkMagic (max entries 1) (after d fill) magicNow with
    | error e =>
      simp only [checkMapped, hmagic] at hopen
      cases hopen
    | ok work =>
      have hmade := made_checkMagic (one_le_max entries) hblanks hstart hmagic
      exact hmade.checkMapped (one_le_max entries) hmagic stableNow

end Operations

/-! ### Runs -/

/-- What holds of a log between two operations. -/
structure Opened (log : OpenLog) : Prop where
  pos : 0 < log.entries.toNat
  sized : Sized log.disk

/-- The number of slots an operation works with. -/
def LogOp.ring (log : OpenLog) : LogOp → UInt32
  | .reopen entries _ _ => max entries 1
  | _ => log.entries

/-- **Every operation writes its entries inside their slots.** -/
theorem Opened.laid {log : OpenLog} (h : Opened log) (op : LogOp) :
    Laid (op.ring log) (header log.disk).block.toNat (op.acts log)
      (header (op.exec log).disk).block.toNat := by
  -- an operation on the open log: the size at its end is the one in the header it leaves
  have hopen : ∀ {acts : List Act},
      (∃ final, Laid log.entries (header log.disk).block.toNat acts final) →
      Laid log.entries (header log.disk).block.toNat acts
        (header (after log.disk acts)).block.toNat := by
    rintro acts ⟨final, hlaid⟩
    rw [(hlaid.log h.sized.isLog rfl).2]
    exact hlaid
  cases op <;> dsimp only [LogOp.ring, LogOp.exec, LogOp.acts]
  case addUpdate resetNow now name deleted kdbe =>
    exact hopen (laid_addUpdate h.pos h.sized resetNow now name deleted kdbe)
  case replayUpdate resetNow update => exact hopen (laid_replayUpdate h.pos h.sized resetNow update)
  case batch plan => exact hopen (laid_batch h.pos h.sized plan)
  case initHeader now => exact hopen ⟨_, laid_reset h.pos now _⟩
  case setLast last => exact hopen ⟨_, laid_setLast h.pos h.sized last⟩
  case getEntries now last => exact hopen (laid_getEntries h.pos h.sized now last)
  case reopen entries magicNow stableNow =>
    exact (laid_reopen h.sized entries magicNow stableNow).2

theorem LogOp.slots_pos {log : OpenLog} (hpos : 0 < log.entries.toNat) (op : LogOp) :
    0 < (op.slots log).toNat := by
  unfold LogOp.slots
  split
  · rename_i entries magicNow stableNow
    rcases map_existing entries log.disk magicNow stableNow with hmap | hmap
    · rw [hmap]
      exact hpos
    · rw [hmap]
      cases (Ulog.checkMapped (max entries 1) log.disk magicNow stableNow).result with
      | error _ => exact hpos
      | ok _ => exact one_le_max entries
  · exact hpos

theorem Opened.exec {log : OpenLog} (h : Opened log) (op : LogOp) : Opened (op.exec log) := by
  have hlaid := h.laid op
  obtain ⟨hlog, _⟩ := hlaid.log h.sized.isLog rfl
  exact ⟨op.slots_pos h.pos, hlog, hlaid.size h.sized.size⟩

theorem Opened.foldl {log : OpenLog} (h : Opened log) (ops : List LogOp) :
    Opened (ops.foldl LogOp.exec log) := by
  induction ops generalizing log with
  | nil => exact h
  | cons op ops ih => exact ih (h.exec op)

/-- **Entries survive a larger block size and stay in their slots.**  Whatever the file and the
header, the slots that `resize` moves are found unchanged at their new places with zeros after
them, and the size it chooses is one that the record fits.  Over every run of a log that was opened,
each entry is written inside a slot of the size in force, which is always a positive multiple of
`ULOG_BLOCK` and at most 65535. -/
theorem resize_preserves_entries {entries : UInt32} {d : Disk} {missing : Bool}
    {magicNow stableNow : UlogTime} {slots : UInt32} (hmissing : missing = true → d = Disk.empty)
    (hsize : IsLog d → SlotSize (header d).block.toNat)
    (hopen : (map entries d missing magicNow stableNow).result = .ok slots) (ops : List LogOp) :
    let opening := (map entries d missing magicNow stableNow).acts
    let log := ops.foldl LogOp.exec ⟨after d opening, slots⟩
    (∀ (entries : UInt32) (d : Disk) (hdr : UlogHeader) (recsize : Nat) (work : Work),
        hdr.block.toNat < recsize → resize entries d hdr recsize = .ok work →
        SlotSize work.hdr.block.toNat ∧ recsize ≤ work.hdr.block.toNat ∧
          header (after d work.acts) = work.hdr ∧
          ∀ i < entries.toNat,
            (after d work.acts).read (entAt i work.hdr.block.toNat) work.hdr.block.toNat =
              d.read (entAt i hdr.block.toNat) hdr.block.toNat
                ++ List.replicate (work.hdr.block.toNat - hdr.block.toNat) 0) ∧
      (∀ (entries : UInt32) (d : Disk) (hdr : UlogHeader) (update : Str) (put : Work),
        putEntry entries d hdr update = .ok put →
        entHdrLen + update.length ≤ put.hdr.block.toNat) ∧
      Laid slots (header d).block.toNat opening (header (after d opening)).block.toNat ∧
      SlotSize (header log.disk).block.toNat ∧
      ∀ op : LogOp, Laid (op.ring log) (header log.disk).block.toNat (op.acts log)
        (header (op.exec log).disk).block.toNat := by
  intro opening log
  obtain ⟨hpos, hsized, hlaid⟩ := laid_map hmissing hsize hopen
  have hlog : Opened log := Opened.foldl ⟨hpos, hsized⟩ ops
  refine ⟨?_, ?_, hlaid, hlog.sized.size, hlog.laid⟩
  · intro entries d hdr recsize work hlt hresize
    obtain ⟨hnew, hrec⟩ := resize_size hresize
    refine ⟨hnew, Nat.le_of_lt hrec, ?_, fun i hi => resize_slots hresize hlt hi⟩
    obtain ⟨_, _, _, zeros, _, hacts⟩ := resize_ok hresize
    rw [hacts, after_append, after_writeHeader, after_nil, header_write]
  · intro entries d hdr update put hput
    obtain ⟨layout, room, _, _, _, _, hfits, _, hhdr⟩ := putEntry_ok hput
    rw [hhdr, (advance_keeps _ _ _ _).2.2]
    exact hfits

namespace Sample

/-- An update that does not go in a slot of 2048 bytes. -/
def addLong : LogOp :=
  .addUpdate {} { seconds := 2 } (List.replicate 2100 0x61) false (be32 0)

def twoSlots : OpenLog :=
  ⟨after Disk.empty (map 2 Disk.empty true {} {}).acts, 2⟩

end Sample

open Ulog.Sample in
/-- A new log grows its two slots for a long update. -/
theorem resize_preserves_entries_long :
    let log := [addLong].foldl LogOp.exec twoSlots
    (header log.disk).block = 4096 ∧ SlotSize (header log.disk).block.toNat ∧
      ∀ op : LogOp, Laid (op.ring log) (header log.disk).block.toNat (op.acts log)
        (header (op.exec log).disk).block.toNat := by
  obtain ⟨_, _, _, hsize, hlaid⟩ := @resize_preserves_entries 2 Disk.empty true {} {} 2
    (fun _ => rfl) (fun hlog => absurd hlog (not_isLog_of_zero fun _ => rfl)) (by decide +kernel)
    [addLong]
  exact ⟨by decide +kernel, hsize, hlaid⟩

end Kerber.Ulog
