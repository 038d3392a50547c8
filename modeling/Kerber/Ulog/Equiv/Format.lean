import Kerber.Ulog.Run

/-!
# What reads of the log find after its writes

The header comes back as it was written (`header_write`), a write of the state word changes the
state alone (`header_writeState`), and a write past the header leaves it (`header_write_beyond`).
A slot is described by one equation on the file, `SlotHolds`: its first bytes are the entry header
and the update.  `moveSlots_spec` says that growing the slots keeps each of them.
-/

namespace Kerber

open List

variable {block pos i : Nat} {update : Str} {d : Disk}

namespace Disk

variable {sno : UInt32} {acts : List Act}

theorem getD_read (d : Disk) {n : Nat} (h : i < n) :
    (d.read pos n).getD i 0 = d.data (pos + i) := by
  rw [getD_eq_getElem _ _ (by rw [length_read]; exact h)]
  simp [read]

theorem le32At_read (d : Disk) {n : Nat} (h : i + 4 ≤ n) :
    le32At (d.read pos n) i =
      joinBytes32 (d.data (pos + i)) (d.data (pos + i + 1)) (d.data (pos + i + 2))
        (d.data (pos + i + 3)) := by
  rw [le32At, getD_read d (by omega), getD_read d (by omega), getD_read d (by omega),
    getD_read d (by omega)]
  rfl

theorem le16At_read (d : Disk) {n : Nat} (h : i + 2 ≤ n) :
    le16At (d.read pos n) i = joinBytes16 (d.data (pos + i)) (d.data (pos + i + 1)) := by
  rw [le16At, getD_read d (by omega), getD_read d (by omega)]
  rfl

end Disk

namespace Ulog

open Kerber.Store

/-! ### The header -/

@[simp] theorem length_encode (h : UlogHeader) : h.encode.length = hdrLen := rfl

@[simp] theorem decode_encode (h : UlogHeader) : UlogHeader.decode h.encode = h := by
  simp [UlogHeader.encode, UlogHeader.decode]

@[simp] theorem header_write (d : Disk) (h : UlogHeader) : header (d.write 0 h.encode) = h := by
  have hread : (d.write 0 h.encode).read 0 hdrLen = h.encode := d.read_write_self 0 h.encode
  rw [header, hread, decode_encode]

/-- The header depends on the first bytes alone. -/
theorem header_congr {d' : Disk} (h : ∀ i, i < hdrLen → d.data i = d'.data i) :
    header d = header d' := by
  rw [header, header, Disk.read_congr fun i _ hi => h i (by omega)]

theorem header_write_beyond (d : Disk) (bytes : Str) (h : hdrLen ≤ pos) :
    header (d.write pos bytes) = header d :=
  header_congr fun _ hi => d.data_write_of_outside (by omega)

@[simp] theorem header_writeState (d : Disk) (state : UInt16) :
    header (d.write stateAt (le16 state)) = { header d with state } := by
  set d' := d.write stateAt (le16 state) with hd'
  have hsame : ∀ i, i < 36 ∨ 38 ≤ i → d'.data i = d.data i := by
    intro i hi
    exact d.data_write_of_outside hi
  have h32 : ∀ i, i + 4 ≤ 36 → le32At (d'.read 0 hdrLen) i = le32At (d.read 0 hdrLen) i := by
    intro i hi
    have hn : i + 4 ≤ hdrLen := by unfold hdrLen; omega
    rw [d'.le32At_read hn, d.le32At_read hn, hsame _ (by omega), hsame _ (by omega),
      hsame _ (by omega), hsame _ (by omega)]
  have h16 : ∀ i, i + 2 ≤ 36 ∨ i = 38 → le16At (d'.read 0 hdrLen) i = le16At (d.read 0 hdrLen) i := by
    intro i hi
    have hn : i + 2 ≤ hdrLen := by unfold hdrLen; omega
    rw [d'.le16At_read hn, d.le16At_read hn, hsame _ (by omega), hsame _ (by omega)]
  have hstate : le16At (d'.read 0 hdrLen) 36 = state := by
    rw [d'.le16At_read (by decide)]
    exact joinBytes16_byteOf state
  simp only [header, UlogHeader.decode, hstate]
  rw [h32 0 (by omega), h16 4 (by omega), h32 8 (by omega), h32 12 (by omega), h32 16 (by omega),
    h32 20 (by omega), h32 24 (by omega), h32 28 (by omega), h32 32 (by omega),
    h16 38 (by omega)]

@[simp] theorem entHeader_decode_encode (e : EntHeader) : EntHeader.decode e.encode = e := by
  cases e with
  | mk umagic sno time commit size => cases commit <;> simp [EntHeader.encode, EntHeader.decode]

/-! ### Acts -/

@[simp] theorem after_nil (d : Disk) : after d [] = d := rfl

@[simp] theorem after_append (d : Disk) (acts acts' : List Act) :
    after d (acts ++ acts') = after (after d acts) acts' := by
  rw [after, fileOps, filterMap_append, Disk.applyAll_append]
  rfl

@[simp] theorem after_file_cons (d : Disk) (op : FileOp) (acts : List Act) :
    after d (.file op :: acts) = after (d.apply op) acts := rfl

@[simp] theorem after_writeHeader (d : Disk) (hdr : UlogHeader) (acts : List Act) :
    after d (writeHeader hdr :: acts) = after (d.write 0 hdr.encode) acts := rfl

@[simp] theorem after_writeState (d : Disk) (state : UInt16) (acts : List Act) :
    after d (writeState state :: acts) = after (d.write stateAt (le16 state)) acts := rfl

@[simp] theorem storedBy_append (stored : UInt32 → Option Str) (acts acts' : List Act) :
    storedBy stored (acts ++ acts') = storedBy (storedBy stored acts) acts' := by
  fun_induction storedBy stored acts with
  | case1 => rfl
  | case2 stored op acts ih => exact ih
  | case3 stored acts ih => exact ih
  | case4 stored sno update acts ih => exact ih

def Act.isFile : Act → Bool
  | .file _ => true
  | .note _ => false

theorem storedBy_of_isFile (stored : UInt32 → Option Str) (h : ∀ a ∈ acts, a.isFile) :
    storedBy stored acts = stored := by
  fun_induction storedBy stored acts with
  | case1 => rfl
  | case2 stored op acts ih => exact ih fun a ha => h a (mem_cons_of_mem _ ha)
  | case3 stored acts ih => exact absurd (h _ mem_cons_self) (by decide)
  | case4 stored sno update acts ih => exact absurd (h _ mem_cons_self) (by simp [Act.isFile])

/-! ### Slots -/

/-- The bytes of an entry: its header, then the update. -/
def slotImage (layout : IncrLayout) (update : Str) : Str :=
  let ent : EntHeader :=
    { umagic := kdbUlogMagic, sno := layout.sno, time := layout.time, commit := true,
      size := UInt32.ofNat update.length }
  ent.encode.take entDataAt ++ update

theorem slotImage_eq (layout : IncrLayout) (update : Str) :
    slotImage layout update =
      le32 kdbUlogMagic ++ (le32 layout.sno ++ (le32 layout.time.seconds ++
        (le32 layout.time.useconds ++ (le32 1 ++ (le32 (UInt32.ofNat update.length) ++
          update))))) := rfl

theorem length_slotImage (layout : IncrLayout) (update : Str) :
    (slotImage layout update).length = entDataAt + update.length := by
  simp [slotImage, EntHeader.encode, entDataAt]

theorem slotBytes_eq (block : Nat) (layout : IncrLayout) (update : Str) :
    slotBytes block layout update =
      slotImage layout update ++ replicate (block - (entDataAt + update.length)) 0 := rfl

theorem length_slotBytes (layout : IncrLayout) (h : entHdrLen + update.length ≤ block) :
    (slotBytes block layout update).length = block := by
  rw [slotBytes_eq, length_append, length_slotImage, length_replicate]
  simp only [entHdrLen, entDataAt] at h ⊢
  omega

/-- The slot of `block` bytes at `pos` holds the update `update` under the serial `sno`. -/
structure SlotHolds (d : Disk) (pos block : Nat) (sno : UInt32) (update : Str) : Prop where
  fits : entHdrLen + update.length ≤ block
  short : update.length < 2 ^ 32
  image : ∃ layout, walk update = .ok layout ∧ layout.sno = sno ∧
    d.read pos (entDataAt + update.length) = slotImage layout update

theorem SlotHolds.congr {d' : Disk} {pos' block' : Nat} (h : SlotHolds d pos block sno update)
    (hblock : block ≤ block') (hread : d'.read pos' block = d.read pos block) :
    SlotHolds d' pos' block' sno update := by
  obtain ⟨layout, hwalk, hsno, himage⟩ := h.image
  have hle : entDataAt + update.length ≤ block := by
    have := h.fits
    simp only [entHdrLen, entDataAt] at this ⊢
    omega
  refine ⟨Nat.le_trans h.fits hblock, h.short, layout, hwalk, hsno, ?_⟩
  rw [← d'.take_read pos' hle, hread, d.take_read pos hle, himage]

theorem SlotHolds.of_write (d : Disk) (pos : Nat) {layout : IncrLayout}
    (hwalk : walk update = .ok layout) (hshort : update.length < 2 ^ 32)
    (hfits : entHdrLen + update.length ≤ block) :
    SlotHolds (d.write pos (slotBytes block layout update)) pos block layout.sno update := by
  refine ⟨hfits, hshort, layout, hwalk, rfl, ?_⟩
  have hlen := length_slotBytes layout hfits
  have hle : entDataAt + update.length ≤ block := by
    simp only [entHdrLen, entDataAt] at hfits ⊢
    omega
  rw [d.read_write_of_inside (Nat.le_refl _) (by omega), Nat.sub_self, drop_zero,
    slotBytes_eq]
  exact take_left' (length_slotImage layout update)

theorem SlotHolds.decode (h : SlotHolds d pos block sno update) :
    ∃ time, EntHeader.decode (d.read pos entHdrLen) =
      { umagic := kdbUlogMagic, sno, time, commit := true,
        size := UInt32.ofNat update.length } := by
  obtain ⟨layout, _, rfl, himage⟩ := h.image
  refine ⟨layout.time, ?_⟩
  -- every word of the header lies in the first 24 bytes, where the image is known
  have hword : ∀ i, i + 4 ≤ 24 →
      le32At (d.read pos entHdrLen) i = le32At (slotImage layout update) i := by
    intro i hi
    rw [← himage, d.le32At_read (by unfold entHdrLen; omega),
      d.le32At_read (by unfold entDataAt; omega)]
  rw [EntHeader.decode, hword 0 (by omega), hword 4 (by omega), hword 8 (by omega),
    hword 12 (by omega), hword 16 (by omega), hword 20 (by omega), slotImage_eq]
  simp

theorem SlotHolds.read_update (h : SlotHolds d pos block sno update) :
    d.read (pos + entDataAt) update.length = update := by
  obtain ⟨layout, _, _, himage⟩ := h.image
  have hdrop : (d.read pos (entDataAt + update.length)).drop entDataAt =
      d.read (pos + entDataAt) update.length := by
    simp only [Disk.read, ← map_drop, drop_range', range_eq_range']
    rw [range'_eq_map_range, map_map, Nat.add_sub_cancel_left, ← range_eq_range']
    refine map_congr_left fun i _ => ?_
    simp [Nat.add_assoc]
  rw [← hdrop, himage]
  exact drop_left' (by simp [EntHeader.encode, entDataAt])

/-! ### Growing -/

theorem entAt_add_le {j : Nat} (h : i < j) : entAt i block + block ≤ entAt j block := by
  have : (i + 1) * block ≤ j * block := Nat.mul_le_mul_right _ h
  rw [Nat.succ_mul] at this
  unfold entAt
  omega

theorem hdrLen_le_entAt (i block : Nat) : hdrLen ≤ entAt i block :=
  Nat.le_add_right _ _

/-- Zeros past the end change no byte, and the file does not shrink. -/
theorem after_zerosTo (size fuel pos : Nat) (d : Disk) (h : d.len ≤ pos) :
    (after d (zerosTo size fuel pos)).data = d.data ∧
      d.len ≤ (after d (zerosTo size fuel pos)).len := by
  induction fuel generalizing pos d with
  | zero => exact ⟨rfl, Nat.le_refl _⟩
  | succ fuel ih =>
    rw [zerosTo]
    split
    · rename_i hpos
      set n := min (size - pos) 65536
      have hlen : (d.write pos (replicate n 0)).len = max d.len (pos + n) := by
        simp [Disk.write]
      obtain ⟨hdata, hle⟩ := ih (pos + n) (d.write pos (replicate n 0)) (by omega)
      rw [after_file_cons, Disk.apply_write]
      exact ⟨hdata.trans (d.data_write_zeros h), by omega⟩
    · exact ⟨rfl, Nat.le_refl _⟩

theorem extendTo_ok {entries : UInt32} (h : extendTo entries d block = .ok acts) :
    acts = zerosTo (hdrLen + entries.toNat * block) (hdrLen + entries.toNat * block) d.len := by
  simp only [extendTo] at h
  split at h
  · cases h
  · exact (Except.ok.inj h).symm

/-- Moving the slots: each is found at its new place with zeros after it, and nothing from the slot
after the last one on has changed. -/
theorem moveSlots_spec {old new : Nat} (hle : old ≤ new) (n : Nat) (d : Disk) :
    (∀ i < n, (after d (moveSlots old new n d)).read (entAt i new) new =
        d.read (entAt i old) old ++ replicate (new - old) 0) ∧
      ∀ pos m, entAt n new ≤ pos →
        (after d (moveSlots old new n d)).read pos m = d.read pos m := by
  induction n generalizing d with
  | zero => exact ⟨fun i hi => absurd hi (Nat.not_lt_zero i), fun _ _ _ => rfl⟩
  | succ n ih =>
    set bytes := d.read (entAt n old) old ++ replicate (new - old) 0 with hbytes
    have hlen : bytes.length = new := by
      rw [hbytes, length_append, Disk.length_read, length_replicate]
      omega
    have hmove : after d (moveSlots old new (n + 1) d) =
        after (d.write (entAt n new) bytes) (moveSlots old new n (d.write (entAt n new) bytes)) :=
      rfl
    obtain ⟨hslots, hrest⟩ := ih (d.write (entAt n new) bytes)
    have hat : entAt n old ≤ entAt n new := by
      have := Nat.mul_le_mul_left n hle
      unfold entAt
      omega
    rw [hmove]
    constructor
    · intro i hi
      rcases Nat.lt_succ_iff_lt_or_eq.mp hi with hlt | rfl
      · -- the slots below are read before anything is written over them
        have hbelow : entAt i old + old ≤ entAt n old := entAt_add_le hlt
        rw [hslots i hlt, d.read_write_of_disjoint (by omega)]
      · have hself := d.read_write_self (entAt i new) bytes
        rw [hlen] at hself
        rw [hrest _ _ (Nat.le_refl _), hself]
    · intro pos m hpos
      have habove : entAt n new + new ≤ entAt (n + 1) new := entAt_add_le n.lt_succ_self
      rw [hrest pos m (by omega), d.read_write_of_disjoint (by omega)]

end Ulog

end Kerber
