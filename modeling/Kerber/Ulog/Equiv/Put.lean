import Kerber.Ulog.Equiv.Format

/-!
# What storing an update does

`putEntry_ok` takes a successful `put_entry` apart: the slots may grow (`Grown`), one slot is
written, and the bounds move (`advance`).  Which acts an operation is made of is said by
`Act.Within`: writes past the header, and headers with the magic and a state out of `P`;
`Sound.after` carries the magic and the state through them.
-/

namespace Kerber.Ulog

open List

variable {entries : UInt32} {hdr : UlogHeader} {P : UInt16 → Prop} {d : Disk}

open Kerber.Store

variable {mid : UlogHeader} {zeros : List Act} {recsize : Nat} {update : Str} {work : Work}

/-! ### The kinds of acts -/

/-- An act that keeps the magic, and leaves a state out of `P` when it writes one. -/
inductive Act.Within (P : UInt16 → Prop) : Act → Prop
  | slot {pos : Nat} {bytes : Str} (h : hdrLen ≤ pos) : Within P (.file (.write pos bytes))
  | header {hdr : UlogHeader} (hmagic : hdr.hmagic = kdbUlogHdrMagic) (hstate : P hdr.state) :
      Within P (writeHeader hdr)
  | state {state : UInt16} (h : P state) : Within P (writeState state)
  | note (e : LogEvent) : Within P (.note e)

/-- A log file: a whole header with the magic, and a state out of `P`. -/
structure Sound (P : UInt16 → Prop) (d : Disk) : Prop where
  len : hdrLen ≤ d.len
  magic : (header d).hmagic = kdbUlogHdrMagic
  state : P (header d).state

theorem Sound.mono {Q : UInt16 → Prop} (h : Sound P d) (hpq : ∀ s, P s → Q s) : Sound Q d :=
  ⟨h.len, h.magic, hpq _ h.state⟩

theorem len_le_write (d : Disk) (pos : Nat) (bytes : Str) : d.len ≤ (d.write pos bytes).len :=
  Nat.le_max_left _ _

theorem le_len_write (d : Disk) (pos : Nat) (bytes : Str) :
    pos + bytes.length ≤ (d.write pos bytes).len :=
  Nat.le_max_right _ _

/-- **Acts of the kind keep the file a log**, one act. -/
theorem Sound.after_one (hd : Sound P d) {a : Act} (ha : a.Within P) : Sound P (after d [a]):= by
  cases ha with
  | @slot pos bytes h =>
    have hhdr : header (after d [.file (.write pos bytes)]) = header d :=
      header_write_beyond d bytes h
    refine ⟨Nat.le_trans hd.len (len_le_write d pos bytes), ?_, ?_⟩
    · rw [hhdr]
      exact hd.magic
    · rw [hhdr]
      exact hd.state
  | @header hdr hmagic hstate =>
    have hhdr : Ulog.header (after d [writeHeader hdr]) = hdr := header_write d hdr
    refine ⟨Nat.le_trans hd.len (len_le_write d _ _), ?_, ?_⟩
    · rw [hhdr]
      exact hmagic
    · rw [hhdr]
      exact hstate
  | @state st h =>
    have hhdr : header (after d [writeState st]) = { header d with state := st } :=
      header_writeState d st
    refine ⟨Nat.le_trans hd.len (len_le_write d _ _), ?_, ?_⟩
    · rw [hhdr]
      exact hd.magic
    · rw [hhdr]
      exact h
  | note e => exact hd

/-- **Acts of the kind keep the file a log**, all of them. -/
theorem Sound.after (hd : Sound P d) {acts : List Act}
    (h : ∀ a ∈ acts, a.Within P) : Sound P (after d acts) := by
  induction acts generalizing d with
  | nil => exact hd
  | cons a acts ih =>
    have hone : Sound P (Ulog.after d [a]) := hd.after_one (h a mem_cons_self)
    rw [show a :: acts = [a] ++ acts from rfl, after_append]
    exact ih hone fun b hb => h b (mem_cons_of_mem _ hb)

/-! ### Growing the slots -/

theorem zerosTo_within (P : UInt16 → Prop) (size fuel pos : Nat) :
    ∀ a ∈ zerosTo size fuel pos, a.isFile ∧ (hdrLen ≤ pos → a.Within P) := by
  induction fuel generalizing pos with
  | zero => exact fun _ ha => nomatch ha
  | succ fuel ih =>
    intro a ha
    rw [zerosTo] at ha
    split at ha
    · rcases mem_cons.mp ha with rfl | ha
      · exact ⟨rfl, .slot⟩
      · obtain ⟨hfile, hwithin⟩ := ih _ a ha
        exact ⟨hfile, fun h => hwithin (by omega)⟩
    · cases ha

theorem moveSlots_within (P : UInt16 → Prop) (old new n : Nat) (d : Disk) :
    ∀ a ∈ moveSlots old new n d, a.Within P ∧ a.isFile := by
  induction n generalizing d with
  | zero => exact fun _ ha => nomatch ha
  | succ n ih =>
    intro a ha
    rcases mem_cons.mp ha with rfl | ha
    · exact ⟨.slot (hdrLen_le_entAt n new), rfl⟩
    · exact ih _ a ha

/-- What `put_entry` works with once a slot is large enough: the header with its block size, and
the acts that made it so. -/
structure Grown (entries : UInt32) (d : Disk) (hdr mid : UlogHeader) (grow : List Act) : Prop where
  eq : mid = { hdr with block := mid.block }
  le : hdr.block.toNat ≤ mid.block.toNat
  slots : ∀ i < entries.toNat, (after d grow).read (entAt i mid.block.toNat) hdr.block.toNat =
    d.read (entAt i hdr.block.toNat) hdr.block.toNat
  files : ∀ a ∈ grow, a.isFile
  within : ∀ P, hdrLen ≤ d.len → hdr.hmagic = kdbUlogHdrMagic → P hdr.state →
    ∀ a ∈ grow, a.Within P

theorem Grown.refl (entries : UInt32) (d : Disk) (hdr : UlogHeader) : Grown entries d hdr hdr [] :=
  ⟨rfl, Nat.le_refl _, fun _ _ => rfl, fun _ ha => (nomatch ha), fun _ _ _ _ _ ha => (nomatch ha)⟩

theorem resize_ok (h : resize entries d hdr recsize = .ok work) :
    recsize < work.hdr.block.toNat ∧ ulogBlock.toNat ∣ work.hdr.block.toNat ∧
      work.hdr = { hdr with block := work.hdr.block } ∧
      ∃ zeros, extendTo entries d work.hdr.block.toNat = .ok zeros ∧
        work.acts = zeros ++ moveSlots hdr.block.toNat work.hdr.block.toNat entries.toNat
          (after d zeros) ++ [writeHeader work.hdr] := by
  obtain ⟨hsmall, h⟩ := rejectIf_bind_ok h
  obtain ⟨_, h⟩ := rejectIf_bind_ok h
  obtain ⟨zeros, hzeros, h⟩ := bind_ok h
  obtain rfl := Except.ok.inj h
  rw [UInt16.toNat_ofNat_of_lt' (by simpa using hsmall)]
  refine ⟨?_, Nat.dvd_mul_left _ _, rfl, zeros, hzeros, rfl⟩
  have hblock : ulogBlock.toNat = 2048 := rfl
  rw [hblock]
  omega

theorem read_moveSlots {new : Nat} (hle : hdr.block.toNat ≤ new)
    (hzeros : extendTo entries d new = .ok zeros) {i : Nat} (hi : i < entries.toNat) :
    (after d (zeros ++ moveSlots hdr.block.toNat new entries.toNat (after d zeros)
        ++ [writeHeader mid])).read (entAt i new) new =
      d.read (entAt i hdr.block.toNat) hdr.block.toNat
        ++ replicate (new - hdr.block.toNat) 0 := by
  have hdata : (after d zeros).data = d.data := by
    rw [extendTo_ok hzeros]
    exact (after_zerosTo _ _ _ d (Nat.le_refl _)).1
  -- the header is written last, below every slot
  rw [after_append, after_append, after_writeHeader, after_nil,
    Disk.read_write_of_disjoint _ (Or.inr ?_), (moveSlots_spec hle _ _).1 i hi]
  · rw [Disk.read_congr fun j _ _ => congrFun hdata j]
  · rw [length_encode, Nat.zero_add]
    exact hdrLen_le_entAt i new

theorem grown_moveSlots (hle : hdr.block.toNat ≤ mid.block.toNat)
    (hmid : mid = { hdr with block := mid.block })
    (hzeros : extendTo entries d mid.block.toNat = .ok zeros) :
    Grown entries d hdr mid (zeros ++ moveSlots hdr.block.toNat mid.block.toNat entries.toNat
      (after d zeros) ++ [writeHeader mid]) := by
  have hz := extendTo_ok hzeros
  refine ⟨hmid, hle, ?_, ?_, ?_⟩
  · intro i hi
    rw [← Disk.take_read _ _ hle, read_moveSlots hle hzeros hi]
    exact take_left' (Disk.length_read _ _ _)
  · intro a ha
    simp only [mem_append, mem_singleton] at ha
    rcases ha with (ha | ha) | rfl
    · rw [hz] at ha
      exact (zerosTo_within (fun _ => True) _ _ _ a ha).1
    · exact (moveSlots_within (fun _ => True) _ _ _ _ a ha).2
    · rfl
  · intro P hlen hmagic hstate a ha
    simp only [mem_append, mem_singleton] at ha
    rcases ha with (ha | ha) | rfl
    · rw [hz] at ha
      exact (zerosTo_within P _ _ _ a ha).2 hlen
    · exact (moveSlots_within P _ _ _ _ a ha).1
    · rw [hmid]
      exact .header hmagic hstate

theorem resize_grown (h : resize entries d hdr recsize = .ok work)
    (hlt : hdr.block.toNat < recsize) :
    Grown entries d hdr work.hdr work.acts ∧ recsize ≤ work.hdr.block.toNat := by
  obtain ⟨hnew, _, hmid, zeros, hzeros, hacts⟩ := resize_ok h
  refine ⟨?_, by omega⟩
  rw [hacts]
  exact grown_moveSlots (by omega) hmid hzeros

/-! ### Storing -/

/-- The write of a slot. -/
def putAct (entries : UInt32) (mid : UlogHeader) (layout : IncrLayout) (update : Str) : Act :=
  .file (.write (entAt (slotOf entries layout.sno) mid.block.toNat)
    (slotBytes mid.block.toNat layout update))

/-- **A `put_entry` that went through.** -/
theorem putEntry_ok {put : Work} (h : putEntry entries d hdr update = .ok put) :
    ∃ (layout : IncrLayout) (room : Work), walk update = .ok layout ∧ update.length < 2 ^ 32 ∧
      roomFor entries d hdr (entHdrLen + update.length) = .ok room ∧
      Grown entries d hdr room.hdr room.acts ∧
      entHdrLen + update.length ≤ room.hdr.block.toNat ∧
      put.acts = room.acts ++ [putAct entries room.hdr layout update,
        .note (.stored layout.sno update)] ∧
      put.hdr = advance entries (after d (room.acts ++ [putAct entries room.hdr layout update]))
        room.hdr layout := by
  obtain ⟨layout, hwalk, h⟩ := bind_ok h
  obtain ⟨hshort, h⟩ := rejectIf_bind_ok h
  obtain ⟨room, hroom, h⟩ := bind_ok h
  obtain rfl := Except.ok.inj h
  have hgrown : Grown entries d hdr room.hdr room.acts ∧
      entHdrLen + update.length ≤ room.hdr.block.toNat := by
    have hcases := hroom
    unfold roomFor at hcases
    split at hcases
    · rename_i hlt
      exact resize_grown hcases hlt
    · rename_i hle
      obtain rfl := Except.ok.inj hcases
      exact ⟨.refl _ _ _, Nat.not_lt.mp hle⟩
  exact ⟨layout, room, hwalk, by simpa using hshort, hroom, hgrown.1, hgrown.2, rfl, rfl⟩

theorem advance_of_room (d : Disk) (layout : IncrLayout)
    (hnum : hdr.num ≠ 0) (hroom : hdr.num < entries) :
    advance entries d hdr layout =
      { hdr with lastSno := layout.sno, lastTime := layout.time, num := hdr.num + 1 } := by
  simp only [advance]
  rw [if_neg hnum, if_pos hroom]

theorem advance_of_full (d : Disk) (layout : IncrLayout)
    (hnum : hdr.num ≠ 0) (hfull : ¬ hdr.num < entries) :
    advance entries d hdr layout =
      let next := entHeader d (layout.sno % entries).toNat hdr.block.toNat
      { hdr with lastSno := layout.sno, lastTime := layout.time, firstSno := next.sno,
                 firstTime := next.time } := by
  simp only [advance]
  rw [if_neg hnum, if_neg hfull]

theorem advance_keeps (entries : UInt32) (d : Disk) (hdr : UlogHeader) (layout : IncrLayout) :
    (advance entries d hdr layout).hmagic = hdr.hmagic ∧
      (advance entries d hdr layout).state = hdr.state ∧
      (advance entries d hdr layout).block = hdr.block := by
  simp only [advance]
  split
  · exact ⟨rfl, rfl, rfl⟩
  · split <;> exact ⟨rfl, rfl, rfl⟩

/-- The acts of `put_entry` keep the magic and write only the state of its header, which it
leaves as it is. -/
theorem putEntry_within {put : Work} (h : putEntry entries d hdr update = .ok put)
    (hlen : hdrLen ≤ d.len) (hmagic : hdr.hmagic = kdbUlogHdrMagic) (hstate : P hdr.state) :
    (∀ a ∈ put.acts, a.Within P) ∧ put.hdr.hmagic = hdr.hmagic ∧ put.hdr.state = hdr.state := by
  obtain ⟨layout, room, _, _, _, hgrown, _, hacts, hhdr⟩ := putEntry_ok h
  refine ⟨?_, ?_, ?_⟩
  · intro a ha
    simp only [hacts, mem_append, mem_cons, not_mem_nil, or_false] at ha
    rcases ha with ha | rfl | rfl
    · exact hgrown.within P hlen hmagic hstate a ha
    · exact .slot (hdrLen_le_entAt _ _)
    · exact .note _
  · rw [hhdr, (advance_keeps _ _ _ _).1, hgrown.eq]
  · rw [hhdr, (advance_keeps _ _ _ _).2.1, hgrown.eq]

end Kerber.Ulog
