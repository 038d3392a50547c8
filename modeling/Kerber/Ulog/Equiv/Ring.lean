import Kerber.Ulog.Equiv.Put

/-!
# The ring

`Ring` ties a header to the slots of the file: for some serial `start`, the slot of every serial
after it that the ring still has room for holds the update stored under that serial.  Resetting,
setting a dummy and storing the next update keep it (`ring_reset`, `ring_setDummy`,
`Ring.putEntry`), and under it what `get_entries` sends is what was stored (`Ring.readEntries`).
-/

namespace Kerber.Ulog

variable {s : UInt32}

open Kerber.Store

variable {entries : UInt32} {stored : UInt32 → Option Str} {hdr : UlogHeader} {d : Disk}
  {start : Nat} {sno : UInt32} {start' : Nat}

/-! ### Serials and slots -/

theorem slotOf_eq (entries : UInt32) (h : 0 < s.toNat) :
    slotOf entries s = (s.toNat - 1) % entries.toNat := by
  have hle : (1 : UInt32) ≤ s := UInt32.le_iff_toNat_le.mpr h
  rw [slotOf, UInt32.toNat_mod, UInt32.toNat_sub_of_le _ _ hle]
  rfl

theorem toNat_add_one {x : UInt32} (h : x.toNat + 1 < 2 ^ 32) : (x + 1).toNat = x.toNat + 1 := by
  rw [UInt32.toNat_add, UInt32.toNat_one, Nat.mod_eq_of_lt h]

theorem slotOf_lt (h : 0 < entries.toNat) (s : UInt32) : slotOf entries s < entries.toNat := by
  rw [slotOf, UInt32.toNat_mod]
  exact Nat.mod_lt _ h

/-- The serials of one turn of the ring have slots of their own. -/
theorem slotOf_ne {entries t : UInt32} (hs : 0 < s.toNat) (hlt : s.toNat < t.toNat)
    (hturn : t.toNat < s.toNat + entries.toNat) : slotOf entries s ≠ slotOf entries t := by
  rw [slotOf_eq entries hs, slotOf_eq entries (by omega)]
  intro heq
  have hzero := Nat.sub_mod_eq_zero_of_mod_eq heq.symm
  rw [Nat.mod_eq_of_lt (by omega)] at hzero
  omega

theorem entAt_disjoint {i j : Nat} (h : i ≠ j) (block : Nat) :
    entAt i block + block ≤ entAt j block ∨ entAt j block + block ≤ entAt i block := by
  rcases Nat.lt_or_gt_of_ne h with hlt | hgt
  · exact .inl (entAt_add_le hlt)
  · exact .inr (entAt_add_le hgt)

/-! ### The invariant -/

/-- The slots of the serials after `start` that the ring still holds carry what was stored, and
the header's bounds do not reach below `start`. -/
structure Ring (entries : UInt32) (stored : UInt32 → Option Str) (d : Disk) (hdr : UlogHeader)
    (start : Nat) : Prop where
  num_ne : hdr.num ≠ 0
  start_le_last : start ≤ hdr.lastSno.toNat
  start_le_first : start ≤ hdr.firstSno.toNat
  num_le : start = 0 ∨ hdr.num.toNat ≤ hdr.lastSno.toNat - start + 1
  slots : ∀ s : UInt32, start < s.toNat → s.toNat ≤ hdr.lastSno.toNat →
    hdr.lastSno.toNat < s.toNat + entries.toNat →
    ∃ update, stored s = some update ∧
      SlotHolds d (entAt (slotOf entries s) hdr.block.toNat) hdr.block.toNat s update

theorem Ring.congr {d d' : Disk} (h : Ring entries stored d hdr start)
    (hdata : ∀ i, hdrLen ≤ i → d'.data i = d.data i) (state : UInt16) :
    Ring entries stored d' { hdr with state } start := by
  refine ⟨h.num_ne, h.start_le_last, h.start_le_first, h.num_le, ?_⟩
  intro s hlo hhi hturn
  obtain ⟨update, hstored, hslot⟩ := h.slots s hlo hhi hturn
  refine ⟨update, hstored, hslot.congr (Nat.le_refl _) ?_⟩
  exact Disk.read_congr fun i hi _ => hdata i (Nat.le_trans (hdrLen_le_entAt _ _) hi)

theorem ring_setDummy (entries : UInt32) (stored : UInt32 → Option Str) (d : Disk)
    (hdr : UlogHeader) (sno : UInt32) (time : UlogTime) :
    Ring entries stored d (setDummy entries hdr sno time).hdr sno.toNat := by
  refine ⟨?_, Nat.le_refl _, Nat.le_refl _, .inr ?_, ?_⟩
  · show (1 : UInt32) ≠ 0
    decide
  · show (1 : UInt32).toNat ≤ _
    simp
  · intro s hlo hhi
    exact absurd hhi (Nat.not_le.mpr hlo)

theorem ring_reset (entries : UInt32) (stored : UInt32 → Option Str) (d : Disk)
    (now : UlogTime) : Ring entries stored d (reset entries now).hdr 1 :=
  (ring_setDummy entries stored d _ 1 now).congr (fun _ _ => rfl) kdbStable

theorem Ring.grown {hdr mid : UlogHeader} {grow : List Act} (h : Ring entries stored d hdr start)
    (hpos : 0 < entries.toNat) (hgrown : Grown entries d hdr mid grow) :
    Ring entries stored (after d grow) mid start := by
  obtain ⟨heq, hle, hslots, _, _⟩ := hgrown
  rw [heq]
  refine ⟨h.num_ne, h.start_le_last, h.start_le_first, h.num_le, ?_⟩
  intro s hlo hhi hturn
  obtain ⟨update, hstored, hslot⟩ := h.slots s hlo hhi hturn
  exact ⟨update, hstored, hslot.congr hle (hslots _ (slotOf_lt hpos s))⟩

/-! ### Storing the next update -/

section Put

variable {layout : IncrLayout} {update : Str}

/-- What is known of the updates once one more is stored. -/
def storeUnder (stored : UInt32 → Option Str) (sno : UInt32) (update : Str) : UInt32 → Option Str :=
  fun s => if s = sno then some update else stored s

/-- Serials that go on from the last one keep `start`; a serial of at most 1 starts anew at 0. -/
theorem start_of_next (h : Ring entries stored d hdr start)
    (hnext : layout.sno.toNat = hdr.lastSno.toNat + 1 ∨ layout.sno.toNat ≤ 1) :
    ∃ start', start' ≤ start ∧ start' ≤ layout.sno.toNat ∧
      ((start' = 0 ∧ layout.sno.toNat ≤ 1) ∨
        (start' = start ∧ layout.sno.toNat = hdr.lastSno.toNat + 1)) := by
  have := h.start_le_last
  rcases hnext with hnext | hsmall
  · exact ⟨start, Nat.le_refl _, by omega, .inr ⟨rfl, hnext⟩⟩
  · exact ⟨0, Nat.zero_le _, Nat.zero_le _, .inl ⟨rfl, hsmall⟩⟩

theorem slots_of_put (h : Ring entries stored d hdr start)
    (hstart : (start' = 0 ∧ layout.sno.toNat ≤ 1) ∨
      (start' = start ∧ layout.sno.toNat = hdr.lastSno.toNat + 1))
    (hwalk : walk update = .ok layout) (hshort : update.length < 2 ^ 32)
    (hfits : entHdrLen + update.length ≤ hdr.block.toNat) (hlo : start' < s.toNat)
    (hhi : s.toNat ≤ layout.sno.toNat) (hturn : layout.sno.toNat < s.toNat + entries.toNat) :
    ∃ u, storeUnder stored layout.sno update s = some u ∧
      SlotHolds (after d [putAct entries hdr layout update])
        (entAt (slotOf entries s) hdr.block.toNat) hdr.block.toNat s u := by
  by_cases hs : s = layout.sno
  · subst hs
    exact ⟨update, if_pos rfl, .of_write d _ hwalk hshort hfits⟩
  · have hlt : s.toNat < layout.sno.toNat := by
      have : s.toNat ≠ layout.sno.toNat := fun heq => hs (UInt32.toNat_inj.mp heq)
      omega
    -- a serial of at most 1 has no earlier one after start 0
    obtain ⟨u, hstored, hslot⟩ := h.slots s (by omega) (by omega) (by omega)
    refine ⟨u, (if_neg hs).trans hstored, hslot.congr (Nat.le_refl _) ?_⟩
    refine Disk.read_write_of_disjoint d ?_
    rw [length_slotBytes layout hfits]
    exact entAt_disjoint (slotOf_ne (by omega) hlt hturn) _

/-- The slot the new first serial is read from, once the ring is full: one turn behind. -/
theorem slotOf_first (hs : s.toNat + entries.toNat = layout.sno.toNat + 1) (hspos : 0 < s.toNat) :
    slotOf entries s = (layout.sno % entries).toNat := by
  rw [slotOf_eq entries hspos, UInt32.toNat_mod]
  have hsno : layout.sno.toNat = s.toNat - 1 + entries.toNat := by omega
  rw [hsno, Nat.add_mod_right]

/-- The first serial of a full ring does not fall below `start`. -/
theorem start_le_first_of_full (h : Ring entries stored d hdr start)
    (hstart : (start' = 0 ∧ layout.sno.toNat ≤ 1) ∨
      (start' = start ∧ layout.sno.toNat = hdr.lastSno.toNat + 1))
    (hwalk : walk update = .ok layout) (hshort : update.length < 2 ^ 32)
    (hfits : entHdrLen + update.length ≤ hdr.block.toNat) (hpos : 0 < entries.toNat)
    (hfull : entries.toNat ≤ hdr.num.toNat) :
    start' ≤ (entHeader (after d [putAct entries hdr layout update])
      (layout.sno % entries).toNat hdr.block.toNat).sno.toNat := by
  by_cases hzero : start' = 0
  · omega
  -- the entry the bound is read from is the one a turn behind, and it is in the ring
  have hnum : hdr.num.toNat ≤ hdr.lastSno.toNat - start + 1 := by
    rcases h.num_le with hz | hnum
    · omega
    · exact hnum
  have hlast := h.start_le_last
  have hsno := layout.sno.toNat_lt
  set s := UInt32.ofNat (layout.sno.toNat + 1 - entries.toNat) with hs
  have hsn : s.toNat = layout.sno.toNat + 1 - entries.toNat := by
    rw [hs, UInt32.toNat_ofNat_of_lt' (by show _ < 2 ^ 32; omega)]
  obtain ⟨u, _, hslot⟩ := slots_of_put h hstart hwalk hshort hfits (s := s) (by omega) (by omega)
    (by omega)
  obtain ⟨time, hdecode⟩ := hslot.decode
  rw [← slotOf_first (s := s) (by omega) (by omega), entHeader, hdecode]
  show start' ≤ s.toNat
  omega

/-- **The write of the next slot keeps the ring.** -/
theorem Ring.advance (h : Ring entries stored d hdr start)
    (hnext : layout.sno.toNat = hdr.lastSno.toNat + 1 ∨ layout.sno.toNat ≤ 1)
    (hwalk : walk update = .ok layout) (hshort : update.length < 2 ^ 32)
    (hfits : entHdrLen + update.length ≤ hdr.block.toNat) (hpos : 0 < entries.toNat) :
    ∃ start', Ring entries (storeUnder stored layout.sno update)
      (after d [putAct entries hdr layout update])
      (Ulog.advance entries (after d [putAct entries hdr layout update]) hdr layout) start' := by
  obtain ⟨start', hle, hlast, hstart⟩ := start_of_next h hnext
  have hfirst := h.start_le_first
  have hold := h.start_le_last
  have hslots : ∀ s : UInt32, start' < s.toNat → s.toNat ≤ layout.sno.toNat →
      layout.sno.toNat < s.toNat + entries.toNat → _ :=
    fun s => slots_of_put h hstart hwalk hshort hfits (s := s)
  refine ⟨start', ?_⟩
  by_cases hroom : hdr.num < entries
  · rw [advance_of_room _ _ h.num_ne hroom]
    have hlt := UInt32.lt_iff_toNat_lt.mp hroom
    have hnum : (hdr.num + 1).toNat = hdr.num.toNat + 1 :=
      toNat_add_one (by have := entries.toNat_lt; omega)
    refine ⟨fun hzero => ?_, hlast, Nat.le_trans hle hfirst, ?_, hslots⟩
    · rw [show hdr.num + 1 = 0 from hzero, UInt32.toNat_zero] at hnum
      omega
    · show start' = 0 ∨ (hdr.num + 1).toNat ≤ layout.sno.toNat - start' + 1
      have := h.num_le
      omega
  · rw [advance_of_full _ _ h.num_ne hroom]
    have hfull : entries.toNat ≤ hdr.num.toNat :=
      Nat.not_lt.mp fun hlt => hroom (UInt32.lt_iff_toNat_lt.mpr hlt)
    refine ⟨h.num_ne, hlast, ?_, ?_, hslots⟩
    · exact start_le_first_of_full h hstart hwalk hshort hfits hpos hfull
    · show start' = 0 ∨ hdr.num.toNat ≤ layout.sno.toNat - start' + 1
      have := h.num_le
      omega

end Put

/-- **Storing the next update keeps the ring**, with the update as the one stored under its
serial. -/
theorem Ring.putEntry {update : Str} {layout : IncrLayout} {put : Work}
    (h : Ring entries stored d hdr start) (hpos : 0 < entries.toNat)
    (hput : putEntry entries d hdr update = .ok put) (hwalk : walk update = .ok layout)
    (hnext : layout.sno.toNat = hdr.lastSno.toNat + 1 ∨ layout.sno.toNat ≤ 1) :
    ∃ start', Ring entries (storedBy stored put.acts) (after d put.acts) put.hdr start' := by
  obtain ⟨layout', room, hwalk', hshort, _, hgrown, hfits, hacts, hhdr⟩ := putEntry_ok hput
  obtain rfl : layout' = layout := Except.ok.inj (hwalk'.symm.trans hwalk)
  have hroom : Ring entries stored (after d room.acts) room.hdr start := h.grown hpos hgrown
  have hlast : room.hdr.lastSno = hdr.lastSno := by rw [hgrown.eq]
  obtain ⟨start', hring⟩ := hroom.advance (by rw [hlast]; exact hnext) hwalk hshort hfits hpos
  have hstored : storedBy stored put.acts = storeUnder stored layout'.sno update := by
    rw [hacts, storedBy_append, storedBy_of_isFile stored hgrown.files]
    rfl
  refine ⟨start', ?_⟩
  rw [hstored, hhdr, hacts, after_append, after_append]
  exact hring

/-! ### Which answers have entries -/

theorem snoStatus_ok {last : UlogLast} (h : snoStatus entries d hdr last = .ok) :
    ¬ (last.sno = hdr.lastSno ∧ last.time = hdr.lastTime) ∧ last.sno.toNat ≤ hdr.lastSno.toNat ∧
      hdr.firstSno.toNat ≤ last.sno.toNat ∧ checkSno entries d hdr last.sno last.time = true := by
  unfold snoStatus at h
  split at h
  · cases h
  rename_i hnil
  split at h
  · cases h
  rename_i hbounds
  split at h
  · cases h
  rename_i hcheck
  have hhi : ¬ last.sno > hdr.lastSno := fun hgt => hbounds (.inr (.inl hgt))
  have hlo : ¬ last.sno < hdr.firstSno := fun hlt => hbounds (.inr (.inr hlt))
  refine ⟨hnil, ?_, ?_, by simpa using hcheck⟩
  · exact UInt32.le_iff_toNat_le.mp (UInt32.not_lt.mp hhi)
  · exact UInt32.le_iff_toNat_le.mp (UInt32.not_lt.mp hlo)

/-- A file that holds a log just reset: the fresh header, and its dummy in the first slot. -/
structure IsFresh (d : Disk) (now : UlogTime) : Prop where
  hdr : header d = (reset 1 now).hdr
  dummy : entHeader d 0 ulogBlock.toNat = { umagic := kdbUlogMagic, sno := 1, time := now }

theorem slotOf_one (entries : UInt32) : slotOf entries 1 = 0 := by
  rw [slotOf_eq entries (by decide)]
  exact Nat.zero_mod _

/-- The only serial of a fresh log is the one of its dummy, so nothing is sent from it. -/
theorem IsFresh.snoStatus_ne {now : UlogTime} (h : IsFresh d now) (entries : UInt32)
    (last : UlogLast) : snoStatus entries d (reset 1 now).hdr last ≠ .ok := by
  intro hok
  obtain ⟨hnil, hhi, hlo, hcheck⟩ := snoStatus_ok hok
  have hsno : last.sno = 1 := by
    apply UInt32.toNat_inj.mp
    have hlast : (reset 1 now).hdr.lastSno.toNat = 1 := rfl
    have hfirst : (reset 1 now).hdr.firstSno.toNat = 1 := rfl
    have hone : (1 : UInt32).toNat = 1 := rfl
    omega
  rw [checkSno, hsno, slotOf_one] at hcheck
  have hent : entHeader d 0 (reset 1 now).hdr.block.toNat = _ := h.dummy
  rw [hent] at hcheck
  have htime : now = last.time := by simpa using hcheck
  exact hnil ⟨hsno, htime.symm⟩

theorem isFresh_reset (entries : UInt32) (d : Disk) (now : UlogTime) :
    IsFresh (after d (reset entries now).acts) now := by
  have hafter : after d (reset entries now).acts =
      (d.write (entAt (slotOf entries 1) ulogBlock.toNat)
        ({ umagic := kdbUlogMagic, sno := 1, time := now } : EntHeader).encode).write 0
          (reset entries now).hdr.encode := rfl
  rw [hafter, slotOf_one]
  refine ⟨header_write _ _, ?_⟩
  rw [entHeader, Disk.read_write_of_disjoint _ (.inr ?_)]
  · have hself := d.read_write_self (entAt 0 ulogBlock.toNat)
      ({ umagic := kdbUlogMagic, sno := 1, time := now } : EntHeader).encode
    have hlen : ({ umagic := kdbUlogMagic, sno := 1, time := now } : EntHeader).encode.length =
        entHdrLen := rfl
    rw [hlen] at hself
    rw [hself, entHeader_decode_encode]
  · rw [length_encode, Nat.zero_add]
    exact hdrLen_le_entAt 0 _

/-! ### Reading the entries -/

/-- What a replica is sent for an update: the update with its commit word set. -/
def Sent (update sent : Str) : Prop :=
  ∃ layout, walk update = .ok layout ∧ sent = patchCommit layout true update

theorem readEntry_ok {block : Nat} {sent : Str} (h : readEntry entries d block sno = .ok sent) :
    let index := (sno % entries).toNat
    let ent := entHeader d index block
    ent.sno = sno + 1 ∧ ∃ layout,
      walk (d.read (entAt index block + entDataAt) ent.size.toNat) = .ok layout ∧
        sent = patchCommit layout ent.commit
          (d.read (entAt index block + entDataAt) ent.size.toNat) := by
  obtain ⟨hsno, h⟩ := rejectIf_bind_ok h
  obtain ⟨_, h⟩ := rejectIf_bind_ok h
  obtain ⟨layout, hwalk, h⟩ := bind_ok h
  exact ⟨by simpa using hsno, layout, hwalk, (Except.ok.inj h).symm⟩

/-- Every serial after `start` shares its slot with one that the ring still holds. -/
theorem exists_held (entries s last : UInt32) (hpos : 0 < entries.toNat)
    (hs : 0 < s.toNat) (hle : s.toNat ≤ last.toNat) :
    ∃ t : UInt32, s.toNat ≤ t.toNat ∧ t.toNat ≤ last.toNat ∧
      last.toNat < t.toNat + entries.toNat ∧ slotOf entries t = slotOf entries s := by
  set k := (last.toNat - s.toNat) / entries.toNat with hk
  have hdiv : entries.toNat * k + (last.toNat - s.toNat) % entries.toNat =
      last.toNat - s.toNat := Nat.div_add_mod _ _
  have hmod := Nat.mod_lt (last.toNat - s.toNat) hpos
  have hlast := last.toNat_lt
  have ht : (UInt32.ofNat (s.toNat + entries.toNat * k)).toNat =
      s.toNat + entries.toNat * k := UInt32.toNat_ofNat_of_lt' (by show _ < 2 ^ 32; omega)
  refine ⟨UInt32.ofNat (s.toNat + entries.toNat * k), by omega, by omega, by omega, ?_⟩
  rw [slotOf_eq entries (by omega), slotOf_eq entries hs, ht,
    show s.toNat + entries.toNat * k - 1 = s.toNat - 1 + entries.toNat * k by omega,
    Nat.add_mul_mod_self_left]

/-- One pass of the loop sends what was stored under the next serial. -/
theorem Ring.readEntry (h : Ring entries stored d hdr start) (hpos : 0 < entries.toNat)
    {sent : Str} (hlo : start ≤ sno.toNat) (hhi : sno.toNat < hdr.lastSno.toNat)
    (hread : Ulog.readEntry entries d hdr.block.toNat sno = .ok sent) :
    ∃ update, stored (sno + 1) = some update ∧ Sent update sent := by
  obtain ⟨hsno, layout, hwalk, hsent⟩ := readEntry_ok hread
  have hlast := hdr.lastSno.toNat_lt
  have hnext : (sno + 1).toNat = sno.toNat + 1 := toNat_add_one (by omega)
  have hindex : (sno % entries).toNat = slotOf entries (sno + 1) := by
    rw [slotOf_eq entries (by omega), UInt32.toNat_mod, hnext, Nat.add_sub_cancel]
  -- the slot holds the latest serial that has it, so the check on the serial decides which one
  obtain ⟨t, hst, htl, hturn, hslotOf⟩ :=
    exists_held entries (sno + 1) hdr.lastSno hpos (by omega) (by omega)
  obtain ⟨update, hstored, hslot⟩ := h.slots t (by omega) htl hturn
  rw [hslotOf, ← hindex] at hslot
  obtain ⟨time, hdecode⟩ := hslot.decode
  have hent : entHeader d (sno % entries).toNat hdr.block.toNat = _ := hdecode
  rw [hent] at hsno hwalk hsent
  obtain rfl : t = sno + 1 := hsno
  have hsize : (UInt32.ofNat update.length).toNat = update.length :=
    UInt32.toNat_ofNat_of_lt' hslot.short
  simp only [hsize, hslot.read_update] at hwalk hsent
  exact ⟨update, hstored, layout, hwalk, hsent⟩

/-- **The loop of `get_entries` sends what was stored**, serial by serial. -/
theorem Ring.readEntries (h : Ring entries stored d hdr start) (hpos : 0 < entries.toNat)
    (n : Nat) {sent : List Str} (hlo : start ≤ sno.toNat)
    (hhi : sno.toNat + n ≤ hdr.lastSno.toNat)
    (hread : Ulog.readEntries entries d hdr.block.toNat n sno = .ok sent) :
    sent.length = n ∧ ∀ i : Nat, ∀ one, sent[i]? = some one →
      ∃ update, stored (sno + 1 + UInt32.ofNat i) = some update ∧ Sent update one := by
  induction n generalizing sno sent with
  | zero =>
    obtain rfl : [] = sent := Except.ok.inj hread
    exact ⟨rfl, fun i one hone => nomatch hone⟩
  | succ n ih =>
    obtain ⟨first, hfirst, hread⟩ := bind_ok hread
    obtain ⟨rest, hrest, hread⟩ := bind_ok hread
    obtain rfl : first :: rest = sent := Except.ok.inj hread
    have hlast := hdr.lastSno.toNat_lt
    have hnext : (sno + 1).toNat = sno.toNat + 1 := toNat_add_one (by omega)
    obtain ⟨hlen, hall⟩ := ih (by omega) (by omega) hrest
    refine ⟨congrArg (· + 1) hlen, ?_⟩
    intro i one hone
    cases i with
    | zero =>
      obtain rfl : first = one := Option.some.inj hone
      rw [show sno + 1 + UInt32.ofNat 0 = sno + 1 from UInt32.add_zero _]
      exact h.readEntry hpos hlo (by omega) hfirst
    | succ i =>
      have hserial : sno + 1 + 1 + UInt32.ofNat i = sno + 1 + UInt32.ofNat (i + 1) := by
        rw [UInt32.add_assoc (sno + 1), UInt32.add_comm 1, UInt32.ofNat_add]
        rfl
      rw [← hserial]
      exact hall i one hone

end Kerber.Ulog
