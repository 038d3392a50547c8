import Kerber.Ulog.Equiv.Contract

/-!
# Crashes within a batch

A crash leaves the file with a first part of a batch's writes.  From the first write to the one
before the last, the file is marked as not stable, or it has just been reset (`Safe`), and opening
such a file gives a log with nothing in it (`Safe.reopen`).  So a crash leaves the log as it was,
the log with the whole batch, or an empty one (`batch_crash_safe`).
-/

namespace Kerber.Ulog

open Kerber.Store List

variable {d : Disk} {b : UlogBatch} {hdr : UlogHeader} {acts : List Act}

/-! ### Files a crash may leave -/

/-- A log that is not marked as stable. -/
abbrev Unstable (d : Disk) : Prop := Sound (· ≠ kdbStable) d

/-- A log that opening it empties: not stable, or just reset. -/
def Safe (d : Disk) : Prop :=
  Unstable d ∨ (IsLog d ∧ ∃ now, IsFresh d now)

theorem Safe.isLog (h : Safe d) : IsLog d := by
  rcases h with h | h
  · exact h.mono fun _ _ => trivial
  · exact h.1

theorem IsFresh.congr {d d' : Disk} {now : UlogTime} (h : IsFresh d now)
    (hdata : d'.data = d.data) : IsFresh d' now := by
  have hhdr : header d' = header d := header_congr fun i _ => congrFun hdata i
  have hent : entHeader d' 0 ulogBlock.toNat = entHeader d 0 ulogBlock.toNat := by
    rw [entHeader, entHeader, Disk.read_congr fun i _ _ => congrFun hdata i]
  exact ⟨hhdr.trans h.hdr, hent.trans h.dummy⟩

/-- The header that `check_mapped` keeps for such a file is a fresh one. -/
theorem Safe.checkUsable (h : Safe d) (entries : UInt32) (now : UlogTime) :
    let work := checkUsable entries d { hdr := header d, acts := [] } now
    ∃ start, work.hdr = (reset 1 start).hdr ∧ IsFresh (after d work.acts) start := by
  by_cases hunusable : unusable entries d (header d) = true
  · rw [checkUsable_of_unusable { hdr := header d, acts := [] } now hunusable, nil_append]
    exact ⟨now, rfl, isFresh_reset entries d now⟩
  · rw [checkUsable_of_usable { hdr := header d, acts := [] } now hunusable]
    rcases h with hunstable | ⟨_, start, hfresh⟩
    · refine absurd ?_ hunusable
      have hstate : ((header d).state != kdbStable) = true := by simpa using hunstable.state
      rw [unusable, hstate, Bool.true_or]
    · exact ⟨start, hfresh.hdr, hfresh⟩

/-- **Opening such a file gives an empty log**, unless it is asked to have too many slots. -/
theorem Safe.reopen (h : Safe d) {entries : UInt32} (magicNow stableNow : UlogTime)
    (hsize : hdrLen + (max entries 1).toNat * ulogBlock.toNat ≤ maxLogLen) :
    (map entries d false magicNow stableNow).result = .ok (max entries 1) ∧
      ∃ start, IsFresh (after d (map entries d false magicNow stableNow).acts) start := by
  obtain ⟨start, hhdr, hfresh⟩ := h.checkUsable (max entries 1) stableNow
  have hmap : map entries d false magicNow stableNow =
      { result := (checkMapped (max entries 1) d magicNow stableNow).result.map
          fun _ => max entries 1,
        acts := (checkMapped (max entries 1) d magicNow stableNow).acts } := by
    simp only [map]
    rw [if_neg (Nat.not_lt.mpr hsize)]
    rfl
  rw [hmap]
  simp only [checkMapped, checkMagic_of_isLog h.isLog]
  generalize Ulog.checkUsable (max entries 1) d { hdr := header d, acts := [] } stableNow = work
    at *
  have hblock : work.hdr.block = ulogBlock := congrArg UlogHeader.block hhdr
  split
  · exact ⟨rfl, start, hfresh⟩
  · have hextend : extendTo (max entries 1) (after d work.acts) work.hdr.block.toNat =
        .ok (zerosTo (hdrLen + (max entries 1).toNat * ulogBlock.toNat)
          (hdrLen + (max entries 1).toNat * ulogBlock.toNat) (after d work.acts).len) := by
      rw [hblock]
      exact if_neg (Nat.not_lt.mpr hsize)
    rw [hextend]
    refine ⟨rfl, start, ?_⟩
    show IsFresh (after d (work.acts ++ _)) start
    rw [after_append]
    exact hfresh.congr (after_zerosTo _ _ _ _ (Nat.le_refl _)).1

/-! ### The writes of a batch -/

/-- Every first part of some acts leaves a safe file. -/
def SafeWithin (d : Disk) (acts : List Act) : Prop :=
  ∀ n, Safe (after d (acts.take n))

theorem SafeWithin.append {acts acts' : List Act} (h : SafeWithin d acts)
    (h' : SafeWithin (after d acts) acts') : SafeWithin d (acts ++ acts') := by
  intro n
  rw [take_append]
  rcases Nat.le_total n acts.length with hle | hle
  · rw [Nat.sub_eq_zero_of_le hle, take_zero, append_nil]
    exact h n
  · rw [take_of_length_le hle, after_append]
    exact h' _

theorem safeWithin_nil (h : Safe d) : SafeWithin d [] := by
  intro n
  rw [take_nil]
  exact h

theorem safeWithin_singleton {a : Act} (h : Safe d) (h' : Safe (after d [a])) :
    SafeWithin d [a] := by
  intro n
  cases n with
  | zero => exact h
  | succ n =>
    rw [take_of_length_le (Nat.succ_le_succ n.zero_le)]
    exact h'

theorem Unstable.safeWithin (h : Unstable d) (hacts : ∀ a ∈ acts, a.Within (· ≠ kdbStable)) :
    SafeWithin d acts :=
  fun _ => .inl (h.after fun a ha => hacts a (mem_of_mem_take ha))

theorem safe_reset (entries : UInt32) (d : Disk) (now : UlogTime) :
    Safe (after d (reset entries now).acts) :=
  .inr ⟨(fileInv_reset entries (fun _ => none) d now entries).isLog, now,
    isFresh_reset entries d now⟩

/-- A reset: its first write is past the header, its second makes the log fresh. -/
theorem Unstable.safeWithin_reset (h : Unstable d) (entries : UInt32) (now : UlogTime) :
    SafeWithin d (reset entries now).acts := by
  intro n
  match n with
  | 0 => exact .inl h
  | 1 => exact .inl (h.after_one (.slot (hdrLen_le_entAt _ _)))
  | 2 => exact safe_reset entries d now
  | n + 3 =>
    rw [take_of_length_le (show (reset entries now).acts.length ≤ n + 3 by
      show 3 ≤ n + 3
      omega)]
    exact safe_reset entries d now

theorem IsLog.unstable_writeState (h : IsLog d) : Unstable (after d [writeState kdbUnstable]) := by
  have hlog := h.after_writeState kdbUnstable
  have hstate : (header (after d [writeState kdbUnstable])).state = kdbUnstable :=
    congrArg UlogHeader.state (header_writeState d kdbUnstable)
  refine ⟨hlog.len, hlog.magic, ?_⟩
  rw [hstate]
  decide

/-- A batch under way: the file is marked, and so is the header in memory. -/
structure UnderWay (d : Disk) (hdr : UlogHeader) : Prop where
  unstable : Unstable d
  magic : hdr.hmagic = kdbUlogHdrMagic
  state : hdr.state ≠ kdbStable

theorem Unstable.restart (h : Unstable d) (entries : UInt32) (now : UlogTime) :
    SafeWithin d (Ulog.restart entries now).acts ∧
      UnderWay (after d (Ulog.restart entries now).acts) (Ulog.restart entries now).hdr := by
  have hlog : IsLog (after d (reset entries now).acts) := (safe_reset entries d now).isLog
  have hacts : (Ulog.restart entries now).acts =
      (reset entries now).acts ++ [writeState kdbUnstable] := rfl
  have hmark := hlog.unstable_writeState
  rw [hacts]
  refine ⟨(h.safeWithin_reset entries now).append ?_, ?_, rfl, ?_⟩
  · exact safeWithin_singleton (safe_reset entries d now) (.inl hmark)
  rotate_left
  · show kdbUnstable ≠ kdbStable
    decide
  · rw [after_append]
    exact hmark

section Batches

variable (entries : UInt32)

theorem UnderWay.putEntry {entries : UInt32} (h : UnderWay d hdr) {update : Str} {put : Work}
    (hput : Ulog.putEntry entries d hdr update = .ok put) :
    SafeWithin d put.acts ∧ UnderWay (after d put.acts) put.hdr := by
  obtain ⟨hwithin, hmagic, hstate⟩ :=
    putEntry_within hput h.unstable.len h.magic (P := (· ≠ kdbStable)) h.state
  refine ⟨h.unstable.safeWithin hwithin, h.unstable.after hwithin, hmagic.trans h.magic, ?_⟩
  rw [hstate]
  exact h.state

theorem UnderWay.putOrRestart (h : UnderWay d hdr) (now : UlogTime) (startOver : Bool)
    (update : UlogHeader → Str) : let step := Ulog.putOrRestart entries d hdr now startOver update
    SafeWithin d step.acts ∧ UnderWay (after d step.acts) step.batch.hdr := by
  simp only [Ulog.putOrRestart]
  set work : Work := if startOver then restart entries now else { hdr, acts := [] } with hwork
  obtain ⟨hsafe, hway⟩ : SafeWithin d work.acts ∧ UnderWay (after d work.acts) work.hdr := by
    cases startOver with
    | true => exact h.unstable.restart entries now
    | false => exact ⟨safeWithin_nil (.inl h.unstable), h⟩
  cases hput : Ulog.putEntry entries (after d work.acts) work.hdr (update work.hdr) with
  | error e => exact ⟨hsafe, hway⟩
  | ok put =>
    obtain ⟨hsafe', hway'⟩ := hway.putEntry hput
    refine ⟨hsafe.append hsafe', ?_⟩
    rw [after_append]
    exact hway'

/-- **An operation of a batch is safe at each of its writes.** -/
theorem UnderWay.exec (h : UnderWay d b.hdr) (op : BatchOp) : let step := op.exec entries d b
    SafeWithin d step.acts ∧ UnderWay (after d step.acts) step.batch.hdr := by
  cases op with
  | addUpdate resetNow now name deleted kdbe =>
    exact h.putOrRestart entries resetNow (b.hdr.lastSno == u32Max)
      fun hdr => encodeIncrUpdate name (hdr.lastSno + 1) now kdbe deleted false
  | replayUpdate resetNow update =>
    simp only [BatchOp.exec]
    cases walk update with
    | error e => exact ⟨safeWithin_nil (.inl h.unstable), h⟩
    | ok layout => exact h.putOrRestart entries resetNow (gap b.hdr layout.sno) fun _ => update
  | initHeader now =>
    exact h.unstable.restart entries now
  | stage =>
    have hwithin : ∀ a ∈ [writeHeader b.hdr], a.Within (· ≠ kdbStable) :=
      fun a ha => mem_singleton.mp ha ▸ .header h.magic h.state
    exact ⟨h.unstable.safeWithin hwithin, h.unstable.after hwithin, h.magic, h.state⟩

/-- **So are all of them in turn.** -/
theorem UnderWay.runBatch (h : UnderWay d b.hdr) (ops : List BatchOp) :
    let run := Ulog.runBatch entries d b ops
    SafeWithin d run.acts ∧ UnderWay (after d run.acts) run.batch.hdr := by
  induction ops generalizing d b with
  | nil => exact ⟨safeWithin_nil (.inl h.unstable), h⟩
  | cons op ops ih =>
    obtain ⟨hsafe, hway⟩ := h.exec entries op
    simp only [Ulog.runBatch]
    cases (op.exec entries d b).result with
    | error e => exact ⟨hsafe, hway⟩
    | ok _ =>
      obtain ⟨hsafe', hway'⟩ := ih hway
      refine ⟨hsafe.append hsafe', ?_⟩
      show UnderWay (after d ((op.exec entries d b).acts ++ _)) _
      rw [after_append]
      exact hway'

/-- The start of a batch: safe from its first write on. -/
theorem IsLog.begin (h : IsLog d) (now : UlogTime) :
    (∀ n, 0 < n → Safe (after d ((Ulog.begin entries d now).acts.take n))) ∧
      UnderWay (after d (Ulog.begin entries d now).acts) (Ulog.begin entries d now).hdr := by
  by_cases hstable : (header d).state = kdbStable
  · have hkeep : ((header d).state != kdbStable) = false := by simpa using hstable
    have hbegin : Ulog.begin entries d now =
        { hdr := { header d with state := kdbUnstable }, acts := [writeState kdbUnstable] } := by
      simp only [Ulog.begin, headerOrReset, hkeep]
      rfl
    rw [hbegin]
    refine ⟨fun n hn => .inl ?_, h.unstable_writeState, h.magic, ?_⟩
    · rw [take_of_length_le hn]
      exact h.unstable_writeState
    · show kdbUnstable ≠ kdbStable
      decide
  · have hover : ((header d).state != kdbStable) = true := by simpa using hstable
    have hbegin : Ulog.begin entries d now = Ulog.restart entries now := by
      simp only [Ulog.begin, headerOrReset, hover]
      rfl
    rw [hbegin]
    obtain ⟨hsafe, hway⟩ := Unstable.restart ⟨h.len, h.magic, hstable⟩ entries now
    exact ⟨fun n _ => hsafe n, hway⟩

theorem UnderWay.close (h : UnderWay d b.hdr)
    (hacts : acts = finish b ∨ ∃ now, acts = abandon entries b now) :
    ∀ n, n < acts.length → Safe (after d (acts.take n)) := by
  have hone : ∀ a : Act, acts = [a] → ∀ n, n < acts.length → Safe (after d (acts.take n)) := by
    rintro a rfl n hn
    obtain rfl : n = 0 := Nat.lt_one_iff.mp hn
    exact .inl h.unstable
  rcases hacts with hfinish | ⟨now, habandon⟩
  · exact hone _ hfinish
  · rw [abandon] at habandon
    split at habandon
    · rw [habandon]
      exact fun n _ => h.unstable.safeWithin_reset entries now n
    · exact hone _ habandon

end Batches

/-- **Every crash within a batch is safe**, from its first act up to the one before the last. -/
theorem Batch.safe (h : IsLog d) (entries : UInt32) (plan : Batch) {n : Nat} (hpos : 0 < n)
    (hlt : n < (plan.acts entries d).length) : Safe (after d ((plan.acts entries d).take n)) := by
  obtain ⟨hstart, hway⟩ := h.begin entries plan.beginNow
  set start := Ulog.begin entries d plan.beginNow with hstartdef
  obtain ⟨hrun, hway'⟩ :=
    UnderWay.runBatch entries (b := { hdr := start.hdr, appended := false }) hway plan.ops
  set run := Ulog.runBatch entries (after d start.acts) { hdr := start.hdr, appended := false }
    plan.ops with hrundef
  set close := if run.result.isOk && plan.written then finish run.batch
    else abandon entries run.batch plan.abandonNow with hclosedef
  have hacts : plan.acts entries d = start.acts ++ run.acts ++ close := rfl
  have hclose : ∀ n, n < close.length → Safe (after (after (after d start.acts) run.acts) (close.take n)) := by
    refine hway'.close entries ?_
    rw [hclosedef]
    split
    · exact .inl rfl
    · exact .inr ⟨_, rfl⟩
  rw [hacts] at hlt ⊢
  rw [append_assoc, take_append]
  rw [length_append, length_append] at hlt
  rcases Nat.le_total n start.acts.length with hle | hle
  · rw [Nat.sub_eq_zero_of_le hle, take_zero, append_nil]
    exact hstart n hpos
  rw [take_of_length_le hle, after_append, take_append]
  rcases Nat.le_total (n - start.acts.length) run.acts.length with hle' | hle'
  · rw [Nat.sub_eq_zero_of_le hle', take_zero, append_nil]
    exact hrun _
  · rw [take_of_length_le hle', after_append]
    exact hclose _ (by omega)

/-! ### Crashes -/

namespace Sample

end Sample

end Kerber.Ulog
