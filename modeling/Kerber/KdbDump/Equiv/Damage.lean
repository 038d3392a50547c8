import Kerber.KdbDump.Equiv.Append

/-!
# A damaged batch before others

A batch that does not check is taken for an append that was cut short, unless another batch begins
behind it.  `damaged_batch_reported_iff` says when the batches behind a damaged one are noticed: the
text is refused, or all of them are applied, unless the damage leaves its batch open and exactly one
batch follows, which the open one then swallows.
-/

namespace Kerber

open List Reader Mode

variable {applied : Option Nat} {records : List Line} {n pos no : Nat} {f : Fold}
variable {r : Reader} {d : DumpFile} {start : Line} {raws : List (Str × Bool)} {stop : Nat}
  {pre post : List Line} {version : Nat} {line : Line}

/-! ### Where a batch was left open -/

/-- The reader is inside a batch that began before a place, or gave one up. -/
def Reader.StuckBefore (n : Nat) (r : Reader) : Prop :=
  match r.mode with
  | .batch _ start _ _ => start.start < n
  | .failed _ start => start.start < n
  | _ => False

instance (n : Nat) (r : Reader) : Decidable (r.StuckBefore n) := by
  unfold StuckBefore
  split <;> infer_instance

/-! ### The text -/

/-- A batch that `journal_batch` writes for some store and ids, and its operations. -/
def Journaled (batch : Str) (ops : List JournalOp) : Prop :=
  ∃ env s mkey ids, journalBatch env s mkey ids = .ok batch ∧
    journalChanges env s mkey ids = .ok ops ∧ ∀ op ∈ ops, op.Storable

theorem Journaled.readable {batch : Str} {ops : List JournalOp} (h : Journaled batch ops) :
    batch = batchText ops ∧ ∀ op ∈ ops, op.Readable := by
  obtain ⟨env, s, mkey, ids, hbatch, hops, hfit⟩ := h
  obtain ⟨ops', hops', rfl⟩ := journalBatch_ok hbatch
  obtain rfl : ops' = ops := Except.ok.inj (hops'.symm.trans hops)
  exact ⟨rfl, readable_of_journalChanges hops hfit⟩

def batchesText (later : List (Str × List JournalOp)) : Str :=
  later.flatMap Prod.fst

def batchesOps (later : List (Str × List JournalOp)) : List JournalOp :=
  later.flatMap Prod.snd

/-- The checksum tells the damage: no batch that begins between two places of the text checks. -/
def ChecksumsCatch (text : Str) (lo hi : Nat) : Prop :=
  ∀ front raw back, rawLines text = front ++ raw :: back →
    ∀ f start body records crc, (run {} front).mode = .batch f start body records →
      lo ≤ start.start → start.start < hi → raw.2 = true →
      stripPrefix journalEnd (stripSuffix carriageReturn raw.1) = some crc →
      parseNat 16 u32Limit crc ≠ some (crc32 body).toNat

/-- Every batch of some is applied, whatever was read before them, and with them the whole text. -/
def LaterApplied (text : Str) (later : List (Str × List JournalOp)) : Prop :=
  ∃ d, parseDump text = .ok d ∧ d.appliedLen = text.length ∧
    ∃ entries, lookupPrinc d.princs = (batchesOps later).foldl JournalOp.override entries

/-! ### Intact batches -/

/-- **Batches between records are all applied.** -/
theorem run_batchesText {later : List (Str × List JournalOp)}
    (h : ∀ b ∈ later, Journaled b.1 b.2) (no pos version : Nat) (f : Fold) (applied : Option Nat)
    (hne : later ≠ []) :
    ∃ no', run ⟨no, pos, version, .plain f applied⟩ (rawLines (batchesText later))
      = ⟨no', pos + (batchesText later).length, version,
         .plain ((batchesOps later).foldl Fold.after f)
           (some (pos + (batchesText later).length))⟩ := by
  induction later generalizing no pos f applied with
  | nil => exact absurd rfl hne
  | cons b later ih =>
    obtain ⟨batch, ops⟩ := b
    have hb : Journaled batch ops := h _ mem_cons_self
    obtain ⟨rfl, hread⟩ := hb.readable
    have htext : batchesText ((batchText ops, ops) :: later) = batchText ops ++ batchesText later :=
      flatMap_cons
    have hops : batchesOps ((batchText ops, ops) :: later) = ops ++ batchesOps later :=
      flatMap_cons
    rw [htext, hops, rawLines_append (endsLine_batchText ops), run_append, run_batchText hread,
      foldl_append, length_append, ← Nat.add_assoc]
    by_cases hlater : later = []
    · subst hlater
      exact ⟨_, rfl⟩
    · exact ih (fun x hx => h x (mem_cons_of_mem _ hx)) _ _ _ _ hlater

/-! ### A batch that follows one left open -/

/-- A batch that was given up stays so over lines that are not `begin`. -/
theorem run_failed_inner {lines : List Str}
    (h : ∀ l ∈ lines, stripSuffix carriageReturn l ≠ journalBegin) (no pos version : Nat) (f : Fold)
    (start : Line) :
    (run ⟨no, pos, version, .failed f start⟩ (lines.map fun l => (l, true)))
      = ⟨no + lines.length, pos + (unlines lines).length, version, .failed f start⟩ := by
  induction lines generalizing no pos with
  | nil => rfl
  | cons l lines ih =>
    have hl : (Line.mkAt no pos (l, true)).text ≠ journalBegin := h l mem_cons_self
    have hstop : (Line.mkAt no pos (l, true)).stop = pos + l.length + 1 := rfl
    rw [map_cons, run_cons,
      step_eq no pos version (by simp) (step_failed_other hl),
      ih fun m hm => h m (mem_cons_of_mem _ hm), hstop, length_unlines_cons,
      length_cons]
    congr 1 <;> omega

/-- A batch that is left open, or was given up, is given up at the end of the next one. -/
theorem run_stuck {ops : List JournalOp} (h : ∀ op ∈ ops, op.Readable) (hstuck : r.StuckBefore n)
    (hcheck : ∀ f start body records, r.mode = .batch f start body records →
      parseNat 16 u32Limit (hex8 (crc32 (unlines (ops.map JournalOp.line))).toNat)
        ≠ some (crc32 (body ++ unlines (ops.map JournalOp.line))).toNat) :
    ∃ no pos f start, start.start < n ∧
      r.run ((innerLines ops).map fun l => (l, true)) = ⟨no, pos, r.version, .failed f start⟩ := by
  obtain ⟨no, pos, version, mode⟩ := r
  set lines := ops.map JournalOp.line with hlines
  cases mode with
  | header => cases hstuck
  | plain f applied => cases hstuck
  | error e => cases hstuck
  | failed f start =>
    have hnot : ∀ l ∈ innerLines ops, stripSuffix carriageReturn l ≠ journalBegin := fun l hl =>
      strip_ne_begin (head?_ne_of_mem_innerLines hl)
    exact ⟨_, _, f, start, hstuck, run_failed_inner hnot no pos version f start⟩
  | batch f start body records =>
    have hinner : ∀ l ∈ lines, Inner l := fun l hl => inner_of_mem h hl
    have hclose : (batch f start (body ++ unlines lines)
        (records ++ numberLines no pos (lines.map fun l => (l, true)))).step
          (Line.mkAt (no + lines.length) (pos + (unlines lines).length)
            (endLine (unlines lines), true)) (unline (endLine (unlines lines), true))
        = .failed f start := by
      rw [step_batch_end rfl (stripPrefix_endLine _), if_neg]
      rw [beq_iff_eq]
      exact hcheck f start body records rfl
    refine ⟨no + lines.length + 1, (Line.mkAt (no + lines.length) (pos + (unlines lines).length)
      (endLine (unlines lines), true)).stop, f, start, hstuck, ?_⟩
    rw [innerLines, map_append, run_append,
      run_batch_inner version f start hinner, map_cons, map_nil, run_cons,
      run_nil, step_eq _ _ version (by simp) hclose]

/-! ### Reading behind the damage -/

section Behind

variable {text base last : Str} (htext : EndsLine (text ++ base)) (hlast : newline ∉ last)

include htext hlast

/-- The first line of a batch is glued to what the damage left of a line. -/
theorem readText_behind_begin :
    readText (text ++ (base ++ last) ++ (journalBegin ++ [newline]))
      = (readText (text ++ base)).step (last ++ journalBegin, true) := by
  have hraw : rawLines (journalBegin ++ [newline]) = [(journalBegin, true)] := by decide
  have hassoc : text ++ (base ++ last) ++ (journalBegin ++ [newline])
      = (text ++ base) ++ (last ++ (journalBegin ++ [newline])) := by simp
  rw [hassoc, readText_append htext, rawLines_glue hlast hraw]
  rfl

theorem rawLines_behind {ops : List JournalOp} (h : ∀ op ∈ ops, op.Readable) (more : Str) :
    rawLines (text ++ (base ++ last) ++ (batchText ops ++ more))
      = rawLines (text ++ base) ++ (last ++ journalBegin, true)
        :: ((innerLines ops).map (fun l => (l, true)) ++ rawLines more) := by
  have hassoc : text ++ (base ++ last) ++ (batchText ops ++ more)
      = (text ++ base) ++ (last ++ (batchText ops ++ more)) := by simp
  rw [hassoc, rawLines_append htext, rawLines_glue hlast (rawLines_batchText_append h more)]

theorem readText_behind {ops : List JournalOp} (h : ∀ op ∈ ops, op.Readable) (more : Str) :
    readText (text ++ (base ++ last) ++ (batchText ops ++ more))
      = ((readText (text ++ (base ++ last) ++ (journalBegin ++ [newline]))).run
          ((innerLines ops).map fun l => (l, true))).run (rawLines more) := by
  rw [readText_behind_begin htext hlast, readText, rawLines_behind htext hlast h,
    run_append, run_cons, run_append]
  rfl

end Behind

/-- **Where the reader is at the `begin` behind the damage**: inside what the damage left open,
between records with the word glued to one, or at the start of an intact batch. -/
theorem step_begin_cases (hplaced : r.Placed) (last : Str) :
    (r.step (last ++ journalBegin, true)).StuckBefore (r.pos + last.length) ∨
      (∃ applied, (r.step (last ++ journalBegin, true)).Settled applied) ∨
      (last = [] ∧ ∃ f applied, r.mode = .plain f applied) := by
  obtain ⟨no, pos, version, mode⟩ := r
  cases mode with
  | header =>
    refine .inr (.inl ⟨none, ?_⟩)
    cases hversion : parseHeader (Line.mkAt no pos (last ++ journalBegin, true)).text with
    | ok v => exact .inl ⟨{}, step_header_ok (unline (last ++ journalBegin, true)) hversion⟩
    | error e =>
      exact .inr ⟨e, step_header_error (unline (last ++ journalBegin, true)) hversion⟩
  | plain f applied =>
    by_cases hbegin : stripSuffix carriageReturn (last ++ journalBegin) = journalBegin
    · refine .inr (.inr ⟨?_, f, applied, rfl⟩)
      by_contra hne
      exact strip_glued_ne_begin hne (show 0 < 5 by decide) hbegin
    · exact .inr (.inl ⟨applied, Settled.step (.inl ⟨f, rfl⟩) hbegin⟩)
  | batch f start body records =>
    have hlt : start.start < pos + last.length := Nat.lt_of_lt_of_le hplaced (Nat.le_add_right _ _)
    cases hend : stripPrefix journalEnd (Line.mkAt no pos (last ++ journalBegin, true)).text with
    | none =>
      rw [step_eq no pos version (by simp) (step_batch_more rfl hend)]
      exact .inl hlt
    | some crc =>
      rw [step_eq no pos version (by simp) (step_batch_end rfl hend)]
      split
      · refine .inr (.inl ⟨some (Line.mkAt no pos (last ++ journalBegin, true)).stop, ?_⟩)
        cases f.recordAll records with
        | ok f' => exact .inl ⟨f', rfl⟩
        | error e => exact .inr ⟨e, rfl⟩
      · exact .inl hlt
  | failed f start =>
    have hlt : start.start < pos + last.length := Nat.lt_of_lt_of_le hplaced (Nat.le_add_right _ _)
    by_cases hbegin : (Line.mkAt no pos (last ++ journalBegin, true)).text = journalBegin
    · rw [step_eq no pos version (by simp) (step_failed_begin hbegin)]
      exact .inr (.inl ⟨none, .inr ⟨_, rfl⟩⟩)
    · rw [step_eq no pos version (by simp) (step_failed_other hbegin)]
      exact .inl hlt
  | error e => exact .inr (.inl ⟨none, .inr ⟨e, rfl⟩⟩)

/-- Between records, the closing line of a batch whose `begin` was lost is an error. -/
theorem error_of_settled {ops : List JournalOp} (h : r.Settled applied) (more : List (Str × Bool))
    (len : Nat) :
    ∃ e, ((r.run ((innerLines ops).map fun l => (l, true))).run more).finish len = .error e := by
  have hfront : (r.run ((ops.map JournalOp.line).map fun l => (l, true))).Settled applied := by
    refine h.run fun raw hraw => ?_
    obtain ⟨l, hl, rfl⟩ := mem_map.mp hraw
    exact strip_ne_begin (head?_ne_of_mem_innerLines (mem_append_left _ hl))
  obtain ⟨e, he⟩ := hfront.step_endLine (unlines (ops.map JournalOp.line))
  refine ⟨e, finish_error (run_error ?_ more) len⟩
  rw [innerLines, map_append, run_append]
  exact he

/-- A `begin` behind a batch that was given up is an error. -/
theorem error_of_failed (no pos version : Nat) (f : Fold) (start : Line) {ops : List JournalOp}
    (h : ∀ op ∈ ops, op.Readable) (more : Str) (len : Nat) :
    ∃ e, (run ⟨no, pos, version, .failed f start⟩
      (rawLines (batchText ops ++ more))).finish len = .error e := by
  have hbegin : (Line.mkAt no pos (journalBegin, true)).text = journalBegin := by rfl
  have hmode : (step ⟨no, pos, version, .failed f start⟩ (journalBegin, true)).mode
      = .error (badLine start.no (str "appended change does not check")) := by
    rw [step_eq no pos version (by simp) (step_failed_begin hbegin)]
  rw [rawLines_batchText_append h, run_cons]
  exact ⟨_, finish_error (run_error hmode _) len⟩

/-! ### Damage that is noticed -/

theorem Reader.Settled.not_stuck (h : r.Settled applied) (n : Nat) : ¬r.StuckBefore n:= by
  obtain ⟨no, pos, version, mode⟩ := r
  rcases h with ⟨f, h⟩ | ⟨e, h⟩
  · obtain rfl : mode = .plain f applied := h
    exact id
  · obtain rfl : mode = .error e := h
    exact id

/-- A batch that begins between records was not left open before its place. -/
theorem begin_not_stuck (hplain : r.mode = .plain f applied) :
    ¬(r.step (journalBegin, true)).StuckBefore r.pos := by
  obtain ⟨no, pos, version, mode⟩ := r
  obtain rfl : mode = .plain f applied := hplain
  have hbegin : (Line.mkAt no pos (journalBegin, true)).text = journalBegin := by rfl
  rw [step_eq no pos version (by simp) (Mode.step_plain_begin hbegin)]
  exact Nat.lt_irrefl pos

section Damaged

variable {text base last : Str} {ops : List JournalOp}
  {more : List (Str × List JournalOp)}

theorem checksum_fails (hT : parseDump text = .ok d) (hd : d.appliedLen = text.length)
    (htext : EndsLine text) (hbase : EndsLine base) (hlast : newline ∉ last)
    (h : ∀ op ∈ ops, op.Readable) {rest : Str}
    (hcatch : ChecksumsCatch (text ++ (base ++ last) ++ (batchText ops ++ rest)) text.length
      (text ++ (base ++ last)).length)
    (hstuck : ((readText (text ++ base)).step (last ++ journalBegin, true)).StuckBefore
      (text ++ (base ++ last)).length) {body : Str}
    (hmode : ((readText (text ++ base)).step (last ++ journalBegin, true)).mode
      = .batch f start body records) :
    parseNat 16 u32Limit (hex8 (crc32 (unlines (ops.map JournalOp.line))).toNat)
      ≠ some (crc32 (body ++ unlines (ops.map JournalOp.line))).toNat := by
  set lines := ops.map JournalOp.line with hlines
  -- the batch began behind the part that was read well
  obtain ⟨no, version, f₀, applied, hread, _⟩ := readText_of_applied hT hd
  have hstep : (readText (text ++ base)).step (last ++ journalBegin, true)
      = (readText text).run (rawLines base ++ [(last ++ journalBegin, true)]) := by
    rw [readText_append htext, run_append]
    rfl
  have hfrom : ((readText (text ++ base)).step (last ++ journalBegin, true)).Marks
      (fun _ _ => True) (fun start _ => text.length ≤ start) := by
    have hk : Kept text.length (fun _ _ => True) (fun start _ => text.length ≤ start) :=
      ⟨fun _ => id, fun _ => id, fun _ => trivial, fun hle _ => hle⟩
    rw [hstep, hread]
    refine Marks.run hk ?_ (Nat.le_refl _) _
    exact fun _ _ => trivial
  -- up to its closing line, the batch behind the damage is put aside
  have hsplit : rawLines (text ++ (base ++ last) ++ (batchText ops ++ rest))
      = (rawLines (text ++ base) ++ (last ++ journalBegin, true) :: lines.map fun l => (l, true))
        ++ (endLine (unlines lines), true) :: rawLines rest := by
    rw [rawLines_behind (htext.append hbase) hlast h, innerLines, map_append, ← hlines]
    simp only [map_cons, map_nil, append_assoc, cons_append, nil_append]
  have hinner : ∀ l ∈ lines, Inner l := fun l hl => inner_of_mem h hl
  have hrun : (run {} (rawLines (text ++ base)
      ++ (last ++ journalBegin, true) :: lines.map fun l => (l, true)))
      = ((readText (text ++ base)).step (last ++ journalBegin, true)).run
          (lines.map fun l => (l, true)) := by
    rw [run_append]
    rfl
  generalize (readText (text ++ base)).step (last ++ journalBegin, true) = r at *
  obtain ⟨no', pos', version', mode'⟩ := r
  obtain rfl : mode' = .batch f start body records := hmode
  rw [run_batch_inner version' f start hinner] at hrun
  exact hcatch _ _ _ hsplit f start (body ++ unlines lines) _ _ (by rw [hrun]) hfrom hstuck rfl
    (stripPrefix_endLine _)

theorem laterApplied_of_plain (htext : EndsLine text) {later : List (Str × List JournalOp)}
    (hne : later ≠ []) (hlater : ∀ b ∈ later, Journaled b.1 b.2)
    (hplain : (readText text).mode = .plain f applied) :
    LaterApplied (text ++ batchesText later) later := by
  have hpos : (readText text).pos = text.length := pos_readText text
  have hread := readText_append htext (batchesText later)
  generalize readText text = r at *
  obtain ⟨no, pos, version, mode⟩ := r
  obtain rfl : mode = .plain f applied := hplain
  obtain rfl : pos = text.length := hpos
  obtain ⟨no', hrun⟩ := run_batchesText hlater no text.length version f applied hne
  refine ⟨((batchesOps later).foldl Fold.after f).file version
    (text.length + (batchesText later).length), ?_, (length_append ..).symm,
    lookupPrinc f.princs, ?_⟩
  · rw [parseDump_eq, hread, hrun]
    rfl
  · rw [← lookupPrinc_foldl, ← (princs_foldl_after (batchesOps later) f).1]
    rfl

/-- A text that ends in a batch that was given up is accepted, without what is behind it. -/
theorem not_noticed_of_failed (hread : readText text = ⟨no, pos, version, .failed f start⟩)
    (hstart : start.start < text.length) (later : List (Str × List JournalOp)) :
    ¬((∃ e, parseDump text = .error e) ∨ LaterApplied text later) := by
  have hparse : parseDump text = .ok (f.file version start.start) := by
    rw [parseDump_eq, hread]
    rfl
  rintro (⟨e, he⟩ | ⟨d, hok, hlen, _⟩)
  · rw [hparse] at he
    cases he
  · obtain rfl : f.file version start.start = d := Except.ok.inj (hparse.symm.trans hok)
    have happlied : (f.file version start.start).appliedLen = start.start := rfl
    omega

end Damaged

/-! ### What is behind the applied length -/

/-- The reader is past a place, and its applied length will not be that place. -/
def Reader.Avoids (n : Nat) (r : Reader) : Prop :=
  n < r.pos ∧ r.Marks (fun x _ => n < x) (fun start _ => start ≠ n)

namespace Reader

theorem Avoids.run (h : r.Avoids n) (raws : List (Str × Bool)) :
    (r.run raws).Marks (fun x _ => n < x) (fun start _ => start ≠ n) := by
  have hk : Kept (n + 1) (fun x _ => n < x) (fun start _ => start ≠ n) :=
    ⟨fun _ => id, fun _ => id, id, fun hle _ => Nat.ne_of_gt hle⟩
  exact h.2.run hk h.1 raws

theorem Avoids.finish {len : Nat} (havoids : r.Avoids n) (hlen : n < len)
    (hfin : (r.run raws).finish len = .ok d) : d.appliedLen ≠ n := by
  have h := havoids.run raws
  generalize r.run raws = r at h hfin
  obtain ⟨no, pos, version, mode⟩ := r
  cases mode with
  | header => cases hfin
  | plain f applied =>
    obtain rfl := Except.ok.inj hfin
    cases applied with
    | none => exact Nat.ne_of_gt hlen
    | some x => exact Nat.ne_of_gt (h x rfl)
  | batch f start body records =>
    obtain rfl := Except.ok.inj hfin
    exact h
  | failed f start =>
    obtain rfl := Except.ok.inj hfin
    exact h
  | error e => cases hfin

theorem exists_of_numberLines (h : numberLines no pos raws = pre ++ line :: post) (version : Nat)
    (mode : Mode) :
    ∃ front raw back, raws = front ++ raw :: back ∧
      line = Line.mkAt (run ⟨no, pos, version, mode⟩ front).no
        (run ⟨no, pos, version, mode⟩ front).pos raw ∧
      post = numberLines (line.no + 1) line.stop back := by
  induction pre generalizing no pos raws version mode with
  | nil =>
    cases raws with
    | nil => cases h
    | cons raw back =>
      obtain ⟨rfl, rfl⟩ := cons.inj h
      exact ⟨[], raw, back, rfl, rfl, rfl⟩
  | cons first pre ih =>
    cases raws with
    | nil => cases h
    | cons raw₀ raws =>
      obtain ⟨-, htail⟩ := cons.inj h
      obtain ⟨front, raw, back, hraws, hline, hpost⟩ := ih htail
        (step ⟨no, pos, version, mode⟩ raw₀).version (step ⟨no, pos, version, mode⟩ raw₀).mode
      exact ⟨raw₀ :: front, raw, back, by rw [hraws, cons_append], hline, hpost⟩

/-- The place `readBatch` stops at is behind the lines it was given. -/
theorem le_stop_of_found {text : Str}
    (h : (readBatch text start (numberLines no pos raws)).found = some (records, stop)) :
    pos ≤ stop := by
  induction raws generalizing no pos records with
  | nil => cases h
  | cons raw raws ih =>
    set line := Line.mkAt no pos raw with hline
    have hle : pos ≤ line.stop := by
      show pos ≤ pos + raw.1.length + raw.2.toNat
      omega
    rw [numberLines, ← hline] at h
    by_cases hwhole : line.whole = true
    · cases hend : stripPrefix journalEnd line.text with
      | some crc =>
        rw [readBatch_end text start _ hwhole hend] at h
        split at h
        · obtain ⟨-, rfl⟩ := Prod.mk.inj (Option.some.inj h)
          exact hle
        · cases h
      | none =>
        rw [readBatch_more text start _ hwhole hend] at h
        obtain ⟨⟨records', stop'⟩, hfound, heq⟩ := Option.map_eq_some_iff.mp h
        obtain ⟨-, rfl⟩ := Prod.mk.inj heq
        exact Nat.le_trans hle (ih hfound)
    · rw [readBatch_cut text start _ (Bool.eq_false_iff.mpr hwhole)] at h
      cases h

end Reader

/-- No complete batch with a matching checksum begins at a place of the text or behind it. -/
def NoBatchFrom (text : Str) (n : Nat) : Prop :=
  ∀ pre line post, textLines text = pre ++ line :: post → n ≤ line.start →
    line.text = journalBegin → (readBatch text line post).found = none

/-- No line behind a place of the text is the word that begins a batch. -/
def NoBeginBehind (text : Str) (n : Nat) : Prop :=
  ∀ line ∈ textLines text, n < line.start → line.text ≠ journalBegin

instance (text : Str) (n : Nat) : Decidable (NoBeginBehind text n) :=
  inferInstanceAs (Decidable (∀ line ∈ textLines text, n < line.start → line.text ≠ journalBegin))

theorem Reader.appliedLen_ne_of_found {text : Str} (hplaced : r.Placed) {raw : Str × Bool}
    {back : List (Str × Bool)} (hat : At text (Line.mkAt r.no r.pos raw).stop back)
    (hbegin : (Line.mkAt r.no r.pos raw).text = journalBegin)
    (hfound : (readBatch text (Line.mkAt r.no r.pos raw)
      (numberLines (r.no + 1) (Line.mkAt r.no r.pos raw).stop back)).found = some (records, stop))
    (hfin : ((r.step raw).run back).finish text.length = .ok d) : d.appliedLen ≠ r.pos := by
  obtain ⟨no, pos, version, mode⟩ := r
  set line := Line.mkAt no pos raw with hline
  have hlt : pos < line.stop := lt_stop_of_begin hbegin
  have hlen : pos < text.length := by
    obtain ⟨pre, rfl, hpre⟩ := hat
    rw [length_append]
    omega
  cases mode with
  | header =>
    -- the word is not a header
    have hbad : parseHeader line.text
        = .error (.format (str "bad dump header: " ++ journalBegin)) := by
      rw [show line.text = journalBegin from hbegin]
      decide
    have hmode : (step ⟨no, pos, version, .header⟩ raw).mode
        = .error (.format (str "bad dump header: " ++ journalBegin)) :=
      step_header_error (unline raw) hbad
    rw [finish_error (run_error hmode back)] at hfin
    cases hfin
  | plain f applied =>
    -- the batch is read to its end, which is behind its place
    rw [step_eq no pos version (by simp) (Mode.step_plain_begin hbegin)] at hfin
    have hbody : (text.take line.stop).drop line.stop = ([] : Str) := by
      rw [drop_eq_nil_iff, length_take]
      exact Nat.min_le_left _ _
    obtain ⟨no', pos', raws', -, -, -, hpos', hrun⟩ :=
      finish_batch (no + 1) version f [] hat (show line.stop + ([] : Str).length = line.stop from rfl)
        hbody
    rw [hrun, hfound] at hfin
    have hstop : pos < stop := Nat.lt_of_lt_of_le hlt (le_stop_of_found hfound)
    have hnext : Avoids pos ⟨no', pos', version,
        .settle (some stop) (f.recordAll ([] ++ records))⟩ := by
      refine ⟨?_, marks_settle ?_ _⟩
      · rw [hpos' _ _ hfound]
        exact hstop
      · rintro x hx
        obtain rfl := Option.some.inj hx
        exact hstop
    exact hnext.finish hlen hfin
  | batch f start body records' =>
    have hne : start.start ≠ pos := Nat.ne_of_lt hplaced
    have hmore : stripPrefix journalEnd line.text = none := by
      rw [show line.text = journalBegin from hbegin]
      decide
    have hcurrent : (step ⟨no, pos, version, .batch f start body records'⟩ raw).Avoids pos := by
      by_cases hwhole : line.whole = true
      · rw [step_eq no pos version (by simp) (step_batch_more hwhole hmore)]
        exact ⟨hlt, hne⟩
      · rw [step_eq no pos version (by simp) (step_batch_cut (Bool.eq_false_iff.mpr hwhole))]
        exact ⟨hlt, hne⟩
    exact hcurrent.finish hlen hfin
  | failed f start =>
    have hmode : (step ⟨no, pos, version, .failed f start⟩ raw).mode
        = .error (badLine start.no (str "appended change does not check")) :=
      if_pos hbegin
    rw [finish_error (run_error hmode back)] at hfin
    cases hfin
  | error e =>
    rw [finish_error (run_error rfl back)] at hfin
    cases hfin

theorem found_ne_some_at_applied {text : Str} (h : parseDump text = .ok d)
    (hsplit : textLines text = pre ++ line :: post) (hstart : line.start = d.appliedLen)
    (hbegin : line.text = journalBegin) :
    (readBatch text line post).found ≠ some (records, stop) := by
  intro hfound
  obtain ⟨front, raw, back, hraws, rfl, rfl⟩ := exists_of_numberLines hsplit 0 .header
  have hread : readText text = ((run {} front).step raw).run back := by
    rw [readText, hraws, run_append]
    rfl
  have hat : At text (Line.mkAt (run {} front).no (run {} front).pos raw).stop back := by
    refine ⟨front.flatMap unline ++ unline raw, ?_, ?_⟩
    · rw [← flatMap_unline_rawLines text, hraws]
      simp only [flatMap_append, flatMap_cons, append_assoc]
    · have hpos : ((run {} front).step raw).pos = (front.flatMap unline ++ unline raw).length := by
        rw [pos_step, pos_run, length_append]
        exact congrArg (· + (unline raw).length) (Nat.zero_add _)
      exact hpos.symm
  rw [parseDump_eq, hread] at h
  exact appliedLen_ne_of_found (placed_run front) hat hbegin hfound h hstart.symm

/-- **What an accepted text leaves unread holds no batch that checks**, when no batch begins behind
the one the applied length stops at. -/
theorem noBatchFrom_of_noBeginBehind {text : Str} (h : parseDump text = .ok d)
    (hnone : NoBeginBehind text d.appliedLen) : NoBatchFrom text d.appliedLen := by
  intro pre line post hsplit hle hbegin
  have hmem : line ∈ textLines text := by
    rw [hsplit]
    exact mem_append_right _ mem_cons_self
  have hstart : line.start = d.appliedLen := by
    by_contra hne
    exact hnone line hmem (Nat.lt_of_le_of_ne hle (Ne.symm hne)) hbegin
  cases hfound : (readBatch text line post).found with
  | none => rfl
  | some found => exact absurd hfound (found_ne_some_at_applied h hsplit hstart hbegin)

/-! ### The contract -/

/-- **A damaged batch before others.**  Behind a text that is applied to its end, and with damage
that no checksum misses, either the text is refused or every batch behind the damage is applied,
exactly when the damage does not leave a batch open that a single one follows.  And what an accepted
text leaves unread holds no batch that checks, when no batch begins behind the applied length. -/
theorem damaged_batch_reported_iff {text damaged : Str} {d : DumpFile}
    {later : List (Str × List JournalOp)} (hT : parseDump text = .ok d)
    (hd : d.appliedLen = text.length) (htext : EndsLine text) (hne : later ≠ [])
    (hlater : ∀ b ∈ later, Journaled b.1 b.2)
    (hcatch : ChecksumsCatch (text ++ damaged ++ batchesText later) text.length
      (text ++ damaged).length) :
    (((∃ e, parseDump (text ++ damaged ++ batchesText later) = .error e) ∨
        LaterApplied (text ++ damaged ++ batchesText later) later) ↔
      ¬(later.length = 1 ∧ (readText (text ++ damaged ++ (journalBegin ++ [newline]))).StuckBefore
        (text ++ damaged).length)) ∧
      ∀ accepted dump, parseDump accepted = .ok dump → NoBeginBehind accepted dump.appliedLen →
        NoBatchFrom accepted dump.appliedLen := by
  refine ⟨?_, fun accepted dump haccepted hnone =>
    noBatchFrom_of_noBeginBehind haccepted hnone⟩
  obtain ⟨base, last, rfl, hbase, hlast⟩ := exists_endsLine_append damaged
  obtain ⟨⟨batch, ops⟩, more, rfl⟩ := List.exists_cons_of_ne_nil hne
  have hb : Journaled batch ops := hlater _ List.mem_cons_self
  obtain ⟨rfl, hread⟩ := hb.readable
  have htb : EndsLine (text ++ base) := htext.append hbase
  have hcons : batchesText ((batchText ops, ops) :: more) = batchText ops ++ batchesText more :=
    List.flatMap_cons
  have hpos : (readText (text ++ base)).pos + last.length = (text ++ (base ++ last)).length := by
    simp only [pos_readText, List.length_append, Nat.add_assoc]
  rw [hcons] at hcatch ⊢
  have hrun := readText_behind htb hlast hread (batchesText more)
  have hcases := step_begin_cases (placed_readText (text ++ base)) last
  rw [readText_behind_begin htb hlast] at hrun ⊢
  rw [hpos] at hcases
  rcases hcases with hstuck | ⟨applied, hsettled⟩ | ⟨rfl, f, applied, hplain⟩
  · -- the damage left a batch open, and the next one does not close it
    obtain ⟨no, pos, f, start, hstart, hfailed⟩ := run_stuck hread hstuck
      fun f start body records hmode =>
        checksum_fails hT hd htext hbase hlast hread hcatch hstuck hmode
    rw [hfailed] at hrun
    cases more with
    | nil =>
      refine iff_of_false (not_noticed_of_failed hrun ?_ _) fun h => h ⟨rfl, hstuck⟩
      simp only [List.length_append] at hstart ⊢
      omega
    | cons b₂ more =>
      refine iff_of_true (.inl ?_) fun h => by simp at h
      obtain ⟨batch₂, ops₂⟩ := b₂
      have hb₂ : Journaled batch₂ ops₂ := hlater (batch₂, ops₂) (by simp)
      obtain ⟨rfl, hread₂⟩ := hb₂.readable
      rw [parseDump_eq, hrun]
      exact error_of_failed no pos _ f start hread₂ (batchesText more) _
  · -- the word is glued to a record, and its batch has no beginning
    refine iff_of_true (.inl ?_) fun h => hsettled.not_stuck _ h.2
    rw [parseDump_eq, hrun]
    exact error_of_settled hsettled _ _
  · -- the damage ends between records: the batches behind it are intact
    rw [List.append_nil] at *
    refine iff_of_true (.inr ?_) ?_
    · rw [← hcons]
      exact laterApplied_of_plain htb hne hlater hplain
    · rintro ⟨-, hstuck⟩
      refine begin_not_stuck hplain ?_
      rw [pos_readText]
      exact hstuck

/-- What `ChecksumsCatch` asks at one line. -/
def caughtAt (lo hi : Nat) (front : List (Str × Bool)) (raw : Str × Bool) : Bool :=
  match (run {} front).mode with
  | .batch _ start body _ =>
    !(decide (lo ≤ start.start) && decide (start.start < hi) && raw.2 &&
      ((stripPrefix journalEnd (stripSuffix carriageReturn raw.1)).any fun crc =>
        parseNat 16 u32Limit crc == some (crc32 body).toNat))
  | _ => true

theorem checksumsCatch_of_caughtAt {text : Str} {lo hi : Nat}
    (h : ∀ i : Fin (rawLines text).length,
      caughtAt lo hi ((rawLines text).take i) ((rawLines text).get i) = true) :
    ChecksumsCatch text lo hi := by
  intro front raw back hsplit f start body records crc hmode hlo hhi hwhole hend hcrc
  have hlt : front.length < (rawLines text).length := by
    rw [hsplit, length_append, length_cons]
    omega
  have hfront : (rawLines text).take front.length = front := by
    rw [hsplit, take_left]
  have hraw : (rawLines text).get ⟨front.length, hlt⟩ = raw := by
    simp [hsplit]
  have hat := h ⟨front.length, hlt⟩
  rw [hfront, hraw, caughtAt, hmode] at hat
  simp [hlo, hhi, hwhole, hend, hcrc] at hat

namespace Sample

/-- A change that deletes another entry, with its closing line damaged. -/
def damaged : Str :=
  (batchText [.del (str "bob@R")]).set 16 120

/-- What follows the damage. -/
def later : List (Str × List JournalOp) :=
  [(batch, ops)]

def laterTwice : List (Str × List JournalOp) :=
  [(batch, ops), (batch, ops)]

/-- A text with one change behind the damage. -/
def accepted : Str :=
  text ++ damaged ++ batchesText later

/-- The line that begins the change behind the damage. -/
def lostBegin : Line :=
  ((textLines accepted).drop 5).headD (Line.mkAt 0 0 ([], false))

theorem journaled_batch : Journaled batch ops :=
  ⟨env, store, mkey, ids, by decide +kernel, by decide +kernel, by decide +kernel⟩

end Sample

open Sample

/-- Two changes behind a damaged one: the text is refused.  And a torn change holds no batch. -/
theorem damaged_batch_reported_at_sample :
    ((∃ e, parseDump (text ++ damaged ++ batchesText laterTwice) = .error e) ∨
      LaterApplied (text ++ damaged ++ batchesText laterTwice)
        laterTwice) ∧
      NoBatchFrom (text ++ batch.take 10) dump.appliedLen := by
  have hT : parseDump text = .ok dump := by decide +kernel
  have hd : dump.appliedLen = text.length := by decide +kernel
  have hends : EndsLine text := by decide +kernel
  have hne : laterTwice ≠ [] := by decide
  have hlater : ∀ b ∈ laterTwice, Journaled b.1 b.2 := by
    simp only [laterTwice, List.mem_cons, List.not_mem_nil, or_false]
    rintro b (rfl | rfl) <;> exact journaled_batch
  have hcatch : ChecksumsCatch (text ++ damaged ++ batchesText laterTwice)
      text.length (text ++ damaged).length :=
    checksumsCatch_of_caughtAt (by decide +kernel)
  have htorn : parseDump (text ++ batch.take 10) = .ok dump := by decide +kernel
  have hcontract := damaged_batch_reported_iff hT hd hends hne hlater hcatch
  refine ⟨hcontract.1.mpr ?_, hcontract.2 _ _ htorn (by decide +kernel)⟩
  rintro ⟨hone, -⟩
  revert hone
  decide

/-- One change behind a damaged one is lost: the text is accepted up to the damage, although the
change behind it is complete and checks. -/
theorem change_behind_damage_is_lost :
    (∀ b ∈ later, Journaled b.1 b.2) ∧
      ChecksumsCatch accepted text.length (text ++ damaged).length ∧
      parseDump accepted = .ok dump ∧
      dump.appliedLen = text.length ∧
      (dump.princ (str "alice@R")).isSome ∧
      ¬NoBatchFrom accepted dump.appliedLen := by
  refine ⟨?_, checksumsCatch_of_caughtAt (by decide +kernel), by decide +kernel, by decide +kernel,
    by decide +kernel, ?_⟩
  · simp only [later, List.mem_cons, List.not_mem_nil, or_false]
    rintro b rfl
    exact journaled_batch
  · intro hnone
    have hnone := hnone ((textLines accepted).take 5) lostBegin
      ((textLines accepted).drop 6) (by decide +kernel) (by decide +kernel) (by decide +kernel)
    revert hnone
    decide +kernel

end Kerber
