import Mathlib.Logic.Function.Basic
import Kerber.KdbDump.Equiv.Reader
import Kerber.KdbDump.Equiv.Record

/-!
# A batch and what it does

`journalBatch` writes a list of operations, a put or a deletion for each id (`journalBatch_ok`).  A
batch whose lines can be told apart (`Readable`) is read back as those operations, one after another,
over what was read before: `run_batchText`.  On the entries by name an operation overrides one name
(`JournalOp.override`).
-/

namespace Kerber

open List Reader JournalOp

variable {ops : List JournalOp} {op : JournalOp}

/-! ### The operations of a batch -/

/-- The operation that `journal_batch` writes for an id. -/
def journalChange (env : WriteEnv) (draw : Draw) (s : PrincipalStore) (mkey : ProtocolKey)
    (id : Str) : Except DumpError JournalOp :=
  match s.principalById id with
  | some p => (princEntry env draw s mkey false p).map .put
  | none => .ok (.del id)

/-- The operations that `journal_batch` writes. -/
def journalChanges (env : WriteEnv) (s : PrincipalStore) (mkey : ProtocolKey) (ids : List Str) :
    Except DumpError (List JournalOp) :=
  ids.zipIdx.mapM fun (id, i) => journalChange env [i] s mkey id

def JournalOp.line : JournalOp → Str
  | .put p => p.record
  | .del id => journalDel ++ id

/-- The line that closes a batch. -/
def endLine (body : Str) : Str :=
  journalEnd ++ hex8 (crc32 body).toNat

/-- The lines of a batch behind its first. -/
def innerLines (ops : List JournalOp) : List Str :=
  ops.map JournalOp.line ++ [endLine (unlines (ops.map JournalOp.line))]

def batchLines (ops : List JournalOp) : List Str :=
  journalBegin :: innerLines ops

def batchText (ops : List JournalOp) : Str :=
  unlines (batchLines ops)

theorem str_newline : str "\n" = [newline] := by decide

theorem journalRecord_eq (env : WriteEnv) (draw : Draw) (s : PrincipalStore) (mkey : ProtocolKey)
    (id : Str) : journalRecord env draw s mkey id
      = (journalChange env draw s mkey id).map fun op => op.line ++ [newline] := by
  rw [journalRecord, journalChange]
  cases s.principalById id with
  | none => rfl
  | some p =>
    show writePrincRecord env draw s mkey false p
      = ((princEntry env draw s mkey false p).map put).map _
    rw [writePrincRecord]
    cases princEntry env draw s mkey false p <;> rfl

/-- **`journal_batch` writes the batch of its operations.** -/
theorem journalBatch_ok {env : WriteEnv} {s : PrincipalStore} {mkey : ProtocolKey} {ids : List Str}
    {b : Str} (h : journalBatch env s mkey ids = .ok b) :
    ∃ ops, journalChanges env s mkey ids = .ok ops ∧ b = batchText ops := by
  rw [journalBatch] at h
  obtain ⟨records, hrecords, h⟩ := bind_ok h
  have hmap : (ids.zipIdx.mapM fun x : Str × Nat =>
      (journalChange env [x.2] s mkey x.1).map fun op => op.line ++ [newline]) = .ok records := by
    rw [← hrecords]
    exact congrArg (mapM · ids.zipIdx) (funext fun x => (journalRecord_eq env [x.2] s mkey x.1).symm)
  obtain ⟨ops, hops, rfl⟩ := mapM_map_ok hmap
  refine ⟨ops, hops, ?_⟩
  have hbody : (ops.map fun op => op.line ++ [newline]).flatten
      = unlines (ops.map JournalOp.line) := by
    rw [unlines, flatMap_map, flatMap_def]
  cases h
  rw [hbody, batchText, batchLines, innerLines, str_newline]
  simp [endLine]

/-! ### Operations over what was read -/

/-- The entries after an operation. -/
def JournalOp.apply : JournalOp → List DumpPrincipal → List DumpPrincipal
  | .put p, princs => putLast DumpPrincipal.name p princs
  | .del id, princs => princs.filter fun p => p.name ≠ id

/-- The entries by name after an operation. -/
def JournalOp.override (entries : Str → Option DumpPrincipal) :
    JournalOp → Str → Option DumpPrincipal
  | .put p => Function.update entries p.name (some p)
  | .del id => Function.update entries id none

def DumpPrincipal.rid (p : DumpPrincipal) : UInt32 :=
  ((parseSidTl p.tlData).toOption.map Prod.snd).getD 0

/-- What was read after an operation. -/
def Fold.after (f : Fold) : JournalOp → Fold
  | .put p => { f with
      maxRid := max f.maxRid p.rid, princs := (put p).apply f.princs,
      records := f.records + 1 }
  | .del id => { f with princs := (del id).apply f.princs, records := f.records + 1 }

def lookupPrinc (princs : List DumpPrincipal) (name : Str) : Option DumpPrincipal :=
  princs.find? fun p => p.name = name

/-- The items with `v` in place of those that have its key. -/
def replaced {α : Type} (key : α → Str) (v : α) (items : List α) : List α :=
  items.map fun x => if key x = key v then v else x

theorem find?_replaced_of_ne {α : Type} {key : α → Str} {v : α} {k : Str} (hk : k ≠ key v)
    (items : List α) :
    (replaced key v items).find? (fun x => key x = k) = items.find? fun x => key x = k := by
  have hv : ¬key v = k := fun h => hk h.symm
  induction items with
  | nil => rfl
  | cons x items ih =>
    rw [replaced, map_cons]
    by_cases hx : key x = key v
    · have hxk : ¬key x = k := fun h => hk (h ▸ hx)
      rw [if_pos hx, find?_cons_of_neg (by simpa using hv),
        find?_cons_of_neg (by simpa using hxk)]
      exact ih
    · rw [if_neg hx, find?_cons, find?_cons]
      cases decide (key x = k) with
      | true => rfl
      | false => exact ih

theorem find?_replaced_self {α : Type} {key : α → Str} {v : α} {items : List α}
    (h : items.any (fun x => key x = key v) = true) :
    (replaced key v items).find? (fun x => key x = key v) = some v := by
  induction items with
  | nil => cases h
  | cons x items ih =>
    rw [replaced, map_cons]
    by_cases hx : key x = key v
    · rw [if_pos hx, find?_cons_of_pos (by simp)]
    · rw [if_neg hx, find?_cons_of_neg (by simpa using hx)]
      refine ih ?_
      rw [any_cons, decide_eq_false hx, Bool.false_or] at h
      exact h

theorem find?_putLast {α : Type} (key : α → Str) (v : α) (items : List α) (k : Str) :
    (putLast key v items).find? (fun x => key x = k)
      = if k = key v then some v else items.find? fun x => key x = k := by
  rw [putLast]
  split
  · rename_i hany
    split
    · rename_i hk
      subst hk
      exact find?_replaced_self hany
    · rename_i hk
      exact find?_replaced_of_ne hk items
  · rename_i hany
    rw [find?_append]
    split
    · rename_i hk
      subst hk
      have hnone : items.find? (fun x => key x = key v) = none := by
        rw [find?_eq_none]
        intro x hx hkey
        exact hany (any_eq_true.mpr ⟨x, hx, hkey⟩)
      rw [hnone]
      simp
    · rename_i hk
      have hv : [v].find? (fun x => key x = k) = none :=
        find?_cons_of_neg (by simpa using fun h => hk h.symm)
      rw [hv, Option.or_none]

/-- **An operation overrides the entry of its name.** -/
theorem lookupPrinc_apply (op : JournalOp) (princs : List DumpPrincipal) :
    lookupPrinc (op.apply princs) = override (lookupPrinc princs) op := by
  funext name
  cases op with
  | put p =>
    rw [lookupPrinc, apply, find?_putLast, override, Function.update_apply]
    rfl
  | del id =>
    rw [lookupPrinc, apply, override, Function.update_apply, find?_filter]
    split
    · rename_i hname
      rw [find?_eq_none]
      rintro p _
      simp [hname]
    · rename_i hname
      rw [lookupPrinc]
      congr 1
      funext p
      by_cases hp : p.name = name
      · simp [hp, hname]
      · simp [hp]

theorem lookupPrinc_foldl (ops : List JournalOp) (princs : List DumpPrincipal) :
    lookupPrinc (ops.foldl (fun princs op => op.apply princs) princs)
      = ops.foldl override (lookupPrinc princs) := by
  induction ops generalizing princs with
  | nil => rfl
  | cons op ops ih => rw [foldl_cons, ih, lookupPrinc_apply, foldl_cons]

/-! ### Lines of a batch -/

/-- An operation whose line can be read back: an entry the format has room for, or an id that does
not end the line. -/
def JournalOp.Readable : JournalOp → Prop
  | .put p => p.Fits ∧ ∃ sid, parseSidTl p.tlData = .ok sid
  | .del id => newline ∉ id ∧ id.getLast? ≠ some carriageReturn

theorem JournalOp.newline_not_mem (h : op.Readable) : newline ∉ op.line := by
  cases op with
  | put p => exact newline_not_mem_record h.1.name.2
  | del id =>
    rw [JournalOp.line, mem_append]
    rintro (hmem | hmem)
    · revert hmem
      decide
    · exact h.1 hmem

theorem JournalOp.strip_line (h : op.Readable) : stripSuffix carriageReturn op.line = op.line := by
  refine stripSuffix_of_ne ?_
  cases op with
  | put p =>
    rw [JournalOp.line, getLast?_record]
    decide
  | del id =>
    cases id with
    | nil => decide
    | cons b id =>
      rw [JournalOp.line, getLast?_append_of_ne_nil _ (cons_ne_nil _ _)]
      exact h.2

/-- The first byte tells the lines of operations from those around a batch. -/
theorem JournalOp.line_head (op : JournalOp) :
    ∃ rest, op.line = 112 :: 114 :: rest ∨ op.line = 100 :: 101 :: 108 :: 9 :: rest := by
  cases op with
  | put p => exact ⟨_, .inl (record_eq p)⟩
  | del id => exact ⟨id, .inr rfl⟩

/-- No line of a batch behind its first starts as `begin` does. -/
theorem head?_ne_of_mem_innerLines {l : Str} (hl : l ∈ innerLines ops) : l.head? ≠ some 98 := by
  rcases mem_append.mp hl with hl | hl
  · obtain ⟨op, _, rfl⟩ := mem_map.mp hl
    obtain ⟨rest, hop | hop⟩ := op.line_head
    all_goals
      rw [hop, head?_cons]
      decide
  · rw [mem_singleton.mp hl]
    show some (101 : UInt8) ≠ some 98
    decide

theorem JournalOp.not_end (op : JournalOp) : stripPrefix journalEnd op.line = none := by
  obtain ⟨rest, h | h⟩ := op.line_head <;> rw [h] <;> rfl

/-- **The line of an operation is read as that operation.** -/
theorem Fold.record_line (h : op.Readable) (f : Fold) {line : Line}
    (htext : line.text = op.line) : f.record line = .ok (f.after op) := by
  cases op with
  | put p =>
    obtain ⟨hfits, sid, hsid⟩ := h
    have hrid : p.rid = sid.2 := by
      rw [DumpPrincipal.rid, hsid]
      rfl
    have hne : line.text ≠ [] := by
      rw [htext, JournalOp.line, record_eq]
      exact cons_ne_nil _ _
    have hpolicy : stripPrefix (str "policy\t") line.text = none := by
      rw [htext, JournalOp.line, record_eq]
      rfl
    have hprinc : stripPrefix (str "princ\t") line.text = some p.body := by
      rw [htext, JournalOp.line, record_eq, stripPrefix_append]
    rw [Fold.record, if_neg hne, hpolicy]
    rw [hprinc]
    dsimp only
    rw [parsePrincLine_body hfits]
    show (parseSidTl p.tlData >>= _) = _
    rw [hsid, Fold.after, hrid]
    rfl
  | del id =>
    have hne : line.text ≠ [] := by
      rw [htext]
      exact cons_ne_nil _ _
    have hpolicy : stripPrefix (str "policy\t") line.text = none := by rw [htext]; rfl
    have hprinc : stripPrefix (str "princ\t") line.text = none := by rw [htext]; rfl
    have hdel : stripPrefix journalDel line.text = some id := by
      rw [htext, JournalOp.line, stripPrefix_append]
    rw [Fold.record, if_neg hne, hpolicy]
    rw [hprinc]
    rw [hdel]
    rfl

theorem Fold.recordAll_lines (h : ∀ op ∈ ops, op.Readable) (f : Fold) (no pos : Nat) :
    f.recordAll (numberLines no pos (ops.map fun op => (op.line, true)))
      = .ok (ops.foldl Fold.after f) := by
  induction ops generalizing f no pos with
  | nil => rfl
  | cons op ops ih =>
    have hop := h op mem_cons_self
    rw [map_cons, numberLines, Fold.recordAll, Fold.record_line hop f (strip_line hop)]
    exact ih (fun x hx => h x (mem_cons_of_mem _ hx)) _ _ _

/-! ### Running over a batch -/

namespace Reader

/-- A line that is put aside inside a batch. -/
def Inner (l : Str) : Prop :=
  stripPrefix journalEnd (stripSuffix carriageReturn l) = none

theorem inner_line (h : op.Readable) : Inner op.line := by
  rw [Inner, strip_line h, not_end]

theorem length_unlines_cons (l : Str) (lines : List Str) :
    (unlines (l :: lines)).length = l.length + 1 + (unlines lines).length := by
  rw [unlines_cons, length_append, length_cons]
  omega

theorem run_batch_inner (version : Nat) (f : Fold) (start : Line) {lines : List Str}
    (h : ∀ l ∈ lines, Inner l) (no pos : Nat) (body : Str) (records : List Line) :
    run ⟨no, pos, version, .batch f start body records⟩ (lines.map fun l => (l, true))
      = ⟨no + lines.length, pos + (unlines lines).length, version,
         .batch f start (body ++ unlines lines)
           (records ++ numberLines no pos (lines.map fun l => (l, true)))⟩ := by
  induction lines generalizing no pos body records with
  | nil => simp [numberLines]
  | cons l lines ih =>
    have hstep : (Mode.batch f start body records).step (Line.mkAt no pos (l, true)) (unline (l, true))
        = .batch f start (body ++ (l ++ [newline])) (records ++ [Line.mkAt no pos (l, true)]) :=
      Mode.step_batch_more rfl (h l mem_cons_self)
    rw [map_cons, run_cons, step_eq no pos version (by simp) hstep,
      ih fun m hm => h m (mem_cons_of_mem _ hm)]
    have hstop : (Line.mkAt no pos (l, true)).stop = pos + l.length + 1 := rfl
    rw [hstop, length_unlines_cons, length_cons]
    simp only [unlines_cons, numberLines, append_assoc, cons_append, nil_append]
    congr 1 <;> omega

end Reader

theorem hex8_digits (n : Nat) : ∀ b ∈ hex8 n, isDigitByte b = true := by
  intro b hb
  have hpadded : b ∈ padded 16 8 n := hb
  exact isDigitByte_of_digit (by decide) (mem_padded (by decide) hpadded)

theorem hex8_ne_nil (n : Nat) : hex8 n ≠ [] := padded_ne_nil 16 8 n

/-- A checksum in eight digits reads back. -/
theorem parseNat_hex8 (n : UInt32) : parseNat 16 u32Limit (hex8 n.toNat) = some n.toNat :=
  @parseNat_padded 16 n.toNat 8 _ (by decide) (by decide) (Nat.le_pred_of_lt n.toNat_lt)

theorem newline_not_mem_endLine (body : Str) : newline ∉ endLine body := by
  rw [endLine, mem_append]
  rintro (h | h)
  · revert h
    decide
  · exact not_mem_of_digits (by decide) (hex8_digits _) h

theorem strip_endLine (body : Str) : stripSuffix carriageReturn (endLine body) = endLine body := by
  refine stripSuffix_of_ne ?_
  rw [endLine, getLast?_append_of_ne_nil _ (hex8_ne_nil _)]
  intro h
  exact not_mem_of_digits (b := carriageReturn) (by decide) (hex8_digits (crc32 body).toNat)
    (mem_of_getLast? h)

theorem stripPrefix_endLine (body : Str) : stripPrefix journalEnd (stripSuffix carriageReturn (endLine body))
    = some (hex8 (crc32 body).toNat) := by
  rw [strip_endLine, endLine, stripPrefix_append]

theorem newline_not_mem_batchLines (h : ∀ op ∈ ops, op.Readable) :
    ∀ l ∈ batchLines ops, newline ∉ l := by
  intro l hl
  simp only [batchLines, innerLines, mem_cons, mem_append, mem_map, not_mem_nil,
    or_false] at hl
  rcases hl with rfl | ⟨op, hop, rfl⟩ | rfl
  · decide
  · exact newline_not_mem (h op hop)
  · exact newline_not_mem_endLine _

theorem rawLines_batchText (h : ∀ op ∈ ops, op.Readable) :
    rawLines (batchText ops) = (batchLines ops).map fun l => (l, true) :=
  rawLines_unlines (newline_not_mem_batchLines h)

theorem endsLine_batchText (ops : List JournalOp) : EndsLine (batchText ops) :=
  endsLine_unlines _

theorem rawLines_batchText_append (h : ∀ op ∈ ops, op.Readable) (more : Str) :
    rawLines (batchText ops ++ more)
      = (journalBegin, true) :: ((innerLines ops).map (fun l => (l, true)) ++ rawLines more) := by
  rw [rawLines_append (endsLine_batchText ops), rawLines_batchText h]
  rfl

theorem step_plain_begin (no pos version : Nat) (f : Fold) (applied : Option Nat) (whole : Bool) :
    step ⟨no, pos, version, .plain f applied⟩ (journalBegin, whole)
      = ⟨no + 1, (Line.mkAt no pos (journalBegin, whole)).stop, version,
         .batch f (Line.mkAt no pos (journalBegin, whole)) [] []⟩ :=
  step_eq no pos version (by simp) (Mode.step_plain_begin (by rfl))

/-- **An intact batch is applied**: its operations, one after another, over what was read before. -/
theorem run_batchText (h : ∀ op ∈ ops, op.Readable) (no pos version : Nat)
    (f : Fold) (applied : Option Nat) :
    run ⟨no, pos, version, .plain f applied⟩ (rawLines (batchText ops))
      = ⟨no + ops.length + 2, pos + (batchText ops).length, version,
         .plain (ops.foldl Fold.after f) (some (pos + (batchText ops).length))⟩ := by
  set start := Line.mkAt no pos (journalBegin, true) with hstart
  set lines := ops.map JournalOp.line with hlines
  have hinner : ∀ l ∈ lines, Inner l := by
    intro l hl
    obtain ⟨op, hop, rfl⟩ := mem_map.mp hl
    exact inner_line (h op hop)
  have hlen : (batchText ops).length
      = journalBegin.length + 1 + ((unlines lines).length + ((endLine (unlines lines)).length + 1)) := by
    rw [batchText, batchLines, innerLines, length_unlines_cons, unlines_append, length_append,
      length_unlines_cons]
    rfl
  have hmap : (lines.map fun l => (l, true)) = ops.map fun op => (op.line, true) := by
    rw [hlines, map_map]
    rfl
  rw [rawLines_batchText h, batchLines, innerLines, map_cons, map_append, run_cons,
    step_plain_begin, run_append, run_batch_inner version f start hinner,
    nil_append, nil_append, hmap]
  set last := Line.mkAt (no + 1 + lines.length) (start.stop + (unlines lines).length)
    (endLine (unlines lines), true) with hlast
  have hstop : last.stop = pos + (batchText ops).length := by
    rw [hlen]
    show pos + journalBegin.length + 1 + (unlines lines).length
      + (endLine (unlines lines)).length + 1 = _
    omega
  have hclose : (Mode.batch f start (unlines lines)
      (numberLines (no + 1) start.stop (ops.map fun op => (op.line, true)))).step last
        (unline (endLine (unlines lines), true))
      = .plain (ops.foldl Fold.after f) (some last.stop) := by
    rw [Mode.step_batch_end rfl (stripPrefix_endLine _), parseNat_hex8, if_pos (by simp), Fold.recordAll_lines h]
    rfl
  rw [map_cons, map_nil, run_cons, run_nil,
    step_eq _ _ version (by simp) hclose, ← hlast, hstop]
  congr 1
  rw [hlines, length_map]
  omega

end Kerber
