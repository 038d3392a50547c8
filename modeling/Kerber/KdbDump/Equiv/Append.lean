import Kerber.KdbDump.Equiv.Batch
import Kerber.KdbDump.Equiv.TlData

/-!
# An append that is cut short

The database is changed by appending a batch.  `torn_append_atomic_iff` says for which cuts of such
an append the text still reads as one of the two it may: as before, or with the whole batch applied.
A cut behind the first five bytes does when the text ended in a newline; a cut inside the word
`begin` does not, since what is left of it is no record.
-/

namespace Kerber

open List Reader

variable {applied : Option Nat} {d : DumpFile} {last : Str} {k : Nat}
variable {r : Reader} {raw : Str × Bool} {line : Line}

/-! ### Places in the text -/

/-- What holds of the end of the last batch, between records, and of the place a batch began that the
reader is inside of or gave up, both with the place the reader is at. -/
def Reader.Marks (A S : Nat → Nat → Prop) (r : Reader) : Prop :=
  match r.mode with
  | .plain _ applied => ∀ x ∈ applied, A x r.pos
  | .batch _ start _ _ => S start.start r.pos
  | .failed _ start => S start.start r.pos
  | _ => True

/-- Both hold on when the reader moves on, and are so for a batch that begins or ends from `n` on. -/
structure Kept (n : Nat) (A S : Nat → Nat → Prop) : Prop where
  applied : ∀ {x p q}, p ≤ q → A x p → A x q
  start : ∀ {x p q}, p ≤ q → S x p → S x q
  closes : ∀ {q}, n ≤ q → A q q
  begins : ∀ {p q}, n ≤ p → p < q → S p q

namespace Reader

theorem lt_stop_of_begin {no pos : Nat} (h : (Line.mkAt no pos raw).text = journalBegin) :
    pos < (Line.mkAt no pos raw).stop := by
  have hne : raw.1 ≠ [] := by
    intro hnil
    have htext : stripSuffix carriageReturn raw.1 = journalBegin := h
    rw [hnil] at htext
    revert htext
    decide
  have hpos : 0 < raw.1.length := length_pos_of_ne_nil hne
  show pos < pos + raw.1.length + raw.2.toNat
  omega

variable {n : Nat} {A S : Nat → Nat → Prop}

theorem marks_settle {no pos version : Nat} (h : ∀ x ∈ applied, A x pos)
    (res : Except DumpError Fold) : Marks A S ⟨no, pos, version, .settle applied res⟩ := by
  cases res with
  | ok f => exact h
  | error e => trivial

theorem Marks.step (hk : Kept n A S) (h : r.Marks A S) (hpos : n ≤ r.pos) (raw : Str × Bool) :
    (r.step raw).Marks A S := by
  obtain ⟨no, pos, version, mode⟩ := r
  have hle : pos ≤ (Line.mkAt no pos raw).stop := by
    show pos ≤ pos + raw.1.length + raw.2.toNat
    omega
  have hturn := mode.turns_step (Line.mkAt no pos raw) (unline raw)
  rw [step]
  generalize mode.step (Line.mkAt no pos raw) (unline raw) = mode' at hturn ⊢
  cases hturn with
  | version _ =>
    intro _ h
    cases h
  | begins hbegin => exact hk.begins hpos (lt_stop_of_begin hbegin)
  | record _ => exact marks_settle (fun x hx => hk.applied hle (h x hx)) _
  | closes _ =>
    refine marks_settle (fun x hx => ?_) _
    rw [← Option.mem_some_iff.mp hx]
    exact hk.closes (Nat.le_trans hpos hle)
  | more => exact hk.start hle h
  | givesUp => exact hk.start hle h
  | stays => exact hk.start hle h
  | _ => trivial

theorem Marks.run (hk : Kept n A S) (h : r.Marks A S) (hpos : n ≤ r.pos) (raws : List (Str × Bool)) :
    (r.run raws).Marks A S := by
  induction raws generalizing r with
  | nil => exact h
  | cons raw raws ih =>
    refine ih (h.step hk hpos raw) ?_
    rw [pos_step]
    exact Nat.le_trans hpos (Nat.le_add_right _ _)

/-- The places are behind the reader. -/
def Placed (r : Reader) : Prop :=
  r.Marks (· ≤ ·) (· < ·)

theorem placed_run (raws : List (Str × Bool)) : (run {} raws).Placed := by
  have hk : Kept 0 (· ≤ ·) (· < ·) :=
    ⟨fun hle hx => Nat.le_trans hx hle, fun hle hx => Nat.lt_of_lt_of_le hx hle,
      fun _ => Nat.le_refl _, fun _ hlt => hlt⟩
  exact Marks.run hk (show Placed {} from trivial) (Nat.zero_le _) raws

end Reader

theorem placed_readText (text : Str) : (readText text).Placed :=
  placed_run _

/-- **A text that is applied to its end** was read between records. -/
theorem readText_of_applied {text : Str} (h : parseDump text = .ok d) (hd : d.appliedLen = text.length) :
    ∃ no version f applied, readText text = ⟨no, text.length, version, .plain f applied⟩ ∧
      applied.getD text.length = text.length ∧ d.princs = f.princs ∧ d.policies = f.policies := by
  have hplaced := placed_readText text
  have hpos := pos_readText text
  rw [parseDump_eq] at h
  generalize readText text = r at h hplaced hpos ⊢
  obtain ⟨no, pos, version, mode⟩ := r
  obtain rfl : pos = text.length := hpos
  cases mode with
  | header => cases h
  | plain f applied =>
    cases h
    exact ⟨no, version, f, applied, rfl, hd, rfl, rfl⟩
  | batch f start body records =>
    cases h
    exact absurd hplaced (by rw [← hd]; exact Nat.lt_irrefl _)
  | failed f start =>
    cases h
    exact absurd hplaced (by rw [← hd]; exact Nat.lt_irrefl _)
  | error e => cases h

/-! ### Cuts inside a batch -/

theorem mem_lines_of_before {lines front back : List Str} {l : Str}
    (h : lines ++ [last] = front ++ l :: back) : ∀ m ∈ front, m ∈ lines := by
  have hdrop := congrArg dropLast h
  rw [dropLast_concat, dropLast_append_cons] at hdrop
  intro m hm
  rw [hdrop]
  exact mem_append_left _ hm

theorem inner_of_mem {ops : List JournalOp} (h : ∀ op ∈ ops, op.Readable) {m : Str}
    (hm : m ∈ ops.map JournalOp.line) : Inner m := by
  obtain ⟨op, hop, rfl⟩ := mem_map.mp hm
  exact inner_line (h op hop)

/-- **A batch that is cut behind the word `begin` is left out**: the reader has what it had. -/
theorem finish_torn {ops : List JournalOp} (h : ∀ op ∈ ops, op.Readable) (hk : 5 ≤ k)
    (hlt : k < (batchText ops).length) (no pos version : Nat) (f : Fold) (applied : Option Nat)
    (len : Nat) :
    finish (run ⟨no, pos, version, .plain f applied⟩ (rawLines ((batchText ops).take k))) len
      = finish ⟨no, pos, version, .plain f (some pos)⟩ len := by
  obtain ⟨front, l, back, hsplit, j, hj, hkj, hraw⟩ :=
    rawLines_take_unlines (newline_not_mem_batchLines h) hlt
  rw [batchText, hraw]
  cases front with
  | nil =>
    -- cut right behind the word
    obtain rfl : l = journalBegin := (cons.inj hsplit).1.symm
    have hj5 : j = 5 := by
      have hlen : journalBegin.length = 5 := by decide
      rw [unlines_nil, length_nil] at hkj
      omega
    have hpart : partialLine (journalBegin.take j) = [(journalBegin, false)] := by
      rw [hj5]
      decide
    rw [hpart, map_nil, nil_append, run_cons, step_plain_begin]
    rfl
  | cons m front =>
    obtain ⟨rfl, hrest⟩ := cons.inj hsplit
    have hinner : ∀ x ∈ front, Inner x := fun x hx =>
      inner_of_mem h (mem_lines_of_before hrest x hx)
    rw [map_cons, cons_append, run_cons, step_plain_begin, run_append,
      run_batch_inner version f _ hinner]
    by_cases hnil : l.take j = []
    · rw [partialLine, if_pos hnil]
      rfl
    · rw [partialLine, if_neg hnil, run_cons, run_nil,
        step_eq _ _ version (by simp) (Mode.step_batch_cut (by rfl))]
      rfl

/-! ### Lines that are no records -/

theorem Fold.record_unknown (f : Fold) (hne : line.text ≠ [])
    (hpolicy : stripPrefix (str "policy\t") line.text = none)
    (hprinc : stripPrefix (str "princ\t") line.text = none)
    (hdel : stripPrefix journalDel line.text = none) :
    f.record line = .error (badLine line.no (str "unknown record type")) := by
  rw [Fold.record, if_neg hne, hpolicy]
  rw [hprinc]
  rw [hdel]

/-- What is left of the word `begin` is no record. -/
theorem record_cut_begin (h0 : 0 < k) (h5 : k < 5) (f : Fold)
    (htext : line.text = stripSuffix carriageReturn (journalBegin.take k)) :
    f.record line = .error (badLine line.no (str "unknown record type")) := by
  have hall : ∀ i < 5, 0 < i → stripSuffix carriageReturn (journalBegin.take i) ≠ [] ∧
      stripPrefix (str "policy\t") (stripSuffix carriageReturn (journalBegin.take i)) = none ∧
      stripPrefix (str "princ\t") (stripSuffix carriageReturn (journalBegin.take i)) = none ∧
      stripPrefix journalDel (stripSuffix carriageReturn (journalBegin.take i)) = none := by
    decide
  obtain ⟨hne, hpolicy, hprinc, hdel⟩ := hall k h5 h0
  rw [← htext] at hne hpolicy hprinc hdel
  exact f.record_unknown hne hpolicy hprinc hdel

/-- Neither is the line that closes a batch. -/
theorem record_endLine (f : Fold) {body : Str} (htext : line.text = endLine body) :
    f.record line = .error (badLine line.no (str "unknown record type")) := by
  have hhead : endLine body = 101 :: 110 :: 100 :: 9 :: hex8 (crc32 body).toNat := rfl
  rw [hhead] at htext
  refine f.record_unknown ?_ ?_ ?_ ?_ <;> rw [htext]
  · exact cons_ne_nil _ _
  all_goals rfl

/-- **A cut inside the word `begin` cannot be read.** -/
theorem parseDump_cut_begin {text : Str} (hends : EndsLine text) {no version : Nat} {f : Fold}
    (hread : readText text = ⟨no, text.length, version, .plain f applied⟩)
    (ops : List JournalOp) (h0 : 0 < k) (h5 : k < 5) :
    ∃ e, parseDump (text ++ (batchText ops).take k) = .error e := by
  have htake : (batchText ops).take k = journalBegin.take k := by
    have hlen : journalBegin.length = 5 := by decide
    rw [batchText, batchLines, unlines_cons, take_append_of_le_length (by omega)]
  have hmem : newline ∉ journalBegin.take k := fun hmem =>
    absurd (mem_of_mem_take hmem) (by decide)
  have hne : journalBegin.take k ≠ [] := by
    have hall : ∀ i < 5, 0 < i → journalBegin.take i ≠ [] := by decide
    exact hall k h5 h0
  have hbegin : (Line.mkAt no text.length (journalBegin.take k, false)).text ≠ journalBegin := by
    have hall : ∀ i < 5, 0 < i →
        stripSuffix carriageReturn (journalBegin.take i) ≠ journalBegin := by decide
    exact hall k h5 h0
  rw [parseDump_eq, readText_append hends, hread, htake, rawLines_unfinished hmem hne,
    run_cons, run_nil,
    step_eq _ _ version (by simp) (Mode.step_plain_record hbegin),
    record_cut_begin h0 h5 f rfl]
  exact ⟨_, rfl⟩

/-! ### A text that does not end in a newline -/

/-- A line that does not start as `begin` does is not that line. -/
theorem strip_ne_begin {l : Str} (h : l.head? ≠ some 98) :
    stripSuffix carriageReturn l ≠ journalBegin := by
  intro heq
  apply h
  rw [stripSuffix] at heq
  split at heq
  · cases l with
    | nil => cases heq
    | cons b l =>
      cases l with
      | nil => cases heq
      | cons c l =>
        rw [dropLast_cons_cons] at heq
        rw [head?_cons, (cons.inj heq).1]
        rfl
  · rw [heq]
    rfl

/-- Neither is one with anything in front of a part of it. -/
theorem strip_glued_ne_begin (hne : last ≠ []) {i : Nat} (hi : 0 < i) :
    stripSuffix carriageReturn (last ++ journalBegin.take i) ≠ journalBegin := by
  have hpart : ∃ rest, journalBegin.take i = 98 :: rest ∧
      (98 :: rest).getLast? ≠ some carriageReturn := by
    obtain ⟨i, rfl⟩ : ∃ n, i = n + 1 := ⟨i - 1, by omega⟩
    refine ⟨(str "egin").take i, rfl, fun hlast => ?_⟩
    have hmem : carriageReturn ∈ 98 :: (str "egin").take i := mem_of_getLast? hlast
    rcases mem_cons.mp hmem with h | h
    · exact absurd h (by decide)
    · exact absurd (mem_of_mem_take h) (by decide)
  obtain ⟨rest, hrest, hlast⟩ := hpart
  obtain ⟨c, last, rfl⟩ := exists_cons_of_ne_nil hne
  have hstrip : stripSuffix carriageReturn (c :: last ++ journalBegin.take i)
      = c :: last ++ journalBegin.take i := by
    refine stripSuffix_of_ne ?_
    rw [hrest, getLast?_append_of_ne_nil _ (cons_ne_nil _ _)]
    exact hlast
  rw [hstrip, hrest]
  intro heq
  -- a second `b` does not occur in the word
  have htail : last ++ 98 :: rest = str "egin" := (cons.inj heq).2
  have hmem : (98 : UInt8) ∈ str "egin" := htail ▸ mem_append_right _ mem_cons_self
  exact absurd hmem (by decide)

/-- Between records, with the end of the last batch known, or past an error. -/
def Reader.Settled (applied : Option Nat) (r : Reader) : Prop :=
  (∃ f, r.mode = .plain f applied) ∨ ∃ e, r.mode = .error e

/-- Past no batch, or before the header. -/
def Reader.Unbatched (r : Reader) : Prop :=
  r.mode = .header ∨ r.Settled none

theorem Reader.Settled.step {applied : Option Nat} (h : r.Settled applied)
    (hraw : stripSuffix carriageReturn raw.1 ≠ journalBegin) : (r.step raw).Settled applied := by
  obtain ⟨no, pos, version, mode⟩ := r
  rcases h with ⟨f, h⟩ | ⟨e, h⟩
  · obtain rfl : mode = .plain f applied := h
    rw [step_eq no pos version (by simp) (Mode.step_plain_record hraw)]
    cases f.record (Line.mkAt no pos raw) with
    | ok f' => exact .inl ⟨f', rfl⟩
    | error e => exact .inr ⟨e, rfl⟩
  · obtain rfl : mode = .error e := h
    exact .inr ⟨e, rfl⟩

theorem Reader.Unbatched.step (h : r.Unbatched)
    (hraw : stripSuffix carriageReturn raw.1 ≠ journalBegin) : (r.step raw).Settled none := by
  rcases h with h | h
  · obtain ⟨no, pos, version, mode⟩ := r
    obtain rfl : mode = .header := h
    cases hversion : parseHeader (Line.mkAt no pos raw).text with
    | ok v => exact .inl ⟨{}, Mode.step_header_ok (unline raw) hversion⟩
    | error e => exact .inr ⟨e, Mode.step_header_error (unline raw) hversion⟩
  · exact h.step hraw

theorem Reader.Settled.run (h : r.Settled applied) {raws : List (Str × Bool)}
    (hraws : ∀ raw ∈ raws, stripSuffix carriageReturn raw.1 ≠ journalBegin) :
    (r.run raws).Settled applied := by
  induction raws generalizing r with
  | nil => exact h
  | cons raw raws ih =>
    exact ih (h.step (hraws raw mem_cons_self)) fun x hx => hraws x (mem_cons_of_mem _ hx)

theorem Reader.Settled.appliedLen (h : r.Settled none) {len : Nat} (hd : r.finish len = .ok d) :
    d.appliedLen = len := by
  obtain ⟨no, pos, version, mode⟩ := r
  rcases h with ⟨f, h⟩ | ⟨e, h⟩
  · obtain rfl : mode = .plain f none := h
    cases hd
    rfl
  · obtain rfl : mode = .error e := h
    cases hd

theorem Reader.Settled.step_endLine (h : r.Settled applied) (body : Str) :
    ∃ e, (r.step (endLine body, true)).mode = .error e := by
  obtain ⟨no, pos, version, mode⟩ := r
  rcases h with ⟨f, h⟩ | ⟨e, h⟩
  · obtain rfl : mode = .plain f applied := h
    have htext : (Line.mkAt no pos (endLine body, true)).text = endLine body := strip_endLine body
    have hnot : (Line.mkAt no pos (endLine body, true)).text ≠ journalBegin := by
      rw [htext]
      exact fun heq => absurd (cons.inj heq).1 (by decide)
    rw [step_eq no pos version (by simp) (Mode.step_plain_record hnot), record_endLine f htext]
    exact ⟨_, rfl⟩
  · obtain rfl : mode = .error e := h
    exact ⟨e, rfl⟩

/-- **A text that ends inside a line and is applied to its end has no batch.** -/
theorem unbatched_of_applied {base : Str} (hbase : EndsLine base) (hlast : newline ∉ last)
    (hne : last ≠ []) (h : parseDump (base ++ last) = .ok d)
    (hd : d.appliedLen = (base ++ last).length) : (readText base).Unbatched := by
  obtain ⟨no, version, f, applied, hread, happ, _⟩ := readText_of_applied h hd
  have hplaced := placed_readText base
  have hpos := pos_readText base
  rw [readText_append hbase, rawLines_unfinished hlast hne, run_cons, run_nil] at hread
  generalize readText base = r at hread hplaced hpos ⊢
  obtain ⟨no', pos', version', mode'⟩ := r
  obtain rfl : pos' = base.length := hpos
  have hmode : mode'.step (Line.mkAt no' base.length (last, false)) (unline (last, false))
      = .plain f applied := congrArg mode hread
  cases mode' with
  | header => exact .inl rfl
  | plain f' applied' =>
    by_cases hbegin : (Line.mkAt no' base.length (last, false)).text = journalBegin
    · rw [Mode.step_plain_begin hbegin] at hmode
      cases hmode
    · rw [Mode.step_plain_record hbegin] at hmode
      have heq : applied' = applied := by
        cases hrec : f'.record (Line.mkAt no' base.length (last, false)) with
        | ok f'' =>
          rw [hrec] at hmode
          cases hmode
          rfl
        | error e =>
          rw [hrec] at hmode
          cases hmode
      cases applied' with
      | none => exact .inr (.inl ⟨f', rfl⟩)
      | some x =>
        -- the end of a batch would be a newline before the last line
        have hx : x ≤ base.length := hplaced x rfl
        rw [← heq, Option.getD_some, length_append] at happ
        have hpos : 0 < last.length := length_pos_of_ne_nil hne
        omega
  | batch f' start body records =>
    rw [Mode.step_batch_cut (by rfl)] at hmode
    cases hmode
  | failed f' start =>
    by_cases hbegin : (Line.mkAt no' base.length (last, false)).text = journalBegin
    · rw [Mode.step_failed_begin hbegin] at hmode
      cases hmode
    · rw [Mode.step_failed_other hbegin] at hmode
      cases hmode
  | error e => exact .inr (.inr ⟨e, rfl⟩)

/-- The lines of a cut batch: a part of `begin`, then lines that do not start as it does. -/
theorem rawLines_take_batchText {ops : List JournalOp} (h : ∀ op ∈ ops, op.Readable) (h0 : 0 < k) :
    ∃ i whole raws, 0 < i ∧
      rawLines ((batchText ops).take k) = (journalBegin.take i, whole) :: raws ∧
      (∀ raw ∈ raws, raw.1.head? ≠ some 98) ∧
      ((batchText ops).length ≤ k →
        ∃ front, raws = front ++ [(endLine (unlines (ops.map JournalOp.line)), true)]) := by
  by_cases hlt : k < (batchText ops).length
  · obtain ⟨front, l, back, hsplit, j, hj, hkj, hraw⟩ :=
      rawLines_take_unlines (newline_not_mem_batchLines h) hlt
    cases front with
    | nil =>
      obtain rfl : l = journalBegin := (cons.inj hsplit).1.symm
      rw [unlines_nil, length_nil, Nat.zero_add] at hkj
      have hne : journalBegin.take j ≠ [] := by
        rw [Ne, take_eq_nil_iff, not_or]
        exact ⟨by omega, by decide⟩
      refine ⟨j, false, [], by omega, ?_, fun _ h => (nomatch h), fun hle => absurd hlt (by omega)⟩
      rw [batchText, hraw, partialLine, if_neg hne]
      rfl
    | cons m front =>
      obtain ⟨rfl, hrest⟩ := cons.inj hsplit
      refine ⟨5, true, (front.map fun m => (m, true)) ++ partialLine (l.take j), by decide, ?_, ?_,
        fun hle => absurd hlt (by omega)⟩
      · rw [batchText, hraw]
        rfl
      · intro raw hmem
        rcases mem_append.mp hmem with hmem | hmem
        · obtain ⟨m, hm, rfl⟩ := mem_map.mp hmem
          have hmem' : m ∈ innerLines ops := hrest ▸ mem_append_left _ hm
          exact head?_ne_of_mem_innerLines hmem'
        · have hl : l ∈ innerLines ops := hrest ▸ mem_append_right _ mem_cons_self
          rw [partialLine] at hmem
          split at hmem
          · cases hmem
          · rename_i hne
            rw [mem_singleton.mp hmem]
            have hj0 : j ≠ 0 := by
              rintro rfl
              exact hne rfl
            rw [head?_take, if_neg hj0]
            exact head?_ne_of_mem_innerLines hl
  · have htake : (batchText ops).take k = batchText ops := take_of_length_le (by omega)
    refine ⟨5, true, (innerLines ops).map fun l => (l, true), by decide, ?_, ?_, fun _ => ?_⟩
    · rw [htake, rawLines_batchText h, batchLines, map_cons]
      rfl
    · intro raw hmem
      obtain ⟨l, hl, rfl⟩ := mem_map.mp hmem
      exact head?_ne_of_mem_innerLines hl
    · exact ⟨_, by rw [innerLines, map_append]; rfl⟩

/-- **An append behind a text that does not end in a newline is never read as one**: what is read is
applied to its end, and the whole batch is not read at all. -/
theorem glued_append {base : Str} (hbase : EndsLine base) (hlast : newline ∉ last)
    (hne : last ≠ []) (hT : parseDump (base ++ last) = .ok d)
    (hd : d.appliedLen = (base ++ last).length) {ops : List JournalOp}
    (h : ∀ op ∈ ops, op.Readable) (h0 : 0 < k) {d' : DumpFile}
    (hd' : parseDump (base ++ last ++ (batchText ops).take k) = .ok d') :
    k < (batchText ops).length ∧ d'.appliedLen = (base ++ last ++ (batchText ops).take k).length := by
  obtain ⟨i, whole, raws, hi, hraw, hhead, hfull⟩ := rawLines_take_batchText h h0
  have hbase' := unbatched_of_applied hbase hlast hne hT hd
  have hlines : rawLines (last ++ (batchText ops).take k)
      = (last ++ journalBegin.take i, whole) :: raws := rawLines_glue hlast hraw
  have hnot : ∀ raw ∈ (last ++ journalBegin.take i, whole) :: raws,
      stripSuffix carriageReturn raw.1 ≠ journalBegin := by
    intro raw hmem
    rcases mem_cons.mp hmem with rfl | hmem
    · exact strip_glued_ne_begin hne hi
    · exact strip_ne_begin (hhead raw hmem)
  have hsettled : ((readText base).run ((last ++ journalBegin.take i, whole) :: raws)).Settled none :=
    (hbase'.step (hnot _ mem_cons_self)).run fun raw hmem =>
      hnot raw (mem_cons_of_mem _ hmem)
  rw [parseDump_eq, append_assoc, readText_append hbase, hlines] at hd'
  refine ⟨Nat.lt_of_not_le fun hle => ?_, by rw [hsettled.appliedLen hd', append_assoc]⟩
  -- the closing line of the whole batch is no record
  obtain ⟨front, rfl⟩ := hfull hle
  have hfront : ((readText base).run ((last ++ journalBegin.take i, whole) :: front)).Settled none :=
    (hbase'.step (hnot _ mem_cons_self)).run fun raw hmem =>
      hnot raw (mem_cons_of_mem _ (mem_append_left _ hmem))
  obtain ⟨e, he⟩ := hfront.step_endLine (unlines (ops.map JournalOp.line))
  rw [← cons_append, run_append, run_cons, run_nil,
    finish_error he] at hd'
  cases hd'

/-! ### The operations that are written -/

/-- An operation that fits the format: an id without tabs and newlines, key numbers of sixteen bits
and lengths of thirty-two; a deleted id that does not end the line. -/
def JournalOp.Storable : JournalOp → Prop
  | .put p => (tab ∉ p.name ∧ newline ∉ p.name) ∧ p.name.length < 2 ^ 32 ∧
      (p.tlData.length < 2 ^ 32 ∧ ∀ t ∈ p.tlData, t.contents.length < 2 ^ 32) ∧
      (p.keys.length < 2 ^ 32 ∧
        ∀ k ∈ p.keys, k.kvno ≤ 65535 ∧ ∀ s ∈ k.slots, s.contents.length < 2 ^ 32) ∧
      p.eData.length < 2 ^ 32
  | .del id => newline ∉ id ∧ id.getLast? ≠ some carriageReturn

instance (op : JournalOp) : Decidable op.Storable := by
  cases op <;> unfold JournalOp.Storable <;> infer_instance

/-- **What `journal_batch` writes can be read back when it fits the format.** -/
theorem readable_of_journalChanges {env : WriteEnv} {s : PrincipalStore} {mkey : ProtocolKey}
    {ids : List Str} {ops : List JournalOp} (h : journalChanges env s mkey ids = .ok ops)
    (hfit : ∀ op ∈ ops, op.Storable) : ∀ op ∈ ops, op.Readable := by
  have hall : ∀ op ∈ ops, op.Storable → op.Readable := by
    refine forall_mem_of_mapM_ok h ?_
    rintro ⟨id, i⟩ _ op hop hst
    dsimp only at hop
    rw [journalChange] at hop
    cases hp : s.principalById id with
    | none =>
      rw [hp] at hop
      cases hop
      exact hst
    | some p =>
      rw [hp] at hop
      dsimp only at hop
      cases he : princEntry env [i] s mkey false p with
      | error e =>
        rw [he] at hop
        cases hop
      | ok e =>
        rw [he] at hop
        cases hop
        obtain ⟨hname, hnameLen, ⟨hnTl, htl⟩, ⟨hnKeys, hkeys⟩, heLen⟩ := hst
        have hshape := keys_princEntry he
        exact ⟨⟨hname, hnameLen, hnTl, htl, hnKeys,
          fun k hk => ⟨hshape k hk, (hkeys k hk).1, (hkeys k hk).2⟩, heLen⟩,
          parseSidTl_princEntry he⟩
  exact fun op hop => hall op hop (hfit op hop)

/-! ### Atomicity -/

/-- A cut append that is not noticed: the text reads as it did and is applied up to where it ended. -/
def AppendKept (text : Str) (d : DumpFile) (part : Str) : Prop :=
  ∃ d', parseDump (text ++ part) = .ok d' ∧ d'.princs = d.princs ∧ d'.policies = d.policies ∧
    d'.appliedLen = text.length

/-- An append that is read: its operations override the entries of before, in order. -/
def AppendApplied (text : Str) (d : DumpFile) (batch : Str) (ops : List JournalOp) : Prop :=
  ∃ d', parseDump (text ++ batch) = .ok d' ∧
    lookupPrinc d'.princs = ops.foldl JournalOp.override (lookupPrinc d.princs) ∧
    d'.policies = d.policies ∧ d'.appliedLen = text.length + batch.length

/-- What the text must be after the first `k` bytes of a batch were appended. -/
def AppendAtomic (text : Str) (d : DumpFile) (batch : Str) (ops : List JournalOp) (k : Nat) : Prop :=
  (k < batch.length → AppendKept text d (batch.take k)) ∧
    (k = batch.length → AppendApplied text d batch ops)

theorem princs_foldl_after (ops : List JournalOp) (f : Fold) :
    (ops.foldl Fold.after f).princs = ops.foldl (fun princs op => op.apply princs) f.princs ∧
      (ops.foldl Fold.after f).policies = f.policies := by
  induction ops generalizing f with
  | nil => exact ⟨rfl, rfl⟩
  | cons op ops ih =>
    have hop : (f.after op).princs = op.apply f.princs ∧ (f.after op).policies = f.policies := by
      cases op <;> exact ⟨rfl, rfl⟩
    obtain ⟨hprincs, hpolicies⟩ := ih (f.after op)
    rw [foldl_cons, foldl_cons, hprincs, hpolicies, hop.1, hop.2]
    exact ⟨rfl, rfl⟩

theorem five_lt_batchText (ops : List JournalOp) : 5 < (batchText ops).length := by
  have hlen : journalBegin.length = 5 := by decide
  rw [batchText, batchLines, length_unlines_cons, hlen]
  omega

/-- **An append that is cut after `k` bytes leaves the database as it was, or, when nothing is cut,
with the whole batch applied, exactly when nothing was written or the text ended in a newline and the
first five bytes were written.** -/
theorem torn_append_atomic_iff {env : WriteEnv} {s : PrincipalStore} {mkey : ProtocolKey}
    {ids : List Str} {text batch : Str} {d : DumpFile} {ops : List JournalOp} {k : Nat}
    (hT : parseDump text = .ok d) (hd : d.appliedLen = text.length)
    (hbatch : journalBatch env s mkey ids = .ok batch)
    (hops : journalChanges env s mkey ids = .ok ops) (hfit : ∀ op ∈ ops, op.Storable)
    (hk : k ≤ batch.length) :
    AppendAtomic text d batch ops k ↔ k = 0 ∨ (EndsLine text ∧ 5 ≤ k) := by
  have hread := readable_of_journalChanges hops hfit
  obtain ⟨ops', hops', rfl⟩ := journalBatch_ok hbatch
  obtain rfl : ops' = ops := Except.ok.inj (hops'.symm.trans hops)
  have h5 := five_lt_batchText ops'
  constructor
  · -- what a cut that is not noticed must look like
    rintro ⟨hcut, hfull⟩
    refine or_iff_not_imp_left.mpr fun h0 => ?_
    have hpos : 0 < k := Nat.pos_of_ne_zero h0
    obtain ⟨d', hd', happlied⟩ : ∃ d', parseDump (text ++ (batchText ops').take k) = .ok d' ∧
        (k < (batchText ops').length → d'.appliedLen = text.length) := by
      rcases Nat.lt_or_eq_of_le hk with hlt | heq
      · obtain ⟨d', hd', _, _, happ⟩ := hcut hlt
        exact ⟨d', hd', fun _ => happ⟩
      · obtain ⟨d', hd', _⟩ := hfull heq
        rw [List.take_of_length_le (Nat.le_of_eq heq.symm)]
        exact ⟨d', hd', fun hlt => absurd heq (Nat.ne_of_lt hlt)⟩
    have hends : EndsLine text := by
      by_contra hnot
      obtain ⟨base, last, rfl, hbase, hlast⟩ := exists_endsLine_append text
      have hne : last ≠ [] := by
        rintro rfl
        exact hnot (by rwa [List.append_nil])
      obtain ⟨hlt, hlen⟩ := glued_append hbase hlast hne hT hd hread hpos hd'
      have hsplit : (base ++ last ++ (batchText ops').take k).length
          = (base ++ last).length + ((batchText ops').take k).length := List.length_append
      rw [happlied hlt, hsplit, List.length_take] at hlen
      omega
    refine ⟨hends, Nat.le_of_not_lt fun hlt5 => ?_⟩
    obtain ⟨no, version, f, applied, htext, _⟩ := readText_of_applied hT hd
    obtain ⟨e, he⟩ := parseDump_cut_begin hends htext ops' hpos hlt5
    rw [he] at hd'
    cases hd'
  · intro h
    obtain ⟨no, version, f, applied, htext, _, hprincs, hpolicies⟩ := readText_of_applied hT hd
    rcases h with rfl | ⟨hends, hk5⟩
    · refine ⟨fun _ => ?_, fun heq => absurd heq (by omega)⟩
      exact ⟨d, by rwa [List.take_zero, List.append_nil], rfl, rfl, hd⟩
    · constructor
      · intro hlt
        refine ⟨f.file version text.length, ?_, hprincs.symm, hpolicies.symm, rfl⟩
        rw [parseDump_eq, readText_append hends, htext, finish_torn hread hk5 hlt]
        rfl
      · intro _
        obtain ⟨hafter, hafter'⟩ := princs_foldl_after ops' f
        refine ⟨(ops'.foldl Fold.after f).file version (text.length + (batchText ops').length),
          ?_, ?_, ?_, rfl⟩
        · rw [parseDump_eq, readText_append hends, htext, run_batchText hread]
          rfl
        · rw [hprincs, ← lookupPrinc_foldl, ← hafter]
          rfl
        · rw [hpolicies, ← hafter']
          rfl

/-! ### A database of one entry -/

namespace Sample

/-- Ciphers that leave a key as it is. -/
def env : WriteEnv where
  crypto := ⟨fun _ _ raw => .ok raw, fun _ raw => .ok raw⟩
  now := 1700000000

def mkey : ProtocolKey := ⟨.rc4Hmac, List.replicate 16 7⟩

def domain : RpcSid := ⟨1, Vector.ofFn fun i => if i = 5 then 5 else 0, [21, 11, 13, 17]⟩

/-- `alice@R`, with one key and a salt. -/
def alice : Principal where
  name := ⟨PrincipalName.ntPrincipal, [str "alice"]⟩
  realm := str "R"
  keys := [{ etype := .rc4Hmac, key := mkey, kvno := 1, saltType := some 4, kdbSalt := some [1, 2] }]
  rid := 1001

/-- A store without entries. -/
def store : PrincipalStore :=
  { realm := str "R", domainSid := domain, nextRid := 1002 }

/-- A database with `alice@R`. -/
def text : Str :=
  str "kdb5_util load_dump version 7\n"
    ++ (writePrincRecord env [] store mkey false alice).toOption.getD []

def dump : DumpFile :=
  (parseDump text).toOption.getD ⟨0, [], [], 0, 0, 0⟩

/-- The change that deletes the entry. -/
def ids : List Str := [str "alice@R"]

def ops : List JournalOp := [.del (str "alice@R")]

def batch : Str := batchText ops

end Sample

open Sample

/-- The append of a deletion, cut in the middle and not cut. -/
theorem torn_append_atomic_at_sample :
    AppendAtomic text dump batch ops 10 ∧
      AppendAtomic text dump batch ops batch.length := by
  have hT : parseDump text = .ok dump := by decide +kernel
  have hd : dump.appliedLen = text.length := by decide +kernel
  have hbatch : journalBatch env store mkey ids = .ok batch := by
    decide +kernel
  have hops : journalChanges env store mkey ids = .ok ops := by
    decide +kernel
  have hfit : ∀ op ∈ ops, op.Storable := by decide +kernel
  have hends : EndsLine text := by decide +kernel
  have hlen : 10 ≤ batch.length := by decide +kernel
  have hcut := torn_append_atomic_iff hT hd hbatch hops hfit hlen
  have hfull := torn_append_atomic_iff hT hd hbatch hops hfit (Nat.le_refl batch.length)
  exact ⟨hcut.mpr (.inr ⟨hends, by decide⟩), hfull.mpr (.inr ⟨hends, Nat.le_trans (by decide) hlen⟩)⟩

/-- One byte of a batch behind a database that reads well makes it unreadable. -/
theorem cut_begin_is_unreadable :
    parseDump text = .ok dump ∧ dump.appliedLen = text.length ∧
      journalBatch env store mkey ids = .ok batch ∧
      1 < batch.length ∧
      parseDump (text ++ batch.take 1)
        = .error (.format (str "line 3: unknown record type")) := by
  decide +kernel

end Kerber
