import Kerber.KdbDump.Parse

/-!
# The reader as a machine over lines

`parseDump` takes lines from one iterator in three places: its own loop, `readBatch`, and the search
for another `begin`.  Here the same is a machine that takes one line at a time (`Reader.step`) and
knows in its mode what it is inside of; `parseDump_eq` says that the two agree.  A run over a text
that follows a newline continues the run over what is before it (`readText_append`), which is what
the results about appended and damaged texts rest on.
-/

namespace Kerber

open List

variable {raws : List (Str × Bool)} {pos : Nat}

/-- What the reader is inside of. -/
inductive Mode
  /-- Nothing was read. -/
  | header
  /-- Between records; `applied` is the end of the last batch. -/
  | plain (f : Fold) (applied : Option Nat)
  /-- After `start`, a line `begin`: the bytes and the lines since. -/
  | batch (f : Fold) (start : Line) (body : Str) (records : List Line)
  /-- The batch after `start` did not check; no other may begin. -/
  | failed (f : Fold) (start : Line)
  | error (e : DumpError)

/-- The reader: the number and the place of the next line, the version read, the mode. -/
structure Reader where
  no : Nat := 1
  pos : Nat := 0
  version : Nat := 0
  mode : Mode := .header

/-- Between records again, unless one of them was bad. -/
def Mode.settle (applied : Option Nat) : Except DumpError Fold → Mode
  | .ok f => .plain f applied
  | .error e => .error e

/-- The mode after a line; `raw` are its bytes with the newline. -/
def Mode.step (mode : Mode) (line : Line) (raw : Str) : Mode :=
  match mode with
  | .header =>
    match parseHeader line.text with
    | .ok _ => .plain {} none
    | .error e => .error e
  | .plain f applied =>
    if line.text ≠ journalBegin then .settle applied (f.record line) else .batch f line [] []
  | .batch f start body records =>
    if !line.whole then .failed f start
    else
      match stripPrefix journalEnd line.text with
      | some crc =>
        if parseNat 16 u32Limit crc == some (crc32 body).toNat then
          .settle (some line.stop) (f.recordAll records)
        else .failed f start
      | none => .batch f start (body ++ raw) (records ++ [line])
  | .failed f start =>
    if line.text = journalBegin then
      .error (badLine start.no (str "appended change does not check"))
    else .failed f start
  | .error e => .error e

/-- What was read, as `parse_dump` returns it. -/
def Fold.file (f : Fold) (version appliedLen : Nat) : DumpFile :=
  { version, princs := f.princs, policies := f.policies, records := f.records, appliedLen,
    seenRid := f.maxRid }

namespace Reader

/-- One line. -/
def step (r : Reader) (raw : Str × Bool) : Reader :=
  let line := Line.mkAt r.no r.pos raw
  { no := r.no + 1
    pos := line.stop
    version := match r.mode with
      | .header => (parseHeader line.text).toOption.getD 0
      | _ => r.version
    mode := r.mode.step line (unline raw) }

/-- Lines one after another. -/
def run (r : Reader) (raws : List (Str × Bool)) : Reader :=
  raws.foldl step r

/-- What the reader has when the text of length `len` ends. -/
def finish (r : Reader) (len : Nat) : Except DumpError DumpFile :=
  match r.mode with
  | .header => .error (.format (str "empty dump"))
  | .plain f applied => .ok (f.file r.version (applied.getD len))
  | .batch f start _ _ => .ok (f.file r.version start.start)
  | .failed f start => .ok (f.file r.version start.start)
  | .error e => .error e

@[simp] theorem run_nil (r : Reader) : r.run [] = r := rfl

@[simp] theorem run_cons (r : Reader) (raw : Str × Bool) (raws : List (Str × Bool)) :
    r.run (raw :: raws) = (r.step raw).run raws := rfl

theorem run_append (r : Reader) (raws more : List (Str × Bool)) :
    r.run (raws ++ more) = (r.run raws).run more :=
  foldl_append

theorem length_unline (raw : Str × Bool) : (unline raw).length = raw.1.length + raw.2.toNat := by
  rcases raw with ⟨s, whole⟩
  cases whole <;> simp [unline]

theorem pos_step (r : Reader) (raw : Str × Bool) :
    (r.step raw).pos = r.pos + (unline raw).length := by
  rw [length_unline, ← Nat.add_assoc]
  rfl

theorem pos_run (r : Reader) (raws : List (Str × Bool)) :
    (r.run raws).pos = r.pos + (raws.flatMap unline).length := by
  induction raws generalizing r with
  | nil => rfl
  | cons raw raws ih =>
    rw [run_cons, ih, pos_step, flatMap_cons, length_append, Nat.add_assoc]

theorem run_error {r : Reader} {e : DumpError} (h : r.mode = .error e) (raws : List (Str × Bool)) :
    (r.run raws).mode = .error e := by
  induction raws generalizing r with
  | nil => exact h
  | cons raw raws ih =>
    rw [run_cons]
    refine ih ?_
    show r.mode.step _ _ = _
    rw [h]
    rfl

theorem finish_error {r : Reader} {e : DumpError} (h : r.mode = .error e) (len : Nat) :
    r.finish len = .error e := by
  rw [finish, h]

end Reader

def readText (text : Str) : Reader :=
  Reader.run {} (rawLines text)

theorem readText_append {text : Str} (h : EndsLine text) (rest : Str) :
    readText (text ++ rest) = (readText text).run (rawLines rest) := by
  rw [readText, rawLines_append h, Reader.run_append]
  rfl

theorem pos_readText (text : Str) : (readText text).pos = text.length := by
  rw [readText, Reader.pos_run, flatMap_unline_rawLines]
  exact Nat.zero_add _

/-! ### The loop of the source -/

namespace Reader

variable {text : Str}

/-- What is left of the text when the reader is at `pos` with the lines `raws` to come. -/
def At (text : Str) (pos : Nat) (raws : List (Str × Bool)) : Prop :=
  ∃ pre, text = pre ++ raws.flatMap unline ∧ pre.length = pos

theorem At.next {raw : Str × Bool}
    (h : At text pos (raw :: raws)) (no : Nat) : At text (Line.mkAt no pos raw).stop raws := by
  obtain ⟨pre, htext, hpre⟩ := h
  refine ⟨pre ++ unline raw, by rw [htext, flatMap_cons, append_assoc], ?_⟩
  rw [length_append, length_unline, hpre, ← Nat.add_assoc]
  rfl

/-- After a batch that did not check, the text ends well only without another `begin`. -/
theorem finish_failed (no pos version : Nat) (f : Fold) (start : Line) (raws : List (Str × Bool))
    (len : Nat) :
    finish (run ⟨no, pos, version, .failed f start⟩ raws) len
      = if anyBegin (numberLines no pos raws) then
          .error (badLine start.no (str "appended change does not check"))
        else finish ⟨no, pos, version, .failed f start⟩ len := by
  induction raws generalizing no pos with
  | nil => rfl
  | cons raw raws ih =>
    have hany : anyBegin (numberLines no pos (raw :: raws))
        = (decide ((Line.mkAt no pos raw).text = journalBegin)
          || anyBegin (numberLines (no + 1) (Line.mkAt no pos raw).stop raws)) := rfl
    rw [run_cons, hany]
    by_cases hbegin : (Line.mkAt no pos raw).text = journalBegin
    · rw [decide_eq_true hbegin, Bool.true_or, if_pos rfl]
      refine finish_error (run_error ?_ raws) len
      exact if_pos hbegin
    · have hstep : step ⟨no, pos, version, .failed f start⟩ raw
          = ⟨no + 1, (Line.mkAt no pos raw).stop, version, .failed f start⟩ := by
        rw [step]
        exact congrArg _ (if_neg hbegin)
      rw [hstep, ih, decide_eq_false hbegin, Bool.false_or]
      rfl

end Reader

section ReadBatch

variable (text : Str) (start : Line) {line : Line} (rest : List Line)

theorem readBatch_cut (h : line.whole = false) :
    readBatch text start (line :: rest) = ⟨none, rest⟩ := by
  rw [readBatch, h]
  rfl

theorem readBatch_end {crc : Str} (hwhole : line.whole = true)
    (h : stripPrefix journalEnd line.text = some crc) :
    readBatch text start (line :: rest)
      = ⟨if checksumHolds text start line crc then some ([], line.stop) else none, rest⟩ := by
  rw [readBatch, hwhole, h]
  rfl

theorem readBatch_more (hwhole : line.whole = true) (h : stripPrefix journalEnd line.text = none) :
    readBatch text start (line :: rest)
      = ⟨(readBatch text start rest).found.map fun (records, stop) => (line :: records, stop),
         (readBatch text start rest).rest⟩ := by
  rw [readBatch, hwhole, h]
  rfl

variable {records : List Line} {stop : Nat} (fuel : Nat) (f : Fold) (applied : Nat)

theorem parseLoop_record (h : line.text ≠ journalBegin) :
    parseLoop text (fuel + 1) f applied (line :: rest)
      = f.record line >>= fun f => parseLoop text fuel f applied rest := by
  rw [parseLoop, if_pos h]

theorem parseLoop_found (h : line.text = journalBegin)
    (hfound : (readBatch text line rest).found = some (records, stop)) :
    parseLoop text (fuel + 1) f applied (line :: rest)
      = f.recordAll records >>= fun f => parseLoop text fuel f stop (readBatch text line rest).rest := by
  simp only [parseLoop, h, hfound, ne_eq, not_true_eq_false, if_false]

theorem parseLoop_none (h : line.text = journalBegin)
    (hfound : (readBatch text line rest).found = none) :
    parseLoop text (fuel + 1) f applied (line :: rest)
      = if anyBegin (readBatch text line rest).rest then
          .error (badLine line.no (str "appended change does not check"))
        else .ok (f, line.start) := by
  simp only [parseLoop, h, hfound, ne_eq, not_true_eq_false, if_false]

end ReadBatch

namespace Mode

variable {f : Fold} {start line : Line} {body raw : Str} {records : List Line}

theorem step_batch_cut (h : line.whole = false) :
    (Mode.batch f start body records).step line raw = .failed f start := by
  rw [step, h]
  rfl

theorem step_batch_end {crc : Str} (hwhole : line.whole = true)
    (h : stripPrefix journalEnd line.text = some crc) :
    (Mode.batch f start body records).step line raw
      = if parseNat 16 u32Limit crc == some (crc32 body).toNat then
          .settle (some line.stop) (f.recordAll records)
        else .failed f start := by
  rw [step, hwhole, h]
  rfl

theorem step_batch_more (hwhole : line.whole = true) (h : stripPrefix journalEnd line.text = none) :
    (Mode.batch f start body records).step line raw
      = .batch f start (body ++ raw) (records ++ [line]) := by
  rw [step, hwhole, h]
  rfl

theorem step_header_ok (bytes : Str) {version : Nat} (h : parseHeader line.text = .ok version) :
    Mode.header.step line bytes = .plain {} none := by
  rw [step, h]

theorem step_header_error (bytes : Str) {e : DumpError} (h : parseHeader line.text = .error e) :
    Mode.header.step line bytes = .error e := by
  rw [step, h]

theorem step_failed_begin (h : line.text = journalBegin) :
    (Mode.failed f start).step line raw
      = .error (badLine start.no (str "appended change does not check")) :=
  if_pos h

theorem step_failed_other (h : line.text ≠ journalBegin) :
    (Mode.failed f start).step line raw = .failed f start :=
  if_neg h

theorem step_plain_begin {applied : Option Nat} (h : line.text = journalBegin) :
    (Mode.plain f applied).step line raw = .batch f line [] [] :=
  if_neg (not_not.mpr h)

theorem step_plain_record {applied : Option Nat} (h : line.text ≠ journalBegin) :
    (Mode.plain f applied).step line raw = .settle applied (f.record line) :=
  if_pos h

/-- What a line can do to the mode: every change there is. -/
inductive Turns (line : Line) (raw : Str) : Mode → Mode → Prop
  | version {v : Nat} (h : parseHeader line.text = .ok v) : Turns line raw .header (.plain {} none)
  | noVersion {e : DumpError} (h : parseHeader line.text = .error e) :
      Turns line raw .header (.error e)
  | begins {f : Fold} {applied : Option Nat} (h : line.text = journalBegin) :
      Turns line raw (.plain f applied) (.batch f line [] [])
  | record {f : Fold} {applied : Option Nat} (h : line.text ≠ journalBegin) :
      Turns line raw (.plain f applied) (.settle applied (f.record line))
  | closes {f : Fold} {start : Line} {body crc : Str} {records : List Line}
      (h : stripPrefix journalEnd line.text = some crc) :
      Turns line raw (.batch f start body records) (.settle (some line.stop) (f.recordAll records))
  | more {f : Fold} {start : Line} {body : Str} {records : List Line} :
      Turns line raw (.batch f start body records)
        (.batch f start (body ++ raw) (records ++ [line]))
  | givesUp {f : Fold} {start : Line} {body : Str} {records : List Line} :
      Turns line raw (.batch f start body records) (.failed f start)
  | stays {f : Fold} {start : Line} : Turns line raw (.failed f start) (.failed f start)
  | again {f : Fold} {start : Line} {e : DumpError} : Turns line raw (.failed f start) (.error e)
  | error {e : DumpError} : Turns line raw (.error e) (.error e)

theorem turns_step (mode : Mode) (line : Line) (raw : Str) :
    Turns line raw mode (mode.step line raw) := by
  cases mode with
  | header =>
    cases hversion : parseHeader line.text with
    | ok v =>
      rw [step_header_ok _ hversion]
      exact .version hversion
    | error e =>
      rw [step_header_error _ hversion]
      exact .noVersion hversion
  | plain f applied =>
    by_cases hbegin : line.text = journalBegin
    · rw [step_plain_begin hbegin]
      exact .begins hbegin
    · rw [step_plain_record hbegin]
      exact .record hbegin
  | batch f start body records =>
    by_cases hwhole : line.whole = true
    · cases hend : stripPrefix journalEnd line.text with
      | some crc =>
        rw [step_batch_end hwhole hend]
        split
        · exact .closes hend
        · exact .givesUp
      | none =>
        rw [step_batch_more hwhole hend]
        exact .more
    · rw [step_batch_cut (Bool.eq_false_iff.mpr hwhole)]
      exact .givesUp
  | failed f start =>
    by_cases hbegin : line.text = journalBegin
    · rw [step_failed_begin hbegin]
      exact .again
    · rw [step_failed_other hbegin]
      exact .stays
  | error e => exact .error

end Mode

namespace Reader

variable {text : Str}

theorem step_eq (no pos version : Nat) {mode mode' : Mode} {raw : Str × Bool}
    (hne : mode ≠ .header) (h : mode.step (Line.mkAt no pos raw) (unline raw) = mode') :
    step ⟨no, pos, version, mode⟩ raw
      = ⟨no + 1, (Line.mkAt no pos raw).stop, version, mode'⟩ := by
  subst h
  cases mode with
  | header => exact absurd rfl hne
  | _ => rfl

/-- The mode after `readBatch`. -/
def afterBatch (f : Fold) (start : Line) (records : List Line) : Option (List Line × Nat) → Mode
  | some (more, stop) => .settle (some stop) (f.recordAll (records ++ more))
  | none => .failed f start

/-- The bytes of a batch up to a place, one line on. -/
theorem At.body {raw : Str × Bool} {start : Line} {body : Str}
    (h : At text pos (raw :: raws)) (no : Nat) (hstart : start.stop + body.length = pos)
    (hbody : (text.take pos).drop start.stop = body) :
    start.stop + (body ++ unline raw).length = (Line.mkAt no pos raw).stop ∧
      (text.take (Line.mkAt no pos raw).stop).drop start.stop = body ++ unline raw := by
  obtain ⟨pre, htext, hpre⟩ := h
  have hstop : (Line.mkAt no pos raw).stop = (pre ++ unline raw).length := by
    rw [length_append, length_unline, hpre, ← Nat.add_assoc]
    rfl
  have htake : text.take (Line.mkAt no pos raw).stop = pre ++ unline raw := by
    rw [htext, flatMap_cons, ← append_assoc, hstop, take_left]
  have hpretake : text.take pos = pre := by
    rw [htext, ← hpre, take_left]
  rw [hpretake] at hbody
  constructor
  · rw [hstop, length_append, length_append]
    omega
  · rw [htake, drop_append_of_le_length (by omega), hbody]

/-- **`readBatch` takes the lines the machine takes inside a batch**: the run over all that follow is
the one over those it leaves, from the mode it ends in. -/
theorem finish_batch (no version : Nat) (f : Fold) {start : Line} {body : Str}
    (records : List Line) (hat : At text pos raws)
    (hstart : start.stop + body.length = pos) (hbody : (text.take pos).drop start.stop = body) :
    ∃ no' pos' raws', (readBatch text start (numberLines no pos raws)).rest
        = numberLines no' pos' raws' ∧ raws'.length ≤ raws.length ∧ At text pos' raws' ∧
      (∀ more stop, (readBatch text start (numberLines no pos raws)).found = some (more, stop) →
        pos' = stop) ∧
      ∀ len, finish (run ⟨no, pos, version, .batch f start body records⟩ raws) len
        = finish (run ⟨no', pos', version, afterBatch f start records
            (readBatch text start (numberLines no pos raws)).found⟩ raws') len := by
  induction raws generalizing no pos body records with
  | nil => exact ⟨no, pos, [], rfl, Nat.le_refl _, hat, fun _ _ h => (nomatch h), fun _ => rfl⟩
  | cons raw raws ih =>
    set line := Line.mkAt no pos raw with hline
    have hnext : At text line.stop raws := hat.next no
    have hrun : ∀ {mode}, (Mode.batch f start body records).step line (unline raw) = mode →
        run ⟨no, pos, version, .batch f start body records⟩ (raw :: raws)
          = run ⟨no + 1, line.stop, version, mode⟩ raws := fun h => by
      rw [run_cons, step_eq no pos version (by simp) h]
    rw [numberLines, ← hline]
    by_cases hwhole : line.whole = true
    · cases hend : stripPrefix journalEnd line.text with
      | some crc =>
        -- the line that closes the batch
        have hcheck : checksumHolds text start line crc
            = (parseNat 16 u32Limit crc == some (crc32 body).toNat) := by
          rw [checksumHolds, show line.start = pos from rfl, hbody]
        rw [readBatch_end text start _ hwhole hend, hcheck]
        refine ⟨no + 1, line.stop, raws, rfl, Nat.le_succ _, hnext, ?_, fun len => ?_⟩
        · intro more stop hfound
          split at hfound
          · exact congrArg Prod.snd (Option.some.inj hfound)
          · cases hfound
        · rw [hrun (Mode.step_batch_end hwhole hend)]
          split
          · rw [afterBatch, append_nil]
          · rfl
      | none =>
        obtain ⟨hstart', hbody'⟩ := hat.body no hstart hbody
        obtain ⟨no', pos', raws', hrest, hlen, hat', hpos', hfin⟩ :=
          ih (no + 1) (records ++ [line]) hnext hstart' hbody'
        rw [readBatch_more text start _ hwhole hend]
        refine ⟨no', pos', raws', hrest, Nat.le_succ_of_le hlen, hat', ?_, fun len => ?_⟩
        · intro more stop hfound
          obtain ⟨⟨more', stop'⟩, hfound', heq⟩ := Option.map_eq_some_iff.mp hfound
          exact (hpos' _ _ hfound').trans (congrArg Prod.snd heq)
        · rw [hrun (Mode.step_batch_more hwhole hend), hfin]
          cases (readBatch text start (numberLines (no + 1) line.stop raws)).found with
          | none => rfl
          | some found =>
            rw [Option.map_some, afterBatch, afterBatch, append_assoc]
            rfl
    · -- a line that is cut short ends the batch
      have hcut : line.whole = false := Bool.eq_false_iff.mpr hwhole
      rw [readBatch_cut text start _ hcut]
      refine ⟨no + 1, line.stop, raws, rfl, Nat.le_succ _, hnext, fun _ _ h => (nomatch h),
        fun len => ?_⟩
      rw [hrun (Mode.step_batch_cut hcut)]
      rfl

/-- What the loop returns, as the reader has it. -/
def fileOf (version : Nat) : Except DumpError (Fold × Nat) → Except DumpError DumpFile :=
  Except.map fun (f, appliedLen) => f.file version appliedLen

/-- **The loop of `parse_dump` is the machine between records.** -/
theorem fileOf_parseLoop (no version : Nat) (f : Fold) (applied : Option Nat)
    (hat : At text pos raws) {fuel : Nat} (hfuel : raws.length ≤ fuel) :
    fileOf version (parseLoop text fuel f (applied.getD text.length) (numberLines no pos raws))
      = finish (run ⟨no, pos, version, .plain f applied⟩ raws) text.length := by
  induction fuel generalizing no pos f applied raws with
  | zero =>
    obtain rfl : raws = [] := eq_nil_of_length_eq_zero (Nat.le_zero.mp hfuel)
    rfl
  | succ fuel ih =>
    cases raws with
    | nil => rfl
    | cons raw raws =>
      set line := Line.mkAt no pos raw with hline
      have hnext : At text line.stop raws := hat.next no
      have hfuel' : raws.length ≤ fuel := Nat.le_of_succ_le_succ hfuel
      rw [numberLines, ← hline, run_cons]
      by_cases hbegin : line.text = journalBegin
      · have hslice : (text.take line.stop).drop line.stop = [] :=
          drop_eq_nil_of_le (length_take_le _ _)
        obtain ⟨no', pos', raws', hrest, hlen, hat', hpos', hrun⟩ :=
          finish_batch (no + 1) version f [] hnext rfl hslice
        rw [step_eq no pos version (by simp) (Mode.step_plain_begin hbegin), hrun]
        cases hfound : (readBatch text line (numberLines (no + 1) line.stop raws)).found with
        | none =>
          rw [parseLoop_none _ _ _ _ _ hbegin hfound, afterBatch, finish_failed, ← hrest]
          split <;> rfl
        | some found =>
          obtain ⟨records, stop⟩ := found
          obtain rfl : pos' = stop := hpos' _ _ hfound
          rw [parseLoop_found _ _ _ _ _ hbegin hfound, afterBatch, nil_append, hrest]
          cases f.recordAll records with
          | error e =>
            have hbad := run_error (r := ⟨no', pos', version, .error e⟩) rfl raws'
            exact (finish_error hbad _).symm
          | ok f' => exact ih no' f' (some pos') hat' (Nat.le_trans hlen hfuel')
      · rw [parseLoop_record _ _ _ _ _ hbegin,
          step_eq no pos version (by simp) (Mode.step_plain_record hbegin)]
        cases f.record line with
        | error e =>
          have hbad := run_error (r := ⟨no + 1, line.stop, version, .error e⟩) rfl raws
          exact (finish_error hbad _).symm
        | ok f' => exact ih (no + 1) f' applied hnext hfuel'

end Reader

theorem length_numberLines (no pos : Nat) (raws : List (Str × Bool)) :
    (numberLines no pos raws).length = raws.length := by
  induction raws generalizing no pos with
  | nil => rfl
  | cons raw raws ih => exact congrArg Nat.succ (ih _ _)

/-- **`parseDump` reads a text as the machine does.** -/
theorem parseDump_eq (text : Str) : parseDump text = (readText text).finish text.length := by
  rw [parseDump, textLines, readText]
  cases hraws : rawLines text with
  | nil => rfl
  | cons raw raws =>
    set header := Line.mkAt 1 0 raw with hheader
    have hnumber : numberLines 1 0 (raw :: raws) = header :: numberLines 2 header.stop raws := rfl
    have hat : Reader.At text 0 (raw :: raws) :=
      ⟨[], by rw [nil_append, ← hraws, flatMap_unline_rawLines], rfl⟩
    rw [hnumber, Reader.run_cons]
    show (parseHeader header.text >>= _) = _
    cases hversion : parseHeader header.text with
    | error e =>
      have hmode : (Reader.step {} raw).mode = .error e   :=
        Mode.step_header_error (unline raw) hversion
      exact (Reader.finish_error (Reader.run_error hmode raws) _).symm
    | ok version =>
      have hstep : Reader.step {} raw = ⟨2, header.stop, version, .plain {} none⟩ := by
        simp only [Reader.step, ← hheader, hversion, Mode.step, Except.toOption, Option.getD_some]
      have hloop := Reader.fileOf_parseLoop 2 version {} none (hat.next 1)
        (Nat.le_of_eq (length_numberLines 2 header.stop raws).symm)
      rw [hstep, ← hloop, Option.getD_none]
      show (parseLoop text _ {} text.length _ >>= _) = _
      cases parseLoop text (numberLines 2 header.stop raws).length {} text.length
        (numberLines 2 header.stop raws) <;> rfl

end Kerber
