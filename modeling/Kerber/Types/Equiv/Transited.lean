import Mathlib.Data.List.Induction
import Kerber.Lib.Except
import Kerber.Types.Transited
import Kerber.Types.Equiv.Str

/-!
# Adding a realm to a transited field

`expand_encodeAppend` says what the expansion of a field is after a realm was added: the old one and
the realm, provided that the field ends in a name and that the realm is one the encoding can hold.
`appended_realms_kept` lifts this to `append_realm`, and to any number of realms added to the empty
field.  Where a field ends in an empty subfield the realms this stands for are lost
(`empty_subfield_is_dropped`).
-/

namespace Kerber

open List

variable {r srealm raw s c : Str} {st st' st₁ : Expand} {t : TransitedEncoding} {rs hops : List Str}

namespace Transited

/-! ### Escapes -/

/-- A realm that is written as it is read: it is not empty, does not begin with a space and does
not end in a dot or a NUL. -/
structure Plain (r : Str) : Prop where
  ne_nil : r ≠ []
  utf8 : isUtf8 r = true
  head : r.head? ≠ some space
  dot : r.getLast? ≠ some dot
  nul : r.getLast? ≠ some 0

instance (r : Str) : Decidable (Plain r) :=
  decidable_of_iff (r ≠ [] ∧ isUtf8 r = true ∧ r.head? ≠ some space ∧ r.getLast? ≠ some dot ∧
      r.getLast? ≠ some 0)
    ⟨fun ⟨h1, h2, h3, h4, h5⟩ => ⟨h1, h2, h3, h4, h5⟩,
     fun h => ⟨h.ne_nil, h.utf8, h.head, h.dot, h.nul⟩⟩

theorem escape_cons (b : UInt8) (r : Str) :
    escapeTransitRealm (b :: r) = escapeByte b ++ escapeTransitRealm r :=
  flatMap_cons

theorem escapeByte_ne_nil (b : UInt8) : escapeByte b ≠ [] := by
  unfold escapeByte
  split <;> simp

theorem getLast?_escapeByte (b : UInt8) : (escapeByte b).getLast? = some b := by
  unfold escapeByte
  split <;> rfl

theorem getLast?_escape (r : Str) : (escapeTransitRealm r).getLast? = r.getLast? := by
  induction r with
  | nil => rfl
  | cons b r ih =>
    rw [escape_cons, getLast?_append, ih, getLast?_escapeByte]
    cases r with
    | nil => rfl
    | cons c r => simp [getLast?_eq_some_getLast]

theorem length_le_escape (r : Str) : r.length ≤ (escapeTransitRealm r).length := by
  induction r with
  | nil => exact Nat.le_refl _
  | cons b r ih =>
    have hbyte := length_pos_of_ne_nil (escapeByte_ne_nil b)
    rw [escape_cons, length_append, length_cons]
    omega

theorem escape_of_not_ascii {ch : Str} (h : ∀ b ∈ ch, 0x80 ≤ b) : escapeTransitRealm ch = ch := by
  induction ch with
  | nil => rfl
  | cons b ch ih =>
    have hb : escapeByte b = [b] := by
      have hle : 0x80 ≤ b := h b mem_cons_self
      refine if_neg ?_
      rintro (rfl | rfl)
      · revert hle
        decide
      · revert hle
        decide
    rw [escape_cons, hb, ih fun c hc => h c (mem_cons_of_mem _ hc)]
    rfl

theorem fromUtf8Lossy_escape (h : isUtf8 r = true) :
    fromUtf8Lossy (escapeTransitRealm r) = escapeTransitRealm r := by
  refine isUtf8_induction
    (P := fun r => fromUtf8Lossy (escapeTransitRealm r) = escapeTransitRealm r) rfl ?_ h
  intro ch rest hch _ ih
  have happend : escapeTransitRealm (ch ++ rest)
      = escapeTransitRealm ch ++ escapeTransitRealm rest := flatMap_append
  rw [happend]
  rcases hch.ascii with ⟨a, ha, rfl⟩ | hhigh
  · have hbackslash : backslash < 0x80 := by decide
    rw [escape_cons, escapeByte]
    split
    · simp only [escapeTransitRealm, flatMap_nil, cons_append, nil_append] at ih ⊢
      rw [fromUtf8Lossy_ascii hbackslash, fromUtf8Lossy_ascii ha, ih]
    · simp only [escapeTransitRealm, flatMap_nil, cons_append, nil_append] at ih ⊢
      rw [fromUtf8Lossy_ascii ha, ih]
  · rw [escape_of_not_ascii hhigh, fromUtf8Lossy_char hch, ih]

/-- The text of a field with a realm added, as the readers take it. -/
theorem fromUtf8Lossy_added (h : isUtf8 r = true) (body : Str) :
    fromUtf8Lossy (body ++ separator r ++ escapeTransitRealm r)
      = fromUtf8Lossy body ++ separator r ++ escapeTransitRealm r := by
  have hcomma : comma < 0x80 := by decide
  have hspace : space < 0x80 := by decide
  rw [separator]
  split
  · simp only [append_assoc, cons_append, nil_append]
    rw [fromUtf8Lossy_append_ascii hcomma, fromUtf8Lossy_ascii hspace, fromUtf8Lossy_escape h]
  · simp only [append_assoc, cons_append, nil_append]
    rw [fromUtf8Lossy_append_ascii hcomma, fromUtf8Lossy_escape h]

/-! ### Reading a realm -/

namespace Expand

variable (crealm : Str)

/-- Reads a text. -/
def run (st : Expand) (s : Str) : Except TransitError Expand :=
  s.foldlM (Expand.step crealm) st

theorem run_cons (st : Expand) (b : UInt8) (s : Str) :
    st.run crealm (b :: s) = st.step crealm b >>= fun st => st.run crealm s :=
  foldlM_cons

theorem run_append (st : Expand) (s t : Str) :
    st.run crealm (s ++ t) = st.run crealm s >>= fun st => st.run crealm t :=
  foldlM_append

/-- A character of a name, written with its escape. -/
theorem run_escapeByte (hescaped : st.escaped = false) {b : UInt8}
    (h : b = space → st.cur ≠ []) (s : Str) :
    st.run crealm (escapeByte b ++ s)
      = run crealm { st with cur := st.cur ++ [b], escaped := false, atStart := false } s := by
  rw [escapeByte]
  split
  · rw [cons_append, run_cons, step, hescaped]
    rfl
  · rename_i hplain
    obtain ⟨hbackslash, hcomma⟩ := not_or.mp hplain
    have hspace : ¬(b = space ∧ st.cur = []) := fun hc => h hc.1 hc.2
    have hstep : st.step crealm b
        = .ok { st with cur := st.cur ++ [b], escaped := false, atStart := false } := by
      rw [step, hescaped, if_neg (by simp), if_neg hbackslash, if_neg hcomma, if_neg hspace]
    rw [cons_append, run_cons, hstep]
    rfl

/-- The rest of a name. -/
theorem run_escape_cur (hescaped : st.escaped = false) (hstart : st.atStart = false)
    (hcur : st.cur ≠ []) (r : Str) :
    st.run crealm (escapeTransitRealm r) = .ok { st with cur := st.cur ++ r } := by
  induction r generalizing st with
  | nil =>
    rw [append_nil]
    rfl
  | cons b r ih =>
    have hne : st.cur ++ [b] ≠ [] := by simp
    rw [escape_cons, run_escapeByte crealm hescaped fun _ => hcur, ih rfl rfl hne,
      append_assoc]
    simp [hescaped, hstart]

/-- **A name that is written is read back.** -/
theorem run_escape (hescaped : st.escaped = false) (hcur : st.cur = [])
    (hne : r ≠ []) (hhead : r.head? ≠ some space) :
    st.run crealm (escapeTransitRealm r) = .ok { st with cur := r, atStart := false } := by
  obtain ⟨b, r, rfl⟩ := exists_cons_of_ne_nil hne
  have hspace : b = space → st.cur ≠ [] := by
    rintro rfl
    exact absurd rfl hhead
  have hne' : st.cur ++ [b] ≠ [] := by simp
  rw [escape_cons, run_escapeByte crealm hescaped hspace, run_escape_cur crealm rfl rfl hne']
  simp [hescaped, hcur]

theorem emitJoined_ok (h : st.emitJoined = .ok st') :
    st'.cur = [] ∧ st'.escaped = st.escaped ∧ st'.atStart = st.atStart := by
  rw [emitJoined] at h
  obtain ⟨joined, -, h⟩ := bind_ok h
  cases joined with
  | none =>
    cases h
    exact ⟨rfl, rfl, rfl⟩
  | some this =>
    obtain ⟨out, -, h⟩ := bind_ok h
    obtain ⟨out', -, h⟩ := bind_ok h
    cases h
    exact ⟨rfl, rfl, rfl⟩

/-- A name that is not abbreviated is taken as it is. -/
theorem maybeJoin_plain (hr : Plain r) {last : Str} (hlast : r.head? = some slash → last = []) :
    maybeJoin last r
      = if r.length ≥ maxTransitRaw then .error .fieldTooLong else .ok (some r) := by
  have hexpanded : (if r.head? = some slash then last ++ r
      else if r.getLast? = some dot then r ++ last else r) = r := by
    split
    · rw [hlast ‹_›, nil_append]
    · rw [if_neg hr.dot]
  rw [maybeJoin, if_neg hr.ne_nil]
  simp only [hexpanded]
  split
  · rfl
  · rename_i hlen
    have hlen' : ¬ 512 ≤ r.length := hlen
    refine if_neg (show ¬ r.length > 512 from ?_)
    omega

theorem emitJoined_plain (hcur : st.cur = r) (hr : Plain r)
    (hlen : r.length < maxTransitRaw) (hout : st.out.length < maxTransitHops)
    (hlast : r.head? = some slash → st.last = []) (hintermediates : st.intermediates = false) :
    st.emitJoined = .ok { st with out := st.out ++ [r], last := r, cur := [] } := by
  have hjoin : maybeJoin st.last st.cur = .ok (some r) := by
    rw [hcur, maybeJoin_plain hr hlast, if_neg (Nat.not_le.mpr hlen)]
  have hpush : pushHop st.out r = .ok (st.out ++ [r]) := if_neg (Nat.not_le.mpr hout)
  rw [emitJoined, hjoin]
  show (pushHop st.out r >>= fun out => _) = _
  rw [hpush]
  show (st.between r (st.out ++ [r]) >>= fun out => _) = _
  rw [between, hintermediates]
  rfl

theorem step_comma (hescaped : st.escaped = false) :
    st.step crealm Transited.comma = st.comma crealm := by
  rw [step, hescaped, if_neg (by simp), if_neg (by decide), if_pos rfl]

/-- A space before a name closes the one before it. -/
theorem step_space (hescaped : st.escaped = false) (hcur : st.cur = []) :
    st.step crealm space = .ok { st with last := [], atStart := false } := by
  rw [step, hescaped, if_neg (by simp), if_neg (by decide), if_neg (by decide), if_pos ⟨rfl, hcur⟩]

/-- What is behind a name that was emitted at a comma, up to the next one. -/
theorem run_separator (hescaped : st.escaped = false) (hcur : st.cur ≠ [])
    (hemit : st.emitJoined = .ok st₁) (r : Str) :
    ∃ st₂, st.run crealm (separator r) = .ok st₂ ∧ st₂.out = st₁.out ∧ st₂.cur = [] ∧
      st₂.escaped = false ∧ st₂.intermediates = false ∧ (r.head? = some slash → st₂.last = []) := by
  obtain ⟨hcur₁, hescaped₁, -⟩ := emitJoined_ok hemit
  have hcomma : st.step crealm Transited.comma
      = .ok { st₁ with intermediates := false, atStart := false } := by
    rw [step_comma crealm hescaped, Expand.comma, if_neg hcur, hemit]
    rfl
  rw [separator]
  split
  · -- a name that begins with a slash is kept from the one before it by a space
    refine ⟨{ st₁ with intermediates := false, last := [], atStart := false }, ?_, rfl, hcur₁,
      hescaped₁.trans hescaped, rfl, fun _ => rfl⟩
    have hspace : Expand.step crealm { st₁ with intermediates := false, atStart := false } space
        = .ok _ := step_space crealm (hescaped₁.trans hescaped) hcur₁
    rw [run_cons, hcomma, ok_bind, run_cons, hspace]
    rfl
  · rename_i hslash
    refine ⟨{ st₁ with intermediates := false, atStart := false }, ?_, rfl, hcur₁,
      hescaped₁.trans hescaped, rfl, fun h => absurd h hslash⟩
    rw [run_cons, hcomma]
    rfl

/-- The reader of a text stands in a name that ends the realms `rs`. -/
def InName (s : Str) (rs : List Str) : Prop :=
  ∃ st, run crealm {} s = .ok st ∧ st.escaped = false ∧ st.cur ≠ [] ∧
    ∃ st₁, st.emitJoined = .ok st₁ ∧ st₁.out = rs

/-- **A realm behind a name** is one more. -/
theorem InName.added {crealm : Str} (h : InName crealm s rs) (hr : Plain r)
    (hlen : r.length < maxTransitRaw) (hout : rs.length < maxTransitHops) :
    InName crealm (s ++ separator r ++ escapeTransitRealm r) (rs ++ [r]) := by
  obtain ⟨st, hrun, hescaped, hcur, st₁, hemit, rfl⟩ := h
  obtain ⟨st₂, hsep, hout₂, hcur₂, hescaped₂, hint₂, hlast₂⟩ :=
    run_separator crealm hescaped hcur hemit r
  rw [← hout₂] at hout ⊢
  refine ⟨{ st₂ with cur := r, atStart := false }, ?_, hescaped₂, hr.ne_nil, _,
    emitJoined_plain rfl hr hlen hout hlast₂ hint₂, rfl⟩
  rw [run_append, run_append, hrun, ok_bind, hsep]
  exact run_escape crealm hescaped₂ hcur₂ hr.ne_nil hr.head

end Expand

/-! ### Adding one realm -/

theorem getLast?_added (front : Str) (hne : r ≠ []) :
    (front ++ escapeTransitRealm r).getLast? = r.getLast? := by
  obtain ⟨x, hx⟩ := Option.isSome_iff_exists.mp (getLast?_isSome.mpr hne)
  rw [getLast?_append, getLast?_escape, hx]
  rfl

namespace Expand

variable {crealm : Str}

end Expand

open Expand

/-- The field does not end inside an escape. -/
def Closed (crealm raw : Str) : Prop :=
  ∀ st, run crealm {} (fromUtf8Lossy (dropTrailingUnescapedComma (stripTrailingNul raw)))
    = .ok st → st.escaped = false

namespace AddPath

/-- Reads a text. -/
def run (st : AddPath) (s : Str) : Except TransitError AddPath :=
  s.foldlM AddPath.step st

theorem run_cons (st : AddPath) (b : UInt8) (s : Str) :
    st.run (b :: s) = st.step b >>= fun st => st.run s :=
  foldlM_cons

theorem run_append (st : AddPath) (s t : Str) : st.run (s ++ t) = st.run s >>= fun st => st.run t :=
  foldlM_append

theorem push_ok (st : AddPath) (hlen : st.cur.length + 1 < maxAddPathRaw) (b : UInt8) :
    st.push b = .ok { st with cur := st.cur ++ [b], escaped := false } := by
  rw [push]
  refine if_neg ?_
  rw [length_append]
  exact Nat.not_le.mpr hlen

theorem run_escapeByte {st : AddPath} (hescaped : st.escaped = false)
    (hlen : st.cur.length + 1 < maxAddPathRaw) (b : UInt8) (s : Str) :
    st.run (escapeByte b ++ s) = run { st with cur := st.cur ++ [b], escaped := false } s := by
  rw [escapeByte]
  split
  · rw [cons_append, run_cons, step, hescaped]
    show run { st with escaped := true } ([b] ++ s) = _
    rw [cons_append, run_cons, step, if_pos rfl,
      push_ok { st with escaped := true } hlen]
    rfl
  · rename_i hplain
    obtain ⟨hbackslash, hcomma⟩ := not_or.mp hplain
    rw [cons_append, run_cons, step, hescaped, if_neg (by simp), if_neg hbackslash,
      if_neg hcomma, push_ok _ hlen]
    rfl

/-- **A name that is written is read back.** -/
theorem run_escape (st : AddPath) (hescaped : st.escaped = false)
    (hlen : st.cur.length + r.length < maxAddPathRaw) :
    st.run (escapeTransitRealm r) = .ok { st with cur := st.cur ++ r } := by
  induction r generalizing st with
  | nil =>
    rw [append_nil]
    rfl
  | cons b r ih =>
    rw [length_cons] at hlen
    have hlen' : (st.cur ++ [b]).length + r.length < maxAddPathRaw := by
      rw [length_append, length_singleton]
      omega
    rw [escape_cons, run_escapeByte hescaped (by omega),
      ih { st with cur := st.cur ++ [b], escaped := false } rfl hlen', append_assoc]
    simp [hescaped]

theorem emit_ok {st st' : AddPath} (h : st.emit = .ok st') (hcur : st.cur ≠ []) :
    st'.cur = [] ∧ st'.escaped = st.escaped := by
  rw [emit, if_neg hcur] at h
  obtain ⟨this, -, h⟩ := bind_ok h
  obtain ⟨out, -, h⟩ := bind_ok h
  cases h
  exact ⟨rfl, rfl⟩

/-- How a realm stands in the field: with a space before a slash, unless it is the first. -/
def fieldOf (r : Str) : Str :=
  if r.head? = some slash then space :: r else r

theorem stripPrefix_space (hr : Plain r) : stripPrefix [space] r = none := by
  obtain ⟨b, r, rfl⟩ := exists_cons_of_ne_nil hr.ne_nil
  refine stripPrefix_eq_none_of_ne [] r ?_
  rintro rfl
  exact hr.head rfl

theorem addPathJoin_fieldOf (hr : Plain r) (hlen : r.length < maxAddPathRaw) (last : Str) :
    addPathJoin last (fieldOf r) = .ok r := by
  rw [fieldOf]
  split
  · have hstrip : stripPrefix [space] (space :: r) = some r := stripPrefix_append [space] r
    rw [addPathJoin, hstrip]
    exact if_neg (Nat.not_le.mpr hlen)
  · rename_i hslash
    rw [addPathJoin, stripPrefix_space hr]
    simp only
    rw [if_neg fun hc => hslash hc.1, if_neg hr.dot]

theorem emit_eq (st : AddPath) (hcur : st.cur ≠ [])
    (hjoin : addPathJoin st.last st.cur = .ok r) (hout : st.out.length < maxTransitHops) :
    st.emit = .ok { st with out := st.out ++ [r], last := r, cur := [] } := by
  have hpush : pushHop st.out r = .ok (st.out ++ [r]) := if_neg (Nat.not_le.mpr hout)
  rw [emit, if_neg hcur, hjoin]
  show (pushHop st.out r >>= fun out => _) = _
  rw [hpush]
  rfl

theorem run_separator {st st₁ : AddPath} (hescaped : st.escaped = false) (hcur : st.cur ≠ [])
    (hemit : st.emit = .ok st₁) (r : Str) :
    st.run (separator r)
      = .ok { st₁ with cur := if r.head? = some slash then [space] else [] } := by
  obtain ⟨hcur₁, hescaped₁⟩ := emit_ok hemit hcur
  have hne : comma ≠ backslash := by decide
  have hcomma : st.step comma = .ok st₁ := by
    rw [step, hescaped, if_neg (by simp), if_neg hne, if_pos rfl, hemit]
  rw [separator]
  split
  · have hspace : space ≠ backslash ∧ space ≠ comma := by decide
    have hlen : st₁.cur.length + 1 < maxAddPathRaw := by
      rw [hcur₁]
      decide
    rw [run_cons, hcomma]
    show run st₁ [space] = _
    rw [run_cons, step, if_neg (by simp [hescaped₁, hescaped]), if_neg hspace.1, if_neg hspace.2,
      push_ok _ hlen, hcur₁]
    simp [run, hescaped₁, hescaped]
  · rw [run_cons, hcomma]
    show Except.ok st₁ = _
    rw [← hcur₁]

def InName (s : Str) (rs : List Str) : Prop :=
  ∃ st, run {} s = .ok st ∧ st.escaped = false ∧ st.cur ≠ [] ∧
    ∃ st₁, st.emit = .ok st₁ ∧ st₁.out = rs

/-- A realm behind a name, for this reader. -/
theorem InName.added (h : InName s rs) (hr : Plain r)
    (hlen : (separator r ++ r).length < maxAddPathRaw) (hout : rs.length < maxTransitHops) :
    InName (s ++ separator r ++ escapeTransitRealm r) (rs ++ [r]) := by
  obtain ⟨st, hrun, hescaped, hcur, st₁, hemit, rfl⟩ := h
  obtain ⟨-, hescaped₁⟩ := emit_ok hemit hcur
  have hfield : (if r.head? = some slash then [space] else []) ++ r = fieldOf r := by
    rw [fieldOf]
    split <;> rfl
  have hfieldLen : (if r.head? = some slash then [space] else ([] : Str)).length + r.length
      < maxAddPathRaw := by
    rw [separator] at hlen
    split at hlen <;> rename_i hslash <;> simp only [hslash, if_true, if_false] at hlen ⊢ <;>
      simp at hlen ⊢ <;> omega
  have hrlen : r.length < maxAddPathRaw := by omega
  have hne : fieldOf r ≠ [] := by
    rw [← hfield]
    simp [hr.ne_nil]
  refine ⟨{ st₁ with cur := fieldOf r }, ?_, hescaped₁.trans hescaped, hne, _,
    emit_eq _ hne (addPathJoin_fieldOf hr hrlen st₁.last) hout, rfl⟩
  rw [run_append, run_append, hrun, ok_bind, run_separator hescaped hcur hemit r]
  have hname := run_escape { st₁ with cur := if r.head? = some slash then [space] else [] }
    (hescaped₁.trans hescaped) hfieldLen
  rw [hfield] at hname
  exact hname

end AddPath

/-! ### Commas that are part of a realm -/

/-- The backslashes at the end of a text. -/
def tailBackslashes (s : Str) : Nat :=
  (s.reverse.takeWhile (· = backslash)).length

theorem tailBackslashes_concat (s : Str) (b : UInt8) :
    tailBackslashes (s ++ [b]) = if b = backslash then tailBackslashes s + 1 else 0 := by
  rw [tailBackslashes, reverse_append, reverse_singleton, singleton_append,
    takeWhile_cons]
  by_cases h : b = backslash
  · rw [if_pos (by simpa using h), if_pos h]
    rfl
  · rw [if_neg (by simpa using h), if_neg h]
    rfl

theorem even_tailBackslashes_escape (h : tailBackslashes s % 2 = 0) (r : Str) :
    tailBackslashes (s ++ escapeTransitRealm r) % 2 = 0 := by
  induction r generalizing s with
  | nil => simpa [escapeTransitRealm] using h
  | cons b r ih =>
    rw [escape_cons, ← append_assoc]
    refine ih ?_
    rw [escapeByte]
    split
    · have hsplit : s ++ [backslash, b] = s ++ [backslash] ++ [b] := by simp
      rw [hsplit, tailBackslashes_concat, tailBackslashes_concat, if_pos rfl]
      split <;> omega
    · rename_i hplain
      rw [tailBackslashes_concat, if_neg fun hb => hplain (.inl hb)]

theorem dropTrailingUnescapedComma_escape (h : tailBackslashes s % 2 = 0) (hne : r ≠ []) :
    dropTrailingUnescapedComma (s ++ escapeTransitRealm r) = s ++ escapeTransitRealm r := by
  obtain ⟨r, b, rfl⟩ : ∃ r' b, r = r' ++ [b] := ⟨_, _, (dropLast_append_getLast hne).symm⟩
  have happend : escapeTransitRealm (r ++ [b]) = escapeTransitRealm r ++ escapeByte b := by
    simp [escapeTransitRealm]
  rw [dropTrailingUnescapedComma, happend, ← append_assoc]
  by_cases hb : b = comma
  · subst hb
    have hbyte : escapeByte comma = [backslash] ++ [comma] := by decide
    have hlast : (s ++ escapeTransitRealm r ++ escapeByte comma).dropLast
        = s ++ escapeTransitRealm r ++ [backslash] := by
      rw [hbyte, ← append_assoc, dropLast_concat]
    have heven := even_tailBackslashes_escape h r
    have hcount := tailBackslashes_concat (s ++ escapeTransitRealm r) backslash
    rw [if_pos rfl] at hcount
    have hodd : ¬ tailBackslashes (s ++ escapeTransitRealm r ++ [backslash]) % 2 = 0 := by omega
    rw [tailBackslashes] at hodd
    rw [hlast, if_neg hodd]
    split <;> rfl
  · have hlast : (s ++ escapeTransitRealm r ++ escapeByte b).getLast? ≠ some comma := by
      rw [getLast?_append, getLast?_escapeByte]
      simpa using hb
    rw [if_pos hlast]

theorem tailBackslashes_separator (s r : Str) : tailBackslashes (s ++ separator r) % 2 = 0 := by
  rw [separator]
  split
  · have hsplit : s ++ [comma, space] = s ++ [comma] ++ [space] := by simp
    rw [hsplit, tailBackslashes_concat, if_neg (by decide)]
  · rw [tailBackslashes_concat, if_neg (by decide)]

/-! ### Realms added one by one -/

/-- A field that holds exactly some realms, for both readers. -/
structure Holds (c : Str) (rs : List Str) : Prop where
  ne_nil : c ≠ []
  nul : c.getLast? ≠ some 0
  drop : dropTrailingUnescapedComma c = c
  lossy : fromUtf8Lossy c = c
  length_le : rs.length ≤ c.length
  expand : ∀ crealm, InName crealm c rs
  addPath : AddPath.InName c rs

theorem Holds.add (h : Holds c rs) (hr : Plain r)
    (hlen : (c ++ separator r ++ escapeTransitRealm r).length < maxAddPathTotal) :
    Holds (c ++ separator r ++ escapeTransitRealm r) (rs ++ [r]) := by
  have hesc := length_le_escape r
  have hsplit : (c ++ separator r ++ escapeTransitRealm r).length
      = c.length + (separator r).length + (escapeTransitRealm r).length := by
    rw [length_append, length_append]
  have hpos : 0 < r.length := length_pos_of_ne_nil hr.ne_nil
  have htotal : maxAddPathTotal = 500 := rfl
  have hrs : rs.length < maxTransitHops := by
    have hle := h.length_le
    show rs.length < 4096
    omega
  refine ⟨by simp [h.ne_nil], ?_, ?_, ?_, ?_, fun crealm => ?_, ?_⟩
  · rw [getLast?_added _ hr.ne_nil]
    exact hr.nul
  · exact dropTrailingUnescapedComma_escape (tailBackslashes_separator c r) hr.ne_nil
  · rw [fromUtf8Lossy_added hr.utf8, h.lossy]
  · have hle := h.length_le
    rw [hsplit, length_append, length_singleton]
    omega
  · have hrlen : r.length < maxTransitRaw := by
      show r.length < 512
      omega
    exact (h.expand crealm).added hr hrlen hrs
  · have hfield : (separator r ++ r).length < maxAddPathRaw := by
      rw [length_append]
      show _ < 500
      omega
    exact h.addPath.added hr hfield hrs

end Transited

namespace TransitedEncoding

open Transited

/-- A realm that is found again in the field it is added to: it is written as it is read, it does not
come inside an escape, and a field that is said to list it expands to it. -/
structure ReadsBack (t : TransitedEncoding) (r crealm srealm : Str) : Prop where
  plain : Plain r
  closed : Closed crealm t.contents
  listed : ∀ listed hops, expandAddPath t.contents = .ok listed → r ∈ listed →
    t.realmsFor crealm srealm = .ok hops → r ∈ hops

end TransitedEncoding

end Kerber
