import Kerber.Kdc.SideFile
import Kerber.KdbDump.Equiv.Batch
import Kerber.Store.Equiv.Admin
import Kerber.Types.Equiv.Str

/-!
# One process at the lockout side file

The rows of the file hold a map (`Backs`), and a process that has read them to their end (`Opened`)
finds, puts and deletes the records of that map: `Opened.locate`, `Opened.put` and `Opened.delete`.  What
it changes it changes in place or behind the other rows, so that the places other processes have noted
stay right; `Backs.refresh` is what they read when they look again, and `Lists.backs` what is in a file
that is written anew.
-/

namespace Kerber

open PrincipalName

open Option (bind_some map_eq_some_iff map_some)

open List Function

variable {id : Str} {l : Lockout} {ix : LockoutIndex} {n p : Nat}

/-! ### Lines -/

/-- An id that can stand in a row. -/
structure RowName (id : Str) : Prop where
  ne_nil : id ≠ []
  plain : newline ∉ id
  utf8 : isUtf8 id = true

theorem newline_not_mem_quoteComponent (s : Str) : newline ∉ quoteComponent s := by
  intro hmem
  obtain ⟨b, -, hb⟩ := mem_flatMap.mp hmem
  revert hb
  rw [quoteByte]
  split
  · rename_i hquoted
    intro hb
    rcases mem_cons.mp hb with h | h
    · exact absurd h (by decide)
    · rw [← mem_singleton.mp h] at hquoted
      revert hquoted
      decide
  · split
    · decide
    split
    · decide
    split
    · decide
    split
    · decide
    · rename_i hnewline _ _
      intro hb
      exact hnewline (mem_singleton.mp hb).symm

theorem newline_not_mem_intercalate {comps : List Str} (h : ∀ c ∈ comps, newline ∉ c) :
    newline ∉ (str "/").intercalate comps := by
  induction comps with
  | nil => exact not_mem_nil
  | cons c comps ih =>
    have hrest := ih fun d hd => h d (mem_cons_of_mem c hd)
    have hc := h c mem_cons_self
    cases comps with
    | nil => simpa using hc
    | cons d comps =>
      rw [intercalate_cons_cons, mem_append, mem_append, not_or, not_or]
      exact ⟨⟨hc, by decide⟩, hrest⟩

/-- **The id of a stored principal can stand in a row.**  Its parts are quoted, so that there is no
newline in it; names of entries are not enterprise names. -/
theorem rowName_id {p : Principal} (hname : p.name.nameType ≠ ntEnterprise)
    (hutf8 : isUtf8 p.id = true) : RowName p.id := by
  have hid : p.id = unparseName p.name.componentStrings p.realm := if_neg hname
  refine ⟨?_, ?_, hutf8⟩
  · rw [hid, unparseName]
    simp [str]
  · rw [hid, unparseName, mem_append, mem_append, not_or, not_or]
    refine ⟨⟨newline_not_mem_intercalate ?_, by decide⟩, newline_not_mem_quoteComponent _⟩
    intro c hc
    obtain ⟨d, -, rfl⟩ := mem_map.mp hc
    exact newline_not_mem_quoteComponent d

theorem dec10_length (n : UInt32) : (dec10 n.toNat).length = fieldWidth :=
  @padded_length 10 _ fieldWidth (by decide) (Nat.lt_of_lt_of_le n.toNat_lt (by decide))

theorem hex8_length (n : UInt32) : (hex8 n.toNat).length = 8 :=
  @padded_length 16 _ 8 (by decide) (Nat.lt_of_lt_of_le n.toNat_lt (by decide))

theorem lockoutValues_length (l : Lockout) : (lockoutValues l).length = valuesWidth := by
  simp only [lockoutValues, length_append, dec10_length]
  rfl

/-- The head fits: nothing is cut or filled. -/
theorem lockoutHead_eq (id : Str) (l : Lockout) : lockoutHead id l
    = lockoutValues l ++ str " " ++ hex8 (lockoutChecksum (lockoutValues l) id).toNat := by
  refine take_left' ?_
  rw [length_append, length_append, lockoutValues_length, hex8_length]
  rfl

theorem lockoutHead_length (id : Str) (l : Lockout) : (lockoutHead id l).length = headWidth := by
  rw [lockoutHead_eq, length_append, length_append, lockoutValues_length, hex8_length]
  rfl

theorem padded_all {radix : Nat} {p : UInt8 → Bool} (hpos : 0 < radix)
    (h : ∀ d < radix, p (digitByte d) = true) (width n : Nat) :
    (padded radix width n).all p = true := by
  refine all_eq_true.mpr fun b hb => ?_
  obtain ⟨d, hd, rfl⟩ := mem_padded hpos hb
  exact h d hd

theorem dec10_decimal (n : Nat) : (dec10 n).all fun b => 48 ≤ b && b ≤ 57 :=
  padded_all (by decide) (by decide) fieldWidth n

theorem hex8_hex (n : Nat) : (hex8 n).all fun b => (48 ≤ b && b ≤ 57) || (97 ≤ b && b ≤ 102) :=
  padded_all (by decide) (by decide) 8 n

theorem parseNat_dec10 (n : UInt32) : parseNat 10 u32Limit (dec10 n.toNat) = some n.toNat :=
  @parseNat_padded 10 n.toNat fieldWidth _ (by decide) (by decide) (Nat.le_pred_of_lt n.toNat_lt)

theorem slice_mid (a b c : Str) : slice (a ++ b ++ c) a.length (a.length + b.length) = some b := by
  rw [slice, if_pos (by simp), append_assoc, drop_left, Nat.add_sub_cancel_left,
    take_left]

/-- A number between two texts is read as the field it is. -/
theorem lockoutField_mid {a c : Str} {n : UInt32} {i : Nat} (h : a.length = i * (fieldWidth + 1)) :
    lockoutField (a ++ dec10 n.toNat ++ c) i = some n := by
  have hslice : slice (a ++ dec10 n.toNat ++ c) (i * (fieldWidth + 1))
      (i * (fieldWidth + 1) + fieldWidth) = some (dec10 n.toNat) := by
    rw [← h, ← dec10_length n]
    exact slice_mid ..
  rw [lockoutField]
  simp only [hslice, Option.bind_eq_bind, bind_some, if_pos (dec10_decimal n.toNat),
    parseNat_dec10]
  exact congrArg some (UInt32.ofNat_toNat)

theorem parseLockoutLine_eq_some {line : Str} :
    parseLockoutLine line = some (l, id)
      ↔ (∀ pos ∈ [fieldWidth, 2 * fieldWidth + 1, valuesWidth, headWidth], (line)[pos]? = some 32)
        ∧ (∃ sum, slice line (valuesWidth + 1) headWidth = some sum
          ∧ (sum.all fun b => (48 ≤ b && b ≤ 57) || (97 ≤ b && b ≤ 102)) = true
          ∧ ∃ values, slice line 0 valuesWidth = some values
            ∧ parseNat 16 u32Limit sum = some (lockoutChecksum values id).toNat)
        ∧ line.drop (headWidth + 1) = id ∧ id ≠ [] ∧ isUtf8 id = true
        ∧ lockoutField line 0 = some l.lastSuccess ∧ lockoutField line 1 = some l.lastFailed
        ∧ lockoutField line 2 = some l.failAuthCount := by
  rw [parseLockoutLine]
  by_cases hspaces : ([fieldWidth, 2 * fieldWidth + 1, valuesWidth, headWidth].any
      fun pos => (line)[pos]? ≠ some 32) = true
  · rw [if_pos hspaces]
    refine ⟨nofun, fun h => ?_⟩
    obtain ⟨pos, hpos, hne⟩ := any_eq_true.mp hspaces
    exact absurd (h.1 pos hpos) (of_decide_eq_true hne)
  rw [if_neg hspaces]
  have hall : ∀ pos ∈ [fieldWidth, 2 * fieldWidth + 1, valuesWidth, headWidth],
      (line)[pos]? = some 32 := by
    intro pos hpos
    by_contra hne
    exact hspaces (any_eq_true.mpr ⟨pos, hpos, decide_eq_true hne⟩)
  simp only [Option.bind_eq_bind, Option.bind_eq_some_iff, Option.ite_none_right_eq_some,
    Option.ite_none_left_eq_some, Option.pure_def, Option.some.injEq, Prod.mk.injEq]
  constructor
  · rintro ⟨sum, hsum, hhex, hne, want, hwant, values, hvalues, hcheck, ls, hls, lf, hlf, fc, hfc, hutf,
      rfl, rfl⟩
    rw [not_not] at hcheck
    exact ⟨hall, ⟨sum, hsum, hhex, values, hvalues, by rw [hwant, hcheck]⟩, rfl, hne, hutf, hls, hlf, hfc⟩
  · rintro ⟨-, ⟨sum, hsum, hhex, values, hvalues, hwant⟩, rfl, hne, hutf, hls, hlf, hfc⟩
    exact ⟨sum, hsum, hhex, hne, _, hwant, values, hvalues, not_not.mpr rfl, _, hls, _, hlf, _, hfc, hutf,
      rfl, rfl⟩

theorem getElem?_space (a c : Str) (h : a.length = n) : (a ++ str " " ++ c)[n]? = some 32 := by
  subst h
  rw [append_assoc, getElem?_append_right (Nat.le_refl _), Nat.sub_self]
  rfl

theorem lockoutRow_eq (front back : Str)
    (h : dec10 l.lastSuccess.toNat ++ (str " " ++ (dec10 l.lastFailed.toNat ++ (str " "
      ++ (dec10 l.failAuthCount.toNat ++ (str " " ++ (hex8 (lockoutChecksum (lockoutValues l) id).toNat
        ++ (str " " ++ id))))))) = front ++ back) : lockoutRow id l = front ++ back := by
  rw [← h, lockoutRow, lockoutHead_eq]
  simp only [lockoutValues, append_assoc]

/-- **A row reads back.** -/
theorem parseLockoutLine_row (h : RowName id) (l : Lockout) :
    parseLockoutLine (lockoutRow id l) = some (l, id) := by
  have hfirst : (dec10 l.lastSuccess.toNat).length = 10 := dec10_length _
  have hsecond : (dec10 l.lastFailed.toNat).length = 10 := dec10_length _
  have hvalues := lockoutValues_length l
  have hspace : (str " ").length = 1 := rfl
  have hhead := lockoutHead_length id l
  -- The row up to its checksum, and up to each number.
  have hsum : lockoutRow id l = (lockoutValues l ++ str " ")
      ++ hex8 (lockoutChecksum (lockoutValues l) id).toNat ++ (str " " ++ id) :=
    lockoutRow_eq _ _ (by simp only [lockoutValues, append_assoc])
  have hzero : lockoutRow id l = [] ++ dec10 l.lastSuccess.toNat ++ _ := lockoutRow_eq _ _ rfl
  have hone : lockoutRow id l = (dec10 l.lastSuccess.toNat ++ str " ") ++ dec10 l.lastFailed.toNat
      ++ (str " " ++ (dec10 l.failAuthCount.toNat ++ (str " "
        ++ (hex8 (lockoutChecksum (lockoutValues l) id).toNat ++ (str " " ++ id))))) :=
    lockoutRow_eq _ _ (by simp only [append_assoc])
  have htwo : lockoutRow id l = (dec10 l.lastSuccess.toNat ++ str " " ++ dec10 l.lastFailed.toNat
      ++ str " ") ++ dec10 l.failAuthCount.toNat ++ (str " "
        ++ (hex8 (lockoutChecksum (lockoutValues l) id).toNat ++ (str " " ++ id))) :=
    lockoutRow_eq _ _ (by simp only [append_assoc])
  refine parseLockoutLine_eq_some.mpr
    ⟨?_, ⟨hex8 (lockoutChecksum (lockoutValues l) id).toNat, ?_, hex8_hex _, lockoutValues l, ?_, parseNat_hex8 _⟩,
      ?_, h.ne_nil, h.utf8, ?_, ?_, ?_⟩
  · intro pos hpos
    simp only [mem_cons, not_mem_nil, or_false] at hpos
    rcases hpos with rfl | rfl | rfl | rfl
    · rw [hone, append_assoc]
      exact getElem?_space _ _ hfirst
    · rw [htwo, append_assoc]
      refine getElem?_space _ _ ?_
      simp only [length_append, hfirst, hsecond, hspace]
      rfl
    · rw [hsum, append_assoc]
      exact getElem?_space _ _ hvalues
    · exact getElem?_space _ _ hhead
  · have hslice := slice_mid (lockoutValues l ++ str " ")
      (hex8 (lockoutChecksum (lockoutValues l) id).toNat) (str " " ++ id)
    rw [← hsum, length_append, hvalues, hspace, hex8_length] at hslice
    exact hslice
  · have hslice := slice_mid [] (lockoutValues l)
      (str " " ++ (hex8 (lockoutChecksum (lockoutValues l) id).toNat ++ (str " " ++ id)))
    rw [nil_append, ← append_assoc, ← append_assoc, ← hsum, length_nil,
      Nat.zero_add, hvalues] at hslice
    exact hslice
  · refine drop_left' ?_
    rw [length_append, hhead, hspace]
  · rw [hzero]
    exact lockoutField_mid rfl
  · rw [hone]
    refine lockoutField_mid ?_
    rw [length_append, hfirst, hspace]
    rfl
  · rw [htwo]
    refine lockoutField_mid ?_
    simp only [length_append, hfirst, hsecond, hspace]
    rfl

def rowWidth (id : Str) : Nat :=
  headWidth + 1 + id.length

theorem parseLockoutLine_split {line : Str} (h : parseLockoutLine line = some (l, id)) :
    line.length = rowWidth id ∧ line.drop headWidth = str " " ++ id := by
  obtain ⟨hspaces, -, hdrop, hne, -⟩ := parseLockoutLine_eq_some.mp h
  have hspace : (line)[headWidth]? = some 32 := hspaces _ (by simp)
  obtain ⟨hlt, hget⟩ := List.getElem?_eq_some_iff.mp hspace
  have htail : line.drop headWidth = str " " ++ id := by
    rw [drop_eq_getElem_cons hlt, hget, hdrop]
    rfl
  refine ⟨?_, htail⟩
  have hlen := congrArg length htail
  rw [length_drop, length_append] at hlen
  have hone : (str " ").length = 1 := rfl
  rw [rowWidth]
  omega

theorem parseLockoutLine_deleted (rest : Str) : parseLockoutLine (deletedByte :: rest) = none := by
  cases hparse : parseLockoutLine (deletedByte :: rest) with
  | none => rfl
  | some r =>
    obtain ⟨-, -, -, -, -, hfield, -⟩ := parseLockoutLine_eq_some.mp hparse
    rw [lockoutField] at hfield
    obtain ⟨digits, hdigits, hrest⟩ := Option.bind_eq_some_iff.mp hfield
    rw [slice] at hdigits
    split at hdigits
    · cases hdigits
      split at hrest
      · rename_i hall
        have hfirst := all_eq_true.mp hall deletedByte (mem_cons_self ..)
        exact absurd hfirst (by decide)
      · cases hrest
    · cases hdigits

theorem RowName.of_parse {line : Str} (h : parseLockoutLine line = some (l, id))
    (hplain : newline ∉ line) : RowName id := by
  obtain ⟨-, -, hdrop, hne, hutf, -⟩ := parseLockoutLine_eq_some.mp h
  refine ⟨hne, fun hmem => hplain ?_, hutf⟩
  rw [← hdrop] at hmem
  exact mem_of_mem_drop hmem

theorem newline_not_mem_lockoutRow (h : RowName id) (l : Lockout) : newline ∉ lockoutRow id l := by
  have hdec : ∀ n : UInt32, newline ∉ dec10 n.toNat := by
    intro n hmem
    have := all_eq_true.mp (dec10_decimal n.toNat) _ hmem
    revert this
    decide
  have hhex : newline ∉ hex8 (lockoutChecksum (lockoutValues l) id).toNat := by
    intro hmem
    have := all_eq_true.mp (hex8_hex _) _ hmem
    revert this
    decide
  have hspace : newline ∉ str " " := by decide
  rw [lockoutRow, lockoutHead_eq, lockoutValues]
  simp only [mem_append, not_or]
  exact ⟨⟨⟨⟨⟨⟨⟨⟨hdec _, hspace⟩, hdec _⟩, hspace⟩, hdec _⟩, hspace⟩, hhex⟩, hspace⟩, h.plain⟩

/-! ### The index -/

def places (records : HashMap Str (Nat × Lockout)) (id : Str) : Option Nat :=
  (records.lookup id).map Prod.fst

/-- An index that has read the first `n` rows of a file. -/
structure Known (n : Nat) (rows : List Str) (ix : LockoutIndex) : Prop where
  whole : ix.whole = true
  foreign : ix.foreign = false
  covers : Covers parseLockoutLine lockoutHeader.length rowWidth n rows ix.len (places ix.records)

/-- The records noted with the places are those of the map. -/
def Exact (m : Str → Option Lockout) (records : HashMap Str (Nat × Lockout)) : Prop :=
  ∀ id p l, records.lookup id = some (p, l) → m id = some l

section Index

variable {rows : List Str} {m : Str → Option Lockout}

theorem places_insert (records : HashMap Str (Nat × Lockout)) (id : Str) (p : Nat) (l : Lockout) :
    places (records.insert id (p, l)) = update (places records) id (some p) := by
  funext k
  rw [places, HashMap.lookup_insert]
  by_cases hk : k = id
  · subst hk
    rw [if_pos rfl, update_self]
    rfl
  · rw [if_neg hk, update_of_ne hk, places]

theorem places_insert_apply (records : HashMap Str (Nat × Lockout)) (id : Str) (p : Nat) (l : Lockout)
    (k : Str) : places (records.insert id (p, l)) k
      = if some id = some k then some p else places records k := by
  rw [places_insert, update_apply]
  simp only [Option.some.injEq, eq_comm]

theorem indexLine_row {pos : Nat} {row : Str} (htable : Table parseLockoutLine rows m)
    (hcovers : Covers parseLockoutLine lockoutHeader.length rowWidth n rows pos (places ix.records))
    (hrow : rows[n]? = some row) :
    ∃ ix', indexLine (ix, pos) (row, true) = (ix', pos + row.length + 1)
      ∧ Covers parseLockoutLine lockoutHeader.length rowWidth (n + 1) rows (pos + row.length + 1)
        (places ix'.records)
      ∧ ix'.len = ix.len ∧ ix'.whole = ix.whole ∧ ix'.foreign = ix.foreign
      ∧ (Exact m ix.records → Exact m ix'.records) := by
  have hnext : pos + (unline (row, true)).length = pos + row.length + 1 := by
    show pos + (row ++ [newline]).length = _
    rw [length_append, length_singleton]
    omega
  rw [indexLine]
  rw [if_pos rfl, hnext]
  have hwidth : ∀ l name, parseLockoutLine row = some (l, name) → row.length = rowWidth name :=
    fun _ _ hparse => (parseLockoutLine_split hparse).1
  cases hparse : parseLockoutLine row with
  | none =>
    refine ⟨_, rfl, hcovers.next htable hrow hwidth fun k => ?_, rfl, rfl, rfl, id⟩
    rw [hparse]
    rfl
  | some r =>
    obtain ⟨l, name⟩ := r
    refine ⟨_, rfl, hcovers.next htable hrow hwidth fun k => ?_, rfl, rfl, rfl,
      fun hexact k p l' hl' => ?_⟩
    · rw [hparse]
      exact places_insert_apply ix.records name pos l k
    · rw [HashMap.lookup_insert] at hl'
      split at hl'
      · rename_i hk
        cases hl'
        rw [hk]
        exact (htable.cells.reads name l).mpr ⟨n, (rowAt_row hrow).trans hparse⟩
      · exact hexact k p l' hl'

theorem indexBody_rows {pos : Nat} (ix : LockoutIndex) (htable : Table parseLockoutLine rows m)
    (hcovers : Covers parseLockoutLine lockoutHeader.length rowWidth n rows pos (places ix.records)) :
    ∃ ix', indexBody ix (unlines (rows.drop n)) pos = ix'
      ∧ Covers parseLockoutLine lockoutHeader.length rowWidth rows.length rows
        (lockoutHeader.length + (unlines rows).length) (places ix'.records)
      ∧ ix'.len = ix.len ∧ ix'.whole = ix.whole ∧ ix'.foreign = ix.foreign
      ∧ (Exact m ix.records → Exact m ix'.records) := by
  have hraw : rawLines (unlines (rows.drop n)) = (rows.drop n).map fun l => (l, true) :=
    rawLines_unlines fun l hl => htable.plain l (mem_of_mem_drop hl)
  rw [indexBody, hraw]
  -- By induction on how many rows are left to read.
  generalize hleft : rows.length - n = left
  induction left generalizing n pos ix with
  | zero =>
    have hn : n = rows.length := by
      have := hcovers.le
      omega
    subst hn
    rw [drop_length]
    refine ⟨ix, rfl, ?_, rfl, rfl, rfl, id⟩
    have := hcovers.len_eq
    rw [offset_length] at this
    rw [← this]
    exact hcovers
  | succ left ih =>
    have hn : n < rows.length := by omega
    have hrow : rows[n]? = some rows[n] := getElem?_eq_getElem hn
    obtain ⟨ix₁, hline, hcovers₁, hlen₁, hwhole₁, hforeign₁, hexact₁⟩ :=
      indexLine_row htable hcovers hrow
    obtain ⟨ix', hix', hcovers', hlen', hwhole', hforeign', hexact'⟩ :=
      ih _ hcovers₁ (rawLines_unlines fun l hl => htable.plain l (mem_of_mem_drop hl)) (by omega)
    refine ⟨ix', ?_, hcovers', hlen'.trans hlen₁, hwhole'.trans hwhole₁, hforeign'.trans hforeign₁,
      fun h => hexact' (hexact₁ h)⟩
    rw [drop_eq_getElem_cons hn, map_cons, foldl_cons, hline]
    exact hix'

theorem EndsLine.endsWhole {s : Str} (h : EndsLine s) : endsWhole s = true := by
  rcases h with h | h <;> rw [Kerber.endsWhole, h]
  · rfl
  · exact decide_eq_true (rfl : newline = newline)

theorem endsWhole_file (rows : List Str) : endsWhole (lockoutHeader ++ unlines rows) = true := by
  have hheader : EndsLine lockoutHeader := .inr (by decide +kernel)
  exact (hheader.append (endsLine_unlines rows)).endsWhole

/-- **A file that is read whole is known, with its records.** -/
theorem indexLockouts_file (htable : Table parseLockoutLine rows m) :
    Known rows.length rows (indexLockouts (lockoutHeader ++ unlines rows))
      ∧ Exact m (indexLockouts (lockoutHeader ++ unlines rows)).records := by
  have hne : lockoutHeader ++ unlines rows ≠ [] :=
    append_ne_nil_of_left_ne_nil (by decide) _
  rw [indexLockouts, if_neg hne, stripPrefix_append]
  dsimp only
  obtain ⟨ix', hix', hcovers, hlen, hwhole, hforeign, hexact⟩ := indexBody_rows
    { len := (lockoutHeader ++ unlines rows).length, whole := endsWhole (lockoutHeader ++ unlines rows) }
    htable (covers_zero rows)
  rw [drop_zero] at hix'
  rw [hix']
  refine ⟨⟨hwhole.trans (endsWhole_file rows), hforeign, ?_⟩, hexact nofun⟩
  rw [hlen, length_append]
  exact hcovers

end Index

/-! ### One process at the file -/

/-- The file under the path holds the map in its rows. -/
structure Backs (fs : LockoutFiles) (ino : Nat) (rows : List Str) (m : Str → Option Lockout) : Prop where
  path : fs.atPath = some ino
  contents : fs.contents ino = lockoutHeader ++ unlines rows
  table : Table parseLockoutLine rows m

/-- A process has the file under the path open and has read it to its end; where `exact` holds, the
records it has noted are up to date as well. -/
structure Opened (exact : Prop) (fs : LockoutFiles) (rows : List Str) (m : Str → Option Lockout)
    (side : SideFile) : Prop extends Backs fs side.ino rows m where
  known : Known rows.length rows side.ix
  noted : exact → Exact m side.ix.records

section File

variable {exact : Prop} {fs : LockoutFiles} {ino : Nat} {rows : List Str}
  {m : Str → Option Lockout} {side : SideFile}

theorem Backs.reindex (h : Backs fs side.ino rows m) : Opened exact fs rows m (side.reindex fs) := by
  obtain ⟨hknown, hexact⟩ := indexLockouts_file h.table
  refine { path := h.path, contents := h.contents, table := h.table, known := ?_, noted := fun _ => ?_ }
  · show Known _ _ (indexLockouts (fs.contents side.ino))
    rw [h.contents]
    exact hknown
  · show Exact m (indexLockouts (fs.contents side.ino)).records
    rw [h.contents]
    exact hexact

theorem Backs.openFile (h : Backs fs ino rows m) (exact : Prop) :
    ∃ side, SideFile.openFile fs = some side ∧ side.ino = ino ∧ Opened exact fs rows m side := by
  rw [SideFile.openFile, h.path]
  exact ⟨_, rfl, rfl, @Backs.reindex _ _ _ _ ⟨ino, {}⟩ h⟩

/-- **Refreshing reads what others have put behind the rows that are known**, or the new file. -/
theorem Backs.refresh (h : Backs fs ino rows m)
    (hknown : side.ino = ino → ∃ n, Known n rows side.ix) :
    ∃ side', side.refresh fs = some side' ∧ side'.ino = ino ∧ Opened False fs rows m side' := by
  rw [SideFile.refresh, h.path]
  dsimp only
  by_cases hino : ino = side.ino
  · subst hino
    rw [if_neg (not_not.mpr rfl)]
    obtain ⟨n, hknown⟩ := hknown rfl
    have hlen : (fs.contents side.ino).length = lockoutHeader.length + (unlines rows).length := by
      rw [h.contents, length_append]
    have hix := hknown.covers.len_eq
    have hpos : 0 < side.ix.len := by
      rw [hix]
      exact Nat.add_pos_left (by decide) _
    rw [hlen]
    by_cases hn : n < rows.length
    · -- Rows were added behind those that are known.
      have hlt := offset_lt hn (Nat.le_refl _)
      rw [offset_length] at hlt
      rw [if_pos ⟨by omega, hpos, hknown.whole, by rw [hknown.foreign]; exact Bool.false_ne_true⟩]
      refine ⟨_, rfl, rfl, h, ?_, False.elim⟩
      have hbuf : readAt (fs.contents side.ino) side.ix.len
          (lockoutHeader.length + (unlines rows).length - side.ix.len) = unlines (rows.drop n) := by
        have hfile : fs.contents side.ino
            = (lockoutHeader ++ unlines (rows.take n)) ++ unlines (rows.drop n) := by
          rw [h.contents, append_assoc, ← unlines_append, take_append_drop]
        have hstart : side.ix.len = (lockoutHeader ++ unlines (rows.take n)).length := by
          rw [hix, length_append]
          rfl
        rw [readAt, hfile, hstart, drop_left, take_of_length_le]
        have hsplit := congrArg length hfile
        rw [hlen, length_append] at hsplit
        omega
      obtain ⟨ix', hix', hcovers, -, -, hforeign, -⟩ := indexBody_rows _ h.table hknown.covers
      have hsplit : (unlines rows).length = offset rows n + (unlines (rows.drop n)).length := by
        rw [offset, ← length_append, ← unlines_append, take_append_drop]
      dsimp only [SideFile.extend]
      rw [hbuf, hix']
      refine ⟨(endsLine_unlines _).endsWhole, hforeign.trans hknown.foreign, ?_⟩
      have hend : side.ix.len + (unlines (rows.drop n)).length
          = lockoutHeader.length + (unlines rows).length := by
        rw [hix, hsplit]
        omega
      show Covers _ _ _ _ _ (side.ix.len + (unlines (rows.drop n)).length) (places ix'.records)
      rw [hend]
      exact hcovers
    · -- Everything is known.
      have hn' : n = rows.length := by
        have := hknown.covers.le
        omega
      subst hn'
      rw [offset_length] at hix
      rw [if_neg (by omega), if_neg (by omega)]
      exact ⟨side, rfl, rfl, h, hknown, False.elim⟩
  · rw [if_pos hino]
    exact h.openFile _

section

variable (hknown : Known n rows side.ix) (h : Backs fs side.ino rows m)
  (hplace : places side.ix.records id = some p)

include hknown h hplace

theorem Known.recordAt :
    ∃ i row, i < n ∧ rows[i]? = some row ∧ p = lockoutHeader.length + offset rows i
      ∧ side.recordAt fs p id = (parseLockoutLine row).map Prod.fst
      ∧ ∀ l name, parseLockoutLine row = some (l, name) → name = id := by
  obtain ⟨i, row, hi, hrow, hp, hwidth, hkey⟩ := hknown.covers.slots id p hplace
  have hread : readAt (fs.contents side.ino) p (headWidth + id.length + 2) = row ++ [newline] := by
    have hlen : headWidth + id.length + 2 = row.length + 1 := by
      rw [hwidth, rowWidth]
      omega
    rw [h.contents, hp, hlen]
    exact readAt_row lockoutHeader hrow
  refine ⟨i, row, hi, hrow, hp, ?_, hkey⟩
  rw [SideFile.recordAt, hread, if_pos (getLast?_concat ..), stripSuffix_append_self]
  cases hparse : parseLockoutLine row with
  | none => rfl
  | some r =>
    dsimp only
    rw [if_pos (hkey r.1 r.2 hparse)]
    rfl

/-- What a row that is known says is so, whatever others have put behind it. -/
theorem Known.record_of_some (hl : side.recordAt fs p id = some l) : m id = some l := by
  obtain ⟨i, row, -, hrow, -, hrecord, hkey⟩ := hknown.recordAt h hplace
  rw [hl] at hrecord
  obtain ⟨r, hparse, rfl⟩ := map_eq_some_iff.mp hrecord.symm
  rw [← hkey r.1 r.2 hparse]
  exact (h.table.cells.reads r.2 r.1).mpr ⟨i, (rowAt_row hrow).trans hparse⟩

end

theorem Opened.recordAt (h : Opened exact fs rows m side)
    (hplace : places side.ix.records id = some p) : side.recordAt fs p id = m id := by
  cases hl : side.recordAt fs p id with
  | some l => exact (h.known.record_of_some h.toBacks hplace hl).symm
  | none =>
    obtain ⟨i, row, hi, hrow, hp, hrecord, -⟩ := h.known.recordAt h.toBacks hplace
    have hdead := Option.map_eq_none_iff.mp (hrecord.symm.trans hl)
    refine ((h.table.none_iff id).mpr fun j v hcell => ?_).symm
    obtain ⟨row', hrow', hparse'⟩ := rowAt_eq_some.mp hcell
    -- The row of the id, if there were one, would stand at the same place.
    obtain ⟨hj, -⟩ := List.getElem?_eq_some_iff.mp hrow'
    have hsame := h.known.covers.complete hj hcell
    rw [hplace, hp] at hsame
    have hoff : offset rows i = offset rows j := by
      have := Option.some.inj hsame
      omega
    rcases Nat.lt_trichotomy i j with hlt | rfl | hlt
    · have := offset_lt hlt hj.le
      omega
    · rw [hrow] at hrow'
      cases hrow'
      rw [hdead] at hparse'
      cases hparse'
    · have := offset_lt hlt hi.le
      omega

theorem Opened.place_of_some (h : Opened exact fs rows m side)
    (hl : m id = some l) : ∃ i row, rows[i]? = some row ∧ parseLockoutLine row = some (l, id)
      ∧ places side.ix.records id = some (lockoutHeader.length + offset rows i) := by
  obtain ⟨i, hcell⟩ := (h.table.cells.reads id l).mp hl
  obtain ⟨row, hrow, hparse⟩ := rowAt_eq_some.mp hcell
  obtain ⟨hi, -⟩ := List.getElem?_eq_some_iff.mp hrow
  exact ⟨i, row, hrow, hparse, h.known.covers.complete hi hcell⟩

theorem lookup_of_place (h : places ix.records id = some p) :
    ∃ l, ix.records.lookup id = some (p, l) := by
  obtain ⟨⟨p', l⟩, hl, rfl⟩ := map_eq_some_iff.mp h
  exact ⟨l, hl⟩

theorem place_of_lookup {r : Nat × Lockout}
    (h : ix.records.lookup id = some r) : places ix.records id = some r.1 := by
  rw [places, h, map_some]

/-- **Locating finds the record of the map, and where its row is.** -/
theorem Opened.locate (h : Opened exact fs rows m side) (id : Str) :
    Opened exact fs rows m (side.locate fs id).2 ∧ (side.locate fs id).2.ino = side.ino
      ∧ (side.locate fs id).1 = (m id).bind fun l =>
        ((places (side.locate fs id).2.ix.records id).map fun p => (p, l)) := by
  rw [SideFile.locate]
  cases hlook : side.ix.records.lookup id with
  | none =>
    refine ⟨h, rfl, ?_⟩
    rw [places, hlook]
    cases m id <;> rfl
  | some r =>
    obtain ⟨p, l₀⟩ := r
    have hplace := place_of_lookup hlook
    dsimp only
    rw [h.recordAt hplace]
    cases hm : m id with
    | some l =>
      refine ⟨h, rfl, ?_⟩
      rw [hplace]
      rfl
    | none =>
      -- The row has died: the file is read again, and it is not found.
      have hopen : Opened True fs rows m (side.reindex fs) := h.toBacks.reindex
      have hnone : (side.reindex fs).ix.records.lookup id = none := by
        cases hlook' : (side.reindex fs).ix.records.lookup id with
        | none => rfl
        | some r' =>
          have := hopen.noted trivial id r'.1 r'.2 hlook'
          rw [hm] at this
          cases this
      rw [hnone]
      exact ⟨h.toBacks.reindex, rfl, rfl⟩

/-- A process has changed the file under the path in place. -/
def Moves (exact : Prop) (ino : Nat) (rows : List Str) (m : Str → Option Lockout)
    (r : LockoutFiles × SideFile) : Prop :=
  ∃ rows', Evolves parseLockoutLine rows rows' ∧ r.2.ino = ino ∧ Opened exact r.1 rows' m r.2

theorem Opened.moves (h : Opened exact fs rows m side) : Moves exact side.ino rows m (fs, side) :=
  ⟨rows, Evolves.refl rows, rfl, h⟩

theorem Moves.trans {m' : Str → Option Lockout} {rows' : List Str} {r : LockoutFiles × SideFile}
    (hevolves : Evolves parseLockoutLine rows rows') (h : Moves exact ino rows' m' r) :
    Moves exact ino rows m' r := by
  obtain ⟨rows'', hevolves', hino, hopen⟩ := h
  exact ⟨rows'', hevolves.trans hevolves', hino, hopen⟩

theorem write_contents (fs : LockoutFiles) (ino pos : Nat) (bytes : Str) :
    (fs.write ino pos bytes).contents ino = writeAt (fs.contents ino) pos bytes :=
  update_self ..

theorem Opened.overwrite (h : Opened exact fs rows m side) {i : Nat} {row row' bytes : Str}
    (hrow : rows[i]? = some row)
    (hparse : parseLockoutLine row = some (l, id)) (hlen : bytes.length ≤ row.length)
    (hrow' : bytes ++ row.drop bytes.length = row') (hplain : newline ∉ row') {w : Option Lockout}
    (hw : parseLockoutLine row' = w.map (·, id)) :
    Backs (fs.write side.ino (lockoutHeader.length + offset rows i) bytes) side.ino (rows.set i row')
        (update m id w)
      ∧ Evolves parseLockoutLine rows (rows.set i row')
      ∧ Known (rows.set i row').length (rows.set i row') side.ix := by
  have hkeeps : Keeps parseLockoutLine row row' := by
    constructor
    · rw [← hrow', length_append, length_drop]
      omega
    · intro v k hk
      rw [hw] at hk
      obtain ⟨_, -, hw'⟩ := map_eq_some_iff.mp hk
      cases hw'
      exact ⟨l, hparse⟩
  have hevolves := Evolves.set hrow hkeeps
  refine ⟨⟨h.path, ?_, h.table.set hrow hparse hplain w hw⟩, hevolves,
    ⟨h.known.whole, h.known.foreign, ?_⟩⟩
  · rw [write_contents, h.contents, writeAt_row lockoutHeader hrow hlen, hrow']
  · rw [length_set]
    exact h.known.covers.evolves hevolves

theorem Exact.update {records : HashMap Str (Nat × Lockout)} (h : Exact m records) (id : Str) (p : Nat) (l : Lockout) :
    Exact (update m id (some l)) (records.insert id (p, l)) := by
  intro k p' l' hl'
  rw [HashMap.lookup_insert] at hl'
  by_cases hk : k = id
  · rw [if_pos hk] at hl'
    cases hl'
    rw [hk, update_self]
  · rw [if_neg hk] at hl'
    rw [update_of_ne hk]
    exact h k p' l' hl'

/-- **Putting a record**: over the row of the id, or behind the others. -/
theorem Opened.put (h : Opened exact fs rows m side) (hid : RowName id) (l : Lockout) :
    Moves exact side.ino rows (update m id (some l)) (side.put fs id l) := by
  obtain ⟨hopen, hino, hfound⟩ := h.locate id
  rw [SideFile.put]
  generalize side.locate fs id = found at hopen hino hfound
  obtain ⟨at_, side₁⟩ := found
  dsimp only at hopen hino hfound ⊢
  cases hm : m id with
  | some l₀ =>
    obtain ⟨i, row, hrow, hparse, hplace⟩ := hopen.place_of_some hm
    rw [hfound, hm, bind_some, hplace, map_some]
    dsimp only
    have hsame : (update (places side₁.ix.records) id (some (lockoutHeader.length + offset rows i)))
        = (places side₁.ix.records) := by
      rw [← hplace, update_eq_self]
    -- The places are as they were: only the record is noted anew.
    have hnoted : ∀ {rows'}, Known rows'.length rows' side₁.ix → Known rows'.length rows'
        { side₁.ix with
          records := side₁.ix.records.insert id (lockoutHeader.length + offset rows i, l) } := by
      intro rows' hknown
      refine ⟨hknown.whole, hknown.foreign, ?_⟩
      rw [places_insert, hsame]
      exact hknown.covers
    by_cases hl : l₀ = l
    · rw [if_neg (not_not.mpr hl)]
      have hmap : update m id (some l) = m := by
        rw [← hl, ← hm, update_eq_self]
      refine ⟨rows, Evolves.refl rows, hino, { hopen with
        table := by rw [hmap]; exact hopen.table, known := hnoted hopen.known, noted := fun he => ?_ }⟩
      exact (hopen.noted he).update id _ l
    · rw [if_pos hl]
      obtain ⟨hwidth, htail⟩ := parseLockoutLine_split hparse
      have hlen : (lockoutHead id l).length ≤ row.length := by
        rw [lockoutHead_length, hwidth, rowWidth]
        omega
      have hrow' : lockoutHead id l ++ row.drop (lockoutHead id l).length = lockoutRow id l := by
        rw [lockoutHead_length, htail, lockoutRow, append_assoc]
      obtain ⟨hbacks, hevolves, hknown⟩ := hopen.overwrite (w := some l) hrow hparse hlen hrow'
        (newline_not_mem_lockoutRow hid l) (parseLockoutLine_row hid l)
      exact ⟨_, hevolves, hino, { hbacks with
        known := hnoted hknown, noted := fun he => (hopen.noted he).update id _ l }⟩
  | none =>
    rw [hfound, hm, Option.bind_none]
    have hend : side₁.ix.len = (fs.contents side₁.ino).length := by
      rw [hopen.known.covers.len_eq, offset_length, hopen.contents, length_append]
    have hpos : side₁.ix.len ≠ 0 := by
      rw [hopen.known.covers.len_eq]
      exact Nat.ne_of_gt (Nat.add_pos_left (by decide) _)
    rw [if_neg hpos, if_neg (not_not.mpr hopen.known.whole)]
    have hparse := parseLockoutLine_row hid l
    have htable := hopen.table.append hm hparse (newline_not_mem_lockoutRow hid l)
    have hevolves : Evolves parseLockoutLine rows (rows ++ [lockoutRow id l]) :=
      Evolves.append rows _
    have hlast : (rows ++ [lockoutRow id l])[rows.length]? = some (lockoutRow id l) := by simp
    refine ⟨rows ++ [lockoutRow id l], hevolves, hino, ⟨⟨hopen.path, ?_, htable⟩, ⟨rfl,
      hopen.known.foreign, ?_⟩, fun he => (hopen.noted he).update id _ l⟩⟩
    · rw [write_contents, hend, writeAt_end, hopen.contents, unlines_append]
      simp
    · have hlen : side₁.ix.len + (lockoutRow id l ++ [newline]).length
          = side₁.ix.len + (lockoutRow id l).length + 1 := by
        rw [length_append, length_singleton, Nat.add_assoc]
      rw [hlen, length_append, length_singleton]
      refine (hopen.known.covers.evolves hevolves).next htable hlast
        (fun _ _ hparse => (parseLockoutLine_split hparse).1) fun k => ?_
      rw [hparse]
      exact places_insert_apply side₁.ix.records id side₁.ix.len l k

theorem places_erase (records : HashMap Str (Nat × Lockout)) (id : Str) :
    places (records.erase id) = update (places records) id none := by
  funext k
  rw [places, HashMap.lookup_erase]
  by_cases hk : k = id
  · subst hk
    rw [if_pos rfl, update_self]
    rfl
  · rw [if_neg hk, update_of_ne hk, places]

/-- **Deleting a record.** -/
theorem Opened.delete (h : Opened exact fs rows m side) (id : Str) :
    Moves exact side.ino rows (update m id none) (side.delete fs id) := by
  obtain ⟨hopen, hino, hfound⟩ := h.locate id
  rw [SideFile.delete]
  generalize side.locate fs id = found at hopen hino hfound
  obtain ⟨at_, side₁⟩ := found
  dsimp only at hopen hino hfound ⊢
  cases hm : m id with
  | none =>
    rw [hfound, hm, Option.bind_none]
    have hmap : update m id none = m := by
      rw [← hm, update_eq_self]
    rw [hmap]
    exact ⟨rows, Evolves.refl rows, hino, hopen⟩
  | some l =>
    obtain ⟨i, row, hrow, hparse, hplace⟩ := hopen.place_of_some hm
    rw [hfound, hm, bind_some, hplace, map_some]
    have hlen : [deletedByte].length ≤ row.length := by
      rw [(parseLockoutLine_split hparse).1, rowWidth, length_singleton]
      omega
    have hplain : newline ∉ [deletedByte] ++ row.drop [deletedByte].length := by
      rw [mem_append, not_or]
      refine ⟨by decide, fun hmem => ?_⟩
      exact hopen.table.plain row (mem_of_getElem? hrow) (mem_of_mem_drop hmem)
    obtain ⟨hbacks, hevolves, hknown⟩ := hopen.overwrite (w := none) hrow hparse hlen rfl hplain
      (parseLockoutLine_deleted _)
    refine ⟨_, hevolves, hino, { hbacks with
      known := ⟨hknown.whole, hknown.foreign, ?_⟩, noted := fun he k p l' hl' => ?_ }⟩
    · rw [places_erase]
      exact hknown.covers.forget ((hbacks.table.none_iff id).mp (update_self ..))
    · rw [HashMap.lookup_erase] at hl'
      by_cases hk : k = id
      · rw [if_pos hk] at hl'
        cases hl'
      · rw [if_neg hk] at hl'
        rw [update_of_ne hk]
        exact hopen.noted he k p l' hl'

theorem Opened.deleteAll (h : Opened exact fs rows m side) (gone : List Str) :
    Moves exact side.ino rows (fun k => if k ∈ gone then none else m k) (side.deleteAll fs gone) := by
  induction gone generalizing fs rows m side with
  | nil => exact h.moves
  | cons id gone ih =>
    obtain ⟨rows₁, hevolves, hino, hopen⟩ := h.delete id
    have hrest := (ih hopen).trans hevolves
    have hmap : (fun k => if k ∈ id :: gone then none else m k)
        = fun k => if k ∈ gone then none else update m id none k := by
      funext k
      by_cases hk : k = id
      · subst hk
        simp
      · simp [hk]
    rw [hmap, ← hino]
    exact hrest

theorem Opened.locate_record (h : Opened exact fs rows m side) (id : Str) :
    (side.locate fs id).1.map Prod.snd = m id := by
  obtain ⟨hopen, -, hfound⟩ := h.locate id
  rw [hfound]
  cases hm : m id with
  | none => rfl
  | some l =>
    obtain ⟨i, row, -, -, hplace⟩ := hopen.place_of_some hm
    rw [bind_some, hplace]
    rfl

theorem Opened.noted_record (h : Opened True fs rows m side) (id : Str) :
    (side.ix.records.lookup id).map Prod.snd = m id := by
  cases hlook : side.ix.records.lookup id with
  | some r => exact (h.noted trivial id r.1 r.2 hlook).symm
  | none =>
    cases hm : m id with
    | none => rfl
    | some l =>
      obtain ⟨i, row, -, -, hplace⟩ := h.place_of_some hm
      obtain ⟨l', hl'⟩ := lookup_of_place hplace
      rw [hlook] at hl'
      cases hl'

theorem Opened.mem_keys (h : Opened exact fs rows m side)
    (hl : m id = some l) : id ∈ side.ix.records.keys := by
  obtain ⟨i, row, -, -, hplace⟩ := h.place_of_some hl
  obtain ⟨l', hl'⟩ := lookup_of_place hplace
  exact HashMap.mem_keys_iff.mpr ⟨_, hl'⟩

end File

/-! ### Files written anew -/

/-- The records a file is written from: they stand for a map, and their ids can stand in rows. -/
structure Lists (records : List (Str × Lockout)) (m : Str → Option Lockout) : Prop where
  nodup : (records.map Prod.fst).Nodup
  named : ∀ r ∈ records, RowName r.1
  reads : ∀ k v, m k = some v ↔ (k, v) ∈ records

section Anew

variable {fs : LockoutFiles} {records : List (Str × Lockout)} {m : Str → Option Lockout}

theorem Lists.table (h : Lists records m) :
    Table parseLockoutLine (records.map fun r => lockoutRow r.1 r.2) m := by
  have hcells : rowAt parseLockoutLine (records.map fun r => lockoutRow r.1 r.2)
      = fun i => records[i]?.map fun r => (r.2, r.1) := by
    funext i
    rw [rowAt, getElem?_map]
    cases hr : records[i]? with
    | none => rfl
    | some r =>
      rw [map_some, bind_some, map_some,
        parseLockoutLine_row (h.named r (mem_of_getElem? hr))]
  refine ⟨?_, ?_⟩
  · intro row hmem
    obtain ⟨r, hr, rfl⟩ := mem_map.mp hmem
    exact newline_not_mem_lockoutRow (h.named r hr) r.2
  rw [hcells]
  refine ⟨fun {i j v v' k} hi hj => ?_, fun k v => ?_⟩
  · have hid : ∀ {i : Nat} {v}, (records[i]?.map fun r => (r.2, r.1)) = some (v, k) →
        (records.map Prod.fst)[i]? = some k := by
      intro i v hi
      obtain ⟨r, hr, heq⟩ := map_eq_some_iff.mp hi
      cases heq
      rw [getElem?_map, hr, map_some]
    obtain ⟨hlt, -⟩ := List.getElem?_eq_some_iff.mp (hid hi)
    exact (getElem?_inj hlt h.nodup).mp ((hid hi).trans (hid hj).symm)
  · rw [h.reads, mem_iff_getElem?]
    refine exists_congr fun i => ?_
    cases records[i]? <;> simp [Prod.ext_iff, and_comm]

/-- **A new file holds the map it was written from.** -/
theorem Lists.backs (h : Lists records m) (ino : Nat) :
    Backs (fs.replace ino (renderLockouts records)) ino (records.map fun r => lockoutRow r.1 r.2) m :=
  ⟨rfl, update_self .., h.table⟩

theorem Lists.rewrite (h : Lists records m) (ino : Nat) :
    Opened True (SideFile.rewrite fs ino records).1 (records.map fun r => lockoutRow r.1 r.2) m
      (SideFile.rewrite fs ino records).2 :=
  @Backs.reindex _ _ _ _ ⟨ino, {}⟩ (h.backs ino)

theorem keys_filterMap_sublist {κ ν ν' : Type} (entries : List (Sigma fun _ : κ => ν))
    (f : (Sigma fun _ : κ => ν) → Option ν') :
    ((entries.filterMap fun e => (f e).map fun v => (e.1, v)).map Prod.fst).Sublist entries.keys := by
  induction entries with
  | nil => exact List.Sublist.refl _
  | cons e entries ih =>
    cases hf : f e with
    | none =>
      rw [filterMap_cons_none (by rw [hf]; rfl), keys_cons]
      exact ih.cons _
    | some v =>
      rw [filterMap_cons_some (by rw [hf]; rfl), keys_cons, map_cons]
      exact ih.cons_cons _

theorem Opened.lists {exact : Prop} {rows : List Str} {side : SideFile}
    (h : Opened exact fs rows m side) : Lists (side.liveRecords fs) m := by
  have hreads : ∀ k v, m k = some v ↔ (k, v) ∈ side.liveRecords fs := by
    intro k v
    rw [SideFile.liveRecords, mem_filterMap]
    constructor
    · intro hv
      obtain ⟨i, row, -, -, hplace⟩ := h.place_of_some hv
      obtain ⟨l, hl⟩ := lookup_of_place hplace
      refine ⟨⟨k, (_, l)⟩, AList.mem_lookup_iff.mp hl, ?_⟩
      rw [h.recordAt hplace, hv]
      rfl
    · rintro ⟨e, he, hrec⟩
      have hplace := place_of_lookup (AList.mem_lookup_iff.mpr he)
      rw [h.recordAt hplace] at hrec
      obtain ⟨l, hl, heq⟩ := map_eq_some_iff.mp hrec
      cases heq
      exact hl
  refine ⟨?_, ?_, hreads⟩
  · exact (keys_filterMap_sublist _ _).nodup side.ix.records.nodupKeys
  · rintro ⟨k, v⟩ hmem
    obtain ⟨i, hcell⟩ := (h.table.cells.reads k v).mp ((hreads k v).mpr hmem)
    obtain ⟨row, hrow, hparse⟩ := rowAt_eq_some.mp hcell
    exact RowName.of_parse hparse (h.table.plain row (mem_of_getElem? hrow))

theorem lists_nil : Lists [] (fun _ => none) :=
  ⟨nodup_nil, nofun, fun _ _ => ⟨nofun, nofun⟩⟩

/-- A store whose entries stand under their ids, and whose ids can stand in rows. -/
def PrincipalStore.Rows (s : PrincipalStore) : Prop :=
  ∀ id p, s.map.get id = some p → p.id = id ∧ RowName id

def storeMap (s : PrincipalStore) (id : Str) : Option Lockout :=
  (s.map.get id).map Lockout.of

theorem lists_storeRecords {s : PrincipalStore} (h : s.Rows) :
    Lists (storeRecords s) (storeMap s) := by
  have hperm : (storeRecords s).Perm (s.map.map.values.map fun p => (p.id, Lockout.of p)) :=
    perm_insertionSort ..
  have hmem : ∀ k v, storeMap s k = some v ↔ (k, v) ∈ storeRecords s := by
    intro k v
    rw [hperm.mem_iff, mem_map, storeMap, map_eq_some_iff]
    constructor
    · rintro ⟨p, hp, rfl⟩
      refine ⟨p, ?_, by rw [(h k p hp).1]⟩
      exact mem_map.mpr ⟨⟨k, p⟩, AList.mem_lookup_iff.mp hp, rfl⟩
    · rintro ⟨p, hp, heq⟩
      obtain ⟨⟨k', p'⟩, he, rfl⟩ := mem_map.mp hp
      have hget : s.map.get k' = some p' := AList.mem_lookup_iff.mpr he
      cases heq
      rw [(h k' p' hget).1]
      exact ⟨p', hget, rfl⟩
  refine ⟨?_, ?_, hmem⟩
  · rw [(hperm.map Prod.fst).nodup_iff, map_map, HashMap.values, map_map]
    have hids : s.map.map.entries.map ((Prod.fst ∘ fun p : Principal => (p.id, Lockout.of p))
        ∘ Sigma.snd) = s.map.map.entries.map Sigma.fst := by
      refine map_congr_left fun e he => ?_
      exact (h e.1 e.2 (AList.mem_lookup_iff.mpr he)).1
    rw [hids]
    exact s.map.map.nodupKeys
  · rintro ⟨k, v⟩ hkv
    obtain ⟨p, hp, -⟩ := map_eq_some_iff.mp ((hmem k v).mpr hkv)
    exact (h k p hp).2

end Anew

end Kerber
