import Kerber.Lib.Lines
import Mathlib.Logic.Function.Basic

/-!
# A table in the lines of a file

Every line of the file is a row: it holds a value under a key, or it is dead.  A row is overwritten and
made dead in place, and a new one is put at the end, so that the place of a row, once known, stays its
place.  `Table` says that the rows hold a map, `Evolves` what may happen to rows, and `Covers` that
places noted for the first rows are right; `Covers.evolves` is why they stay right while others write.
-/

namespace Kerber

open Function (update_of_ne update_self)

open List

variable {row : List UInt8} {i : Nat}
variable {rows : List (List UInt8)} {row' : List UInt8}

/-! ### Bytes at a position -/

/-- Up to `n` bytes from a position on. -/
def readAt (file : List UInt8) (pos n : Nat) : List UInt8 :=
  (file.drop pos).take n

def writeAt (file : List UInt8) (pos : Nat) (bytes : List UInt8) : List UInt8 :=
  file.take pos ++ List.replicate (pos - file.length) 0 ++ bytes ++ file.drop (pos + bytes.length)

theorem writeAt_end (file bytes : List UInt8) : writeAt file file.length bytes = file ++ bytes := by
  rw [writeAt, take_length, Nat.sub_self, drop_eq_nil_of_le (by omega)]
  simp

theorem writeAt_over (front bytes old back : List UInt8) (h : bytes.length = old.length) :
    writeAt (front ++ old ++ back) front.length bytes = front ++ bytes ++ back := by
  have htake : (front ++ old ++ back).take front.length = front := by
    rw [append_assoc, take_left]
  have hdrop : (front ++ old ++ back).drop (front.length + bytes.length) = back := by
    rw [h, ← length_append, drop_left]
  have hhole : front.length - (front ++ old ++ back).length = 0 := by
    simp only [length_append]
    omega
  rw [writeAt, htake, hdrop, hhole, replicate_zero, append_nil]

/-! ### Where rows begin -/

/-- Where a row begins, from the first one. -/
def offset (rows : List (List UInt8)) (i : Nat) : Nat :=
  (unlines (rows.take i)).length

theorem offset_succ (h : rows[i]? = some row) :
    offset rows (i + 1) = offset rows i + row.length + 1 := by
  rw [offset, offset, take_add_one, h, Option.toList_some, unlines_append, length_append]
  simp
  omega

theorem offset_length (rows : List (List UInt8)) :
    offset rows rows.length = (unlines rows).length := by
  rw [offset, take_length]

theorem offset_lt {j : Nat} (hij : i < j) (hj : j ≤ rows.length) :
    offset rows i < offset rows j := by
  induction j with
  | zero => omega
  | succ j ih =>
    have hrow : rows[j]? = some rows[j] := getElem?_eq_getElem (by omega)
    rw [offset_succ hrow]
    rcases Nat.lt_or_eq_of_le (Nat.le_of_lt_succ hij) with hlt | rfl
    · have := ih hlt (by omega)
      omega
    · omega

theorem rows_split (h : rows[i]? = some row) : rows = rows.take i ++ row :: rows.drop (i + 1) := by
  obtain ⟨hi, rfl⟩ := List.getElem?_eq_some_iff.mp h
  rw [getElem_cons_drop, take_append_drop]

theorem readAt_row (front : List UInt8) (h : rows[i]? = some row) :
    readAt (front ++ unlines rows) (front.length + offset rows i) (row.length + 1)
      = row ++ [newline] := by
  have hfile : front ++ unlines rows = front ++ unlines (rows.take i)
      ++ ((row ++ [newline]) ++ unlines (rows.drop (i + 1))) := by
    conv_lhs => rw [rows_split h]
    simp
  have hlen : row.length + 1 = (row ++ [newline]).length := by simp
  rw [readAt, hfile, offset, ← length_append, drop_left, hlen, take_left]

theorem writeAt_row (front : List UInt8) {bytes : List UInt8} (h : rows[i]? = some row)
    (hlen : bytes.length ≤ row.length) :
    writeAt (front ++ unlines rows) (front.length + offset rows i) bytes
      = front ++ unlines (rows.set i (bytes ++ row.drop bytes.length)) := by
  obtain ⟨hi, -⟩ := List.getElem?_eq_some_iff.mp h
  have hfile : front ++ unlines rows = (front ++ unlines (rows.take i)) ++ row.take bytes.length
      ++ (row.drop bytes.length ++ newline :: unlines (rows.drop (i + 1))) := by
    conv_lhs => rw [rows_split h]
    rw [append_assoc _ (row.take _), ← append_assoc (row.take _), take_append_drop]
    simp
  have hset : rows.set i (bytes ++ row.drop bytes.length)
      = rows.take i ++ (bytes ++ row.drop bytes.length) :: rows.drop (i + 1) :=
    set_eq_take_append_cons_drop .. |>.trans (if_pos hi)
  rw [hfile, offset, ← length_append, writeAt_over _ _ _ _ (by simp [hlen]), hset]
  simp

/-! ### The map in the rows -/

section Rows

variable {K V : Type} (parse : List UInt8 → Option (V × K))

/-- Cells that hold a map: no two of them are for one key. -/
structure Tabulates (cells : Nat → Option (V × K)) (m : K → Option V) : Prop where
  unique : ∀ {i j v v' k}, cells i = some (v, k) → cells j = some (v', k) → i = j
  reads : ∀ k v, m k = some v ↔ ∃ i, cells i = some (v, k)

/-- What a row holds, if it is there and alive. -/
def rowAt (rows : List (List UInt8)) (i : Nat) : Option (V × K) :=
  rows[i]?.bind parse

/-- The rows hold the map. -/
structure Table (rows : List (List UInt8)) (m : K → Option V) : Prop where
  plain : ∀ row ∈ rows, newline ∉ row
  cells : Tabulates (rowAt parse rows) m

/-- What may happen to a row: it keeps its length, and it keeps its key or dies. -/
def Keeps (row row' : List UInt8) : Prop :=
  row'.length = row.length ∧ ∀ v k, parse row' = some (v, k) → ∃ v', parse row = some (v', k)

/-- What may happen to rows: each is kept, and more are put behind them. -/
def Evolves (rows rows' : List (List UInt8)) : Prop :=
  ∀ (i : Nat) row, rows[i]? = some row → ∃ row', rows'[i]? = some row' ∧ Keeps parse row row'

/-- The places noted for the first `n` rows, as a place for every key, are right: a place that was noted
is that of a row which is for no other key, and every row that is alive has its place noted. -/
structure Covers (base : Nat) (width : K → Nat) (n : Nat) (rows : List (List UInt8)) (len : Nat)
    (place : K → Option Nat) : Prop where
  le : n ≤ rows.length
  len_eq : len = base + offset rows n
  slots : ∀ k p, place k = some p → ∃ (i : Nat) (row : List UInt8), i < n ∧ rows[i]? = some row ∧ p = base + offset rows i
    ∧ row.length = width k ∧ ∀ v k', parse row = some (v, k') → k' = k
  complete : ∀ {i v k}, i < n → rowAt parse rows i = some (v, k) → place k = some (base + offset rows i)

variable {parse} {rows rows' : List (List UInt8)} {m : K → Option V} {v : V} {k : K}

theorem rowAt_eq_some {c : V × K} :
    rowAt parse rows i = some c ↔ ∃ row, rows[i]? = some row ∧ parse row = some c :=
  Option.bind_eq_some_iff

theorem rowAt_row (hrow : rows[i]? = some row) : rowAt parse rows i = parse row := by
  rw [rowAt, hrow, Option.bind_some]

theorem Table.none_iff (h : Table parse rows m) (k : K) :
    m k = none ↔ ∀ i v, rowAt parse rows i ≠ some (v, k) := by
  rw [Option.eq_none_iff_forall_ne_some]
  constructor
  · intro hnone i v hcell
    exact hnone v ((h.cells.reads k v).mpr ⟨i, hcell⟩)
  · intro hnone v hm
    obtain ⟨i, hcell⟩ := (h.cells.reads k v).mp hm
    exact hnone i v hcell

section Change

variable [DecidableEq K]

/-- **One cell is written**, which is for no other key, and the only one for its key. -/
theorem Tabulates.update {cells : Nat → Option (V × K)} (h : Tabulates cells m)
    (hcell : ∀ v k', cells i = some (v, k') → k' = k) (hkey : ∀ j v, cells j = some (v, k) → j = i)
    (w : Option V) :
    Tabulates (Function.update cells i (w.map (·, k))) (Function.update m k w) := by
  have hself : ∀ {j v}, Function.update cells i (w.map (·, k)) j = some (v, k) ↔ j = i ∧ w = some v := by
    intro j v
    by_cases hj : j = i
    · subst hj
      simp
    · rw [update_of_ne hj]
      exact iff_of_false (fun hc => hj (hkey j v hc)) fun hc => hj hc.1
  have hother : ∀ {j v k'}, k' ≠ k →
      (Function.update cells i (w.map (·, k)) j = some (v, k') ↔ cells j = some (v, k')) := by
    intro j v k' hk
    by_cases hj : j = i
    · subst hj
      rw [update_self]
      refine iff_of_false (fun hw => ?_) fun hc => hk (hcell v k' hc)
      obtain ⟨_, -, heq⟩ := Option.map_eq_some_iff.mp hw
      cases heq
      exact hk rfl
    · rw [update_of_ne hj]
  refine ⟨fun {j j' v v' k'} hv hv' => ?_, fun k' v => ?_⟩
  · by_cases hk : k' = k
    · subst hk
      exact (hself.mp hv).1.trans (hself.mp hv').1.symm
    · exact h.unique ((hother hk).mp hv) ((hother hk).mp hv')
  · by_cases hk : k' = k
    · subst hk
      rw [update_self]
      simp [hself]
    · rw [update_of_ne hk, h.reads]
      simp only [hother hk]

theorem Table.set (h : Table parse rows m) (hrow : rows[i]? = some row)
    (hparse : parse row = some (v, k)) (hplain : newline ∉ row') (w : Option V)
    (hw : parse row' = w.map (·, k)) : Table parse (rows.set i row') (Function.update m k w) := by
  obtain ⟨hi, -⟩ := List.getElem?_eq_some_iff.mp hrow
  have hcells : rowAt parse (rows.set i row') = Function.update (rowAt parse rows) i (w.map (·, k)) := by
    funext j
    by_cases hj : j = i
    · subst hj
      rw [update_self, rowAt_row (getElem?_set_self hi), hw]
    · rw [update_of_ne hj, rowAt, getElem?_set_ne (Ne.symm hj), rowAt]
  have hold : rowAt parse rows i = some (v, k) := (rowAt_row hrow).trans hparse
  refine ⟨fun r hr => ?_, ?_⟩
  · rcases mem_or_eq_of_mem_set hr with hr | rfl
    · exact h.plain r hr
    · exact hplain
  · rw [hcells]
    refine h.cells.update (fun v' k' hc => ?_) (fun j v' hc => h.cells.unique hc hold) w
    rw [hold] at hc
    cases hc
    rfl

/-- A row for a key that had none is put behind the others. -/
theorem Table.append (h : Table parse rows m) (hnone : m k = none)
    (hparse : parse row = some (v, k)) (hplain : newline ∉ row) :
    Table parse (rows ++ [row]) (Function.update m k (some v)) := by
  have hcells : rowAt parse (rows ++ [row])
      = Function.update (rowAt parse rows) rows.length ((some v).map (·, k)) := by
    funext j
    rcases Nat.lt_trichotomy j rows.length with hj | rfl | hj
    · rw [update_of_ne (Nat.ne_of_lt hj), rowAt, getElem?_append_left hj, rowAt]
    · rw [update_self, rowAt_row getElem?_concat_length, hparse, Option.map_some]
    · rw [update_of_ne (Nat.ne_of_gt hj), rowAt, rowAt,
        getElem?_eq_none (by rwa [length_append]), getElem?_eq_none (Nat.le_of_lt hj)]
  have hdead := (h.none_iff k).mp hnone
  refine ⟨fun r hr => ?_, ?_⟩
  · rcases mem_append.mp hr with hr | hr
    · exact h.plain r hr
    · rwa [mem_singleton.mp hr]
  · rw [hcells]
    refine h.cells.update (fun v' k' hc => ?_) (fun j v' hc => absurd hc (hdead j v')) _
    rw [rowAt, getElem?_eq_none (Nat.le_refl _)] at hc
    cases hc

end Change

/-! ### Rows over time -/

theorem Keeps.refl (row : List UInt8) : Keeps parse row row :=
  ⟨rfl, fun v _ h => ⟨v, h⟩⟩

theorem Evolves.refl (rows : List (List UInt8)) : Evolves parse rows rows :=
  fun _ row h => ⟨row, h, Keeps.refl row⟩

theorem Evolves.trans {rows'' : List (List UInt8)} (h : Evolves parse rows rows')
    (h' : Evolves parse rows' rows'') : Evolves parse rows rows'' := by
  intro i row hrow
  obtain ⟨row', hrow', hlen, hkey⟩ := h i row hrow
  obtain ⟨row'', hrow'', hlen', hkey'⟩ := h' i row' hrow'
  refine ⟨row'', hrow'', hlen'.trans hlen, fun v k hp => ?_⟩
  obtain ⟨v', hp'⟩ := hkey' v k hp
  exact hkey v' k hp'

theorem Evolves.set (hrow : rows[i]? = some row) (hkeeps : Keeps parse row row') :
    Evolves parse rows (rows.set i row') := by
  intro j r hr
  obtain ⟨hi, -⟩ := List.getElem?_eq_some_iff.mp hrow
  by_cases hj : j = i
  · subst hj
    rw [hrow] at hr
    cases hr
    exact ⟨row', getElem?_set_self hi, hkeeps⟩
  · exact ⟨r, by rw [getElem?_set_ne (Ne.symm hj)]; exact hr, Keeps.refl r⟩

theorem Evolves.append (rows more : List (List UInt8)) : Evolves parse rows (rows ++ more) := by
  intro j r hr
  obtain ⟨hj, -⟩ := List.getElem?_eq_some_iff.mp hr
  exact ⟨r, by rw [getElem?_append_left hj]; exact hr, Keeps.refl r⟩

theorem Evolves.length_le (h : Evolves parse rows rows') : rows.length ≤ rows'.length := by
  rcases Nat.eq_zero_or_pos rows.length with hz | hpos
  · omega
  have hrow : rows[rows.length - 1]? = some rows[rows.length - 1] :=
    getElem?_eq_getElem (by omega)
  obtain ⟨row', hrow', -⟩ := h _ _ hrow
  obtain ⟨hlt, -⟩ := List.getElem?_eq_some_iff.mp hrow'
  omega

theorem Evolves.offset_eq (h : Evolves parse rows rows') (hi : i ≤ rows.length) :
    offset rows' i = offset rows i := by
  induction i with
  | zero => rfl
  | succ i ih =>
    have hrow : rows[i]? = some rows[i] := getElem?_eq_getElem (by omega)
    obtain ⟨row', hrow', hlen, -⟩ := h _ _ hrow
    rw [offset_succ hrow, offset_succ hrow', ih (by omega), hlen]

section Places

variable {base n len : Nat} {width : K → Nat} {place : K → Option Nat}

/-- **Places stay right** while rows are overwritten, die and are put behind the others. -/
theorem Covers.evolves (h : Covers parse base width n rows len place)
    (hrows : Evolves parse rows rows') : Covers parse base width n rows' len place where
  le := Nat.le_trans h.le hrows.length_le
  len_eq := by rw [h.len_eq, hrows.offset_eq h.le]
  slots k p hp := by
    obtain ⟨i, row, hi, hrow, hpos, hlen, hkey⟩ := h.slots k p hp
    obtain ⟨row', hrow', hlen', hkeeps⟩ := hrows i row hrow
    refine ⟨i, row', hi, hrow', ?_, hlen'.trans hlen, fun v k' hparse => ?_⟩
    · rw [hpos, hrows.offset_eq (by have := h.le; omega)]
    · obtain ⟨v', hv'⟩ := hkeeps v k' hparse
      exact hkey v' k' hv'
  complete {i v k} hi hcell := by
    have hlt : i < rows.length := by have := h.le; omega
    have hrow : rows[i]? = some rows[i] := getElem?_eq_getElem hlt
    obtain ⟨row', hrow', -, hkeeps⟩ := hrows i _ hrow
    obtain ⟨v', hv'⟩ := hkeeps v k ((rowAt_row hrow').symm.trans hcell)
    rw [h.complete hi ((rowAt_row hrow).trans hv'), hrows.offset_eq (by omega)]

theorem covers_zero (rows : List (List UInt8)) :
    Covers parse base width 0 rows base (fun _ => none) where
  le := Nat.zero_le _
  len_eq := by rw [offset, take_zero]; rfl
  slots := nofun
  complete h := absurd h (Nat.not_lt_zero _)

variable [DecidableEq K]

/-- One more row is looked at: its place is noted when it is alive. -/
theorem Covers.next (h : Covers parse base width n rows len place) (htable : Table parse rows m)
    (hrow : rows[n]? = some row) (hwidth : ∀ v k, parse row = some (v, k) → row.length = width k)
    {place' : K → Option Nat}
    (hplace : ∀ k, place' k = if (parse row).map Prod.snd = some k then some len else place k) :
    Covers parse base width (n + 1) rows (len + row.length + 1) place' where
  le := (List.getElem?_eq_some_iff.mp hrow).1
  len_eq := by
    rw [offset_succ hrow, h.len_eq]
    omega
  slots k p hp := by
    rw [hplace] at hp
    split at hp
    · rename_i hkey
      obtain ⟨⟨v, k'⟩, hparse, rfl⟩ := Option.map_eq_some_iff.mp hkey
      cases hp
      refine ⟨n, row, Nat.lt_succ_self n, hrow, h.len_eq, hwidth v k' hparse, fun v' k' hp' => ?_⟩
      rw [hparse] at hp'
      cases hp'
      rfl
    · obtain ⟨i, row', hi, hrest⟩ := h.slots k p hp
      exact ⟨i, row', by omega, hrest⟩
  complete {i v k} hi hcell := by
    rw [hplace]
    split
    · rename_i hkey
      obtain ⟨⟨v', k'⟩, hparse, rfl⟩ := Option.map_eq_some_iff.mp hkey
      obtain rfl := htable.cells.unique hcell ((rowAt_row hrow).trans hparse)
      rw [h.len_eq]
    · rename_i hkey
      rcases Nat.lt_succ_iff_lt_or_eq.mp hi with hlt | rfl
      · exact h.complete hlt hcell
      · rw [rowAt_row hrow] at hcell
        rw [hcell] at hkey
        exact absurd rfl hkey

theorem Covers.forget (h : Covers parse base width n rows len place) {k : K}
    (hdead : ∀ i v, rowAt parse rows i ≠ some (v, k)) :
    Covers parse base width n rows len (Function.update place k none) where
  le := h.le
  len_eq := h.len_eq
  slots k' p hp := by
    by_cases hk : k' = k
    · subst hk
      rw [update_self] at hp
      cases hp
    · rw [update_of_ne hk] at hp
      exact h.slots k' p hp
  complete {i v k'} hi hcell := by
    have hk : k' ≠ k := by
      rintro rfl
      exact hdead i v hcell
    rw [update_of_ne hk]
    exact h.complete hi hcell

end Places

end Rows

end Kerber
