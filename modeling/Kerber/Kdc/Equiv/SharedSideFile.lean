import Kerber.Kdc.Equiv.SideFile

/-!
# Processes that share the lockout side file

Whatever processes do with the file, in whatever order, each of them reads for a principal the record
that was last written for it (`lockout_file_refines`).  A file that is written anew is another file, and
a process that has the old one open can tell; while a file stays, the places noted in it stay right.
-/

namespace Kerber

open Function LockoutOp SideFile List

variable {r : LockoutFiles × SideFile} {want : List (Str × Lockout)}
variable {m : Str → Option Lockout} {ino : Nat} {op : LockoutOp} {p : Principal}
  {s : PrincipalStore}

/-! ### What the operations are for -/

/-- What an operation does to the records. -/
def LockoutOp.effect (m : Str → Option Lockout) : LockoutOp → Str → Option Lockout
  | .update p stamp u => Function.update m p.id (some (u.apply ((m p.id).getD (Lockout.of p)) stamp))
  | .rename oldId new =>
    match m oldId with
    | some l => Function.update (Function.update m new.id (some l)) oldId none
    | none => m
  | .deletes gone => fun id => if id ∈ gone then none else m id
  | .reconcile s true => storeMap s
  | .reconcile s false => fun id => if (s.map.get id).isNone then none else m id
  | .load s true => fun id => (storeMap s id).map fun l => (m id).getD l
  | .load s false => storeMap s
  | .compact => m
  | .lookup _ => m
  | .close => m

/-- The records after some operations, from none. -/
def recordsAfter {Proc : Type} (events : List (Proc × LockoutOp)) : Str → Option Lockout :=
  events.foldl (fun m e => e.2.effect m) fun _ => none

/-- The ids an operation writes can stand in rows. -/
def LockoutOp.Named : LockoutOp → Prop
  | .update p _ _ => RowName p.id
  | .rename _ new => RowName new.id
  | .reconcile s _ => s.Rows
  | .load s _ => s.Rows
  | _ => True

/-- Processes have run operations, one after the other, from when there was no file. -/
inductive LockoutRun {Proc : Type} [DecidableEq Proc] :
    List (Proc × LockoutOp) → LockoutSystem Proc → Prop
  | start (contents : Nat → Str) : LockoutRun [] ⟨⟨none, contents⟩, fun _ => none⟩
  | step {events : List (Proc × LockoutOp)} {sys : LockoutSystem Proc} (q : Proc) (op : LockoutOp)
      (ino : Nat) (hrun : LockoutRun events sys) (hfree : sys.Free ino) (hnamed : op.Named) :
      LockoutRun (events ++ [(q, op)]) (sys.step q op ino)

/-! ### What an operation leaves -/

/-- A file a process has open is, if it is the one under the path, known up to some row. -/
def Knows (ino : Nat) (rows : List Str) (cached : Option SideFile) : Prop :=
  ∀ side, cached = some side → side.ino = ino → ∃ n, Known n rows side.ix

theorem knows_none {rows : List Str} : Knows ino rows none := by
  rintro _ ⟨⟩

theorem Knows.evolves {rows rows' : List Str} {cached : Option SideFile}
    (h : Knows ino rows cached) (hrows : Evolves parseLockoutLine rows rows') :
    Knows ino rows' cached := by
  intro side hside hino
  obtain ⟨n, hknown⟩ := h side hside hino
  exact ⟨n, hknown.whole, hknown.foreign, hknown.covers.evolves hrows⟩

theorem Opened.knows {exact : Prop} {fs : LockoutFiles} {rows : List Str} {side : SideFile}
    (h : Opened exact fs rows m side) : Knows ino rows (some side) := by
  rintro _ ⟨⟩ -
  exact ⟨rows.length, h.known⟩

/-- What an operation leaves where there was a file: the same file with its rows changed in place, or a
new one. -/
inductive Leaves (new ino : Nat) (rows : List Str) (m : Str → Option Lockout)
    (r : LockoutFiles × Option SideFile) : Prop
  | kept (rows' : List Str) (hbacks : Backs r.1 ino rows' m)
      (hrows : Evolves parseLockoutLine rows rows') (hknows : Knows ino rows' r.2)
  | made (rows' : List Str) (hbacks : Backs r.1 new rows' m) (hknows : Knows new rows' r.2)

section Ops

variable {exact : Prop} {fs : LockoutFiles} {new ino : Nat} {rows : List Str} {cached : Option SideFile}
  {side : SideFile}

theorem Moves.leaves (h : Moves exact ino rows m r) : Leaves new ino rows m (r.1, some r.2) := by
  obtain ⟨rows', hrows, rfl, hopen⟩ := h
  exact .kept rows' hopen.toBacks hrows hopen.knows

/-- Nothing is written; the process may have read. -/
theorem Opened.leaves (h : Opened exact fs rows m side) (hino : side.ino = ino) :
    Leaves new ino rows m (fs, some side) :=
  (hino ▸ h.moves).leaves

theorem Backs.innerSide (h : Backs fs ino rows m) (hknows : Knows ino rows cached) :
    ∃ side, innerSide fs cached = some side ∧ usable (innerSide fs cached) = some side
      ∧ side.ino = ino ∧ Opened False fs rows m side := by
  have hside : ∃ side, Kerber.innerSide fs cached = some side ∧ side.ino = ino
      ∧ Opened False fs rows m side := by
    cases cached with
    | some side => exact h.refresh (hknows side rfl)
    | none =>
      obtain ⟨side, hopen, hino, hopened⟩ := h.openFile False
      rw [Kerber.innerSide, hopen, Option.bind_some]
      exact h.refresh fun _ => ⟨rows.length, hopened.known⟩
  obtain ⟨side, hside, hino, hopen⟩ := hside
  refine ⟨side, hside, ?_, hino, hopen⟩
  rw [hside, usable]
  exact Option.filter_eq_some_iff.mpr ⟨rfl, by simp [hopen.known.foreign]⟩

theorem Opened.recordLockout (h : Opened exact fs rows m side) (hp : RowName p.id)
    (stamp : UInt32) (u : LockoutUpdate) :
    Moves exact side.ino rows
      (update m p.id (some (u.apply ((m p.id).getD (Lockout.of p)) stamp)))
      (recordLockout fs side p stamp u) := by
  obtain ⟨hopen, hino, -⟩ := h.locate p.id
  rw [Kerber.recordLockout]
  rw [h.locate_record, ← hino]
  exact hopen.put hp _

theorem leaves_update (h : Backs fs ino rows m) (hknows : Knows ino rows cached)
    (hp : RowName p.id) (stamp : UInt32) (u : LockoutUpdate) :
    Leaves new ino rows (effect m (.update p stamp u))
      (updateInFile fs cached new p stamp u) := by
  obtain ⟨side, -, husable, rfl, hopen⟩ := h.innerSide hknows
  rw [updateInFile]
  rw [husable]
  exact (hopen.recordLockout hp stamp u).leaves

theorem leaves_rename (h : Backs fs ino rows m) (hknows : Knows ino rows cached) (oldId : Str)
    (hp : RowName p.id) :
    Leaves new ino rows (effect m (.rename oldId p)) (renameInFile fs cached oldId p) := by
  obtain ⟨side, -, husable, rfl, hopen⟩ := h.innerSide hknows
  rw [renameInFile]
  rw [husable]
  dsimp only
  obtain ⟨hlocated, hino, -⟩ := hopen.locate oldId
  have hrecord := hopen.locate_record oldId
  cases hfound : (side.locate fs oldId).1 with
  | none =>
    rw [hfound] at hrecord
    rw [effect, ← hrecord]
    exact hlocated.leaves hino
  | some r =>
    rw [hfound] at hrecord
    rw [effect, ← hrecord]
    obtain ⟨rows₁, hrows₁, hino₁, hput⟩ := hlocated.put hp r.2
    rw [← hino, ← hino₁]
    exact ((hput.delete oldId).trans hrows₁).leaves

theorem Opened.compact {rows₀ : List Str} (h : Opened exact fs rows m side) :
    Leaves new ino rows₀ m ((side.compact fs new).1, some (side.compact fs new).2) := by
  have hopen := @Lists.rewrite fs _ _ h.lists new
  exact .made _ hopen.toBacks hopen.knows

theorem Moves.compactIfDead (h : Moves exact ino rows m r) :
    Leaves new ino rows m ((SideFile.compactIfDead r new).1, some (SideFile.compactIfDead r new).2) := by
  rw [SideFile.compactIfDead]
  split
  · obtain ⟨rows', -, -, hopen⟩ := h
    exact hopen.compact
  · exact h.leaves

theorem leaves_deletes (h : Backs fs ino rows m) (hknows : Knows ino rows cached)
    (gone : List Str) :
    Leaves new ino rows (effect m (.deletes gone)) (deletesInFile fs cached new gone) := by
  rw [deletesInFile]
  split
  · rename_i hgone
    subst hgone
    exact .kept rows h (Evolves.refl rows) hknows
  · obtain ⟨side, -, husable, rfl, hopen⟩ := h.innerSide hknows
    dsimp only
    rw [husable]
    exact (hopen.deleteAll gone).compactIfDead

theorem leaves_compact (h : Backs fs ino rows m) (hknows : Knows ino rows cached) :
    Leaves new ino rows (effect m .compact) (compactInFile fs cached new) := by
  obtain ⟨side, -, husable, rfl, hopen⟩ := h.innerSide hknows
  rw [compactInFile]
  rw [husable]
  exact hopen.compact

/-- **What a process reads under the lock.** -/
theorem readFresh_eq (new : Nat) (h : Backs fs ino rows m) (hknows : Knows ino rows cached) (id : Str) :
    (readFresh fs cached id).1 = m id ∧ Leaves new ino rows m (fs, (readFresh fs cached id).2) := by
  obtain ⟨side, -, husable, rfl, hopen⟩ := h.innerSide hknows
  rw [readFresh]
  rw [husable]
  obtain ⟨hlocated, hino, -⟩ := hopen.locate id
  exact ⟨hopen.locate_record id, hlocated.leaves hino⟩

theorem rowUnlocked_some (h : Backs fs ino rows m) (hknows : Knows ino rows (some side)) {id : Str}
    {l : Lockout} (hl : side.rowUnlocked fs id = some l) : m id = some l := by
  rw [rowUnlocked, h.path] at hl
  dsimp only at hl
  split at hl
  · cases hl
  rename_i hgood
  obtain ⟨-, -, hino⟩ := not_or.mp hgood |>.imp_right not_or.mp
  split at hl
  · cases hl
  obtain rfl := not_not.mp hino
  obtain ⟨n, hknown⟩ := hknows side rfl rfl
  cases hlook : side.ix.records.lookup id with
  | none =>
    rw [hlook] at hl
    cases hl
  | some r =>
    rw [hlook] at hl
    exact hknown.record_of_some h (place_of_lookup hlook) hl

/-- **What a process reads of a principal**, with or without the lock. -/
theorem lookupInFile_eq (new : Nat) (h : Backs fs ino rows m) (hknows : Knows ino rows cached) (p : Principal) :
    (lookupInFile fs cached p).1 = (m p.id).getD (Lockout.of p)
      ∧ Leaves new ino rows m (fs, (lookupInFile fs cached p).2) := by
  rw [lookupInFile]
  cases hpeek : cached.bind (·.rowUnlocked fs p.id) with
  | some l =>
    obtain ⟨side, rfl, hl⟩ := Option.bind_eq_some_iff.mp hpeek
    rw [rowUnlocked_some h hknows hl]
    exact ⟨rfl, .kept rows h (Evolves.refl rows) hknows⟩
  | none =>
    obtain ⟨hread, hleaves⟩ := readFresh_eq new h hknows p.id
    dsimp only
    rw [hread]
    exact ⟨rfl, hleaves⟩

def putAll (m : Str → Option Lockout) (want : List (Str × Lockout)) : Str → Option Lockout :=
  want.foldl (fun m r => Function.update m r.1 (some r.2)) m

theorem putAll_of_not_mem {k : Str} (hk : k ∉ want.map Prod.fst) : putAll m want k = m k := by
  induction want generalizing m with
  | nil => rfl
  | cons r want ih =>
    rw [map_cons, mem_cons, not_or] at hk
    show putAll (update m r.1 (some r.2)) want k = m k
    rw [ih hk.2, update_of_ne hk.1]

theorem putAll_of_mem {k : Str} {v : Lockout} (hnodup : (want.map Prod.fst).Nodup)
    (hk : (k, v) ∈ want) : putAll m want k = some v := by
  induction want generalizing m with
  | nil => nomatch hk
  | cons r want ih =>
    rw [map_cons, nodup_cons] at hnodup
    show putAll (update m r.1 (some r.2)) want k = some v
    rcases mem_cons.mp hk with rfl | hk
    · rw [putAll_of_not_mem hnodup.1, update_self]
    · exact ih hnodup.2 hk

theorem Opened.putChanged (h : Opened True fs rows m side) (hnamed : ∀ r ∈ want, RowName r.1) :
    Moves True side.ino rows (putAll m want) (putChanged fs side want) := by
  induction want generalizing fs rows m side with
  | nil => exact h.moves
  | cons r want ih =>
    have hrest := fun r' hr' => hnamed r' (mem_cons_of_mem r hr')
    show Moves True side.ino rows (putAll (update m r.1 (some r.2)) want)
      (Kerber.putChanged (if _ then side.put fs r.1 r.2 else (fs, side)).1
        (if _ then side.put fs r.1 r.2 else (fs, side)).2 want)
    rw [h.noted_record]
    by_cases hsame : m r.1 = some r.2
    · rw [if_neg (not_not.mpr hsame)]
      have hmap : update m r.1 (some r.2) = m := by
        rw [← hsame, update_eq_self]
      rw [hmap]
      exact ih h hrest
    · rw [if_pos hsame]
      obtain ⟨rows₁, hrows₁, hino₁, hopen⟩ := h.put (hnamed r mem_cons_self) r.2
      rw [← hino₁]
      exact (ih hopen hrest).trans hrows₁

/-- Deleting the records of some of the ids there are. -/
theorem Opened.deleteWhere (h : Opened exact fs rows m side) (gone : Str → Bool) :
    Moves exact side.ino rows (fun k => if gone k then none else m k)
      (side.deleteAll fs (side.ix.records.keys.filter gone)) := by
  have hmap : (fun k => if gone k then none else m k)
      = fun k => if k ∈ side.ix.records.keys.filter gone then none else m k := by
    funext k
    by_cases hk : gone k = true
    · rw [if_pos hk]
      split
      · rfl
      · rename_i hkept
        cases hv : m k with
        | none => rfl
        | some v => exact absurd (mem_filter.mpr ⟨h.mem_keys hv, hk⟩) hkept
    · rw [if_neg hk, if_neg fun hgone => hk (mem_filter.mp hgone).2]
  rw [hmap]
  exact h.deleteAll _

/-- A new file, beside what a process has open. -/
theorem Lists.leaves {records : List (Str × Lockout)} {w : Str → Option Lockout}
    (h : Lists records w) (hfree : ∀ side, cached = some side → side.ino ≠ new) :
    Leaves new ino rows w (fs.replace new (renderLockouts records), cached) :=
  .made _ (h.backs new) fun side hside hino => absurd hino (hfree side hside)

theorem Moves.leaves_beside (h : Moves exact ino rows m r)
    (hknows : Knows ino rows cached) : Leaves new ino rows m (r.1, cached) := by
  obtain ⟨rows', hrows, rfl, hopen⟩ := h
  exact .kept rows' hopen.toBacks hrows (hknows.evolves hrows)

theorem leaves_reconcile (h : Backs fs ino rows m) (hknows : Knows ino rows cached)
    (hfree : ∀ side, cached = some side → side.ino ≠ new) (hs : s.Rows) (makeMissing : Bool) :
    Leaves new ino rows (effect m (.reconcile s makeMissing))
      (reconcile fs new s makeMissing, cached) := by
  obtain ⟨side, hopened, rfl, hopen⟩ := h.openFile True
  have hlists := lists_storeRecords hs
  rw [reconcile, hopened]
  dsimp only
  rw [hopen.known.foreign, if_neg Bool.false_ne_true]
  cases makeMissing with
  | true =>
    rw [if_pos rfl]
    obtain ⟨rows₁, hrows₁, hino₁, hput⟩ := hopen.putChanged hlists.named
    generalize putChanged fs side (storeRecords s) = put at hino₁ hput
    have hleft := (hput.deleteWhere fun id => id ∉ (storeRecords s).map Prod.fst).trans hrows₁
    -- What was not wanted is gone, and what was wanted is there.
    have hmap : (fun k => if decide (k ∉ (storeRecords s).map Prod.fst) then none
        else putAll m (storeRecords s) k) = storeMap s := by
      funext k
      by_cases hk : k ∈ (storeRecords s).map Prod.fst
      · obtain ⟨⟨k', v⟩, hkv, rfl⟩ := mem_map.mp hk
        rw [if_neg (by simpa using hk), putAll_of_mem hlists.nodup hkv, (hlists.reads k' v).mpr hkv]
      · rw [if_pos (decide_eq_true hk)]
        cases hv : storeMap s k with
        | none => rfl
        | some v => exact absurd (mem_map.mpr ⟨_, (hlists.reads k v).mp hv, rfl⟩) hk
    rw [hmap, hino₁] at hleft
    split
    · exact hlists.leaves hfree
    · exact hleft.leaves_beside hknows
  | false =>
    rw [if_neg Bool.false_ne_true]
    have hleft := hopen.deleteWhere fun id => (s.principalById id).isNone
    rw [SideFile.compactIfDead]
    split
    · obtain ⟨rows', -, -, hleft⟩ := hleft
      exact hleft.lists.leaves hfree
    · exact hleft.leaves_beside hknows

theorem leaves_load (h : Backs fs ino rows m)
    (hfree : ∀ side, cached = some side → side.ino ≠ new) (hs : s.Rows) (merge : Bool) :
    Leaves new ino rows (effect m (.load s merge))
      (writeLoaded fs new (storeRecords s) merge, cached) := by
  obtain ⟨side, hopened, rfl, hopen⟩ := h.openFile True
  have hlists := lists_storeRecords hs
  rw [writeLoaded, hopened]
  dsimp only
  cases merge with
  | false => exact hlists.leaves hfree
  | true =>
    rw [if_pos ⟨rfl, by rw [hopen.known.foreign]; exact Bool.false_ne_true⟩]
    refine Lists.leaves ⟨?_, ?_, ?_⟩ hfree
    · rw [map_map]
      exact hlists.nodup
    · intro r hr
      obtain ⟨r₀, hr₀, rfl⟩ := mem_map.mp hr
      exact hlists.named r₀ hr₀
    · intro k v
      rw [effect, Option.map_eq_some_iff, mem_map]
      constructor
      · rintro ⟨l, hl, rfl⟩
        refine ⟨(k, l), (hlists.reads k l).mp hl, ?_⟩
        rw [hopen.noted_record]
      · rintro ⟨⟨k', l⟩, hkl, heq⟩
        rw [hopen.noted_record] at heq
        cases heq
        exact ⟨l, (hlists.reads _ l).mpr hkl, rfl⟩

/-- **What an operation leaves where there was a file.** -/
theorem LockoutOp.leaves (h : Backs fs ino rows m) (hknows : Knows ino rows cached)
    (hfree : ∀ side, cached = some side → side.ino ≠ new) (hnamed : op.Named) :
    Leaves new ino rows (op.effect m) (op.run new fs cached) := by
  cases op with
  | update p stamp u => exact leaves_update h hknows hnamed stamp u
  | rename oldId p => exact leaves_rename h hknows oldId hnamed
  | deletes gone => exact leaves_deletes h hknows gone
  | compact => exact leaves_compact h hknows
  | reconcile s makeMissing => exact leaves_reconcile h hknows hfree hnamed makeMissing
  | load s merge => exact leaves_load h hfree hnamed merge
  | lookup p => exact (lookupInFile_eq new h hknows p).2
  | close => exact .kept rows h (Evolves.refl rows) knows_none

theorem innerSide_absent (hpath : fs.atPath = none) : innerSide fs none = none := by
  rw [innerSide, openFile, hpath]
  rfl

/-- **What an operation leaves where there was no file**: none, or a new one. -/
theorem LockoutOp.leaves_absent (new : Nat) (hpath : fs.atPath = none) (hnamed : op.Named) :
    (op.effect (fun _ => none) = fun _ => none)
        ∧ (op.run new fs none).1.atPath = none ∧ (op.run new fs none).2 = none
      ∨ ∃ rows, Backs (op.run new fs none).1 new rows (op.effect fun _ => none)
        ∧ Knows new rows (op.run new fs none).2 := by
  have hside := innerSide_absent hpath
  cases op with
  | update p stamp u =>
    right
    have hmade : Backs (makeBeside fs new []) new [] fun _ => none := lists_nil.backs new
    obtain ⟨side, hinner, husable, rfl, hopen⟩ := @Backs.innerSide _ _ _ _ none hmade knows_none
    obtain ⟨rows, -, hino, hrecord⟩ := hopen.recordLockout hnamed stamp u
    refine ⟨rows, ?_⟩
    have hrun : (update p stamp u).run side.ino fs none
        = ((recordLockout (makeBeside fs side.ino []) side p stamp u).1,
          some (recordLockout (makeBeside fs side.ino []) side p stamp u).2) := by
      show updateInFile fs none side.ino p stamp u = _
      rw [updateInFile]
      rw [hside]
      dsimp only [usable, Option.filter_none]
      rw [if_neg (by rw [hpath]; exact Bool.false_ne_true)]
      rw [usable] at husable
      rw [husable]
    have hbacks := hrecord.toBacks
    rw [hino] at hbacks
    rw [hrun]
    exact ⟨hbacks, hrecord.knows⟩
  | rename oldId p =>
    refine .inl ⟨rfl, ?_⟩
    show (renameInFile fs none oldId p).1.atPath = none ∧ (renameInFile fs none oldId p).2 = none
    rw [renameInFile]
    rw [hside]
    exact ⟨hpath, rfl⟩
  | deletes gone =>
    refine .inl ⟨?_, ?_⟩
    · funext k
      exact ite_self _
    · show (deletesInFile fs none new gone).1.atPath = none ∧ (deletesInFile fs none new gone).2 = none
      rw [deletesInFile]
      split
      · exact ⟨hpath, rfl⟩
      · dsimp only
        rw [hside]
        exact ⟨hpath, rfl⟩
  | compact =>
    refine .inl ⟨rfl, ?_⟩
    show (compactInFile fs none new).1.atPath = none ∧ (compactInFile fs none new).2 = none
    rw [compactInFile]
    rw [hside]
    exact ⟨hpath, rfl⟩
  | reconcile s makeMissing =>
    have hrun : (reconcile s makeMissing).run new fs none
        = (if makeMissing then makeBeside fs new (storeRecords s) else fs, none) := by
      show (Kerber.reconcile fs new s makeMissing, none) = _
      rw [Kerber.reconcile, openFile, hpath]
      rfl
    rw [hrun]
    cases makeMissing with
    | true => exact .inr ⟨_, (lists_storeRecords hnamed).backs new, knows_none⟩
    | false =>
      refine .inl ⟨?_, hpath, rfl⟩
      funext k
      exact ite_self _
  | load s merge =>
    have hrun : (load s merge).run new fs none = (makeBeside fs new (storeRecords s), none) := by
      show (writeLoaded fs new (storeRecords s) merge, none) = _
      rw [writeLoaded, openFile, hpath]
      rfl
    have heffect : (load s merge).effect (fun _ => none) = storeMap s := by
      cases merge with
      | false => rfl
      | true =>
        funext k
        show (storeMap s k).map (fun l => (none : Option Lockout).getD l) = storeMap s k
        cases storeMap s k <;> rfl
    rw [hrun, heffect]
    exact .inr ⟨_, (lists_storeRecords hnamed).backs new, knows_none⟩
  | lookup p =>
    refine .inl ⟨rfl, hpath, ?_⟩
    show (lookupInFile fs none p).2 = none
    rw [lookupInFile, Option.bind_none]
    rw [readFresh, hside]
    rfl
  | close => exact .inl ⟨rfl, hpath, rfl⟩

end Ops

/-! ### Runs -/

section Runs

variable {Proc : Type} [DecidableEq Proc] {sys : LockoutSystem Proc}

/-- The file holds the map, and every process that has it open knows some of its rows; or there is no
file yet. -/
inductive Shares (m : Str → Option Lockout) (sys : LockoutSystem Proc) : Prop
  | absent (hpath : sys.files.atPath = none) (hprocs : ∀ q, sys.procs q = none)
      (hm : m = fun _ => none)
  | present (ino : Nat) (rows : List Str) (hbacks : Backs sys.files ino rows m)
      (hknows : ∀ q, Knows ino rows (sys.procs q))

/-- **One operation of one process.** -/
theorem Shares.step (h : Shares m sys) (q : Proc) (hfree : sys.Free ino) (hnamed : op.Named) :
    Shares (op.effect m) (sys.step q op ino) := by
  -- What the other processes know is not touched.
  have hothers : ∀ {ino' : Nat} {rows : List Str}, (∀ q', q' ≠ q → Knows ino' rows (sys.procs q')) →
      Knows ino' rows (op.run ino sys.files (sys.procs q)).2 →
      ∀ q', Knows ino' rows ((sys.step q op ino).procs q') := by
    intro ino' rows hothers hself q'
    show Knows ino' rows (update sys.procs q (op.run ino sys.files (sys.procs q)).2 q')
    by_cases hq : q' = q
    · subst hq
      rw [update_self]
      exact hself
    · rw [update_of_ne hq]
      exact hothers q' hq
  have hnew : ∀ {rows : List Str} q', Knows ino rows (sys.procs q') := by
    intro rows q' side hside hino
    exact absurd hino (hfree.2 q' side hside)
  cases h with
  | present ino₀ rows hbacks hknows =>
    have hleaves := leaves hbacks (hknows q) (hfree.2 q) hnamed
    cases hleaves with
    | kept rows' hbacks' hrows hknows' =>
      exact .present ino₀ rows' hbacks' (hothers (fun q' _ => (hknows q').evolves hrows) hknows')
    | made rows' hbacks' hknows' =>
      exact .present ino rows' hbacks' (hothers (fun q' _ => hnew q') hknows')
  | absent hpath hprocs hm =>
    subst hm
    have hleaves := leaves_absent ino hpath hnamed
    have hrun : op.run ino sys.files none = op.run ino sys.files (sys.procs q) := by
      rw [hprocs q]
    rw [hrun] at hleaves
    rcases hleaves with ⟨heffect, hpath', hcached⟩ | ⟨rows, hbacks, hknows⟩
    · refine .absent hpath' (fun q' => ?_) heffect
      show update sys.procs q (op.run ino sys.files (sys.procs q)).2 q' = none
      by_cases hq : q' = q
      · subst hq
        rw [update_self]
        exact hcached
      · rw [update_of_ne hq]
        exact hprocs q'
    · exact .present ino rows hbacks (hothers (fun q' _ => hnew q') hknows)

/-- **Any operations of any processes.** -/
theorem LockoutRun.shares {events : List (Proc × LockoutOp)} (h : LockoutRun events sys) :
    Shares (recordsAfter events) sys := by
  induction h with
  | start contents => exact .absent rfl (fun _ => rfl) rfl
  | step q op ino hrun hfree hnamed ih =>
    rw [recordsAfter, foldl_append]
    exact ih.step q hfree hnamed

/-- **The lockout side file is a map.**  Whatever processes have done with it, in whatever order, what a
process reads for a principal once it has refreshed is what was last written for it, and nothing if
nothing was written since it was last deleted; what it reads without the lock is the same. -/
theorem lockout_file_refines {events : List (Proc × LockoutOp)} (h : LockoutRun events sys) (q : Proc)
    (p : Principal) :
    (readFresh sys.files (sys.procs q) p.id).1 = recordsAfter events p.id
      ∧ (lookupInFile sys.files (sys.procs q) p).1
        = (recordsAfter events p.id).getD (Lockout.of p) := by
  cases h.shares with
  | present ino rows hbacks hknows =>
    exact ⟨(readFresh_eq 0 hbacks (hknows q) p.id).1,
      (lookupInFile_eq 0 hbacks (hknows q) p).1⟩
  | absent hpath hprocs hm =>
    have hread : (readFresh sys.files none p.id).1 = none := by
      rw [readFresh, innerSide_absent hpath]
      rfl
    rw [hm, hprocs q]
    refine ⟨hread, ?_⟩
    rw [lookupInFile, Option.bind_none]
    dsimp only
    rw [hread]

end Runs

/-! ### Two processes -/

/-- A principal with three failures in its entry. -/
def sharedUser : Principal :=
  { name := ⟨1, [str "alice"]⟩, realm := str "R", keys := [], failAuthCount := 3 }

/-- One process notes a failure; the other looks, deletes the record and notes a failure again. -/
def sharedEvents : List (Bool × LockoutOp) :=
  [(true, .update sharedUser 100 { setLastFailure := true }), (false, .lookup sharedUser),
   (false, .deletes [str "alice@R"]), (false, .update sharedUser 200 { setLastSuccess := true })]

/-- What is left, where new files get the inodes seven, eight, nine and ten. -/
def sharedSystem : LockoutSystem Bool :=
  let start : LockoutSystem Bool := ⟨⟨none, fun _ => []⟩, fun _ => none⟩
  (((start.step true (.update sharedUser 100 { setLastFailure := true }) 7).step false
    (.lookup sharedUser) 8).step false (.deletes [str "alice@R"]) 9).step false
    (.update sharedUser 200 { setLastSuccess := true }) 10

theorem sharedUser_named : RowName sharedUser.id :=
  rowName_id (by decide) (by decide +kernel)

theorem free_of_inodes {sys : LockoutSystem Bool} (hpath : sys.files.atPath ≠ some ino)
    (htrue : (sys.procs true).all fun side => side.ino ≠ ino)
    (hfalse : (sys.procs false).all fun side => side.ino ≠ ino) : sys.Free ino := by
  refine ⟨hpath, fun q side hside => ?_⟩
  cases q with
  | true =>
    rw [hside] at htrue
    exact of_decide_eq_true htrue
  | false =>
    rw [hside] at hfalse
    exact of_decide_eq_true hfalse

theorem sharedRun : LockoutRun sharedEvents sharedSystem := by
  refine @LockoutRun.step _ _ (sharedEvents.take 3) _ false _ 10 ?_ ?_ sharedUser_named
  · refine @LockoutRun.step _ _ (sharedEvents.take 2) _ false _ 9 ?_ ?_ trivial
    · refine @LockoutRun.step _ _ (sharedEvents.take 1) _ false _ 8 ?_ ?_ trivial
      · exact @LockoutRun.step _ _ [] _ true _ 7 (.start _) ⟨nofun, nofun⟩ sharedUser_named
      · exact free_of_inodes (by decide +kernel) (by decide +kernel) (by decide +kernel)
    · exact free_of_inodes (by decide +kernel) (by decide +kernel) (by decide +kernel)
  · exact free_of_inodes (by decide +kernel) (by decide +kernel) (by decide +kernel)

/-- The first process reads what the second one wrote last. -/
theorem lockout_file_refines_two :
    (readFresh sharedSystem.files (sharedSystem.procs true) sharedUser.id).1 = some ⟨200, 0, 3⟩
      ∧ (lookupInFile sharedSystem.files (sharedSystem.procs true) sharedUser).1 = ⟨200, 0, 3⟩ := by
  obtain ⟨hread, hlookup⟩ := lockout_file_refines sharedRun true sharedUser
  have hrecord : recordsAfter sharedEvents sharedUser.id = some ⟨200, 0, 3⟩ := by decide +kernel
  rw [hrecord] at hread hlookup
  exact ⟨hread, hlookup⟩

end Kerber
