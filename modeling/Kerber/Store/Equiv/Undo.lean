import Kerber.Store.Equiv.Admin

/-!
# Undoing a change

`undoChange_restores`: however many entries a change has put, edited and taken out, undoing it gives
every entry back as it was; once an entry was put or taken out behind its back, it says that it cannot.
-/

namespace Kerber

namespace PrincipalMap

/-- What a change can make of the principals; the flag says that it was told of every edit. -/
inductive Edited (m : PrincipalMap) : Bool → PrincipalMap → Prop
  | begin : Edited m true m.beginChange
  | insert (h : Edited m b m') (id : Str) (p : Principal) : Edited m b (m'.insert id p)
  | remove (h : Edited m b m') (id : Str) : Edited m b (m'.remove id)
  | update (h : Edited m b m') (id : Str) (f : Principal → Principal) : Edited m b (m'.update id f)
  | insertUnlogged (h : Edited m b m') (id : Str) (p : Principal) :
      Edited m false (m'.insertUnlogged id p)
  | removeUnlogged (h : Edited m b m') (id : Str) : Edited m false (m'.removeUnlogged id)

variable {m m' m'' : PrincipalMap} {id : Str} {b : Bool}

/-- The record has the entries of `m` that are no longer the same. -/
structure Recorded (m m' : PrincipalMap) (before : HashMap Str (Option Principal)) : Prop where
  undo : m'.undo = .on before
  kept : ∀ id, (before.lookup id).getD (m'.get id) = m.get id

/-- What the undo record says after an edit. -/
def Honest (m : PrincipalMap) (b : Bool) (m' : PrincipalMap) : Prop :=
  if b then ∃ before, Recorded m m' before else m'.undo = .lost

theorem undo_forget (m : PrincipalMap) (id : Str) (old : Option Principal) :
    (m.forget id old).undo = m.undo := by
  cases old with
  | none => rfl
  | some p =>
    rw [forget]
    split <;> rfl

theorem undo_store (m : PrincipalMap) (id : Str) (p : Principal) : (m.store id p).undo = m.undo := by
  rw [← undo_forget { m with map := m.map.insert id p } id (m.map.lookup id)]
  unfold store reindex
  dsimp only
  split
  · split <;> rfl
  · rfl

/-- An edit of an entry that was kept first. -/
theorem Honest.edit (h : Honest m b m')
    (hundo : m''.undo = (m'.keep id).undo) (hget : ∀ k, k ≠ id → m''.get k = m'.get k) :
    Honest m b m'' := by
  cases b with
  | false =>
    refine hundo.trans ?_
    rw [keep, show m'.undo = .lost from h]
  | true =>
    obtain ⟨before, hon, hkept⟩ := h
    rw [keep, hon] at hundo
    refine ⟨_, hundo, fun k => ?_⟩
    rw [← hkept k]
    by_cases hk : k = id
    · subst hk
      cases hb : before.lookup k <;> simp [hb, get]
    · split <;> simp [hk, hget k hk]

/-- An edit the change is not told of. -/
theorem honest_loseUndo (h : Honest m b m') : m'.loseUndo.undo = .lost := by
  cases b with
  | false => rw [loseUndo, show m'.undo = .lost from h]
  | true =>
    obtain ⟨before, hon, -⟩ := h
    rw [loseUndo, hon]

theorem Edited.honest (h : Edited m b m') : Honest m b m' := by
  induction h with
  | begin => exact ⟨∅, rfl, fun id => by simp [beginChange, get]⟩
  | insert _ id p ih =>
    exact ih.edit (undo_store ..) fun k hk => by rw [get_insert, if_neg hk]
  | remove _ id ih =>
    exact ih.edit (undo_forget ..) fun k hk => by rw [get_remove, if_neg hk]
  | update _ id f ih => exact ih.edit rfl fun k hk => by rw [get_update, if_neg hk]
  | insertUnlogged _ id p ih => exact (undo_store ..).trans (honest_loseUndo ih)
  | removeUnlogged _ id ih => exact (undo_forget ..).trans (honest_loseUndo ih)

theorem get_putBack (m : PrincipalMap) (id k : Str) (q : Option Principal) :
    (m.putBack id q).get k = if k = id then q else m.get k := by
  cases q with
  | some p => exact get_store m id k p
  | none => exact (get_forget _ id k _).trans (HashMap.lookup_erase ..)

/-- Putting back a record entry by entry gives what it holds, whatever the order. -/
theorem get_foldl_putBack (l : List (Sigma fun _ : Str => Option Principal)) (hl : l.NodupKeys)
    (m : PrincipalMap) (k : Str) :
    (l.foldl (fun m e => m.putBack e.1 e.2) m).get k = (l.dlookup k).getD (m.get k) := by
  induction l generalizing m with
  | nil => rfl
  | cons e l ih =>
    obtain ⟨hnew, hl⟩ := List.nodupKeys_cons.mp hl
    rw [List.foldl_cons, ih hl, get_putBack]
    by_cases hk : k = e.1
    · subst hk
      rw [if_pos rfl, List.dlookup_eq_none.mpr hnew, List.dlookup_cons_eq]
      rfl
    · rw [if_neg hk, List.dlookup_cons_ne _ _ hk]

/-- **Undoing a change gives back what it found**, unless the record was lost. -/
theorem undoChange_restores (h : Edited m b m') :
    m'.undoChange.2 = b ∧ (b = true → ∀ id, m'.undoChange.1.get id = m.get id) := by
  have hhonest := h.honest
  cases b with
  | false =>
    rw [undoChange, show m'.undo = .lost from hhonest]
    exact ⟨rfl, nofun⟩
  | true =>
    obtain ⟨before, hon, hkept⟩ := hhonest
    rw [undoChange, hon]
    refine ⟨rfl, fun _ id => ?_⟩
    rw [← hkept id]
    exact get_foldl_putBack before.entries before.nodupKeys _ id

/-- An entry is edited and taken out. -/
theorem undoChange_restores_entry :
    let p : Principal := { name := ⟨1, []⟩, realm := [], keys := [] }
    let m : PrincipalMap := { map := (∅ : HashMap Str Principal).insert [97] p }
    ((m.beginChange.update [97] fun p => { p with rid := 7 }).remove [97]).undoChange.1.get [97] = some p :=
  (undoChange_restores ((Edited.begin.update _ _).remove _)).2 rfl _

end PrincipalMap

end Kerber
