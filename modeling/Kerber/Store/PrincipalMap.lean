import Mathlib.Data.List.Sort
import Kerber.Lib.HashMap
import Kerber.Store.Principal
import Kerber.Types.NameText

/-!
# The principals in memory

The map of principals with its RID index, the entries the update log was last told about, and the
undo record of a change (`store/iprop_ulog.rs`).
-/

namespace Kerber

def Principal.id (p : Principal) : Str :=
  lookupPrincipalId p.name p.realm

/-- The entries a change has touched, as they were before it. -/
inductive Undo
  | off
  | on (before : HashMap Str (Option Principal))
  | lost
deriving DecidableEq

structure PrincipalMap where
  map : HashMap Str Principal := ∅
  rids : HashMap UInt32 Str := ∅
  logged : HashMap Str (Option Principal) := ∅
  recordsLog : Bool := false
  undo : Undo := .off
deriving DecidableEq

namespace PrincipalMap

variable (m : PrincipalMap) (id : Str)

def get : Option Principal :=
  m.map.lookup id

def ridOwner (rid : UInt32) : Option Str :=
  if rid = 0 then none else m.rids.lookup rid

/-- `keep`: the first touch of an entry records what it was. -/
def keep : PrincipalMap :=
  { m with
    logged := if m.recordsLog && (m.logged.lookup id).isNone
      then m.logged.insert id (m.map.lookup id) else m.logged
    undo := match m.undo with
      | .on before =>
        .on (if (before.lookup id).isNone then before.insert id (m.map.lookup id) else before)
      | u => u }

/-- `forget`: the RID of an entry that goes is free again. -/
def forget (old : Option Principal) : PrincipalMap :=
  match old with
  | some p => if p.rid ≠ 0 ∧ m.rids.lookup p.rid = some id
      then { m with rids := m.rids.erase p.rid } else m
  | none => m

/-- `reindex`: the RID of the entry that is there now; the master key's is not indexed. -/
def reindex (old : Option Principal) : PrincipalMap :=
  let m := m.forget id old
  match m.map.lookup id with
  | some p => if p.name.componentsJoined ≠ str "K/M" ∧ p.rid ≠ 0
      then { m with rids := m.rids.insert p.rid id } else m
  | none => m

/-- The map with an entry put and its index kept. -/
def store (p : Principal) : PrincipalMap :=
  { m with map := m.map.insert id p }.reindex id (m.map.lookup id)

/-- The map with an entry taken out and its index kept. -/
def discard : PrincipalMap :=
  { m with map := m.map.erase id }.forget id (m.map.lookup id)

def loseUndo : PrincipalMap :=
  { m with undo := match m.undo with
      | .on _ => .lost
      | u => u }

def insert (p : Principal) : PrincipalMap :=
  (m.keep id).store id p

def remove : PrincipalMap :=
  (m.keep id).discard id

/-- What a caller does through `get_mut`. -/
def update (f : Principal → Principal) : PrincipalMap :=
  let m := m.keep id
  { m with map := HashMap.modify id f m.map }

def insertUnlogged (p : Principal) : PrincipalMap :=
  m.loseUndo.store id p

def removeUnlogged : PrincipalMap :=
  m.loseUndo.discard id

def beginChange : PrincipalMap :=
  { m with logged := ∅, undo := .on ∅ }

def putBack : Option Principal → PrincipalMap
  | some p => m.store id p
  | none => m.discard id

/-- `undo_change`: the map as it was, or nothing when the record was lost. -/
def undoChange : PrincipalMap × Bool :=
  match m.undo with
  | .on before =>
    let m := before.entries.foldl (fun m e => m.putBack e.1 e.2) { m with undo := .off }
    ({ m with logged := ∅ }, true)
  | _ => ({ m with undo := .off }, false)

end PrincipalMap

end Kerber
