import Kerber.Store.Equiv.Admin

/-!
# A failed change and the lockout records

A change that fails is undone in the database, but the lockout records were written while it ran.
`lockouts_kept_iff`: after a rename, an unlock or a password change that failed, every record reads as
before exactly when the failure came before the record was written, or the write made no difference.
-/

namespace Kerber

open Database Change

variable {prepared : PreparedPassword} {name : PrincipalName} {keepold : UInt32} {d d' : PrincipalStore}
  {e : Error} {u : Unit} {realm id : Str}

open PrincipalStore Change

variable {L : HashMap Str Lockout} {old new : PrincipalName} {oldRealm newRealm : Str}
  {etypes : List KeySalt} {s : PrincipalStore} {password : Str} {p : Principal} {l : Lockout}

/-! ### Steps -/

namespace Change

variable {α β : Type} {db db' : Database}

/-- Where a step leads from `db`: to `Q` with its value or, where it fails, to `E`. -/
def Leads (m : Change α) (db : Database) (Q : α → Database → Prop) (E : Database → Prop) : Prop :=
  match m db with
  | .ok a db' => Q a db'
  | .error _ db' => E db'

variable {m : Change α} {f : α → Change β} {Q Q' : α → Database → Prop} {R : β → Database → Prop}
  {E : Database → Prop}

theorem Leads.ok {a : α} (h : Leads m db Q E) (hrun : m db = .ok a db') : Q a db' := by
  rw [Leads, hrun] at h
  exact h

theorem Leads.error (h : Leads m db Q E) (hrun : m db = .error e db') : E db' := by
  rw [Leads, hrun] at h
  exact h

theorem Leads.imp (h : Leads m db Q E) (hQ : ∀ a db', Q a db' → Q' a db') : Leads m db Q' E := by
  rw [Leads]
  cases hm : m db with
  | ok a mid => exact hQ a mid (h.ok hm)
  | error e mid => exact h.error hm

theorem bind_ok_run {a : α} (h : m db = .ok a db') : (m >>= f) db = f a db' := by
  show EStateM.bind m f db = f a db'
  rw [EStateM.bind, h]

theorem Leads.bind (h : Leads m db Q E) (hf : ∀ a db', m db = .ok a db' → Q a db' →
    Leads (f a) db' R E) : Leads (m >>= f) db R E := by
  cases hm : m db with
  | ok a mid =>
    rw [Leads, bind_ok_run hm]
    exact hf a mid hm (h.ok hm)
  | error e mid =>
    show match EStateM.bind m f db with
      | .ok b db' => R b db'
      | .error _ db' => E db'
    rw [EStateM.bind, hm]
    exact h.error hm

theorem read_run {g : PrincipalStore → Except Error α} {a : α} (h : g db.store = .ok a) :
    read g db = .ok a db := by
  rw [read, h]

theorem Leads.read {g : PrincipalStore → Except Error α} (hE : E db)
    (h : ∀ a, g db.store = .ok a → Leads (f a) db R E) : Leads (Change.read g >>= f) db R E := by
  have hread : Leads (Change.read g) db (fun a db' => db' = db ∧ g db.store = .ok a) E := by
    rw [Leads, Change.read]
    cases hg : g db.store with
    | ok a => exact ⟨rfl, rfl⟩
    | error e => exact hE
  refine hread.bind ?_
  rintro a _ - ⟨rfl, hg⟩
  exact h a hg

theorem Leads.edit {g : PrincipalStore → Except Error PrincipalStore} {f : Unit → Change β}
    (hE : E db) (h : ∀ s, g db.store = .ok s → Leads (f ()) { db with store := s } R E) :
    Leads (Change.edit g >>= f) db R E := by
  have hedit : Leads (Change.edit g) db
      (fun _ db' => ∃ s, g db.store = .ok s ∧ db' = { db with store := s }) E := by
    rw [Leads, Change.edit]
    cases hg : g db.store with
    | ok s => exact ⟨s, rfl, rfl⟩
    | error e => exact hE
  refine hedit.bind ?_
  rintro _ _ - ⟨s, hs, rfl⟩
  exact h s hs

/-- The last steps of an operation on an entry: its failures are forgotten. -/
theorem finish_run (now : UInt32) (id : Str) (db : Database) :
    (do zeroFailCount now id; save : Change Unit) db = .ok ()
      { (match db.store.map.get id with
          | some p => db.updateLockout p now { zeroFailCount := true }
          | none => db) with changed := true } := by
  show EStateM.bind _ _ db = _
  rw [EStateM.bind, zeroFailCount]
  cases db.store.map.get id <;> rfl

end Change

/-! ### Changes -/

/-- The database as a change finds it. -/
def Database.begun (db : Database) : Database :=
  { db with store := db.disk, changed := false, wroteThrough := false }

/-- How a change ends, and what it leaves. -/
inductive Ends {α : Type} (a : Answers) (f : Change α) (db : Database) :
    Except Error (Except Error α) → Database → Prop
  | unlocked (e : Error) (h : a.lock = some e) : Ends a f db (.error e) db
  | refused (e : Error) (done db' : Database) (hlock : a.lock = none)
      (hrun : f db.begun = .error e done) (hdisk : db'.disk = done.disk)
      (hlockouts : db'.lockouts = done.lockouts) : Ends a f db (.ok (.error e)) db'
  | unchanged (v : α) (done : Database) (hlock : a.lock = none) (hrun : f db.begun = .ok v done)
      (hchanged : done.changed = false) : Ends a f db (.ok (.ok v)) done
  | unsaved (v : α) (e : Error) (done db' : Database) (hlock : a.lock = none)
      (hrun : f db.begun = .ok v done) (hchanged : done.changed = true) (hsave : a.save = some e)
      (hdisk : db'.disk = done.disk) (hlockouts : db'.lockouts = done.lockouts) :
      Ends a f db (.error e) db'
  | saved (v : α) (r : Except Error (Except Error α)) (done : Database) (hlock : a.lock = none)
      (hrun : f db.begun = .ok v done) (hchanged : done.changed = true) (hsave : a.save = none)
      (hr : r = .ok (.ok v) ∨ ∃ e, a.finish = some e ∧ r = .error e) :
      Ends a f db r { done with disk := done.store }

theorem Database.readBack_disk (a : Answers) (db : Database) : (db.readBack a).disk = db.disk := by
  rw [readBack]
  split <;> rfl

theorem Database.readBack_lockouts (a : Answers) (db : Database) :
    (db.readBack a).lockouts = db.lockouts := by
  rw [readBack]
  split <;> rfl

theorem change_ends {α : Type} (a : Answers) (f : Change α) (db : Database) :
    Ends a f db (change a f db).1 (change a f db).2 := by
  cases hlock : a.lock with
  | some e =>
    rw [change, hlock]
    exact .unlocked e hlock
  | none =>
    have hstart : f { db with store := db.disk, changed := false, wroteThrough := false }
        = f db.begun := rfl
    cases hrun : f db.begun with
    | error e done =>
      have heq : change a f db = (.ok (.error e), if done.wroteThrough then done.readBack a
          else { done with store := db.begun.store }) := by
        rw [change, hlock]
        dsimp only
        rw [hstart, hrun]
        rfl
      rw [heq]
      refine .refused e done _ hlock hrun ?_ ?_
      · dsimp only
        split
        · exact done.readBack_disk a
        · rfl
      · dsimp only
        split
        · exact done.readBack_lockouts a
        · rfl
    | ok v done =>
      rw [change, hlock]
      dsimp only
      rw [hstart, hrun]
      dsimp only
      by_cases hchanged : done.changed = true
      · rw [if_pos hchanged]
        cases hsave : a.save with
        | some e =>
          exact .unsaved v e done _ hlock hrun hchanged hsave (done.readBack_disk a)
            (done.readBack_lockouts a)
        | none =>
          cases hfinish : a.finish with
          | some e => exact .saved v _ done hlock hrun hchanged hsave (.inr ⟨e, hfinish, rfl⟩)
          | none => exact .saved v _ done hlock hrun hchanged hsave (.inl rfl)
      · rw [if_neg hchanged]
        exact .unchanged v done hlock hrun (Bool.eq_false_of_not_eq_true hchanged)

/-! ### The history principal -/

def historyId (realm : Str) : Str :=
  lookupPrincipalId kadminHistory realm

/-- `d'` is `d`, or `d` with a history principal made because there was no history key. -/
def HistoryMade (d d' : PrincipalStore) : Prop :=
  d' = d ∨ d.historyKey = none ∧ ∃ q, Puts (historyId d.realm) (some q) d d'
    ∧ q.id = historyId d.realm ∧ q.aliasTarget = none ∧ Lockout.of q = {}
    ∧ q.attributes = 0

theorem makeHistory_ok {env : AdminEnv} {actor : Str} {s s' : PrincipalStore} {key : ProtocolKey}
    (h : s.makeHistory env actor = .ok (s', key)) :
    ∃ q, Puts (historyId s.realm) (some q) s s' ∧ q.id = historyId s.realm
      ∧ q.aliasTarget = none ∧ Lockout.of q = {} ∧ q.attributes = 0
      ∧ ∃ k, q.keys = [k] ∧ k.kvno = initialHistKvno := by
  obtain ⟨first, -, h⟩ := bind_ok h
  obtain ⟨s₁, hput₁, h⟩ := bind_ok h
  obtain ⟨rid₁, hput₁⟩ := putPrincipal_ok hput₁
  obtain ⟨key', -, h⟩ := bind_ok h
  rw [hput₁.get_self] at h
  obtain ⟨s₂, hput₂, h⟩ := bind_ok h
  obtain ⟨rid₂, hput₂⟩ := putPrincipal_ok hput₂
  cases h
  refine ⟨_, hput₁.trans hput₂, rfl, ?_, rfl, rfl, _, rfl, rfl⟩
  -- None of the data that are put is an alias target.
  have hdb : tlAliasTarget ∉ [tlDbArgs] := by decide
  refine (aliasTarget_congr (findTl_dropTypes hdb _)).trans ?_
  refine (stampAdminTl_alias ..).trans ?_
  refine (aliasTarget_congr (findTl_dropTypes hdb _)).trans ?_
  refine (stampAdminTl_alias ..).trans ?_
  exact (same_refreshKadmTl _).aliasOf

theorem HistoryMade.trans {d'' : PrincipalStore} (h : HistoryMade d d')
    (h' : HistoryMade d' d'') : HistoryMade d d'' := by
  rcases h with rfl | ⟨hnone, q, hput, hq⟩
  · exact h'
  · rcases h' with rfl | ⟨-, q', hput', hq'⟩
    · exact .inr ⟨hnone, q, hput, hq⟩
    · rw [hput.realm] at hput' hq'
      exact .inr ⟨hnone, q', hput.trans hput', hq'⟩

/-- How far a change has come before it edits: its store is the database, which at most got a history
principal, and the lockout records are as they were. -/
structure Begun (b db : Database) : Prop where
  fresh : db.store = db.disk
  made : HistoryMade b.disk db.disk
  lockouts : db.lockouts = b.lockouts

/-- What a step that failed leaves. -/
structure Ended (b db : Database) : Prop where
  made : HistoryMade b.disk db.disk
  lockouts : db.lockouts = b.lockouts

theorem Begun.ended {b db : Database} (h : Begun b db) : Ended b db :=
  ⟨h.made, h.lockouts⟩

section History

variable {env : AdminEnv} {actor : Str} {b db db' : Database}

/-- There is a history key, or the history principal is made and written at once. -/
theorem ensureHistoryPrincipal_leads {Q : UInt32 × ProtocolKey → Database → Prop}
    {E : Database → Prop} (hE : E db) (hkey : ∀ h, db.store.historyKey = some h → Q h db)
    (hmade : ∀ s key, db.store.historyKey = none → db.store.makeHistory env actor = .ok (s, key) →
      E { db with store := s, wroteThrough := true } ∧
        ∀ h, Q h { db with store := s, disk := s, wroteThrough := true }) :
    Leads (ensureHistoryPrincipal env actor) db Q E := by
  refine Leads.bind (Q := fun d e => db = d ∧ db = e) ⟨rfl, rfl⟩ ?_
  rintro _ _ - ⟨rfl, rfl⟩
  cases hnone : db.store.historyKey with
  | some h => exact hkey h hnone
  | none =>
    refine .read hE fun ⟨s, key⟩ hmake => .edit hE fun _ hs => ?_
    cases hs
    obtain ⟨hfailed, hsaved⟩ := hmade s key hnone hmake
    refine Leads.bind (Q := fun _ db' => ∀ h, Q h db') ?_ fun _ _ _ h => h _
    rw [Leads, saveThrough]
    cases env.answers.through with
    | none => exact hsaved
    | some e => exact hfailed

theorem begun_history (hb : Begun b db) :
    Leads (ensureHistoryPrincipal env actor) db (fun _ => Begun b) (Ended b) := by
  refine ensureHistoryPrincipal_leads hb.ended (fun _ _ => hb) fun s key hnone hmake => ?_
  refine ⟨⟨hb.made, hb.lockouts⟩, fun _ => ⟨rfl, hb.made.trans (.inr ?_), hb.lockouts⟩⟩
  rw [hb.fresh] at hnone hmake
  obtain ⟨q, hput, hid, halias, hlockout, hattributes, -⟩ := makeHistory_ok hmake
  exact ⟨hnone, q, hput, hid, halias, hlockout, hattributes⟩

def needHistory (env : AdminEnv) (actor : Str) (needed : Bool) : Change Unit := do
  if needed then
    let _ ← ensureHistoryPrincipal env actor

theorem begun_needHistory {needed : Bool} (hb : Begun b db) :
    Leads (needHistory env actor needed) db (fun _ => Begun b) (Ended b) := by
  cases needed with
  | false => exact hb
  | true => exact (begun_history hb).bind fun _ _ _ h => h

theorem setPassword_eq (env : AdminEnv) (name : PrincipalName) (realm password : Str)
    (keepold : UInt32) (actor : Str) (etypes : List KeySalt) :
    setPasswordEtypesKeepoldNIn env name realm password keepold actor etypes = (do
      let inputs ← Change.read fun s => chpassInputs env s name realm etypes
      needHistory env actor inputs.policy.isSome
      let prepared ← Change.read fun s => do
        (← chpassPlan env s inputs (cPassword password)).derive env.toKeyLibs
      commitPassword env prepared keepold actor) := by
  unfold setPasswordEtypesKeepoldNIn
  congr 1
  funext inputs
  cases h : inputs.policy.isSome with
  | false => rfl
  | true => simp only [needHistory, if_true, bind_assoc, pure_bind]

end History

/-! ### Forgetting failures -/

/-- The record with the failures forgotten. -/
def Lockout.cleared (l : Lockout) : Lockout :=
  { l with failAuthCount := 0 }

def recordView (p : Principal) : Str × Lockout :=
  (p.id, Lockout.of p)

/-- A change that is done with the failures of an entry forgotten: in the entry, and in its lockout
record. -/
structure Zeroes (id : Str) (b done : Database) : Prop where
  made : HistoryMade b.disk done.disk
  changed : done.changed = true
  entry : ∃ p p', done.disk.map.get id = some p ∧ done.store.map.get id = some p' ∧ p'.id = p.id
    ∧ Lockout.of p' = (Lockout.of p).cleared
    ∧ done.lockouts = b.lockouts.insert p.id (b.lockoutOf p).cleared
  others : ∀ k, k ≠ id →
    (done.store.map.get k).map recordView = (done.disk.map.get k).map recordView

/-- The last two steps of every operation that forgets failures. -/
theorem zeroes_of_entry {b db : Database} {now : UInt32} {p p' : Principal} (hb : Begun b db)
    (hp : db.disk.map.get id = some p) (hp' : s.map.get id = some p') (hid : p'.id = p.id)
    (hof : Lockout.of p' = (Lockout.of p).cleared)
    (hothers : ∀ k, k ≠ id → (s.map.get k).map recordView = (db.disk.map.get k).map recordView) :
    Leads (do zeroFailCount now id; save) { db with store := s }
      (fun _ => Zeroes id b) (Ended b) := by
  rw [Leads, finish_run]
  rw [hp']
  refine ⟨hb.made, rfl, ⟨p, p', hp, hp', hid, hof, ?_⟩, hothers⟩
  -- The count of the base record does not matter: it is set to zero.
  have hbase : ∀ l : Option Lockout, ({ zeroFailCount := true } : LockoutUpdate).apply
      (l.getD (Lockout.of p')) now = (l.getD (Lockout.of p)).cleared := by
    intro l
    cases l with
    | some l => rfl
    | none =>
      rw [Option.getD_none, Option.getD_none, hof]
      rfl
  show db.lockouts.insert p'.id (LockoutUpdate.apply _ ((db.lockouts.lookup p'.id).getD _) now) = _
  rw [hbase, hid, hb.lockouts, lockoutOf]

section Forget

variable {env : AdminEnv} {actor : Str} {b db done : Database}

/-- What `commit_password` does once it has the history key. -/
def writeSteps (env : AdminEnv) (actor : Str) (prepared : PreparedPassword) (keepold : UInt32)
    (history : Option (UInt32 × UInt32 × ProtocolKey)) : Change Unit := do
  Change.edit (writePassword env prepared history keepold actor)
  zeroFailCount env.now prepared.plan.inputs.id
  save

theorem commitPassword_eq (env : AdminEnv) (actor : Str) (prepared : PreparedPassword)
    (keepold : UInt32) : commitPassword env prepared keepold actor
      = match prepared.plan.inputs.policy with
        | some pol => do
          let h ← ensureHistoryPrincipal env actor
          writeSteps env actor prepared keepold (some (pol.history, h))
        | none => writeSteps env actor prepared keepold none := by
  unfold commitPassword
  cases prepared.plan.inputs.policy <;> rfl

theorem writeSteps_zeroes {history : Option (UInt32 × UInt32 × ProtocolKey)} (hb : Begun b db) :
    Leads (writeSteps env actor prepared keepold history) db
      (fun _ => Zeroes prepared.plan.inputs.id b) (Ended b) := by
  refine .edit hb.ended fun s' hwrite => ?_
  obtain ⟨p, p₁, s₁, hp, hrekeyed, hput, id₂, q, q', -, hq, ⟨pwExpire, rfl⟩, hput₂⟩ :=
    writePassword_ok hwrite
  have hpq : ∃ p', s'.map.get prepared.plan.inputs.id = some p' ∧ p'.id = p.id
      ∧ Lockout.of p' = (Lockout.of p).cleared := by
    rw [hput₂.get]
    split
    · rename_i hid₂
      rw [← hid₂, hput.get_self] at hq
      cases hq
      exact ⟨_, rfl, hrekeyed.id, hrekeyed.lockout⟩
    · exact ⟨p₁, hput.get_self, hrekeyed.id, hrekeyed.lockout⟩
  obtain ⟨p', hp', hid, hof⟩ := hpq
  refine zeroes_of_entry hb (hb.fresh ▸ hp) hp' hid hof fun k hk => ?_
  rw [hput₂.get]
  split
  · rename_i hid₂
    rw [← hid₂, hput.get_ne hk] at hq
    rw [← hb.fresh, hq]
    rfl
  · rw [hput.get_ne hk, hb.fresh]

theorem commitPassword_zeroes (hb : Begun b db) :
    Leads (commitPassword env prepared keepold actor) db
      (fun _ => Zeroes prepared.plan.inputs.id b) (Ended b) := by
  rw [commitPassword_eq]
  cases prepared.plan.inputs.policy with
  | some pol => exact (begun_history hb).bind fun _ _ _ hmid => writeSteps_zeroes hmid
  | none => exact writeSteps_zeroes hb

theorem setPassword_zeroes (hb : Begun b b) :
    Leads (setPasswordEtypesKeepoldNIn env name realm password keepold actor etypes) b
      (fun _ done => ∃ id, b.disk.resolveId (lookupPrincipalId name realm) = some id
        ∧ Zeroes id b done) (Ended b) := by
  rw [setPassword_eq]
  refine .read hb.ended fun inputs hinputs => (begun_needHistory hb).bind fun _ mid _ hmid =>
    .read hmid.ended fun prepared hplanned => ?_
  obtain ⟨-, -, hid, -⟩ := chpassInputs_ok hinputs
  rw [hb.fresh] at hid
  obtain ⟨plan, hplan, hderive⟩ := bind_ok hplanned
  refine (commitPassword_zeroes hmid).imp fun _ _ hzero => ⟨inputs.id, hid, ?_⟩
  rw [(derive_ok hderive).1, (chpassPlan_ok hplan).1] at hzero
  exact hzero

theorem forgetFailures_zeroes {f : Principal → Principal}
    (hf : ∀ p, (f p).id = p.id ∧ Lockout.of (f p) = (Lockout.of p).cleared) (hb : Begun b b) :
    Leads (forgetFailures env name realm f) b
      (fun _ done => ∃ id, b.disk.resolveId (lookupPrincipalId name realm) = some id
        ∧ Zeroes id b done) (Ended b) := by
  refine .read hb.ended fun id hid => .edit hb.ended fun s' hedit => ?_
  obtain ⟨id', p, _, hid', hp, rfl, hput⟩ := editEntryIn_ok hedit
  obtain rfl : id' = id := Option.some.inj (hid'.symm.trans (canonicalId_ok.mp hid))
  refine (zeroes_of_entry hb (hb.fresh ▸ hp) hput.get_self (hf p).1 (hf p).2 fun k hk => ?_).imp
    fun _ _ h => ⟨id', hb.fresh ▸ hid', h⟩
  rw [hput.get_ne hk, hb.fresh]

end Forget

/-! ### What is read of the records -/

def readIn (lockouts : HashMap Str Lockout) (d : PrincipalStore) (id : Str) : Option Lockout :=
  (d.map.get id).map fun p => (lockouts.lookup p.id).getD (Lockout.of p)

/-- What every process reads for the entry under an id, once it is up to date. -/
def Database.reads (db : Database) (id : Str) : Option Lockout :=
  readIn db.lockouts db.disk id

def KeepsReads (db db' : Database) : Prop :=
  ∀ id l, db.reads id = some l → db'.reads id = some l

/-- A history principal that would be made has no record to lose: there is a history key, or what is read
of the entry is what is read of a new one. -/
def HistoryBlank (db : Database) : Prop :=
  db.disk.historyKey.isSome
    ∨ ∀ p, db.disk.map.get (historyId db.disk.realm) = some p → db.lockoutOf p = {}

theorem readIn_of_entry (h : d.map.get id = some p) :
    readIn L d id = some ((L.lookup p.id).getD (Lockout.of p)) := by
  rw [readIn, h, Option.map_some]

theorem HistoryMade.keyed (h : HistoryMade d d') (hd : d.Keyed) : d'.Keyed := by
  rcases h with rfl | ⟨-, q, hput, hid, -⟩
  · exact hd
  · exact hput.keyed hd fun p hp => Option.some.inj hp ▸ hid

theorem HistoryMade.readIn {db : Database} (h : HistoryMade db.disk d') (hkeyed : db.disk.Keyed)
    (hblank : HistoryBlank db) (hl : db.reads id = some l) : readIn db.lockouts d' id = some l := by
  rcases h with rfl | ⟨hnone, q, hput, hqid, -, hof, -⟩
  · exact hl
  by_cases hid : id = historyId db.disk.realm
  · subst hid
    obtain ⟨p, hp, rfl⟩ := Option.map_eq_some_iff.mp hl
    have hp0 : (db.lockouts.lookup p.id).getD (Lockout.of p) = {} := by
      rcases hblank with hkey | hblank
      · rw [hnone] at hkey
        cases hkey
      · exact hblank p hp
    rw [readIn_of_entry hput.get_self, hqid, hof, hp0]
    rw [hkeyed _ p hp] at hp0
    cases hlook : db.lockouts.lookup (historyId db.disk.realm) with
    | none => rfl
    | some l =>
      rw [hlook] at hp0
      exact congrArg some hp0
  · rw [Kerber.readIn, hput.get_ne hid]
    exact hl

theorem readIn_insert (hd : d.Keyed) {k : Str} (l : Lockout) (hk : k ≠ id) :
    readIn (L.insert id l) d k = readIn L d k := by
  rw [readIn, readIn]
  cases hp : d.map.get k with
  | none => rfl
  | some p => rw [Option.map_some, Option.map_some, hd k p hp, AList.lookup_insert_ne hk]

theorem readIn_insert_self (hd : d.Keyed) (l : Lockout) (hp : d.map.get id = some p) :
    readIn (L.insert id l) d id = some l := by
  rw [readIn_of_entry hp, hd id p hp, AList.lookup_insert, Option.getD_some]

theorem Lockout.cleared_eq : l.cleared = l ↔ l.failAuthCount = 0 := by
  constructor
  · intro h
    rw [← h]
    rfl
  · intro h
    obtain ⟨ls, lf, count⟩ := l
    cases h
    rfl

/-- **Failures forgotten by a change that then failed**: the records read as before exactly when there
was no failure to forget. -/
theorem Zeroes.keepsReads {b done db' : Database} (h : Zeroes id b done)
    (hkeyed : b.disk.Keyed) (hblank : HistoryBlank b) {p₀ : Principal}
    (hp₀ : b.disk.map.get id = some p₀) (hlockouts : db'.lockouts = done.lockouts)
    (hdisk : db'.disk = done.disk ∨ db'.disk = done.store) :
    KeepsReads b db' ↔ (b.lockoutOf p₀).failAuthCount = 0 := by
  obtain ⟨p, p', hp, hp', hid', -, hdone⟩ := h.entry
  have hdkeyed := h.made.keyed hkeyed
  have hpid : p.id = id := hdkeyed id p hp
  rw [hpid] at hdone
  -- The database the change left reads the same whether or not it was written.
  have hreads : ∀ k, db'.reads k = readIn done.lockouts done.disk k := by
    intro k
    rw [reads, hlockouts]
    rcases hdisk with hdisk | hdisk
    · rw [hdisk]
    rw [hdisk]
    by_cases hk : k = id
    · subst hk
      rw [readIn_of_entry hp', readIn_of_entry hp, hid', hpid, hdone, AList.lookup_insert,
        Option.getD_some, Option.getD_some]
    · have hview := h.others k hk
      have hof : ∀ x : Option Principal,
          (x.map fun p => (done.lockouts.lookup p.id).getD (Lockout.of p))
            = (x.map recordView).map fun v => (done.lockouts.lookup v.1).getD v.2 := by
        intro x
        cases x <;> rfl
      rw [readIn, readIn, hof, hof, hview]
  -- What is read for the entry before the row is put is what was read in the beginning.
  have hbefore : b.reads id = some (b.lockoutOf p₀) := readIn_of_entry hp₀
  have hsame : b.lockoutOf p = b.lockoutOf p₀ := by
    have hmade := h.made.readIn hkeyed hblank hbefore
    rw [readIn_of_entry hp] at hmade
    exact Option.some.inj hmade
  have hself : db'.reads id = some (b.lockoutOf p₀).cleared := by
    rw [hreads, hdone, readIn_insert_self hdkeyed _ hp, hsame]
  constructor
  · intro hkeeps
    have := hkeeps id _ hbefore
    rw [hself] at this
    exact Lockout.cleared_eq.mp (Option.some.inj this)
  · intro hzero k l hl
    by_cases hk : k = id
    · subst hk
      rw [hself, Lockout.cleared_eq.mpr hzero]
      exact hbefore.symm.trans hl
    · rw [hreads, hdone, readIn_insert hdkeyed _ hk]
      exact h.made.readIn hkeyed hblank hl

/-! ### The operations -/

/-- The changes that touch lockout records. -/
inductive RecordChange
  | rename (old : PrincipalName) (oldRealm : Str) (new : PrincipalName) (newRealm : Str)
  | unlock (name : PrincipalName) (realm : Str)
  | clear (name : PrincipalName) (realm : Str)
  | password (name : PrincipalName) (realm password : Str) (keepold : UInt32)
      (etypes : List KeySalt)
  | staged (prepared : PreparedPassword) (keepold : UInt32)

namespace RecordChange

/-- The operation, as it is given to `change`. -/
def run (env : AdminEnv) (actor : Str) : RecordChange → Change Unit
  | .rename old oldRealm new newRealm => renameUnchecked env old oldRealm new newRealm actor
  | .unlock name realm => adminUnlockIn env name realm actor
  | .clear name realm => clearFailAuthCountIn env name realm actor
  | .password name realm word keepold etypes =>
    setPasswordEtypesKeepoldNIn env name realm word keepold actor etypes
  | .staged prepared keepold => do
    let _ ← applyPassword env prepared keepold actor

end RecordChange

/-- The operation refuses on its own: the name, a policy, a hook or a library. -/
def RecordChange.Refused (env : AdminEnv) (actor : Str) (c : RecordChange) (db : Database) : Prop :=
  ∃ e done, c.run env actor db.begun = .error e done

/-- Writing the record makes no difference: there is no failure to forget, or the row that is moved
says what the entries say, and the rename was not written. -/
def RecordChange.Quiet (a : Answers) (db : Database) : RecordChange → Prop
  | .rename old oldRealm new newRealm =>
    a.save.isSome ∧ ∀ l, db.lockouts.lookup (lookupPrincipalId old oldRealm) = some l →
      (∀ p, db.disk.map.get (lookupPrincipalId old oldRealm) = some p → Lockout.of p = l)
        ∧ ∀ q, db.disk.map.get (lookupPrincipalId new newRealm) = some q → db.lockoutOf q = l
  | .unlock name realm =>
    ∀ p, db.disk.getInRealm name realm = some p → (db.lockoutOf p).failAuthCount = 0
  | .clear name realm =>
    ∀ p, db.disk.getInRealm name realm = some p → (db.lockoutOf p).failAuthCount = 0
  | .password name realm _ _ _ =>
    ∀ p, db.disk.getInRealm name realm = some p → (db.lockoutOf p).failAuthCount = 0
  | .staged prepared _ =>
    ∀ p, db.disk.map.get prepared.plan.inputs.id = some p → (db.lockoutOf p).failAuthCount = 0

section Runs

variable {env : AdminEnv} {actor : Str} {b done : Database}

theorem adminUnlock_cleared (now : UInt32) (p : Principal) :
    (adminUnlock now (canonicalModActor actor p.realm) p).id = p.id
      ∧ Lockout.of (adminUnlock now (canonicalModActor actor p.realm) p)
        = (Lockout.of p).cleared :=
  ⟨rfl, rfl⟩

theorem clearFailAuthCount_cleared (now : UInt32) (p : Principal) :
    (stamp now actor false { p with failAuthCount := 0 }).id = p.id
      ∧ Lockout.of (stamp now actor false { p with failAuthCount := 0 }) = (Lockout.of p).cleared :=
  ⟨rfl, rfl⟩

theorem stands_get {plan : PasswordPlan} (h : plan.stands s = true) :
    ∃ p, s.map.get plan.inputs.id = some p := by
  rw [PasswordPlan.stands, Bool.and_eq_true, Bool.and_eq_true, Bool.and_eq_true] at h
  cases hp : s.map.get plan.inputs.id with
  | none =>
    rw [hp] at h
    cases h.1.1.2
  | some p => exact ⟨p, rfl⟩

theorem applyPassword_zeroes (hb : Begun b b) :
    Leads ((RecordChange.staged prepared keepold).run env actor) b
      (fun _ done => done = b ∨ (∃ p, b.disk.map.get prepared.plan.inputs.id = some p)
        ∧ Zeroes prepared.plan.inputs.id b done) (Ended b) := by
  refine Leads.bind ?_ fun _ _ _ h => h
  show Leads (if prepared.plan.stands b.store then _ else _) b _ _
  split
  · rename_i hstands
    exact (commitPassword_zeroes hb).bind fun _ _ _ h =>
      .inr ⟨hb.fresh ▸ stands_get hstands, h⟩
  · exact .inl rfl

theorem renameUnchecked_leads :
    Leads (renameUnchecked env old oldRealm new newRealm actor) b
      (fun _ done => ∃ s, renameEntry env old oldRealm new newRealm actor b.store = .ok s
        ∧ done = { ({ b with store := s } : Database).renameRow (lookupPrincipalId old oldRealm)
            (lookupPrincipalId new newRealm) with changed := true }) (· = b) :=
  .edit rfl fun s hs => ⟨s, hs, rfl⟩

/-- An operation that refuses leaves the records, and the database but for a history principal. -/
theorem RecordChange.run_error {c : RecordChange} (hb : Begun b b)
    (hrun : c.run env actor b = .error e done) : Ended b done := by
  cases c with
  | rename old oldRealm new newRealm =>
    rw [renameUnchecked_leads.error hrun]
    exact hb.ended
  | unlock name realm => exact (forgetFailures_zeroes (adminUnlock_cleared _) hb).error hrun
  | clear name realm => exact (forgetFailures_zeroes (clearFailAuthCount_cleared _) hb).error hrun
  | password name realm word keepold etypes => exact (setPassword_zeroes hb).error hrun
  | staged prepared keepold => exact (applyPassword_zeroes hb).error hrun

end Runs

/-! ### Renaming -/

section Rename

variable {env : AdminEnv} {actor : Str}
  {s s' : PrincipalStore}

theorem renameEntry_ne (h : renameEntry env old oldRealm new newRealm actor s = .ok s') :
    lookupPrincipalId old oldRealm ≠ lookupPrincipalId new newRealm := by
  obtain ⟨p, _, _, hnew, hold, halias, -⟩ := renameEntry_ok h
  intro heq
  rw [← heq, PrincipalStore.get, PrincipalStore.resolveId, maxAliasDepth, followAlias_succ, hold]
    at hnew
  simp [halias, hold] at hnew

theorem renameEntry_old (h : renameEntry env old oldRealm new newRealm actor s = .ok s') :
    s'.map.get (lookupPrincipalId old oldRealm) = none := by
  have hne := renameEntry_ne h
  obtain ⟨_, _, _, -, -, -, -, -, -, -, -, -, hremove, hput⟩ := renameEntry_ok h
  rw [hput.get_ne hne, hremove.get_self]

end Rename

theorem keepsReads_renameRow {b : Database} {o n : Str} (hkeyed : b.disk.Keyed) (hne : o ≠ n) :
    KeepsReads b (b.renameRow o n) ↔ ∀ l, b.lockouts.lookup o = some l →
      (∀ p, b.disk.map.get o = some p → Lockout.of p = l)
        ∧ ∀ q, b.disk.map.get n = some q → b.lockoutOf q = l := by
  rw [renameRow]
  cases hrow : b.lockouts.lookup o with
  | none => exact ⟨nofun, fun _ _ _ hl => hl⟩
  | some l =>
    have hold : ∀ k q, b.disk.map.get k = some q → b.reads k = some (b.lockoutOf q) :=
      fun k q hq => readIn_of_entry hq
    constructor
    · rintro hkeeps _ ⟨⟩
      constructor
      · intro p' hp'
        have hreads := hkeeps o _ (hold o p' hp')
        rw [reads, readIn_of_entry hp', hkeyed o p' hp', AList.lookup_erase,
          Option.getD_none, lockoutOf, hkeyed o p' hp', hrow] at hreads
        exact Option.some.inj hreads
      · intro q hq
        have hreads := hkeeps n _ (hold n q hq)
        rw [reads, readIn_of_entry hq, hkeyed n q hq, AList.lookup_erase_ne hne.symm,
          AList.lookup_insert, Option.getD_some] at hreads
        exact (Option.some.inj hreads).symm
    · intro hquiet k l' hl'
      obtain ⟨holdq, hnewq⟩ := hquiet l rfl
      obtain ⟨q, hq, rfl⟩ := Option.map_eq_some_iff.mp hl'
      rw [reads, readIn_of_entry hq, hkeyed k q hq]
      by_cases hko : k = o
      · subst hko
        rw [AList.lookup_erase, hrow, Option.getD_none, Option.getD_some, holdq q hq]
      · rw [AList.lookup_erase_ne hko]
        by_cases hkn : k = n
        · subst hkn
          rw [AList.lookup_insert, Option.getD_some]
          have := hnewq q hq
          rw [lockoutOf, hkeyed k q hq] at this
          rw [this]
        · rw [AList.lookup_insert_ne hkn]

/-! ### Changes that fail -/

section Failed

variable {env : AdminEnv} {actor : Str} {db done db' : Database}

theorem Database.begun_self (db : Database) : Begun db.begun db.begun :=
  ⟨rfl, .inl rfl, rfl⟩

theorem keepsReads_named (hkeyed : db.disk.Keyed) (hblank : HistoryBlank db)
    (hrun : ∃ id, db.begun.disk.resolveId (lookupPrincipalId name realm) = some id
      ∧ Zeroes id db.begun done) (hlockouts : db'.lockouts = done.lockouts)
    (hdisk : db'.disk = done.disk ∨ db'.disk = done.store) :
    KeepsReads db db' ↔ ∀ p, db.disk.getInRealm name realm = some p →
      (db.lockoutOf p).failAuthCount = 0 := by
  obtain ⟨id, hid, hzero⟩ := hrun
  obtain ⟨p₀, hp₀, -⟩ := resolveId_spec hid
  refine (hzero.keepsReads hkeyed hblank hp₀ hlockouts hdisk).trans ⟨fun h p hp => ?_, fun h => ?_⟩
  · obtain ⟨id', hid', hp'⟩ := getInRealm_some.mp hp
    obtain rfl : id' = id := Option.some.inj (hid'.symm.trans hid)
    obtain rfl : p = p₀ := Option.some.inj (hp'.symm.trans hp₀)
    exact h
  · exact h p₀ (getInRealm_some.mpr ⟨id, hid, hp₀⟩)

/-- **A change whose operation was done, but that was not saved**: what is on disk is what was there, or,
where only the last step of the saving failed, what was to be saved. -/
theorem RecordChange.keepsReads {c : RecordChange} (a : Answers)
    (hkeyed : db.disk.Keyed) (hblank : HistoryBlank db)
    (hrun : c.run env actor db.begun = .ok u done) (hchanged : done.changed = true)
    (hlockouts : db'.lockouts = done.lockouts)
    (hdisk : db'.disk = if a.save.isSome then done.disk else done.store) :
    KeepsReads db db' ↔ c.Quiet a db := by
  have hdisks : db'.disk = done.disk ∨ db'.disk = done.store := by
    rw [hdisk]
    exact ite_eq_or_eq ..
  cases c with
  | rename old oldRealm new newRealm =>
    obtain ⟨s, hs, rfl⟩ := renameUnchecked_leads.ok hrun
    have hne := renameEntry_ne hs
    by_cases hsave : a.save.isSome
    · rw [if_pos hsave] at hdisk
      have hsame : ∀ id, db'.reads id
          = (db.begun.renameRow (lookupPrincipalId old oldRealm)
            (lookupPrincipalId new newRealm)).reads id := by
        intro id
        rw [reads, reads, hlockouts, hdisk, renameRow,
          renameRow]
        cases hrow : db.begun.lockouts.lookup (lookupPrincipalId old oldRealm) <;> rfl
      have hkeeps : KeepsReads db db' ↔ KeepsReads db.begun (db.begun.renameRow
          (lookupPrincipalId old oldRealm) (lookupPrincipalId new newRealm)) := by
        simp only [KeepsReads, hsame]
        rfl
      refine (hkeeps.trans (keepsReads_renameRow hkeyed hne)).trans ?_
      exact ⟨fun h => ⟨hsave, h⟩, fun h => h.2⟩
    · rw [if_neg hsave] at hdisk
      -- The rename was written: nothing is read under the old name any more.
      refine ⟨fun hkeeps => ?_, fun h => absurd h.1 hsave⟩
      obtain ⟨p, -, -, -, hp, -⟩ := renameEntry_ok hs
      have hold := hkeeps _ _ (readIn_of_entry hp)
      have hstore : db'.disk = s := by
        rw [hdisk, renameRow]
        cases db.begun.lockouts.lookup (lookupPrincipalId old oldRealm) <;> rfl
      rw [reads, readIn, hstore, renameEntry_old hs] at hold
      cases hold
  | unlock name realm =>
    exact keepsReads_named hkeyed hblank
      ((forgetFailures_zeroes (adminUnlock_cleared _) db.begun_self).ok hrun) hlockouts hdisks
  | clear name realm =>
    exact keepsReads_named hkeyed hblank
      ((forgetFailures_zeroes (clearFailAuthCount_cleared _) db.begun_self).ok hrun) hlockouts
      hdisks
  | password name realm word keepold etypes =>
    exact keepsReads_named hkeyed hblank ((setPassword_zeroes db.begun_self).ok hrun) hlockouts hdisks
  | staged prepared keepold =>
    rcases (applyPassword_zeroes db.begun_self).ok hrun with rfl | ⟨⟨p₀, hp₀⟩, hzero⟩
    · cases hchanged
    · refine (hzero.keepsReads hkeyed hblank hp₀ hlockouts hdisks).trans
        ⟨fun h p hp => ?_, fun h => h p₀ hp₀⟩
      obtain rfl : p = p₀ := Option.some.inj (hp.symm.trans hp₀)
      exact h

theorem Ended.keepsReads (h : Ended db.begun done) (hkeyed : db.disk.Keyed)
    (hblank : HistoryBlank db) (hlockouts : db'.lockouts = done.lockouts)
    (hdisk : db'.disk = done.disk) : KeepsReads db db' := by
  intro id l hl
  rw [reads, hlockouts, hdisk, h.lockouts]
  exact h.made.readIn hkeyed hblank hl

theorem refused_or_quiet {c : RecordChange} {v : Unit} (hlock : env.answers.lock = none)
    (hrun : c.run env actor db.begun = .ok v done) :
    (env.answers.lock.isSome ∨ c.Refused env actor db ∨ c.Quiet env.answers db)
      ↔ c.Quiet env.answers db := by
  constructor
  · rintro (h | ⟨e, done', h⟩ | h)
    · rw [hlock] at h
      cases h
    · rw [hrun] at h
      cases h
    · exact h
  · exact fun h => .inr (.inr h)

/-- **The lockout records after a change that failed** read as before exactly when the database could not
be locked, the operation refused on its own, or the records it wrote said nothing new.  A save or an
update log that fails comes after the records were written, and they are not put back. -/
theorem lockouts_kept_iff (env : AdminEnv) (actor : Str) (c : RecordChange) (db : Database)
    (hkeyed : db.disk.Keyed) (hblank : HistoryBlank db)
    (hfailed : ∀ v, (change env.answers (c.run env actor) db).1 ≠ .ok (.ok v)) :
    KeepsReads db (change env.answers (c.run env actor) db).2
      ↔ env.answers.lock.isSome ∨ c.Refused env actor db ∨ c.Quiet env.answers db := by
  have hends := change_ends env.answers (c.run env actor) db
  generalize change env.answers (c.run env actor) db = r at hends hfailed ⊢
  obtain ⟨answer, db'⟩ := r
  cases hends with
  | unlocked e hlock =>
    rw [hlock]
    exact ⟨fun _ => .inl rfl, fun _ _ _ h => h⟩
  | refused e done _ hlock hrun hdisk hlockouts =>
    have hended := RecordChange.run_error db.begun_self hrun
    exact ⟨fun _ => .inr (.inl ⟨e, done, hrun⟩),
      fun _ => hended.keepsReads hkeyed hblank hlockouts hdisk⟩
  | unchanged v done hlock hrun hchanged => exact absurd rfl (hfailed v)
  | unsaved v e done _ hlock hrun hchanged hsave hdisk hlockouts =>
    rw [refused_or_quiet hlock hrun]
    refine RecordChange.keepsReads env.answers hkeyed hblank hrun hchanged hlockouts ?_
    rw [hsave]
    exact hdisk
  | saved v answer done hlock hrun hchanged hsave hr =>
    rw [refused_or_quiet hlock hrun]
    refine RecordChange.keepsReads env.answers hkeyed hblank hrun hchanged rfl ?_
    rw [hsave]
    rfl

end Failed

/-! ### An unlock that was not saved -/

/-- Surroundings in which every library answers, and the database as given. -/
def plainAdminEnv (answers : Answers) : AdminEnv where
  stringToKey etype password salt := .ok ⟨etype, password ++ salt⟩
  randomKey draw etype := .ok ⟨etype, render 10 draw⟩
  randomSalt draw := .ok (render 10 draw)
  parseKeysalts _ := []
  crypto := ⟨fun _ _ raw => .ok raw, fun _ raw => .ok raw⟩
  policy := ⟨false, 86400, 604800, none, 0, []⟩
  now := 100
  hook _ := .ok ()
  pwqual _ _ _ _ := .ok ()
  answers := answers

def aliceFailing : Principal :=
  { name := ⟨1, [str "alice"]⟩, realm := str "R", keys := [], failAuthCount := 3, rid := 1000 }

/-- A database with that principal alone. -/
def aliceDatabase : Database where
  store := aliceStore
  disk := aliceStore
  lockouts := ∅
where
  aliceStore : PrincipalStore :=
    { realm := str "R"
      map := ({} : PrincipalMap).insert (str "alice@R") aliceFailing
      domainSid := .ntDomain 1 2 3
      nextRid := 1001 }

theorem aliceDatabase_keyed : aliceDatabase.disk.Keyed := by
  intro id p hp
  by_cases hid : id = str "alice@R"
  · subst hid
    have : p = aliceFailing := by
      refine Option.some.inj (hp.symm.trans ?_)
      decide +kernel
    rw [this]
    decide +kernel
  · have hget : aliceDatabase.disk.map.get id = none := by
      refine (PrincipalMap.get_insert ..).trans ?_
      rw [if_neg hid]
      rfl
    rw [hget] at hp
    cases hp

theorem aliceDatabase_blank : HistoryBlank aliceDatabase := by
  right
  intro p hp
  have hget : aliceDatabase.disk.map.get (historyId aliceDatabase.disk.realm) = none := by
    decide +kernel
  rw [hget] at hp
  cases hp

def diskFull : Answers := { save := some (.db (str "No space left on device")) }

def unlockAlice : RecordChange := .unlock ⟨1, [str "alice"]⟩ (str "R")

theorem unlockAlice_fails :
    (change diskFull (unlockAlice.run (plainAdminEnv diskFull) (str "admin")) aliceDatabase).1
      = .error (.db (str "No space left on device")) := by
  decide +kernel

/-- The unlock returns the disk's error, and the three failures are gone. -/
theorem failed_unlock_clears :
    (change diskFull (unlockAlice.run (plainAdminEnv diskFull) (str "admin")) aliceDatabase).1
        = .error (.db (str "No space left on device"))
      ∧ aliceDatabase.reads (str "alice@R") = some ⟨0, 0, 3⟩
      ∧ (change diskFull (unlockAlice.run (plainAdminEnv diskFull) (str "admin"))
          aliceDatabase).2.reads (str "alice@R") = some ⟨0, 0, 0⟩ :=
  ⟨unlockAlice_fails, by decide +kernel, by decide +kernel⟩

theorem lockouts_kept_unlock_iff :
    KeepsReads aliceDatabase
        (change diskFull (unlockAlice.run (plainAdminEnv diskFull) (str "admin")) aliceDatabase).2
      ↔ diskFull.lock.isSome ∨ unlockAlice.Refused (plainAdminEnv diskFull) (str "admin") aliceDatabase
        ∨ unlockAlice.Quiet diskFull aliceDatabase :=
  lockouts_kept_iff (plainAdminEnv diskFull) (str "admin") unlockAlice aliceDatabase
    aliceDatabase_keyed aliceDatabase_blank fun v => by
      rw [show (plainAdminEnv diskFull).answers = diskFull from rfl, unlockAlice_fails]
      nofun

end Kerber
