import Kerber.Kdc.LockoutFile
import Kerber.KdbDump.Write
import Kerber.Lib.Rows

/-!
# The lockout side file

The file beside the database that holds a lockout record for every principal (`lockout/file.rs`): its
lines, the index of them a process keeps, and the operations of the processes that share the file.  A
file is known by its inode; the file under the path is replaced by renaming a new one over it.  Reading
and writing do not fail, and every operation runs under the database lock, as one step.
-/

namespace Kerber

/-! ### Lines -/

/-- `HEADER`. -/
def lockoutHeader : Str := str "kerber-rust lockout 1\n"

/-- `FIELD`. -/
def fieldWidth : Nat := 10

/-- `VALUES`. -/
def valuesWidth : Nat := 3 * fieldWidth + 2

/-- `HEAD`: the values, a space and the eight digits of the checksum. -/
def headWidth : Nat := valuesWidth + 1 + 8

/-- `DELETED`. -/
def deletedByte : UInt8 := 35

/-- `checksum`. -/
def lockoutChecksum (values name : Str) : UInt32 :=
  crc32 (values ++ str " " ++ name)

/-- `{:010}`. -/
def dec10 (n : Nat) : Str :=
  let digits := render 10 n
  List.replicate (fieldWidth - digits.length) (digitByte 0) ++ digits

/-- The three values of a record. -/
def lockoutValues (l : Lockout) : Str :=
  dec10 l.lastSuccess.toNat ++ str " " ++ dec10 l.lastFailed.toNat ++ str " "
    ++ dec10 l.failAuthCount.toNat

/-- `head`: the text, cut or filled to its width. -/
def lockoutHead (id : Str) (l : Lockout) : Str :=
  let values := lockoutValues l
  let text := values ++ str " " ++ hex8 (lockoutChecksum values id).toNat
  (text ++ List.replicate headWidth (digitByte 0)).take headWidth

/-- `record_line`, without its newline. -/
def lockoutRow (id : Str) (l : Lockout) : Str :=
  lockoutHead id l ++ str " " ++ id

/-- `render`. -/
def renderLockouts (records : List (Str × Lockout)) : Str :=
  lockoutHeader ++ unlines (records.map fun r => lockoutRow r.1 r.2)

/-- `slice.get(start..stop)`. -/
def slice (s : Str) (start stop : Nat) : Option Str :=
  if stop ≤ s.length then some ((s.drop start).take (stop - start)) else none

/-- A field of `parse_line`. -/
def lockoutField (line : Str) (i : Nat) : Option UInt32 := do
  let start := i * (fieldWidth + 1)
  let digits ← slice line start (start + fieldWidth)
  if digits.all fun b => 48 ≤ b && b ≤ 57 then
    let n ← parseNat 10 u32Limit digits
    return UInt32.ofNat n
  else none

/-- `parse_line`. -/
def parseLockoutLine (line : Str) : Option (Lockout × Str) := do
  if [fieldWidth, 2 * fieldWidth + 1, valuesWidth, headWidth].any fun pos => (line)[pos]? ≠ some 32 then
    none
  else
    let sum ← slice line (valuesWidth + 1) headWidth
    if sum.all fun b => (48 ≤ b && b ≤ 57) || (97 ≤ b && b ≤ 102) then
      let name := line.drop (headWidth + 1)
      if name = [] then none
      else
        let want ← parseNat 16 u32Limit sum
        let values ← slice line 0 valuesWidth
        if (lockoutChecksum values name).toNat ≠ want then none
        else
          let lastSuccess ← lockoutField line 0
          let lastFailed ← lockoutField line 1
          let failAuthCount ← lockoutField line 2
          if isUtf8 name then return (⟨lastSuccess, lastFailed, failAuthCount⟩, name) else none
    else none

/-! ### The index -/

/-- `Index`. -/
structure LockoutIndex where
  records : HashMap Str (Nat × Lockout) := ∅
  dead : Nat := 0
  len : Nat := 0
  whole : Bool := false
  foreign : Bool := false

/-- Whether a text ends in a newline, or is empty. -/
def endsWhole (bytes : Str) : Bool :=
  bytes.getLast?.all (· = newline)

/-- A line of `index_body`, and where the next one begins. -/
def indexLine (s : LockoutIndex × Nat) (line : Str × Bool) : LockoutIndex × Nat :=
  let (ix, pos) := s
  let next := pos + (unline line).length
  match if line.2 then parseLockoutLine line.1 else none with
  | some (l, name) =>
    ({ ix with
        records := ix.records.insert name (pos, l)
        dead := if (ix.records.lookup name).isSome then ix.dead + 1 else ix.dead }, next)
  | none => ({ ix with dead := ix.dead + 1 }, next)

def indexBody (ix : LockoutIndex) (body : Str) (start : Nat) : LockoutIndex :=
  ((rawLines body).foldl indexLine (ix, start)).1

/-- `index`. -/
def indexLockouts (bytes : Str) : LockoutIndex :=
  let ix : LockoutIndex := { len := bytes.length, whole := endsWhole bytes }
  if bytes = [] then ix
  else
    match stripPrefix lockoutHeader bytes with
    | some body => indexBody ix body lockoutHeader.length
    | none => { ix with foreign := true }

/-! ### The file -/

/-- The inode under the path, and what is in every inode. -/
structure LockoutFiles where
  atPath : Option Nat
  contents : Nat → Str

variable (fs : LockoutFiles) (cached : Option SideFile) (side : SideFile) (ino : Nat)

namespace LockoutFiles

def write (ino pos : Nat) (bytes : Str) : LockoutFiles :=
  { fs with contents := Function.update fs.contents ino (writeAt (fs.contents ino) pos bytes) }

/-- `write_secret_file`: a new file, renamed over the path. -/
def replace (bytes : Str) : LockoutFiles where
  atPath := some ino
  contents := Function.update fs.contents ino bytes

end LockoutFiles

/-- `SideFile`: an open file with its index. -/
structure SideFile where
  ino : Nat
  ix : LockoutIndex

namespace SideFile

def reindex : SideFile :=
  { side with ix := indexLockouts (fs.contents side.ino) }

/-- `SideFile::open`. -/
def openFile : Option SideFile :=
  fs.atPath.map fun ino => ⟨ino, indexLockouts (fs.contents ino)⟩

def extend (stop : Nat) (side : SideFile) : SideFile :=
  let start := side.ix.len
  let buf := readAt (fs.contents side.ino) start (stop - start)
  let ix := indexBody side.ix buf start
  { side with ix := { ix with len := start + buf.length, whole := endsWhole buf } }

def refresh : Option SideFile :=
  match fs.atPath with
  | none => none
  | some ino =>
    if ino ≠ side.ino then openFile fs
    else
      let len := (fs.contents ino).length
      if side.ix.len < len ∧ 0 < side.ix.len ∧ side.ix.whole ∧ ¬ side.ix.foreign then
        some (side.extend fs len)
      else if len ≠ side.ix.len then some (side.reindex fs)
      else some side

def recordAt (pos : Nat) (id : Str) : Option Lockout :=
  let buf := readAt (fs.contents side.ino) pos (headWidth + id.length + 2)
  if buf.getLast? = some newline then
    match parseLockoutLine (stripSuffix newline buf) with
    | some (l, name) => if name = id then some l else none
    | none => none
  else none

/-- `locate`, and the file as it leaves it. -/
def locate (id : Str) : Option (Nat × Lockout) × SideFile :=
  match side.ix.records.lookup id with
  | none => (none, side)
  | some (pos, _) =>
    match side.recordAt fs pos id with
    | some l => (some (pos, l), side)
    | none =>
      let side := side.reindex fs
      match side.ix.records.lookup id with
      | none => (none, side)
      | some (pos, _) => ((side.recordAt fs pos id).map fun l => (pos, l), side)

def rowUnlocked (id : Str) : Option Lockout :=
  match fs.atPath with
  | none => none
  | some ino =>
    if side.ix.foreign ∨ ¬ side.ix.whole ∨ ino ≠ side.ino then none
    else if (fs.contents ino).length < side.ix.len then none
    else
      match side.ix.records.lookup id with
      | none => none
      | some (pos, _) => side.recordAt fs pos id

def put (id : Str) (l : Lockout) : LockoutFiles × SideFile :=
  let found := side.locate fs id
  let side := found.2
  match found.1 with
  | some (pos, have_) =>
    let fs := if have_ ≠ l then fs.write side.ino pos (lockoutHead id l) else fs
    (fs, { side with ix := { side.ix with records := side.ix.records.insert id (pos, l) } })
  | none =>
    let line := lockoutRow id l ++ [newline]
    let start := side.ix.len
    let (fs, pos, dead) :=
      if start = 0 then
        (fs.write side.ino 0 lockoutHeader, lockoutHeader.length, side.ix.dead)
      else if ¬ side.ix.whole then
        (fs.write side.ino start [newline], start + 1, side.ix.dead + 1)
      else (fs, start, side.ix.dead)
    (fs.write side.ino pos line,
      { side with
        ix := { side.ix with
          records := side.ix.records.insert id (pos, l)
          dead := dead
          len := pos + line.length
          whole := true } })

def delete (id : Str) : LockoutFiles × SideFile :=
  let found := side.locate fs id
  let side := found.2
  match found.1 with
  | some (pos, _) =>
    (fs.write side.ino pos [deletedByte],
      { side with
        ix := { side.ix with
          records := side.ix.records.erase id
          dead := side.ix.dead + 1 } })
  | none => (fs, side)

/-- `rewrite`, with the inode of the new file. -/
def rewrite (records : List (Str × Lockout)) : LockoutFiles × SideFile :=
  let fs := fs.replace ino (renderLockouts records)
  (fs, ⟨ino, indexLockouts (fs.contents ino)⟩)

/-- The rows `compact` keeps. -/
def liveRecords : List (Str × Lockout) :=
  side.ix.records.entries.filterMap fun e => (side.recordAt fs e.2.1 e.1).map fun l => (e.1, l)

def compact : LockoutFiles × SideFile :=
  rewrite fs ino (side.liveRecords fs)

def deleteAll (gone : List Str) : LockoutFiles × SideFile :=
  gone.foldl (fun s id => delete s.1 s.2 id) (fs, side)

/-- `if side.ix.dead > side.ix.records.len() { side.compact()? }`. -/
def compactIfDead (s : LockoutFiles × SideFile) (ino : Nat) : LockoutFiles × SideFile :=
  if s.2.ix.records.entries.length < s.2.ix.dead then compact s.1 s.2 ino else s

end SideFile

def makeBeside (records : List (Str × Lockout)) : LockoutFiles :=
  fs.replace ino (renderLockouts records)

def storeRecords (s : PrincipalStore) : List (Str × Lockout) :=
  (s.map.map.values.map fun p => (p.id, Lockout.of p)).insertionSort fun a b => a.1 ≤ b.1

def writeLoaded (records : List (Str × Lockout)) (merge : Bool) : LockoutFiles :=
  match SideFile.openFile fs with
  | none => makeBeside fs ino records
  | some side =>
    let content := if merge ∧ ¬ side.ix.foreign then
        records.map fun (id, l) => (id, ((side.ix.records.lookup id).map Prod.snd).getD l)
      else records
    (SideFile.rewrite fs ino content).1

/-- `put` for the rows of `want` that are not as they should be. -/
def putChanged (want : List (Str × Lockout)) : LockoutFiles × SideFile :=
  want.foldl (fun s r =>
    if (s.2.ix.records.lookup r.1).map Prod.snd ≠ some r.2 then SideFile.put s.1 s.2 r.1 r.2 else s)
    (fs, side)

def reconcile (s : PrincipalStore) (makeMissing : Bool) : LockoutFiles :=
  match SideFile.openFile fs with
  | none => if makeMissing then makeBeside fs ino (storeRecords s) else fs
  | some side =>
    if side.ix.foreign then
      if makeMissing then (SideFile.rewrite fs ino (storeRecords s)).1 else fs
    else if makeMissing then
      let want := storeRecords s
      let put := putChanged fs side want
      let gone := put.2.ix.records.keys.filter fun id => id ∉ want.map Prod.fst
      let left := put.2.deleteAll put.1 gone
      if left.2.ix.records.entries.length < left.2.ix.dead then
        (SideFile.rewrite left.1 ino want).1
      else left.1
    else
      let gone := side.ix.records.keys.filter fun id => (s.principalById id).isNone
      (SideFile.compactIfDead (side.deleteAll fs gone) ino).1

/-! ### What a process does -/

/-- `Inner::side`: the file a process has open, opened and read up to its end. -/
def innerSide : Option SideFile :=
  match cached with
  | some side => side.refresh fs
  | none => (SideFile.openFile fs).bind (·.refresh fs)

/-- Only a file with the header is used. -/
def usable : Option SideFile :=
  cached.filter fun side => ¬ side.ix.foreign

/-- `record`. -/
def recordLockout (p : Principal) (stamp : UInt32)
    (update : LockoutUpdate) : LockoutFiles × SideFile :=
  let found := side.locate fs p.id
  let base := (found.1.map Prod.snd).getD (Lockout.of p)
  found.2.put fs p.id (update.apply base stamp)

/-- `LockoutState::update`, with the inode of a file it may have to make. -/
def updateInFile (p : Principal)
    (stamp : UInt32) (update : LockoutUpdate) : LockoutFiles × Option SideFile :=
  let cached := innerSide fs cached
  match usable cached with
  | some side =>
    let r := recordLockout fs side p stamp update
    (r.1, some r.2)
  | none =>
    if fs.atPath.isSome then (fs, cached)
    else
      let fs := makeBeside fs ino []
      let cached := innerSide fs cached
      match usable cached with
      | some side =>
        let r := recordLockout fs side p stamp update
        (r.1, some r.2)
      | none => (fs, cached)

/-- `LockoutState::rename_row`. -/
def renameInFile (oldId : Str) (new : Principal) : LockoutFiles × Option SideFile :=
  let cached := innerSide fs cached
  match usable cached with
  | none => (fs, cached)
  | some side =>
    let found := side.locate fs oldId
    match found.1 with
    | none => (fs, some found.2)
    | some (_, l) =>
      let put := found.2.put fs new.id l
      let left := put.2.delete put.1 oldId
      (left.1, some left.2)

/-- `LockoutState::reconcile_deletes`. -/
def deletesInFile (gone : List Str) : LockoutFiles × Option SideFile :=
  if gone = [] then (fs, cached)
  else
    let cached := innerSide fs cached
    match usable cached with
    | none => (fs, cached)
    | some side =>
      let left := SideFile.compactIfDead (side.deleteAll fs gone) ino
      (left.1, some left.2)

/-- Refreshing and `compact`. -/
def compactInFile : LockoutFiles × Option SideFile :=
  let cached := innerSide fs cached
  match usable cached with
  | none => (fs, cached)
  | some side =>
    let left := side.compact fs ino
    (left.1, some left.2)

/-- The record `lookup` reads under the lock: the file is refreshed first. -/
def readFresh (id : Str) : Option Lockout × Option SideFile :=
  let cached := innerSide fs cached
  match usable cached with
  | none => (none, cached)
  | some side =>
    let found := side.locate fs id
    (found.1.map Prod.snd, some found.2)

/-- `LockoutState::lookup`: a row whose place is known is read without the lock. -/
def lookupInFile (p : Principal) : Lockout × Option SideFile :=
  match cached.bind (·.rowUnlocked fs p.id) with
  | some l => (l, cached)
  | none =>
    let r := readFresh fs cached p.id
    (r.1.getD (Lockout.of p), r.2)

/-! ### Processes that share the file -/

/-- An operation of a process. -/
inductive LockoutOp
  | update (p : Principal) (stamp : UInt32) (update : LockoutUpdate)
  | rename (oldId : Str) (new : Principal)
  | deletes (gone : List Str)
  | compact
  | reconcile (s : PrincipalStore) (makeMissing : Bool)
  | load (s : PrincipalStore) (merge : Bool)
  | lookup (p : Principal)
  /-- The process ends, or drops what it has open. -/
  | close

/-- The operation, with the inode a new file would get. -/
def LockoutOp.run (fs : LockoutFiles) (cached : Option SideFile) :
    LockoutOp → LockoutFiles × Option SideFile
  | .update p stamp u => updateInFile fs cached ino p stamp u
  | .rename oldId new => renameInFile fs cached oldId new
  | .deletes gone => deletesInFile fs cached ino gone
  | .compact => compactInFile fs cached ino
  | .reconcile s makeMissing => (Kerber.reconcile fs ino s makeMissing, cached)
  | .load s merge => (writeLoaded fs ino (storeRecords s) merge, cached)
  | .lookup p => (fs, (lookupInFile fs cached p).2)
  | .close => (fs, none)

/-- The file, and what every process has open. -/
structure LockoutSystem (Proc : Type) where
  files : LockoutFiles
  procs : Proc → Option SideFile

namespace LockoutSystem

variable {Proc : Type}

/-- An inode a new file may get: it is neither under the path nor open anywhere. -/
def Free (sys : LockoutSystem Proc) (ino : Nat) : Prop :=
  sys.files.atPath ≠ some ino ∧ ∀ q side, sys.procs q = some side → side.ino ≠ ino

/-- A process runs an operation. -/
def step [DecidableEq Proc] (sys : LockoutSystem Proc) (q : Proc) (op : LockoutOp) (ino : Nat) :
    LockoutSystem Proc :=
  let r := op.run ino sys.files (sys.procs q)
  { files := r.1, procs := Function.update sys.procs q r.2 }

end LockoutSystem

end Kerber
