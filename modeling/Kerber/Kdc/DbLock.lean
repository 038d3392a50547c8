import Kerber.Types.Str

/-!
# The locks of the database

`DbLock` counts the holds on the two lock files beside the database (`krb5_kdc::dblock`).  What a call
of the operating system answers is an argument (`LockAnswers`, `UnlockAnswers`); beside the fields of the
source the state has what the process holds of the two files (`okFile`, `polFile`), and whether it has
removed the policy lock file.  A lock is asked for in rounds, and other threads come in between, so a
round is a step.
-/

namespace Kerber

/-- `Errno`, as far as the code tells the errors apart. -/
inductive Errno
  | eagain
  | eacces
  | ebadf
  | other (code : Int)
deriving DecidableEq

inductive FileLock
  | shared
  | exclusive
  | unlock
deriving DecidableEq

/-- The derived order of `FileLock`. -/
def FileLock.rank : FileLock → Nat
  | shared => 0
  | exclusive => 1
  | unlock => 2

inductive DbLockMode
  | shared
  | exclusive
  | permanent
deriving DecidableEq

namespace DbLockMode

/-- The derived order of `DbLockMode`. -/
def rank : DbLockMode → Nat
  | shared => 0
  | exclusive => 1
  | permanent => 2

def kmode : DbLockMode → FileLock
  | shared => .shared
  | exclusive => .exclusive
  | permanent => .exclusive

end DbLockMode

inductive DbLockError
  | cantLock
  | noLockFile
  | notLocked
  | io (e : Errno)
deriving DecidableEq

inductive PolicyLockError
  | noExclPerm
  | cantLock
  | noLockFile
  | notLocked
  | wouldBlock
  | io (e : Errno)
deriving DecidableEq

def PolicyLockError.intoDb : PolicyLockError → DbLockError
  | noExclPerm | cantLock | noLockFile | wouldBlock => .cantLock
  | notLocked => .notLocked
  | io e => .io e

/-- What the system answers while the policy lock file is locked. -/
structure PolicyAnswers where
  lock : Except Errno Unit
  /-- The file is still there. -/
  access : Bool
  (remove undo : Except Errno Unit)

/-- What the system answers during `unlock`. -/
structure UnlockAnswers where
  /-- The policy lock file could be made again. -/
  create : Bool
  (policy ok : Except Errno Unit)

/-- What the system answers during a round of `lock`. -/
structure LockAnswers where
  (ok reopen back : Except Errno Unit)
  policy : PolicyAnswers
  undo : UnlockAnswers

structure DbLock where
  held : Nat
  mode : Option FileLock
  /-- The policy lock file is open. -/
  pol : Bool
  polCnt : Nat
  polMode : Option DbLockMode
  (okFile polFile : Option FileLock)
  /-- The policy lock file was removed by this process. -/
  polRemoved : Bool
deriving DecidableEq

namespace DbLock

/-- `open`: nothing is held. -/
def «open» : DbLock where
  held := 0
  mode := none
  pol := true
  polCnt := 0
  polMode := none
  okFile := none
  polFile := none
  polRemoved := false

/-- What the process holds of a file after a call of `lock_file`; a call that fails changes nothing. -/
def lockFile (how : FileLock) (answer : Except Errno Unit) (held : Option FileLock) :
    Option FileLock :=
  match answer, how with
  | .error _, _ => held
  | .ok _, .unlock => none
  | .ok _, how => some how

def getPolicyLock (mode : DbLockMode) (answers : PolicyAnswers) (st : DbLock) :
    Except PolicyLockError Unit × DbLock :=
  if st.polMode.any fun held => mode.rank ≤ held.rank then
    (.ok (), { st with polCnt := st.polCnt + 1 })
  else if !st.pol then (.error .noLockFile, st)
  else
    let upgrade : Bool := 0 < st.polCnt
    match answers.lock with
    | .error e =>
      (.error (if e = .eagain && upgrade then .wouldBlock
        else if e = .ebadf && mode = .exclusive then .noExclPerm
        else if e = .eacces || e = .eagain then .cantLock
        else .io e), st)
    | .ok _ =>
      let st := { st with polFile := some mode.kmode }
      let undone := { st with polFile := lockFile .unlock answers.undo st.polFile }
      if !answers.access then (.error .noLockFile, undone)
      else
        match mode, answers.remove with
        | .permanent, .error e => (.error (.io e), undone)
        | .permanent, .ok _ =>
          (.ok (), { st with pol := false, polFile := none, polRemoved := true,
                             polMode := some mode, polCnt := st.polCnt + 1 })
        | _, _ => (.ok (), { st with polMode := some mode, polCnt := st.polCnt + 1 })

def releasePolicyLock (answers : UnlockAnswers) (st : DbLock) :
    Except PolicyLockError Unit × DbLock :=
  if st.polCnt = 0 then (.error .notLocked, st)
  else
    let st := { st with polCnt := st.polCnt - 1 }
    if st.polCnt ≠ 0 then (.ok (), st)
    else if st.polMode = some .permanent then
      if answers.create then (.ok (), { st with pol := true, polRemoved := false, polMode := none })
      else (.error .noLockFile, st)
    else if st.pol then
      match answers.policy with
      | .error e => (.error (.io e), st)
      | .ok _ => (.ok (), { st with polFile := none, polMode := none })
    else (.ok (), { st with polMode := none })

/-- `principal.ok` is given up when it was held once. -/
def releaseOk (answer : Except Errno Unit) (st : DbLock) : DbLock :=
  let st := { st with held := st.held - 1 }
  if st.held = 0 then { st with mode := none, okFile := lockFile .unlock answer st.okFile } else st

def unlock (answers : UnlockAnswers) (st : DbLock) : Except DbLockError Unit × DbLock :=
  let (pol, st) := st.releasePolicyLock answers
  if st.held = 0 then (.error .notLocked, st)
  else
    let released := st.releaseOk answers.ok
    match decide (released.held = 0), answers.ok with
    | true, .error e => (.error (.io e), released)
    | _, _ =>
      match pol with
      | .ok _ => (.ok (), released)
      | .error .notLocked => (.ok (), released)
      | .error .noLockFile => (.error .noLockFile, released)
      | .error e => (.error e.intoDb, released)

/-- The second half of `try_lock`: the policy lock, and what is taken back when there is none. -/
def tryPolicy (mode : DbLockMode) (answers : LockAnswers) (st : DbLock) :
    Except DbLockError Bool × DbLock :=
  match getPolicyLock mode answers.policy { st with held := st.held + 1 } with
  | (.ok _, st) => (.ok true, st)
  | (.error .wouldBlock, st) => (.ok false, st.releaseOk answers.undo.ok)
  | (.error e, st) => (.error e.intoDb, (st.unlock answers.undo).2)

/-- The lock on `principal.ok` is below the one that is asked for. -/
def below (mode : Option FileLock) (kmode : FileLock) : Bool :=
  mode.all fun m => m.rank < kmode.rank

def tryLock (mode : DbLockMode) (answers : LockAnswers) (st : DbLock) :
    Except DbLockError Bool × DbLock :=
  let kmode := mode.kmode
  let upgrade : Bool := 0 < st.held && below st.mode kmode
  if st.held = 0 || upgrade then
    match answers.ok with
    | .error e =>
      (if e = .eagain && upgrade then .ok false
        else if e = .ebadf && kmode = .exclusive then .error .cantLock
        else if e = .eacces || e = .eagain then .error .cantLock
        else .error (.io e), st)
    | .ok _ =>
      match answers.reopen with
      | .error e =>
        let back := if upgrade then st.mode.getD .unlock else .unlock
        (.error (.io e), { st with okFile := lockFile back answers.back (some kmode) })
      | .ok _ => tryPolicy mode answers { st with okFile := some kmode, mode := some kmode }
  else tryPolicy mode answers st

end DbLock

end Kerber
