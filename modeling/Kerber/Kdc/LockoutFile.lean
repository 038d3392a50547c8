import Kerber.Store.Store

/-!
# Lockout records

The record of failed and successful logins that is kept beside the database (`lockout.rs`,
`lockout/file.rs`).
-/

namespace Kerber

structure LockoutUpdate where
  zeroFailCount : Bool := false
  setLastSuccess : Bool := false
  setLastFailure : Bool := false
deriving DecidableEq

namespace LockoutUpdate

def isEmpty (u : LockoutUpdate) : Bool :=
  !(u.zeroFailCount || u.setLastSuccess || u.setLastFailure)

/-- `apply`; the count wraps around. -/
def apply (u : LockoutUpdate) (base : Lockout) (stamp : UInt32) : Lockout :=
  let count := if u.zeroFailCount then 0 else base.failAuthCount
  { lastSuccess := if u.setLastSuccess then stamp else base.lastSuccess
    lastFailed := if u.setLastFailure then stamp else base.lastFailed
    failAuthCount := if u.setLastFailure then count + 1 else count }

end LockoutUpdate

def Lockout.setOn (l : Lockout) (p : Principal) : Principal :=
  { p with lastSuccess := l.lastSuccess, lastFailed := l.lastFailed, failAuthCount := l.failAuthCount }

end Kerber
