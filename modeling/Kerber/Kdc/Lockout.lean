import Kerber.Issue.Checks
import Kerber.Store.Admin

/-!
# Account lockout

What the KDC records of an AS request's outcome (`lockout_audit` of `lockout.rs`), beside the check
of `Issue/Checks`, and the administrator's unlock.  A run of such events over one principal is
`lockoutRun`.
-/

namespace Kerber

open Issue

/-- The interval of the client's policy, after which failures are counted anew. -/
def failcntInterval (store : KdcStore) (p : Principal) : UInt32 :=
  (store.namedPolicyFor p).elim 0 NamedPolicy.pwFailcntInterval

/-- What `lockout_audit` asks to be recorded for an outcome: `status` is 0 for a reply. -/
def auditUpdate (store : KdcStore) (disableLastSuccess : Bool) (p : Principal) (stamp : UInt32)
    (status : Int) : LockoutUpdate :=
  if status ≠ 0 ∧ status ≠ Err.preauthFailed ∧ status ≠ Err.badIntegrity then {}
  else
    let disabled := store.policy.disableLockout
    let limits := if disabled then (0, 0) else lookupLockoutPolicy store p
    let interval := if disabled then 0 else failcntInterval store p
    if lockedCheckP stamp limits.1 limits.2 p then {}
    else if status = 0 ∧ attr p kdbRequiresPreAuth then
      { zeroFailCount := !disabled && p.failAuthCount != 0
        setLastSuccess := !disableLastSuccess }
    else if status ≠ 0 ∧ disabled = false then
      { zeroFailCount := !(decide (p.lastFailed > lastAdminUnlock p))
          || interval != 0 && decide (stamp > p.lastFailed + interval)
        setLastFailure := true }
    else {}

/-- `lockout_audit`: the entry with its record updated. -/
def lockoutAudit (store : KdcStore) (disableLastSuccess : Bool) (p : Principal) (stamp : UInt32)
    (status : Int) : Principal :=
  let update := auditUpdate store disableLastSuccess p stamp status
  if update.isEmpty then p else (update.apply (Lockout.of p) stamp).setOn p

/-! ### Runs -/

/-- What happens to a principal: an AS request that would end with a status if it is not refused, or an
unlock by an administrator. -/
inductive LockoutEvent
  | request (stamp : UInt32) (status : Int)
  | unlock (now : UInt32) (actor : Str)

section Run

variable (store : KdcStore) (disableLastSuccess : Bool)

/-- The status of a request: a principal that is locked out is refused with `CLIENT_REVOKED`. -/
def outcome (p : Principal) (stamp : UInt32) (status : Int) : Int :=
  match lockoutCheckPolicy store p stamp with
  | .ok _ => status
  | .error _ => Err.clientRevoked

def lockoutStep (p : Principal) : LockoutEvent → Principal
  | .request stamp status =>
    lockoutAudit store disableLastSuccess p stamp (outcome store p stamp status)
  | .unlock now actor => adminUnlock now actor p

def lockoutRun (p : Principal) (events : List LockoutEvent) : Principal :=
  events.foldl (lockoutStep store disableLastSuccess) p

end Run

end Kerber
