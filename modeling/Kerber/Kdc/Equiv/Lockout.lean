import Kerber.Kdc.Lockout

/-!
# When a principal is locked out

`Tally` says what is meant: the times of the failures that count, from the last success, unlock or
gap on.  `locked_out_iff` says that the check refuses a principal exactly when the tally of the run
does, at every time and after every run of requests and unlocks.  Times are numbers of seconds, and
sums of them are taken as the source takes them, without their overflow.
-/

namespace Kerber

open Issue Err List

variable {p : Principal} {new : TlData}

/-! ### The tally -/

/-- A number in 32 bits. -/
def wrap32 (n : Nat) : Nat := n % 2 ^ 32

/-- The failures counted since the count last began, the latest at the end, and the time of the last
unlock. -/
structure Tally where
  failures : List Nat := []
  unlocked : Nat := 0

namespace Tally

variable (pol : NamedPolicy)

/-- The principal is locked out at a time. -/
def Refuses (s : Tally) (t : Nat) : Prop :=
  pol.maxFail.toNat ≤ wrap32 s.failures.length ∧
    (pol.pwLockoutDuration.toNat = 0 ∨
      ∃ last ∈ s.failures.getLast?, t < wrap32 (last + pol.pwLockoutDuration.toNat))

instance (s : Tally) (t : Nat) : Decidable (s.Refuses pol t) :=
  inferInstanceAs (Decidable (_ ∧ (_ ∨ ∃ last ∈ s.failures.getLast?, _)))

/-- So long after a failure that the next one is counted anew. -/
def Gap (last t : Nat) : Prop :=
  pol.pwFailcntInterval.toNat ≠ 0 ∧ wrap32 (last + pol.pwFailcntInterval.toNat) < t

instance (last t : Nat) : Decidable (Gap pol last t) :=
  inferInstanceAs (Decidable (_ ∧ _))

/-- A failure; one in the second of the last unlock, or before it, does not count. -/
def fail (s : Tally) (t : Nat) : Tally :=
  if t ≤ s.unlocked then { s with failures := [] }
  else
    match s.failures.getLast? with
    | none => { s with failures := [t] }
    | some last =>
      if Gap pol last t then { s with failures := [t] }
      else { s with failures := s.failures ++ [t] }

/-- What an event does to the tally; a success counts for a principal that must preauthenticate. -/
def step (preauth : Bool) (s : Tally) : LockoutEvent → Tally
  | .request stamp status =>
    if s.Refuses pol stamp.toNat then s
    else if status = 0 then if preauth then { s with failures := [] } else s
    else if status = preauthFailed ∨ status = badIntegrity then s.fail pol stamp.toNat
    else s
  | .unlock now _ => { failures := [], unlocked := now.toNat }

def run (preauth : Bool) (s : Tally) (events : List LockoutEvent) : Tally :=
  events.foldl (step pol preauth) s

end Tally

/-! ### The last unlock -/

theorem find?_replaceFirst {ty : Int32} (h : new.ty ≠ ty) (tl : List TlData) :
    (updateTlData.replaceFirst new tl).find? (·.ty = ty) = tl.find? (·.ty = ty) := by
  induction tl with
  | nil => rfl
  | cons t tl ih =>
    rw [updateTlData.replaceFirst]
    split
    · rename_i ht
      have hne : t.ty ≠ ty := ht ▸ h
      rw [find?_cons_of_neg (by simpa using hne), find?_cons_of_neg (by simpa using hne)]
    · rw [find?_cons, find?_cons, ih]

/-- A datum of another type is found as before. -/
theorem find?_updateTlData {ty : Int32} (h : new.ty ≠ ty) (tl : List TlData) :
    (updateTlData tl new).find? (·.ty = ty) = tl.find? (·.ty = ty) := by
  rw [updateTlData]
  split
  · exact find?_replaceFirst h tl
  · exact find?_cons_of_neg (by simpa using h)

theorem lastAdminUnlock_adminUnlock (now : UInt32) (actor : Str) (p : Principal) :
    lastAdminUnlock (adminUnlock now actor p) = now := by
  have hfind : (adminUnlock now actor p).tlData.find? (·.ty = tlLastAdminUnlock)
      = some ⟨tlLastAdminUnlock, le32 now⟩ := by
    have hstamp : (adminUnlock now actor p).tlData
        = updateTlData (dropTypes [tlLastAdminUnlock] p.tlData ++ [⟨tlLastAdminUnlock, le32 now⟩])
            ⟨tlModPrinc, le32 now ++ actor ++ [0]⟩ := rfl
    have hnone : (dropTypes [tlLastAdminUnlock] p.tlData).find? (·.ty = tlLastAdminUnlock) = none := by
      rw [find?_eq_none]
      intro t ht
      have hty := (mem_filter.mp ht).2
      simpa using hty
    have hty : tlModPrinc ≠ tlLastAdminUnlock := by decide
    rw [hstamp, find?_updateTlData hty, find?_append, hnone]
    rfl
  rw [lastAdminUnlock, hfind]
  have hjoin : le32At (le32 now ++ []) 0 = now := le32At_le32 now []
  rwa [append_nil] at hjoin

/-! ### The record and the tally -/

/-- The record of an entry says what the tally does.  A last failure that is not after the unlock says
nothing, whatever the count. -/
structure Counts (p : Principal) (s : Tally) : Prop where
  unlocked : (lastAdminUnlock p).toNat = s.unlocked
  count : s.unlocked < p.lastFailed.toNat → p.failAuthCount.toNat = wrap32 s.failures.length
  last : ∀ last ∈ s.failures.getLast?, last = p.lastFailed.toNat ∧ s.unlocked < last

section Step

variable {store : KdcStore} {pol : NamedPolicy} {s : Tally}

theorem Counts.getLast? (h : Counts p s) (hne : s.failures ≠ []) :
    s.failures.getLast? = some p.lastFailed.toNat ∧ s.unlocked < p.lastFailed.toNat := by
  obtain ⟨last, hlast⟩ := Option.isSome_iff_exists.mp (getLast?_isSome.mpr hne)
  obtain ⟨rfl, hafter⟩ := h.last last hlast
  exact ⟨hlast, hafter⟩

theorem toNat_add_wrap (a b : UInt32) : (a + b).toNat = wrap32 (a.toNat + b.toNat) :=
  UInt32.toNat_add a b

/-- `lockedCheckP` in numbers. -/
theorem lockedCheckP_eq_true (t m d : UInt32) (p : Principal) :
    lockedCheckP t m d p = true ↔
      (lastAdminUnlock p).toNat < p.lastFailed.toNat ∧ 0 < m.toNat ∧
        m.toNat ≤ p.failAuthCount.toNat ∧
        (d.toNat = 0 ∨ t.toNat < wrap32 (p.lastFailed.toNat + d.toNat)) := by
  have hm : m = 0 ↔ m.toNat = 0 := by rw [← UInt32.toNat_inj]; rfl
  have hd : d = 0 ↔ d.toNat = 0 := by rw [← UInt32.toNat_inj]; rfl
  rw [← toNat_add_wrap]
  simp only [lockedCheckP, gt_iff_lt, UInt32.lt_iff_toNat_lt, beq_iff_eq, hm, hd, Bool.or_eq_true,
    decide_eq_true_eq, Bool.not_eq_true', decide_eq_false_iff_not]
  split_ifs <;> simp <;> omega

theorem failures_ne_nil (hmax : 0 < pol.maxFail.toNat)
    (h : pol.maxFail.toNat ≤ wrap32 s.failures.length) : s.failures ≠ [] := by
  intro hempty
  rw [hempty, wrap32, length_nil] at h
  omega

/-- **The check is the tally's.** -/
theorem lockedCheckP_iff (h : Counts p s) (hmax : 0 < pol.maxFail) (t : UInt32) :
    lockedCheckP t pol.maxFail pol.pwLockoutDuration p = true ↔ s.Refuses pol t.toNat := by
  have hmax : 0 < pol.maxFail.toNat := UInt32.lt_iff_toNat_lt.mp hmax
  rw [lockedCheckP_eq_true, h.unlocked, Tally.Refuses]
  constructor
  · rintro ⟨hafter, -, hcount, hdur⟩
    rw [h.count hafter] at hcount
    obtain ⟨hlast, -⟩ := h.getLast? (failures_ne_nil hmax hcount)
    exact ⟨hcount, hdur.imp_right fun ht => ⟨_, hlast, ht⟩⟩
  · rintro ⟨hcount, hdur⟩
    obtain ⟨hlast, hafter⟩ := h.getLast? (failures_ne_nil hmax hcount)
    refine ⟨hafter, hmax, by rw [h.count hafter]; exact hcount, hdur.imp_right ?_⟩
    rintro ⟨last, hmem, ht⟩
    rw [hlast] at hmem
    cases hmem
    exact ht

/-! ### One event -/

theorem counts_success (h : Counts p s) {q : Principal} (htl : q.tlData = p.tlData)
    (hcount : q.failAuthCount = 0) : Counts q { s with failures := [] } where
  unlocked := by
    rw [lastAdminUnlock, htl]
    exact h.unlocked
  count _ := by
    rw [hcount]
    rfl
  last _ hmem := nomatch hmem

theorem counts_fail (h : Counts p s) (t : UInt32) (l : Lockout) (hlast : l.lastFailed = t)
    (hcount : l.failAuthCount = (if ¬ s.unlocked < p.lastFailed.toNat ∨
        Tally.Gap pol p.lastFailed.toNat t.toNat then 0 else p.failAuthCount) + 1) :
    Counts (l.setOn p) (s.fail pol t.toNat) := by
  have hlastFailed : (l.setOn p).lastFailed = t := hlast
  rw [Tally.fail]
  split
  · -- the failure is not after the unlock: the record says nothing
    rename_i hle
    refine ⟨h.unlocked, fun hafter => ?_, fun _ hmem => (nomatch hmem)⟩
    rw [hlastFailed] at hafter
    exact absurd hafter (Nat.not_lt.mpr hle)
  · rename_i hafter
    have hone : ∀ (n : UInt32), n = 0 → (n + 1).toNat = wrap32 1 := by
      rintro _ rfl
      rfl
    split
    · rename_i hnone
      have hempty : s.failures = [] := getLast?_eq_none_iff.mp hnone
      refine ⟨h.unlocked, fun _ => ?_, ?_⟩
      · show l.failAuthCount.toNat = wrap32 1
        rw [hcount]
        refine hone _ ?_
        split
        · rfl
        · -- nothing was counted since the last reset
          rename_i hbefore
          rw [not_or, not_not] at hbefore
          have hzero := h.count hbefore.1
          rw [hempty] at hzero
          exact UInt32.toNat_inj.mp hzero
      · rintro _ ⟨⟩
        exact ⟨hlastFailed ▸ rfl, Nat.lt_of_not_le hafter⟩
    · rename_i last hsome
      obtain ⟨rfl, hbefore⟩ := h.last last hsome
      split
      · rename_i hgap
        refine ⟨h.unlocked, fun _ => ?_, ?_⟩
        · show l.failAuthCount.toNat = wrap32 1
          rw [hcount, if_pos (.inr hgap)]
          rfl
        · rintro _ ⟨⟩
          exact ⟨hlastFailed ▸ rfl, Nat.lt_of_not_le hafter⟩
      · rename_i hgap
        refine ⟨h.unlocked, fun _ => ?_, ?_⟩
        · show l.failAuthCount.toNat = wrap32 (s.failures ++ [t.toNat]).length
          rw [hcount, if_neg (by rw [not_or, not_not]; exact ⟨hbefore, hgap⟩), toNat_add_wrap,
            h.count hbefore, length_append]
          exact Nat.mod_add_mod ..
        · intro x hmem
          rw [getLast?_concat] at hmem
          cases hmem
          exact ⟨hlastFailed ▸ rfl, Nat.lt_of_not_le hafter⟩

theorem counts_unlock (now : UInt32) (actor : Str) (p : Principal) :
    Counts (adminUnlock now actor p) { failures := [], unlocked := now.toNat } where
  unlocked := by rw [lastAdminUnlock_adminUnlock]
  count _ := rfl
  last _ hmem := nomatch hmem

theorem lockoutCheckPolicy_eq (hdis : store.policy.disableLockout = false)
    (hpol : store.namedPolicyFor p = some pol) (t : UInt32) :
    lockoutCheckPolicy store p t
      = rejectIf (lockedCheckP t pol.maxFail pol.pwLockoutDuration p)
          (proto clientRevoked Status.lockedOut) := by
  rw [lockoutCheckPolicy, hdis, lookupLockoutPolicy, hpol]
  rfl

theorem auditUpdate_eq (hdis : store.policy.disableLockout = false)
    (hpol : store.namedPolicyFor p = some pol) (dls : Bool) {t : UInt32}
    (hlocked : lockedCheckP t pol.maxFail pol.pwLockoutDuration p = false) (status : Int) :
    auditUpdate store dls p t status
      = if status ≠ 0 ∧ status ≠ preauthFailed ∧ status ≠ badIntegrity then {}
        else if status = 0 then
          if attr p kdbRequiresPreAuth then
            { zeroFailCount := p.failAuthCount != 0, setLastSuccess := !dls }
          else {}
        else
          { zeroFailCount := !(decide (p.lastFailed > lastAdminUnlock p))
              || pol.pwFailcntInterval != 0 && decide (t > p.lastFailed + pol.pwFailcntInterval)
            setLastFailure := true } := by
  have hlimits : lookupLockoutPolicy store p = (pol.maxFail, pol.pwLockoutDuration) := by
    rw [lookupLockoutPolicy, hpol]
    rfl
  have hinterval : failcntInterval store p = pol.pwFailcntInterval := by
    rw [failcntInterval, hpol]
    rfl
  simp only [auditUpdate, hdis, hlimits, hinterval, Bool.false_eq_true, if_false, hlocked]
  by_cases hzero : status = 0
  · by_cases hattr : attr p kdbRequiresPreAuth = true <;> simp [hzero, hattr]
  · simp [hzero]

/-- A principal after an outcome that is not recorded. -/
theorem lockoutAudit_of_empty {dls : Bool} {t : UInt32} {status : Int}
    (h : auditUpdate store dls p t status = {}) : lockoutAudit store dls p t status = p := by
  rw [lockoutAudit, h]
  rfl

theorem restarts_iff (h : Counts p s) (t : UInt32) :
    (!(decide (p.lastFailed > lastAdminUnlock p))
        || pol.pwFailcntInterval != 0 && decide (t > p.lastFailed + pol.pwFailcntInterval)) = true ↔
      ¬ s.unlocked < p.lastFailed.toNat ∨ Tally.Gap pol p.lastFailed.toNat t.toNat := by
  have hzero : pol.pwFailcntInterval ≠ 0 ↔ pol.pwFailcntInterval.toNat ≠ 0 := by
    rw [ne_eq, ← UInt32.toNat_inj]
    rfl
  rw [Tally.Gap, ← toNat_add_wrap, ← h.unlocked, ← hzero]
  simp only [gt_iff_lt, UInt32.lt_iff_toNat_lt, Bool.or_eq_true, Bool.and_eq_true, bne_iff_ne,
    decide_eq_true_eq, Bool.not_eq_true', decide_eq_false_iff_not]

theorem counts_request (hdis : store.policy.disableLockout = false)
    (hpol : store.namedPolicyFor p = some pol) (hmax : 0 < pol.maxFail) (h : Counts p s) (dls : Bool)
    (t : UInt32) (status : Int) :
    Counts (lockoutStep store dls p (.request t status))
      (s.step pol (attr p kdbRequiresPreAuth) (.request t status)) := by
  have hiff := lockedCheckP_iff h hmax t
  rw [lockoutStep, Tally.step, outcome, lockoutCheckPolicy_eq hdis hpol]
  cases hlocked : lockedCheckP t pol.maxFail pol.pwLockoutDuration p with
  | true =>
    -- a refused request is neither counted nor stamped
    have hempty : auditUpdate store dls p t clientRevoked = {} := by
      rw [auditUpdate, if_pos (by decide)]
    rw [if_pos (hiff.mp hlocked)]
    show Counts (lockoutAudit store dls p t clientRevoked) s
    rw [lockoutAudit_of_empty hempty]
    exact h
  | false =>
    have hrefuses : ¬ s.Refuses pol t.toNat := by
      rw [← hiff, hlocked]
      exact Bool.false_ne_true
    have haudit := auditUpdate_eq hdis hpol dls hlocked status
    rw [if_neg hrefuses]
    show Counts (lockoutAudit store dls p t status) _
    by_cases hzero : status = 0
    · rw [if_neg (fun hne => hne.1 hzero), if_pos hzero] at haudit
      rw [if_pos hzero]
      split
      · rename_i hattr
        rw [if_pos hattr] at haudit
        by_cases hcount : p.failAuthCount = 0
        · refine counts_success h ?_ ?_ <;> rw [lockoutAudit, haudit] <;> split <;>
            simp [hcount, Lockout.setOn, LockoutUpdate.apply, Lockout.of]
        · refine counts_success h ?_ ?_ <;> rw [lockoutAudit, haudit] <;>
            simp [hcount, Lockout.setOn, LockoutUpdate.apply, LockoutUpdate.isEmpty]
      · rename_i hattr
        rw [if_neg hattr] at haudit
        rw [lockoutAudit_of_empty haudit]
        exact h
    · rw [if_neg hzero] at haudit ⊢
      by_cases hfailed : status = preauthFailed ∨ status = badIntegrity
      · have hcounted : ¬ (status ≠ 0 ∧ status ≠ preauthFailed ∧ status ≠ badIntegrity) := by
          rintro ⟨-, hne⟩
          exact not_or.mpr hne hfailed
        rw [if_neg hcounted] at haudit
        rw [if_pos hfailed, lockoutAudit, haudit, if_neg (by simp [LockoutUpdate.isEmpty])]
        refine counts_fail h t _ rfl ?_
        simp only [← restarts_iff h t]
        rfl
      · rw [if_pos ⟨hzero, not_or.mp hfailed⟩] at haudit
        rw [if_neg hfailed, lockoutAudit_of_empty haudit]
        exact h

end Step

/-! ### Runs -/

section Run

variable {store : KdcStore} {pol : NamedPolicy} {p₀ : Principal}

/-- What no event changes: the policy and the attributes of the entry. -/
def SameEntry (p₀ p : Principal) : Prop :=
  p.pwPolicy = p₀.pwPolicy ∧ p.attributes = p₀.attributes

theorem SameEntry.step (h : SameEntry p₀ p) (store : KdcStore) (dls : Bool) (event : LockoutEvent) :
    SameEntry p₀ (lockoutStep store dls p event) := by
  cases event with
  | request t status =>
    rw [lockoutStep, lockoutAudit]
    split
    · exact h
    · exact h
  | unlock now actor => exact h

theorem counts_run (hdis : store.policy.disableLockout = false)
    (hpol : ∀ q, q.pwPolicy = p₀.pwPolicy → store.namedPolicyFor q = some pol)
    (hmax : 0 < pol.maxFail) (dls : Bool) (events : List LockoutEvent) {s : Tally}
    (hsame : SameEntry p₀ p) (h : Counts p s) :
    SameEntry p₀ (lockoutRun store dls p events) ∧
      Counts (lockoutRun store dls p events) (s.run pol (attr p₀ kdbRequiresPreAuth) events) := by
  induction events generalizing p s with
  | nil => exact ⟨hsame, h⟩
  | cons event events ih =>
    refine ih (hsame.step store dls event) ?_
    cases event with
    | request t status =>
      have hattr : attr p₀ kdbRequiresPreAuth = attr p kdbRequiresPreAuth := by
        rw [attr, attr, hsame.2]
      rw [hattr]
      exact counts_request hdis (hpol p hsame.1) hmax h dls t status
    | unlock now actor => exact counts_unlock now actor p

theorem rejectIf_eq_error_iff {ε : Type} (c : Bool) (e : ε) : rejectIf c e = .error e ↔ c = true := by
  cases c <;> simp [rejectIf]

/-- **When a principal is locked out.**  After any run of requests and unlocks, over an entry whose
count had not begun, a principal is refused at a time exactly when lockout is not disabled for the
realm and the tally of the run refuses it. -/
theorem locked_out_iff (hpol : ∀ q, q.pwPolicy = p₀.pwPolicy → store.namedPolicyFor q = some pol)
    (hmax : 0 < pol.maxFail) (hfresh : p₀.failAuthCount = 0) (dls : Bool)
    (events : List LockoutEvent) (t : UInt32) :
    lockoutCheckPolicy store (lockoutRun store dls p₀ events) t
        = .error (proto clientRevoked Status.lockedOut) ↔
      store.policy.disableLockout = false ∧
        (Tally.run pol (attr p₀ kdbRequiresPreAuth)
          { failures := [], unlocked := (lastAdminUnlock p₀).toNat } events).Refuses pol t.toNat := by
  cases hdis : store.policy.disableLockout with
  | true =>
    rw [lockoutCheckPolicy, hdis]
    exact ⟨fun h => (nomatch h), fun h => (nomatch h.1)⟩
  | false =>
    have hstart : Counts p₀ { failures := [], unlocked := (lastAdminUnlock p₀).toNat } :=
      ⟨rfl, fun _ => by rw [hfresh]; rfl, fun _ hmem => (nomatch hmem)⟩
    obtain ⟨hsame, hcounts⟩ := counts_run hdis hpol hmax dls events ⟨rfl, rfl⟩ hstart
    rw [lockoutCheckPolicy_eq hdis (hpol _ hsame.1), rejectIf_eq_error_iff,
      lockedCheckP_iff hcounts hmax]
    exact (and_iff_right rfl).symm

end Run

namespace Sample

def lockPolicy (maxFail interval duration : UInt32) : NamedPolicy :=
  { name := str "lock", minLength := 1, minClasses := 1, history := 0, maxFail
    pwFailcntInterval := interval, pwLockoutDuration := duration, pwMinLife := 0, pwMaxLife := 0
    allowedKeysalts := none }

/-- A realm where every principal has a policy. -/
def lockStore (pol : NamedPolicy) : KdcStore where
  realm := str "R"
  policy :=
    { maxLife := 86400, realmMaxRenewableLife := 604800, permittedEnctypes := none,
      allowWeakCrypto := false, allowRc4 := false, allowDes3 := false, capaths := fun _ _ => none,
      rejectBadTransit := true, disablePac := false, adIdentity := false, restrictAnon := false,
      hostBasedServices := [], noHostReferral := [], disableLockout := false,
      skew := 300, pkinitRequireFreshness := false, pkinitIndicators := [],
      spakePreauthIndicators := [], encryptedChallengeIndicator := none,
      realmForHost := fun _ => none }
  fetch _ := .ok none
  pacIdentity _ _ := ⟨[], [], [], []⟩
  namedPolicyFor _ := some pol

def lockUser (preauth : Bool) : Principal where
  name := ⟨PrincipalName.ntPrincipal, [str "alice"]⟩
  realm := str "R"
  keys := []
  attributes := if preauth then kdbRequiresPreAuth else 0

/-- Whether a principal is let through after a run. -/
def passes (pol : NamedPolicy) (preauth : Bool) (events : List LockoutEvent) (t : UInt32) : Bool :=
  (lockoutCheckPolicy (lockStore pol) (lockoutRun (lockStore pol) false (lockUser preauth) events) t).isOk

def failed (t : UInt32) : LockoutEvent := .request t preauthFailed

end Sample

open Sample in
/-- Two failures lock a principal out for a minute. -/
theorem locked_out_twice :
    lockoutCheckPolicy (lockStore (lockPolicy 2 0 60))
        (lockoutRun (lockStore (lockPolicy 2 0 60)) false (lockUser true) [failed 1000, failed 1001])
        1060 = .error (proto clientRevoked Status.lockedOut) := by
  refine (locked_out_iff (fun _ _ => rfl) (by decide) rfl false _ 1060).mpr ⟨rfl, ?_⟩
  decide +kernel

open Sample in
/-- Sums of times are taken in 32 bits: a duration that passes the last second there is, or an interval
that does, ends at once.  A failure in the second of an unlock is not counted, and a success does not
end the count of a principal that need not preauthenticate. -/
theorem lockout_not_as_meant :
    -- one failure at 1000, and 1001 < 1000 + 4294967295
    passes (lockPolicy 1 0 0xFFFFFFFF) true [failed 1000] 1001 = true ∧
      -- two failures a second apart, within the interval
      passes (lockPolicy 2 0xFFFFFFFF 0) true [failed 1000, failed 1001] 1001 = true ∧
      -- a failure after the unlock
      passes (lockPolicy 1 0 0) true [.unlock 1000 [], failed 1000] 1001 = true ∧
      -- a success between two failures
      passes (lockPolicy 2 0 0) false [failed 1000, .request 1001 0, failed 1002] 1003 = false := by
  decide +kernel

end Kerber
