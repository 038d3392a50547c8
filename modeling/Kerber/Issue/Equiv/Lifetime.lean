import Kerber.Issue.AsReq
import Kerber.Issue.Message
import Kerber.Issue.Equiv.TgsReq

/-!
# Ticket lifetimes along a chain of requests

A ticket is encrypted, handed to the client, and comes back as the header of the next request.
`HeaderReachable` is the set of header tickets that arise that way from an initial ticket, with
the decoder's 32-bit reading of the times in between (`EncTicketPart.reread`).

`tgs_lifetime_bounds` bounds the times of each ticket issued along such a chain.  The arithmetic
is 32-bit: a start more than `2 ^ 31` seconds past the end it is measured against makes the
difference wrap to a positive life, and the clamped comparison with a renew-till of `u32::MAX`
cuts nothing.  `TgsStep.Fits` says that a request keeps clear of both.
-/

namespace Kerber.Issue

open Option FlagBit KerberosTime EncTicketPart

variable {ticket : EncTicketPart} {start until_ : Nat}

/-! ### Chains of requests -/

/-- One TGS request, up to the header ticket it comes with. -/
structure TgsStep where
  env : TgsEnv
  body : KdcReqBody
  /-- The server and the realm of the header ticket. -/
  sname : PrincipalName
  realm : Str

/-- The outcome of a request that comes with a header ticket. -/
def TgsStep.run (s : TgsStep) (header : EncTicketPart) : Except Error EncTicketPart :=
  issueTgsBody s.env s.body ⟨s.sname, s.realm, header⟩

/-- The header tickets that arise from an initial ticket by successful requests. -/
inductive HeaderReachable : EncTicketPart → Prop
  | initial (env : AsEnv) (body : KdcReqBody) (ticket : EncTicketPart) {header : EncTicketPart}
      (issued : finishProcessAsReq env body = .ok ticket)
      (wire : ticket.reread = some header) : HeaderReachable header
  | next (s : TgsStep) {u ticket header : EncTicketPart} (reach : HeaderReachable u)
      (issued : s.run u = .ok ticket) (wire : ticket.reread = some header) :
      HeaderReachable header

/-- The request's times, the clock and the second ticket's authtime are 32-bit times. -/
structure TgsStep.Is32 (s : TgsStep) : Prop where
  now : s.env.issueNow.Is32
  «from» : ∀ t ∈ s.body.from, t.Is32
  till : s.body.till.Is32
  stkt : ∀ g r, s.env.resolve g = .ok r → ∀ st ∈ r.stkt, st.authtime.Is32

def TgsStep.renews (s : TgsStep) : Bool := s.body.kdcOptions.bit renew

def TgsStep.validates (s : TgsStep) : Bool := s.body.kdcOptions.bit validate

/-- **The bounds on an issued ticket.**  `life` is measured from the start the ticket states. -/
structure LifetimeBounds (s : TgsStep) (header ticket : EncTicketPart) : Prop where
  end_le : s.renews = false → ticket.endtime.timestamp ≤ header.endtime.timestamp
  renew_end_le : s.renews = true → ∃ till, header.renewTill = some till ∧
    ticket.endtime.timestamp ≤ till.timestamp
  renewTill_le : ∀ r, ticket.renewTill = some r → ∃ till, header.renewTill = some till ∧
    r.timestamp ≤ till.timestamp
  till_le : s.renews = false → s.validates = false → s.body.till.unixSeconds ≠ 0 →
    ticket.endtime.timestamp ≤ s.body.till.timestamp
  server_life_le : s.renews = false → s.validates = false →
    ∀ sname server, s.body.sname = some sname → s.env.searchSprinc sname = .ok server →
      0 < server.maxLife → ticket.endtime.timestamp - ticket.start.timestamp ≤ server.maxLife
  realm_life_le : s.renews = false → s.validates = false → 0 < s.env.store.policy.maxLife →
    ticket.endtime.timestamp - ticket.start.timestamp ≤ s.env.store.policy.maxLife

/-- The request keeps clear of the wrap: a plain request starts at most `2 ^ 31` seconds past
the end it is measured against, and a renewal of a ticket renewable until `u32::MAX` ends inside
the 32-bit range. -/
def TgsStep.Fits (s : TgsStep) (header : EncTicketPart) : Prop :=
  let start := requestStart s.env.issueNow s.body
  if s.renews then
    header.renewTill = some (fromUnixSeconds (2 ^ 32 - 1)) →
      start.timestamp + lifeBetween header.start.unixSeconds header.endtime.unixSeconds < 2 ^ 32
  else
    s.validates = false →
      start.unixSeconds ≤ endUntil (some header.endtime) s.body.till + 2 ^ 31

/-! ### What every header of a chain satisfies -/

/-- The times of a decoded ticket are 32-bit times, and a renewable one has a renew-till. -/
structure HeaderOk (t : EncTicketPart) : Prop where
  authtime : t.authtime.Is32
  endtime : t.endtime.Is32
  renewTill : ∀ r, t.renewTill = some r → r.Is32
  renewable : t.flags.renewable = true → t.renewTill.isSome = true

theorem rereadTime_some {t : Option KerberosTime} {u : Option KerberosTime}
    (h : rereadTime t = some u) : u.isSome = t.isSome ∧ ∀ r, u = some r → r.Is32 := by
  cases t with
  | none => cases h; exact ⟨rfl, fun r hr => by cases hr⟩
  | some s =>
    obtain ⟨v, hv, rfl⟩ := map_eq_some_iff.mp h
    exact ⟨rfl, fun r hr => by cases hr; exact is32_of_mitGeneraltime hv⟩

/-- Decoding settles everything `HeaderOk` asks but the renew-till of a renewable ticket. -/
theorem headerOk_of_reread {t u : EncTicketPart} (h : t.reread = some u)
    (hren : t.flags.renewable = true → t.renewTill.isSome = true) : HeaderOk u := by
  simp only [reread, bind_eq_bind, pure_def,
    bind_eq_some_iff] at h
  obtain ⟨auth, hauth, start, -, fin, hfin, till, htill, heq⟩ := h
  cases heq
  obtain ⟨hsome, htill32⟩ := rereadTime_some htill
  refine ⟨is32_of_mitGeneraltime hauth, is32_of_mitGeneraltime hfin,
    htill32, fun hr => ?_⟩
  rw [hsome]
  exact hren hr

/-! ### The policy modules -/

theorem capAt_le (now : KerberosTime) (adjust : Int) (t : KerberosTime) :
    (capAt now adjust t).timestamp ≤ t.timestamp := by
  unfold capAt
  split
  · split
    · split
      · rename_i cap _ hlt
        have hcap := le_unixSeconds (t := cap)
          (by have := t.unixSeconds_lt; omega)
        have hpos : 0 ≤ t.timestamp := by
          by_contra hneg
          have : t.unixSeconds = 0 := by unfold unixSeconds; split <;> omega
          omega
        have := unixSeconds_le hpos
        omega
      · exact le_refl _
    · exact le_refl _
  · exact le_refl _

/-- The policy modules only shorten: they keep whether there is a renew-till, and move neither
time later. -/
theorem enforceKdcpolicy_ok {now : KerberosTime} :
    ∀ (ps : List (Except Error PolicyAdjustment))
      {times out : KerberosTime × Option KerberosTime},
      enforceKdcpolicy now ps times = .ok out →
        out.1.timestamp ≤ times.1.timestamp ∧ out.2.isSome = times.2.isSome ∧
          ∀ r, out.2 = some r → ∃ r', times.2 = some r' ∧ r.timestamp ≤ r'.timestamp
  | [], times, out, h => by
    cases h
    exact ⟨le_refl _, rfl, fun r hr => ⟨r, hr, le_refl _⟩⟩
  | .error e :: _, _, _, h => by cases h
  | .ok adj :: rest, times, out, h => by
    obtain ⟨h1, h2, h3⟩ := enforceKdcpolicy_ok rest h
    refine ⟨le_trans h1 (capAt_le _ _ _), ?_, fun r hr => ?_⟩
    · rw [h2, applyPolicyTimes, isSome_map]
    · obtain ⟨r', hr', hle⟩ := h3 r hr
      obtain ⟨r'', hr'', rfl⟩ := map_eq_some_iff.mp hr'
      exact ⟨r'', hr'', le_trans hle (capAt_le _ _ _)⟩

/-! ### The end of a plain ticket -/

/-- The life between two 32-bit times is at most their distance, unless the start is more than
`2 ^ 31` ahead. -/
theorem lifeBetween_le (hs : start < 2 ^ 32) (hu : until_ < 2 ^ 32)
    (hnear : start ≤ until_ + 2 ^ 31) : lifeBetween start until_ ≤ (until_ : Int) - start := by
  by_cases hfar : start + 2 ^ 31 ≤ until_
  · -- The difference wraps to a negative one and is taken as `i32::MAX`.
    have hneg := wrappingSubSigned_neg_of_ahead hu hs hfar
    have hpos : until_ > start ∧ wrappingSubSigned until_ start < 0 := ⟨by omega, hneg⟩
    simp only [lifeBetween, if_pos hpos]
    omega
  · have hexact := wrappingSubSigned_eq (a := until_) (b := start) (by omega) hnear
    simp only [lifeBetween, hexact]
    split <;> omega

/-- A start more than `2 ^ 31` ahead of the end gives a positive life. -/
theorem lifeBetween_pos (hs : start < 2 ^ 32) (hu : until_ < 2 ^ 32)
    (hfar : until_ + 2 ^ 31 < start) : 0 < lifeBetween start until_ := by
  have hpos := wrappingSubSigned_pos_of_far hu hs hfar
  simp only [lifeBetween]
  split <;> omega

theorem lifeBetween_bounds (start until_ : Nat) :
    -2 ^ 31 ≤ lifeBetween start until_ ∧ lifeBetween start until_ < 2 ^ 31 := by
  have := wrappingSubSigned_bounds until_ start
  simp only [lifeBetween]
  split <;> omega

/-- A cap shortens a life, keeps a positive one positive, and is kept to when there is one. -/
theorem capLife_spec (life : Int) (maxLife : Nat) :
    capLife life maxLife ≤ life ∧ (0 < life → 0 < capLife life maxLife) ∧
      (life ≤ 0 → capLife life maxLife = life) ∧
      (0 < maxLife → capLife life maxLife ≤ maxLife) := by
  have hle := i64OrMax_le maxLife
  unfold capLife
  split
  · have hpos := i64OrMax_pos (n := maxLife) ‹_›
    omega
  · omega

/-- What `kdc_get_ticket_endtime` computes: the start plus a life that no cap and no wrap can
stretch past `lifeBetween`. -/
theorem kdcGetTicketEndtime_spec (store : PrincipalRead) {start : KerberosTime} (hs : start.Is32)
    (headerEnd : Option KerberosTime) (till : KerberosTime) (client : Option Principal)
    (server : Principal) :
    ∃ life : Int,
      kdcGetTicketEndtime store start headerEnd till client server =
        .ok ⟨start.timestamp + life⟩ ∧
      life ≤ lifeBetween start.unixSeconds (endUntil headerEnd till) ∧
      (0 < lifeBetween start.unixSeconds (endUntil headerEnd till) → 0 < life) ∧
      (0 < server.maxLife → life ≤ server.maxLife) ∧
      (0 < store.policy.maxLife → life ≤ store.policy.maxLife) := by
  set life0 := lifeBetween start.unixSeconds (endUntil headerEnd till) with hlife0
  set life1 := client.elim life0 (fun c => capLife life0 c.maxLife) with hlife1
  set life2 := capLife life1 server.maxLife with hlife2
  set life3 := capLife life2 store.policy.maxLife with hlife3
  have h0 := lifeBetween_bounds start.unixSeconds (endUntil headerEnd till)
  have h1 : life1 ≤ life0 ∧ (0 < life0 → 0 < life1) ∧ (life0 ≤ 0 → life1 = life0) := by
    cases client with
    | none => exact ⟨le_refl _, id, fun _ => rfl⟩
    | some c =>
      obtain ⟨a, b, c', -⟩ := capLife_spec life0 c.maxLife
      exact ⟨a, b, c'⟩
  have h2 := capLife_spec life1 server.maxLife
  have h3 := capLife_spec life2 store.policy.maxLife
  rw [← hlife0] at h0
  rw [← hlife2] at h2
  rw [← hlife3] at h3
  refine ⟨life3, ?_, by omega, by omega, fun h => ?_, fun h => h3.2.2.2 h⟩
  · have hadd := hs.addSeconds_eq (s := life3) (by omega) (by omega)
    simp only [kdcGetTicketEndtime, ← hlife0, ← hlife1, ← hlife2, ← hlife3, hadd]
  · have := h2.2.2.2 h
    omega

/-- The second a plain ticket is measured against is the end of the header or the request's
till, and at most both. -/
theorem endUntil_spec (fin till : KerberosTime) :
    endUntil (some fin) till < 2 ^ 32 ∧ endUntil (some fin) till ≤ fin.unixSeconds ∧
      (till.unixSeconds ≠ 0 → endUntil (some fin) till ≤ till.unixSeconds) ∧
      (endUntil (some fin) till = fin.unixSeconds ∨
        (till.unixSeconds ≠ 0 ∧ endUntil (some fin) till = till.unixSeconds)) := by
  have hf := fin.unixSeconds_lt
  simp only [endUntil, map_some, getD_some, elim_some]
  split <;> omega

/-! ### Renewal -/

theorem kdcGetTicketRenewtime_le {store : PrincipalRead} {body : KdcReqBody} {h : EncTicketPart}
    {client : Option Principal} {server : Principal} {flags : TicketFlags}
    {start fin r : KerberosTime} (hok : HeaderOk h)
    (hr : (kdcGetTicketRenewtime store body (some h) client server flags start fin).1 = some r) :
    ∃ till, h.renewTill = some till ∧ r.timestamp ≤ till.timestamp := by
  simp only [kdcGetTicketRenewtime] at hr
  split at hr
  · cases hr
  split at hr
  · cases hr
  rename_i hren
  obtain ⟨till, htill⟩ := isSome_iff_exists.mp (hok.renewable (by simpa using hren))
  split at hr
  · cases hr
  split at hr
  · cases hr
  cases hr
  refine ⟨till, htill, ?_⟩
  have hle : ∀ rtime, renewSeconds store (some h) client server start rtime ≤ till.unixSeconds := by
    intro rtime
    simp only [renewSeconds, bind_some, htill, elim_some]
    split <;> omega
  have hcoe := (hok.renewTill till htill).coe_unixSeconds
  have := hle ‹KerberosTime›
  simp only [fromUnixSeconds]
  omega

/-- The end of a renewed ticket is at most the renew-till, unless that is `u32::MAX` and the
repeated life leaves the 32-bit range; then it is past it. -/
theorem renewedEnd_le_iff {h : EncTicketPart} {start till : KerberosTime} (hs : start.Is32)
    (ht : till.Is32) (htill : h.renewTill = some till) :
    (renewedEnd h start).timestamp ≤ till.timestamp ↔
      (till = fromUnixSeconds (2 ^ 32 - 1) →
        start.timestamp + lifeBetween h.start.unixSeconds h.endtime.unixSeconds < 2 ^ 32) := by
  obtain ⟨hlo, hhi⟩ := lifeBetween_bounds h.start.unixSeconds h.endtime.unixSeconds
  set hlife := lifeBetween h.start.unixSeconds h.endtime.unixSeconds with hlife_def
  have hadd := hs.addSeconds_eq hlo hhi
  have hcoe := ht.coe_unixSeconds
  obtain ⟨ht0, ht1⟩ := ht
  have hmax : till = fromUnixSeconds (2 ^ 32 - 1) ↔ till.timestamp = 2 ^ 32 - 1 := by
    refine ⟨fun he => ?_, fun he => ?_⟩
    · rw [he]; rfl
    · cases till; exact congrArg KerberosTime.mk he
  simp only [renewedEnd, ← hlife_def, hadd, htill, elim_some, hmax]
  -- The comparison the code makes is between the clamped seconds.
  have hclamp : (⟨start.timestamp + hlife⟩ : KerberosTime).unixSeconds =
      if (start.timestamp + hlife).toNat < 2 ^ 32 then (start.timestamp + hlife).toNat
      else 2 ^ 32 - 1 := rfl
  split
  · rename_i hlt
    rw [hclamp] at hlt
    split at hlt <;> simp only [le_refl, true_iff] <;> omega
  · rename_i hge
    rw [hclamp] at hge
    show start.timestamp + hlife ≤ till.timestamp ↔ _
    split at hge <;> omega

/-! ### Headers of a chain -/

theorem renewable_of_run {env : TgsEnv} {body : KdcReqBody} {header : HeaderTgt}
    (run : TgsRun env body header ticket) (hok : HeaderOk header.encTkt)
    (hren : ticket.flags.renewable = true) : ticket.renewTill.isSome = true := by
  have hkeep := (enforceKdcpolicy_ok env.policies run.policy_ok).2.1
  have htill : ticket.renewTill = run.times.2 :=
    congrArg renewTill run.ticket_eq
  have hflags : ticket.flags = adjustedFlags run.g run.r run.t :=
    congrArg flags run.ticket_eq
  rw [htill, hkeep]
  rw [hflags, KerberosFlags.renewable, bit_adjustedFlags.2 (by decide)] at hren
  cases hr : run.g.renew with
  | true =>
    rw [ticketTimes_renew run.times_ok hr] at hren ⊢
    rw [bit_setIf_transited (by decide)] at hren
    exact ((kdcGetTicketRenewtime_spec _ _ _ _ _ _ _ _).2 hren).1
  | false =>
    cases hv : run.g.validate with
    | true =>
      have hagain := (ticketTimes_flags_again run.times_ok run.renew_eq run.validate_eq
        (by rw [hr, hv]; rfl)).2.1 hren
      rw [ticketTimes_validate run.times_ok hr hv]
      rw [run.encTkt_eq] at hagain ⊢
      exact hok.renewable hagain
    | false =>
      obtain ⟨fin, -, ht⟩ := ticketTimes_plain run.times_ok hr hv
      rw [ht] at hren ⊢
      exact ((kdcGetTicketRenewtime_spec _ _ _ _ _ _ _ _).2 hren).1

theorem renewable_of_finishProcessAsReq {env : AsEnv} {body : KdcReqBody}
    (h : finishProcessAsReq env body = .ok ticket) (hren : ticket.flags.renewable = true) :
    ticket.renewTill.isSome = true := by
  obtain ⟨_, -, h⟩ := bind_ok h
  obtain ⟨fin, -, h⟩ := bind_ok h
  obtain ⟨times, hpol, h⟩ := bind_ok h
  obtain ⟨_, -, h⟩ := bind_ok h
  cases h
  have hkeep := (enforceKdcpolicy_ok env.policies hpol).2.1
  show times.2.isSome = true
  rw [hkeep]
  exact ((kdcGetTicketRenewtime_spec _ _ _ _ _ _ _ _).2 hren).1

/-- **Every header of a chain** has 32-bit times, and a renew-till when it is renewable. -/
theorem HeaderReachable.headerOk {u : EncTicketPart} (h : HeaderReachable u) : HeaderOk u := by
  induction h with
  | initial env body ticket issued wire =>
    exact headerOk_of_reread wire (renewable_of_finishProcessAsReq issued)
  | next s _ issued wire ih =>
    obtain ⟨run⟩ := issueTgsBody_ok issued
    exact headerOk_of_reread wire (renewable_of_run run ih)

/-! ### The bounds -/

theorem start_le_mintTicket {cname : PrincipalName} {crealm : Str} {t : TgsTimes}
    (hs : t.starttime.Is32) (ha : t.authtime.Is32) :
    t.starttime.timestamp ≤ (mintTicket cname crealm t).start.timestamp := by
  have hs' := hs.coe_unixSeconds
  have ha' := ha.coe_unixSeconds
  simp only [mintTicket, start, omitStartIfAuth]
  split
  · exact le_refl _
  · simp only [getD_none]
    have := ha.1
    omega

theorem requestStart_is32 {s : TgsStep} (h32 : s.Is32) :
    (requestStart s.env.issueNow s.body).Is32 := by
  unfold requestStart
  split
  · cases hf : s.body.from with
    | none => exact is32_fromUnixSeconds (by decide)
    | some t => exact h32.from t hf
  · exact h32.now

theorem authtime_is32_of_run {s : TgsStep} {u ticket : EncTicketPart} (h32 : s.Is32)
    (hok : HeaderOk u) (run : TgsRun s.env s.body ⟨s.sname, s.realm, u⟩ ticket)
    (hr : run.g.renew = false) (hv : run.g.validate = false) : run.t.authtime.Is32 := by
  have henc : run.g.encTkt.authtime.Is32 := by rw [run.encTkt_eq]; exact hok.authtime
  obtain ⟨fin, -, ht⟩ := ticketTimes_plain run.times_ok hr hv
  rw [ht]
  show (if run.r.s4u2proxy then _ else _ : KerberosTime).Is32
  split
  · cases hst : run.r.stkt with
    | none => exact henc
    | some st => exact h32.stkt run.g run.r run.resolve_ok st hst
  · exact henc

section Bounds

variable {s : TgsStep} {u ticket : EncTicketPart}

theorem run_times_le (run : TgsRun s.env s.body ⟨s.sname, s.realm, u⟩ ticket) :
    ticket.endtime.timestamp ≤ run.t.end.timestamp ∧
      ∀ r, ticket.renewTill = some r → ∃ r', run.t.ticketRenewTill = some r' ∧
        r.timestamp ≤ r'.timestamp := by
  obtain ⟨hend, -, htill⟩ := enforceKdcpolicy_ok s.env.policies run.policy_ok
  have he : ticket.endtime = run.times.1 := congrArg endtime run.ticket_eq
  have hr : ticket.renewTill = run.times.2 := congrArg renewTill run.ticket_eq
  rw [he, hr]
  exact ⟨hend, htill⟩

theorem run_end_eq (run : TgsRun s.env s.body ⟨s.sname, s.realm, u⟩ ticket)
    (hp : s.env.policies = []) : ticket.endtime = run.t.end := by
  have he : ticket.endtime = run.times.1 := congrArg endtime run.ticket_eq
  have hpol := run.policy_ok
  rw [hp] at hpol
  rw [he, ← Except.ok.inj hpol]

theorem bounds_of_renew (hok : HeaderOk u) (h32 : s.Is32)
    (run : TgsRun s.env s.body ⟨s.sname, s.realm, u⟩ ticket) (hr : s.renews = true) :
    (s.Fits u → LifetimeBounds s u ticket) ∧
      (s.env.policies = [] → LifetimeBounds s u ticket → s.Fits u) := by
  have hgr : run.g.renew = true := by rw [run.renew_eq]; exact hr
  have ht := ticketTimes_renew run.times_ok hgr
  have henc : run.g.encTkt = u := run.encTkt_eq
  rw [henc] at ht
  obtain ⟨till, htill, -⟩ := run.skeleton_ok.unexpired hgr
  have h32till := hok.renewTill till htill
  have hiff := renewedEnd_le_iff (requestStart_is32 h32) h32till htill
  have hfits : s.Fits u ↔ (till = fromUnixSeconds (2 ^ 32 - 1) →
      (requestStart s.env.issueNow s.body).timestamp +
        lifeBetween u.start.unixSeconds u.endtime.unixSeconds < 2 ^ 32) := by
    simp only [TgsStep.Fits, hr, if_true, show u.renewTill = some till from htill,
      some.injEq]
  rw [hfits, ← hiff]
  refine ⟨fun hle => ?_, fun hp hb => ?_⟩
  · obtain ⟨hend, hrt⟩ := run_times_le run
    refine ⟨fun hn => ?_, fun _ => ⟨till, htill, ?_⟩, fun r hr' => ?_, fun hn => ?_, fun hn => ?_,
      fun hn => ?_⟩
    · rw [hr] at hn; cases hn
    · rw [ht] at hend
      exact le_trans hend hle
    · obtain ⟨r', hr'', hle'⟩ := hrt r hr'
      rw [ht] at hr''
      have hok' : HeaderOk run.g.encTkt := by rw [henc]; exact hok
      obtain ⟨till', htill', hle''⟩ := kdcGetTicketRenewtime_le hok' hr''
      rw [henc] at htill'
      exact ⟨till', htill', le_trans hle' hle''⟩
    all_goals rw [hr] at hn; cases hn
  · obtain ⟨till', htill', hle⟩ := hb.renew_end_le hr
    have heq : till' = till := some.inj (htill'.symm.trans htill)
    rw [run_end_eq run hp, ht, heq] at hle
    exact hle

theorem bounds_of_validate (run : TgsRun s.env s.body ⟨s.sname, s.realm, u⟩ ticket)
    (hr : s.renews = false) (hv : s.validates = true) :
    s.Fits u ∧ LifetimeBounds s u ticket := by
  have hgr : run.g.renew = false := by rw [run.renew_eq]; exact hr
  have hgv : run.g.validate = true := by rw [run.validate_eq]; exact hv
  have ht := ticketTimes_validate run.times_ok hgr hgv
  have henc : run.g.encTkt = u := run.encTkt_eq
  rw [henc] at ht
  obtain ⟨hend, hrt⟩ := run_times_le run
  rw [ht] at hend hrt
  refine ⟨?_, fun _ => hend, fun hn => ?_, hrt, fun _ hn => ?_, fun _ hn => ?_, fun _ hn => ?_⟩
  · simp only [TgsStep.Fits, hr, hv, Bool.false_eq_true, if_false, Bool.true_eq_false,
      false_implies]
  · rw [hr] at hn; cases hn
  all_goals rw [hv] at hn; cases hn

theorem bounds_of_plain (hok : HeaderOk u) (h32 : s.Is32)
    (run : TgsRun s.env s.body ⟨s.sname, s.realm, u⟩ ticket) (hr : s.renews = false)
    (hv : s.validates = false) :
    (s.Fits u → LifetimeBounds s u ticket) ∧
      (s.env.policies = [] → LifetimeBounds s u ticket → s.Fits u) := by
  have hgr : run.g.renew = false := by rw [run.renew_eq]; exact hr
  have hgv : run.g.validate = false := by rw [run.validate_eq]; exact hv
  have hauth := authtime_is32_of_run h32 hok run hgr hgv
  have henc : run.g.encTkt = u := run.encTkt_eq
  obtain ⟨fin, hfin, ht⟩ := ticketTimes_plain run.times_ok hgr hgv
  have hs := requestStart_is32 h32
  rw [henc] at hfin
  obtain ⟨life, hlife, hle, hpos, hserver, hrealm⟩ :=
    kdcGetTicketEndtime_spec s.env.store hs (some u.endtime) s.body.till run.client
      (run.g.issueServer run.r)
  rw [hlife] at hfin
  cases hfin
  obtain ⟨hu32, huend, hutill, hueq⟩ := endUntil_spec u.endtime s.body.till
  have hs' := hs.coe_unixSeconds
  have hend' := hok.endtime.coe_unixSeconds
  have htill' := h32.till.coe_unixSeconds
  have hslt := (requestStart s.env.issueNow s.body).unixSeconds_lt
  have hfits : s.Fits u ↔ (requestStart s.env.issueNow s.body).unixSeconds ≤
      endUntil (some u.endtime) s.body.till + 2 ^ 31 := by
    simp only [TgsStep.Fits, hr, hv, Bool.false_eq_true, if_false, true_implies]
  rw [hfits]
  have htend : run.t.end.timestamp = (requestStart s.env.issueNow s.body).timestamp + life := by
    rw [ht]
  refine ⟨fun hnear => ?_, fun hp hb => ?_⟩
  · have hlen := lifeBetween_le hslt hu32 hnear
    obtain ⟨hend, hrt⟩ := run_times_le run
    have hstart : (requestStart s.env.issueNow s.body).timestamp ≤ ticket.start.timestamp := by
      have hst : run.t.starttime = requestStart s.env.issueNow s.body := by rw [ht]
      rw [run.ticket_eq, ← hst]
      exact start_le_mintTicket (t := { run.t with
          flags := adjustedFlags run.g run.r run.t, «end» := run.times.1,
          ticketRenewTill := run.times.2 }) (hst ▸ hs) hauth
    refine ⟨fun _ => by omega, fun hn => ?_, fun r hr' => ?_, fun _ _ htn => ?_,
      fun _ _ sname server hsn hsrv hmax => ?_, fun _ _ hmax => ?_⟩
    · rw [hr] at hn; cases hn
    · obtain ⟨r', hr'', hle'⟩ := hrt r hr'
      rw [ht] at hr''
      have hok' : HeaderOk run.g.encTkt := by rw [henc]; exact hok
      obtain ⟨till', htill', hle''⟩ := kdcGetTicketRenewtime_le hok' hr''
      rw [henc] at htill'
      exact ⟨till', htill', le_trans hle' hle''⟩
    · have := hutill htn
      omega
    · -- The entry the search found is the one the life was capped with.
      have hname : sname = run.g.sname := some.inj (hsn.symm.trans run.sname_eq)
      have hentry : server = run.g.server := by
        rw [hname, run.search_ok] at hsrv
        exact (Except.ok.inj hsrv).symm
      have hmaxLife : (run.g.issueServer run.r).maxLife = server.maxLife := by
        rw [hentry, TgsGather.issueServer]
        split <;> rfl
      have := hserver (by rw [hmaxLife]; exact hmax)
      rw [hmaxLife] at this
      omega
    · have := hrealm hmax
      omega
  · by_contra hfar
    have hlpos := hpos (lifeBetween_pos hslt hu32 (by omega))
    have hendeq : ticket.endtime.timestamp =
        (requestStart s.env.issueNow s.body).timestamp + life := by
      rw [run_end_eq run hp, htend]
    -- The ticket ends after its start, which is past the end it was measured against.
    rcases hueq with heq | ⟨htn, heq⟩
    · have := hb.end_le hr
      omega
    · have := hb.till_le hr hv htn
      omega

end Bounds

/-- **Lifetimes along a chain.**  Take any header that arises in a chain of requests from an
initial ticket, and a request with 32-bit times that succeeds with it.  If the request keeps
clear of the wrap, the new ticket ends by the header's end (by its renew-till, for a renewal), is
renewable no longer than the header, and outside renewal and validation ends by the request's
till and lives no longer than the server and the realm allow.  Where no policy module shortens
the ticket, the bounds hold exactly for those requests. -/
theorem tgs_lifetime_bounds (s : TgsStep) (u ticket : EncTicketPart) (hu : HeaderReachable u)
    (h32 : s.Is32) (h : s.run u = .ok ticket) :
    (s.Fits u → LifetimeBounds s u ticket) ∧
      (s.env.policies = [] → LifetimeBounds s u ticket → s.Fits u) := by
  obtain ⟨run⟩ := issueTgsBody_ok h
  cases hr : s.renews with
  | true => exact bounds_of_renew hu.headerOk h32 run hr
  | false =>
    cases hv : s.validates with
    | true =>
      obtain ⟨hfits, hb⟩ := bounds_of_validate run hr hv
      exact ⟨fun _ => hb, fun _ _ => hfits⟩
    | false => exact bounds_of_plain hu.headerOk h32 run hr hv

/-! ### Two chains -/

namespace Sample

/-- An AS exchange at second 1000. -/
def asEnv : AsEnv :=
  { store, kdcTime := 1000, client := { service with name := ⟨1, [str "alice"]⟩ },
    server := { service with name := PrincipalName.krbtgt (str "R") },
    cname := ⟨1, [str "alice"]⟩, crealm := str "R", skipTimestamp := true, hwPreauth := false,
    keys := .ok (), policies := [], encode := .ok () }

/-- The postdatable ticket-granting ticket it issues, as the next request decodes it. -/
def postdatable : EncTicketPart :=
  { flags := KerberosFlags.none |>.withBit mayPostdate true
      |>.withBit encPaRep true |>.withBit initial true
      |>.withBit preAuthent true,
    crealm := str "R", cname := ⟨1, [str "alice"]⟩, authtime := ⟨1000⟩, starttime := none,
    endtime := ⟨37000⟩, renewTill := none }

theorem postdatable_reachable : HeaderReachable postdatable :=
  .initial asEnv (body [mayPostdate] none ⟨0⟩) postdatable rfl rfl

/-- A request with the ticket-granting ticket of the realm. -/
def step (options : List Nat) («from» : Option KerberosTime) (till : KerberosTime) : TgsStep :=
  { env, body := body options «from» till, sname := PrincipalName.krbtgt (str "R"),
    realm := str "R" }

theorem step_is32 (options : List Nat) {«from» : Option KerberosTime} {till : KerberosTime}
    (hfrom : ∀ t ∈ «from», t.Is32) (htill : till.Is32) : (step options «from» till).Is32 where
  now := show (⟨2000⟩ : KerberosTime).Is32 by decide
  «from» := hfrom
  till := htill
  stkt := by
    intro g r hr st hst
    cases hr
    cases hst

/-- What a postdated request for second 2147520649 gets: its start is `2 ^ 31 + 1` seconds past
the end of the header. -/
def outliving : EncTicketPart :=
  { flags := KerberosFlags.none |>.withBit postdated true
      |>.withBit encPaRep true |>.withBit invalid true
      |>.withBit preAuthent true |>.withBit transitedPolicyChecked true,
    crealm := str "R", cname := ⟨1, [str "alice"]⟩, authtime := ⟨1000⟩,
    starttime := some ⟨2147520649⟩, endtime := ⟨2147556649⟩, renewTill := none }

end Sample

/-- A service ticket asked for with a till stays inside it. -/
theorem tgs_lifetime_bounds_service_ticket :
    LifetimeBounds (Sample.step [] none ⟨30000⟩) Sample.postdatable
      { Sample.ticket with
        flags := KerberosFlags.none |>.withBit encPaRep true
          |>.withBit preAuthent true |>.withBit transitedPolicyChecked true,
        cname := ⟨1, [str "alice"]⟩, endtime := ⟨30000⟩ } :=
  (tgs_lifetime_bounds (Sample.step [] none ⟨30000⟩) Sample.postdatable _
    Sample.postdatable_reachable (Sample.step_is32 [] (by simp) (by decide)) rfl).1
    (by unfold TgsStep.Fits; decide)

/-- A postdated request whose start is more than `2 ^ 31` seconds past the end of the header is
granted a ticket that ends after the header does. -/
theorem postdated_ticket_outlives_header :
    HeaderReachable Sample.postdatable ∧
    (Sample.step [postdated] (some ⟨2147520649⟩) ⟨0⟩).Is32 ∧
    (Sample.step [postdated] (some ⟨2147520649⟩) ⟨0⟩).renews = false ∧
    (Sample.step [postdated] (some ⟨2147520649⟩) ⟨0⟩).run Sample.postdatable =
      .ok Sample.outliving ∧
    Sample.postdatable.endtime.timestamp < Sample.outliving.endtime.timestamp :=
  ⟨Sample.postdatable_reachable, Sample.step_is32 _ (by simp; decide) (by decide), by decide, rfl,
    by decide⟩

end Kerber.Issue
