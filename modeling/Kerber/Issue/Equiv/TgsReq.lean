import Kerber.Issue.Equiv.Flags

/-!
# A successful TGS request, taken apart

`TgsRun` is the record of one successful run of `issueTgsBody`: what was gathered, what the other
steps settled, the times and flags that came out, and the fact that each stage succeeded.
`issueTgsBody_ok` takes a successful request apart into it, once for every result about tickets.
The first of these is here: no flag of a ticket escalates (`issueTgsBody_flags_le`).
-/

namespace Kerber.Issue

open FlagBit

variable {m : Nat}

open KerberosFlags

/-- The flags after the S4U2Self adjustment. -/
def adjustedFlags (g : TgsGather) (r : TgsResolved) (t : TgsTimes) : TicketFlags :=
  if r.s4u2self && !r.s4uReferral then s4u2selfForwardable (g.issueServer r) t.flags else t.flags

/-- One successful run of `issueTgsBody`. -/
structure TgsRun (env : TgsEnv) (body : KdcReqBody) (header : HeaderTgt)
    (ticket : EncTicketPart) where
  g : TgsGather
  r : TgsResolved
  client : Option Principal
  setTransitedFlag : Bool
  t : TgsTimes
  times : KerberosTime × Option KerberosTime
  encTkt_eq : g.encTkt = header.encTkt
  renew_eq : g.renew = body.kdcOptions.bit renew
  validate_eq : g.validate = body.kdcOptions.bit validate
  not_both : (g.renew && g.validate) = false
  sname_eq : body.sname = some g.sname
  search_ok : env.searchSprinc g.sname = .ok g.server
  resolve_ok : env.resolve g = .ok r
  skeleton_ok : SkeletonOk env.checkNow body header.encTkt g.renew g.validate
  times_ok : ticketTimes env body g r client setTransitedFlag = .ok t
  policy_ok : enforceKdcpolicy env.issueNow env.policies (t.end, t.ticketRenewTill) = .ok times
  ticket_eq : ticket = mintTicket r.ticketCname r.ticketCrealm
    { t with flags := adjustedFlags g r t, «end» := times.1, ticketRenewTill := times.2 }

/-- **Every successful request has such a run.** -/
theorem issueTgsBody_ok {env : TgsEnv} {body : KdcReqBody} {header : HeaderTgt}
    {ticket : EncTicketPart} (h : issueTgsBody env body header = .ok ticket) :
    Nonempty (TgsRun env body header ticket) := by
  obtain ⟨g, hg, h⟩ := bind_ok h
  obtain ⟨⟨r, t'⟩, hc, h⟩ := bind_ok h
  obtain ⟨_, -, h⟩ := bind_ok h
  -- gather
  obtain ⟨-, hg⟩ := rejectIf_bind_ok hg
  obtain ⟨hboth, hg⟩ := rejectIf_bind_ok hg
  obtain ⟨sname, hsname, hg⟩ := bind_ok hg
  obtain ⟨-, hg⟩ := rejectIf_bind_ok hg
  obtain ⟨_, -, hg⟩ := bind_ok hg
  obtain ⟨server, hsearch, hg⟩ := bind_ok hg
  cases hg
  -- check
  obtain ⟨_, hskel, hc⟩ := bind_ok hc
  obtain ⟨r', hres, hc⟩ := bind_ok hc
  obtain ⟨_, -, hc⟩ := bind_ok hc
  obtain ⟨setT, -, hc⟩ := bind_ok hc
  obtain ⟨t'', hft, hc⟩ := bind_ok hc
  cases hc
  -- flags, times, policy
  obtain ⟨_, -, hft⟩ := bind_ok hft
  obtain ⟨client, -, hft⟩ := bind_ok hft
  obtain ⟨t, ht, hft⟩ := bind_ok hft
  obtain ⟨times, hpol, hft⟩ := bind_ok hft
  cases hft
  cases h
  exact ⟨{ r := r, client := client, setTransitedFlag := setT, t := t, times := times,
           encTkt_eq := rfl, renew_eq := rfl, validate_eq := rfl, not_both := hboth,
           sname_eq := elim_ok hsname, search_ok := hsearch, resolve_ok := hres,
           skeleton_ok := checkTgsConstraintsSkeleton_ok hskel, times_ok := ht,
           policy_ok := hpol, ticket_eq := rfl, .. }⟩

/-! ### The three kinds of request -/

section Kinds

variable {env : TgsEnv} {body : KdcReqBody} {g : TgsGather} {r : TgsResolved}
  {client : Option Principal} {setT : Bool} {t : TgsTimes}

def renewalResult (env : TgsEnv) (body : KdcReqBody) (g : TgsGather) (r : TgsResolved)
    (client : Option Principal) : Option KerberosTime × TicketFlags :=
  kdcGetTicketRenewtime env.store body (some g.encTkt) client (g.issueServer r)
    (getTicketFlags body.kdcOptions client (g.issueServer r) (some g.encTkt.flags))
    (requestStart env.issueNow body) (renewedEnd g.encTkt (requestStart env.issueNow body))

theorem ticketTimes_renew (ht : ticketTimes env body g r client setT = .ok t)
    (hr : g.renew = true) :
    t = { authtime := g.encTkt.authtime, starttime := requestStart env.issueNow body,
          «end» := renewedEnd g.encTkt (requestStart env.issueNow body),
          flags := setIf setT transitedPolicyChecked true
            (renewalResult env body g r client).2,
          ticketRenewTill := (renewalResult env body g r client).1 } := by
  simp only [ticketTimes, hr, if_true] at ht
  obtain ⟨-, ht⟩ := rejectIf_bind_ok ht
  cases ht
  rfl

theorem ticketTimes_validate (ht : ticketTimes env body g r client setT = .ok t)
    (hr : g.renew = false) (hv : g.validate = true) :
    t = { authtime := g.encTkt.authtime, starttime := g.encTkt.start,
          «end» := g.encTkt.endtime,
          flags := setIf setT transitedPolicyChecked true
            (getTicketFlags body.kdcOptions client (g.issueServer r) (some g.encTkt.flags)),
          ticketRenewTill := g.encTkt.renewTill } := by
  simp only [ticketTimes, hr, hv, Bool.false_eq_true, if_false, if_true] at ht
  cases ht
  rfl

/-- The renew-till and the flags of a request that neither renews nor validates. -/
def plainResult (env : TgsEnv) (body : KdcReqBody) (g : TgsGather) (r : TgsResolved)
    (client : Option Principal) (setT : Bool) (fin : KerberosTime) :
    Option KerberosTime × TicketFlags :=
  kdcGetTicketRenewtime env.store body (some g.encTkt) client (g.issueServer r)
    (setIf setT transitedPolicyChecked true
      (getTicketFlags body.kdcOptions client (g.issueServer r) (some g.encTkt.flags)))
    (requestStart env.issueNow body) fin

theorem ticketTimes_plain (ht : ticketTimes env body g r client setT = .ok t)
    (hr : g.renew = false) (hv : g.validate = false) :
    ∃ fin, kdcGetTicketEndtime env.store (requestStart env.issueNow body)
        (some g.encTkt.endtime) body.till client (g.issueServer r) = .ok fin ∧
      t = { authtime := if r.s4u2proxy then (r.stkt.getD g.encTkt).authtime
                        else g.encTkt.authtime,
            starttime := requestStart env.issueNow body, «end» := fin,
            flags := (plainResult env body g r client setT fin).2,
            ticketRenewTill := (plainResult env body g r client setT fin).1 } := by
  simp only [ticketTimes, hr, hv, Bool.false_eq_true, if_false] at ht
  obtain ⟨fin, hfin, ht⟩ := bind_ok ht
  cases ht
  exact ⟨fin, hfin, rfl⟩

/-! ### The flags of the result -/

/-- The flags a request settles itself, whatever the header has. -/
def settledFlags : List Nat :=
  [FlagBit.renewable, transitedPolicyChecked, FlagBit.invalid]

theorem ne_of_not_mem_settledFlags (hm : m ∉ settledFlags) :
    FlagBit.renewable ≠ m ∧ transitedPolicyChecked ≠ m ∧ FlagBit.invalid ≠ m := by
  simp only [settledFlags, List.mem_cons, List.not_mem_nil, or_false, not_or] at hm
  exact ⟨Ne.symm hm.1, Ne.symm hm.2.1, Ne.symm hm.2.2⟩

theorem bit_setIf_transited {c : Bool} {f : TicketFlags} (hm : transitedPolicyChecked ≠ m) :
    (setIf c transitedPolicyChecked true f).bit m = f.bit m := by
  cases c with
  | false => rfl
  | true => exact bit_withBit_ne f hm true

variable (ht : ticketTimes env body g r client setT = .ok t)
  (hrenew : g.renew = body.kdcOptions.bit renew) (hvalidate : g.validate = body.kdcOptions.bit validate)

include ht hrenew hvalidate

/-- A renewed or validated ticket has the header's flags, but for INVALID, which is clear, the
transited flag, and RENEWABLE, which only a renewable header passes on. -/
theorem ticketTimes_flags_again (hagain : (g.renew || g.validate) = true) :
    (∀ m, m ∉ settledFlags →
      t.flags.bit m = g.encTkt.flags.bit m) ∧
    (t.flags.bit FlagBit.renewable = true → g.encTkt.flags.renewable = true) ∧
    t.flags.bit FlagBit.invalid = false := by
  have hreq : (body.kdcOptions.bit validate || body.kdcOptions.bit renew) = true := by
    rw [← hvalidate, ← hrenew, Bool.or_comm]; exact hagain
  have hflags := getTicketFlags_again client (g.issueServer r) g.encTkt.flags hreq
  cases hr : g.renew with
  | true =>
    obtain rfl := ticketTimes_renew ht hr
    obtain ⟨hother, hren⟩ := kdcGetTicketRenewtime_spec env.store body (some g.encTkt) client
      (g.issueServer r)
      (getTicketFlags body.kdcOptions client (g.issueServer r) (some g.encTkt.flags))
      (requestStart env.issueNow body)
      (renewedEnd g.encTkt (requestStart env.issueNow body))
    refine ⟨fun m hm => ?_, fun h => ?_, ?_⟩
    · obtain ⟨hr', ht', hi'⟩ := ne_of_not_mem_settledFlags hm
      rw [bit_setIf_transited ht', renewalResult, hother m hr', hflags, bit_withBit_ne _ hi']
    · rw [bit_setIf_transited (by decide)] at h
      exact (hren h).2 g.encTkt rfl
    · rw [bit_setIf_transited (by decide), renewalResult, hother _ (by decide), hflags,
        bit_withBit_false]
  | false =>
    obtain rfl := ticketTimes_validate ht hr (by simpa [hr] using hagain)
    rw [hflags]
    refine ⟨fun m hm => ?_, fun h => ?_, ?_⟩
    · obtain ⟨-, ht', hi'⟩ := ne_of_not_mem_settledFlags hm
      rw [bit_setIf_transited ht', bit_withBit_ne _ hi']
    · rwa [bit_setIf_transited (by decide), bit_withBit_ne _ (by decide)] at h
    · rw [bit_setIf_transited (by decide), bit_withBit_false]

/-- Any other ticket has the flags `headerFlags` gives, less what the attributes clear, and
RENEWABLE only from a renewable header. -/
theorem ticketTimes_flags_plain (hr : g.renew = false) (hv : g.validate = false) :
    (∀ m, m ∉ settledFlags →
      t.flags.bit m = (limitFlags client (g.issueServer r)
        (headerFlags g.encTkt.flags (g.issueServer r) (optsToFlags body.kdcOptions))).bit m) ∧
    (t.flags.bit FlagBit.renewable = true → g.encTkt.flags.renewable = true) := by
  have hreq : (body.kdcOptions.bit validate || body.kdcOptions.bit renew) = false := by
    rw [← hvalidate, ← hrenew, hr, hv]; rfl
  have hflags := getTicketFlags_plain client (g.issueServer r) g.encTkt.flags hreq
  obtain ⟨fin, -, rfl⟩ := ticketTimes_plain ht hr hv
  obtain ⟨hother, hren⟩ := kdcGetTicketRenewtime_spec env.store body (some g.encTkt) client
    (g.issueServer r)
    (setIf setT transitedPolicyChecked true
      (getTicketFlags body.kdcOptions client (g.issueServer r) (some g.encTkt.flags)))
    (requestStart env.issueNow body) fin
  refine ⟨fun m hm => ?_, fun h => (hren h).2 g.encTkt rfl⟩
  obtain ⟨hr', ht', -⟩ := ne_of_not_mem_settledFlags hm
  rw [plainResult, hother m hr', bit_setIf_transited ht', hflags]

end Kinds

/-- S4U2Self only clears FORWARDABLE. -/
theorem bit_adjustedFlags {g : TgsGather} {r : TgsResolved} {t : TgsTimes} :
    ((adjustedFlags g r t).bit m = true → t.flags.bit m = true) ∧
    (FlagBit.forwardable ≠ m → (adjustedFlags g r t).bit m = t.flags.bit m) := by
  unfold adjustedFlags s4u2selfForwardable
  split
  · split
    · exact ⟨id, fun _ => rfl⟩
    · exact ⟨fun h => (bit_of_bit_withBit h).resolve_left (by simp),
        fun hm => bit_withBit_ne _ hm false⟩
  · exact ⟨id, fun _ => rfl⟩

/-- The flags a ticket may have only when its header has them. -/
def guardedFlags : List Nat :=
  [FlagBit.forwardable, FlagBit.proxiable, mayPostdate, FlagBit.renewable,
    preAuthent, hwAuthent, anonymous]

/-- The flags a ticket keeps from its header. -/
def keptFlags : List Nat :=
  [forwarded, proxy, anonymous]

theorem guardedFlags_not_settled :
    ∀ m ∈ guardedFlags, m ≠ FlagBit.renewable → m ∉ settledFlags := by
  decide

theorem keptFlags_copied :
    ∀ m ∈ keptFlags, m ∈ copiedFlags ∧ m ∉ settledFlags ∧ FlagBit.forwardable ≠ m ∧
      FlagBit.proxiable ≠ m := by
  decide

/-- A flag no request and no server sets can only have been copied from the header. -/
theorem header_of_copied {h : TicketFlags} {server : Principal} {req : KdcOptions}
    (hm : (headerFlags h server (optsToFlags req)).bit m = true)
    (hnew : m ∉ encPaRep :: FlagBit.invalid :: okAsDelegate :: optionFlags) :
    h.bit m = true := by
  simp only [List.mem_cons, not_or] at hnew
  obtain ⟨henc, hinv, hdel, hopt⟩ := hnew
  rcases (of_bit_headerFlags hm).1 with ⟨hc, _⟩ | hc | ⟨hc, _⟩ | ⟨_, hc⟩ | hc
  · exact absurd hc hopt
  · exact absurd hc henc
  · exact absurd hc hinv
  · exact hc
  · exact absurd hc hdel

/-- A guarded flag of a plain ticket is a flag of the header: FORWARDABLE, PROXIABLE and
ANONYMOUS by the header's consent, MAY_POSTDATE by the constraints, the others by copying. -/
theorem header_of_headerFlags {now : KerberosTime} {body : KdcReqBody} {encTkt : EncTicketPart}
    {renew validate : Bool} {server : Principal}
    (hok : SkeletonOk now body encTkt renew validate) (hmem : m ∈ guardedFlags)
    (hne : m ≠ FlagBit.renewable)
    (hm : (headerFlags encTkt.flags server (optsToFlags body.kdcOptions)).bit m = true) :
    encTkt.flags.bit m = true := by
  obtain ⟨horigin, hconsent⟩ := of_bit_headerFlags hm
  simp only [guardedFlags, List.mem_cons, List.not_mem_nil, or_false] at hmem
  rcases hmem with rfl | rfl | rfl | rfl | rfl | rfl | rfl
  · exact hconsent (by decide)
  · exact hconsent (by decide)
  · -- MAY_POSTDATE can only come from the request, which the constraints let ask for it.
    rcases horigin with ⟨_, hopt⟩ | h | ⟨h, _⟩ | ⟨h, _⟩ | h
    · exact hok.postdatable (.inl hopt)
    all_goals exact absurd h (by decide)
  · exact absurd rfl hne
  · exact header_of_copied hm (by decide)
  · exact header_of_copied hm (by decide)
  · exact hconsent (by decide)

/-- **No flag escalates.**  A ticket issued from a header ticket is forwardable, proxiable,
postdatable, renewable, pre-authenticated, hardware-authenticated or anonymous only when the
header is; it is INITIAL only as the renewal or validation of an INITIAL ticket; it stays
forwarded, proxied and anonymous; and an INVALID header needs a VALIDATE request made at or after
its start, which clears the flag. -/
theorem issueTgsBody_flags_le (env : TgsEnv) (body : KdcReqBody) (header : HeaderTgt)
    (ticket : EncTicketPart) (h : issueTgsBody env body header = .ok ticket) :
    (∀ m ∈ guardedFlags, ticket.flags.bit m = true → header.encTkt.flags.bit m = true) ∧
    (ticket.flags.bit initial = true →
      (body.kdcOptions.bit renew = true ∨ body.kdcOptions.bit validate = true) ∧
        header.encTkt.flags.bit initial = true) ∧
    (∀ m ∈ keptFlags,
      header.encTkt.flags.bit m = true → ticket.flags.bit m = true) ∧
    (header.encTkt.flags.invalid = true →
      body.kdcOptions.bit validate = true ∧
        header.encTkt.start.timestamp ≤ env.checkNow.timestamp ∧
        ticket.flags.invalid = false) := by
  obtain ⟨run⟩ := issueTgsBody_ok h
  have hflags : ticket.flags = adjustedFlags run.g run.r run.t :=
    congrArg EncTicketPart.flags run.ticket_eq
  have hok := run.skeleton_ok
  rw [hflags, ← run.encTkt_eq]
  rw [← run.encTkt_eq] at hok
  cases hagain : (run.g.renew || run.g.validate) with
  | true =>
    obtain ⟨hsame, hren, hinv⟩ :=
      ticketTimes_flags_again run.times_ok run.renew_eq run.validate_eq hagain
    refine ⟨fun m hm hb => ?_, fun hb => ⟨?_, ?_⟩, fun m hm hb => ?_, fun hi => ⟨?_, ?_, ?_⟩⟩
    · by_cases hmr : m = FlagBit.renewable
      · subst hmr; exact hren (bit_adjustedFlags.1 hb)
      · rw [← hsame m (guardedFlags_not_settled m hm hmr)]
        exact bit_adjustedFlags.1 hb
    · rw [← run.renew_eq, ← run.validate_eq]
      simpa using hagain
    · rw [← hsame _ (by decide)]
      exact bit_adjustedFlags.1 hb
    · obtain ⟨-, hset, hfwd, -⟩ := keptFlags_copied m hm
      rw [bit_adjustedFlags.2 hfwd, hsame m hset]
      exact hb
    · rw [← run.validate_eq]; exact hok.invalid hi
    · exact hok.started (hok.invalid hi)
    · rw [KerberosFlags.invalid, bit_adjustedFlags.2 (by decide)]; exact hinv
  | false =>
    obtain ⟨hr, hv⟩ : run.g.renew = false ∧ run.g.validate = false := by simpa using hagain
    obtain ⟨hsame, hren⟩ :=
      ticketTimes_flags_plain run.times_ok run.renew_eq run.validate_eq hr hv
    refine ⟨fun m hm hb => ?_, fun hb => ?_, fun m hm hb => ?_, fun hi => ?_⟩
    · by_cases hmr : m = FlagBit.renewable
      · subst hmr; exact hren (bit_adjustedFlags.1 hb)
      · have hb := bit_adjustedFlags.1 hb
        rw [hsame m (guardedFlags_not_settled m hm hmr)] at hb
        exact header_of_headerFlags hok hm hmr (of_bit_limitFlags hb)
    · -- A plain request sets no INITIAL flag at all.
      have hb := bit_adjustedFlags.1 hb
      rw [hsame _ (by decide)] at hb
      rcases (of_bit_headerFlags (of_bit_limitFlags hb)).1 with
        ⟨hc, _⟩ | hc | ⟨hc, _⟩ | ⟨hc, _⟩ | hc
      all_goals exact absurd hc (by decide)
    · obtain ⟨hcopy, hset, hfwd, hprox⟩ := keptFlags_copied m hm
      rw [bit_adjustedFlags.2 hfwd, hsame m hset]
      exact bit_limitFlags_of_bit (bit_headerFlags_of_header hcopy hb) hprox hfwd
    · exact absurd (hok.invalid hi) (by rw [hv]; decide)

/-! ### A realm to try it in -/

namespace Sample

/-- A realm with a maximum life of ten hours and nothing else in it. -/
def store : PrincipalRead :=
  { realm := str "R", policy := { maxLife := 36000, realmMaxRenewableLife := 0 },
    fetchName := fun _ => .ok .none }

def service : Principal :=
  { name := ⟨PrincipalName.ntSrvHst, [str "host", str "a"]⟩, realm := str "R", keys := [] }

/-- A run at second 2000 in which nothing but the modelled checks can refuse. -/
def env : TgsEnv :=
  { store, checkNow := ⟨2000⟩, dbNow := 2000, issueNow := ⟨2000⟩, verifyPac := .ok (),
    searchSprinc := fun _ => .ok service,
    resolve := fun g => .ok { s4u2self := false, s4uLocal := .none, s4uReferral := false,
                              s4u2proxy := false, stkt := .none, ticketCname := g.encTkt.cname,
                              ticketCrealm := g.encTkt.crealm },
    policyChecks := fun _ _ => .ok true, randomKey := .ok (), policies := [], encode := .ok () }

def body (options : List Nat) («from» : Option KerberosTime) (till : KerberosTime) : KdcReqBody :=
  { kdcOptions := options.foldl (fun f b => f.withBit b true) KerberosFlags.none,
    sname := some service.name, realm := str "R", «from», till, rtime := .none }

/-- A forwardable ticket-granting ticket of a client. -/
def header : HeaderTgt :=
  { sname := PrincipalName.krbtgt (str "R"), realm := str "R",
    encTkt :=
      { flags := KerberosFlags.none |>.withBit FlagBit.forwardable true
          |>.withBit initial true |>.withBit preAuthent true,
        crealm := str "R", cname := ⟨PrincipalName.ntPrincipal, [str "alice"]⟩,
        authtime := ⟨1000⟩, starttime := .none, endtime := ⟨37000⟩, renewTill := .none } }

/-- The service ticket a request for a forwardable and proxiable ticket gets from it. -/
def ticket : EncTicketPart :=
  { flags := KerberosFlags.none |>.withBit FlagBit.forwardable true
      |>.withBit encPaRep true |>.withBit preAuthent true
      |>.withBit transitedPolicyChecked true,
    crealm := str "R", cname := ⟨PrincipalName.ntPrincipal, [str "alice"]⟩,
    authtime := ⟨1000⟩, starttime := some ⟨2000⟩, endtime := ⟨37000⟩, renewTill := .none }

end Sample

/-- A service ticket got from a forwardable ticket that is not proxiable. -/
theorem issueTgsBody_flags_le_service_ticket :
    Sample.ticket.flags.bit preAuthent = true ∧
      Sample.header.encTkt.flags.bit preAuthent = true :=
  ⟨by decide, (issueTgsBody_flags_le Sample.env
    (Sample.body [FlagBit.forwardable, FlagBit.proxiable] .none ⟨0⟩) Sample.header Sample.ticket
    rfl).1 preAuthent (by decide) (by decide)⟩

end Kerber.Issue
