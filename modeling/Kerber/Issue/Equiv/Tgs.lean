import Kerber.Issue.Equiv.Reply
import Kerber.Issue.Equiv.TgsReq
import Kerber.Issue.Tgs

/-!
# A successful TGS request, step by step

`steps` is a request with what every step settles, and `steps_of_issued` and `trace_of_steps` take a
successful one apart: it goes through its steps, and each of them has passed its checks.  The `_ok`
lemmas say which these are.  `Trace.issueTgsBody_env` connects the whole request to the model of flags
and times: a successful request is a successful one there, with the same ticket.
-/

namespace Kerber.Issue.Tgs

variable {run : Run} {req : Req} {raw : Option Str} {sender : Option HostAddress}
  {issued : IssuedTgs} {outer body : ReqBody} {header : Header} {fast : Option FastOk}
  {g : Gathered} {r : Resolved} {p : Policed} {c : Checked} {m : MintTicket}

theorem utf8Realm_ok {realm text : Str} (h : utf8Realm realm = .ok text) : text = realm := by
  unfold utf8Realm at h
  split at h
  · exact (Except.ok.inj h).symm
  · cases h

/-! ### The steps -/

/-- What `gather_tgs_req_info` has checked and found. -/
structure Gathers (run : Run) (req : Req) (body : ReqBody) (fast : Option FastOk) (header : Header)
    (g : Gathered) : Prop where
  unsupportedBits : (body.kdcOptions.unsupportedBits != 0) = false
  renewAndValidate : (g.renew && g.validate) = false
  sname : body.sname = some g.sname
  realm : body.realm = run.store.realm
  header_eq : g.header = header
  padata : g.padata = fast.elim req.padata fun f => some f.innerPadata
  renew : g.renew = body.kdcOptions.bit FlagBit.renew
  validate : g.validate = body.kdcOptions.bit FlagBit.validate
  headerPac : ∃ krbtgt, run.store.fetchKrbtgt = .ok krbtgt ∧
    getVerifiedPac run.libs run.store.policy header.encTkt header.tgtKey header.server krbtgt
      = .ok g.headerPac
  server : searchSprinc run.store g.sname body.realm body.toKdcReqBody = .ok g.server

theorem gatherTgsReqInfo_ok (h : gatherTgsReqInfo run req body fast header = .ok g) :
    Gathers run req body fast header g := by
  obtain ⟨hbits, h⟩ := rejectIf_bind_ok h
  obtain ⟨hboth, h⟩ := rejectIf_bind_ok h
  obtain ⟨sname, hsname, h⟩ := bind_ok h
  obtain ⟨reqRealm, hutf8, h⟩ := bind_ok h
  obtain ⟨hrealm, h⟩ := rejectIf_bind_ok h
  obtain ⟨krbtgt, hkrbtgt, h⟩ := bind_ok h
  obtain ⟨headerPac, hpac, h⟩ := bind_ok h
  obtain ⟨server, hserver, h⟩ := bind_ok h
  cases h
  obtain rfl := utf8Realm_ok hutf8
  have hlocal : body.realm = run.store.realm := by simpa using hrealm
  exact ⟨hbits, hboth, elim_ok hsname, hlocal, rfl, rfl, rfl, rfl, ⟨krbtgt, hkrbtgt, hpac⟩, hserver⟩

/-- What the S4U2Self padata of a request has settled: nothing, or the user and that the request for
that user was checked. -/
theorem resolveSelf_ok {self : SelfPart} (h : resolveSelf run body g = .ok self) :
    run.processS4u2selfReq g.header.session g.header.subkey g.padata body.nonce = .ok self.s4u ∧
    (self = ⟨g.server, (g.header.encTkt.cname, g.header.encTkt.crealm), none, false⟩ ∨
      ∃ s4u, checkTgsS4u2self run.store body.toKdcReqBody s4u (g.header.realm != run.store.realm)
          (tgsIssuingReferral g.sname body.realm g.server) g.header.encTkt g.headerPac run.s4uNow
            = .ok () ∧
        self = {
          server := { g.server with
            attributes := g.server.attributes &&& ~~~kdbNoAuthDataRequired }
          client := if tgsIssuingReferral g.sname body.realm g.server then
            (g.header.encTkt.cname, g.header.encTkt.crealm) else (s4u.user, s4u.realm)
          s4u := some s4u, referral := tgsIssuingReferral g.sname body.realm g.server }) := by
  obtain ⟨headerClient, -, h⟩ := bind_ok h
  obtain ⟨found, hfound, h⟩ := bind_ok h
  cases found with
  | none =>
    cases h
    exact ⟨hfound, .inl rfl⟩
  | some s4u =>
    obtain ⟨-, h⟩ := rejectIf_bind_ok h
    obtain ⟨_, hcheck, h⟩ := bind_ok h
    cases h
    exact ⟨hfound, .inr ⟨s4u, hcheck, rfl⟩⟩

/-- What the first half of `check_tgs_req` has checked and found. -/
structure Resolves (run : Run) (outer body : ReqBody) (g : Gathered) (r : Resolved) : Prop where
  self : resolveSelf run body g = .ok r.self
  isReferral : r.isReferral = tgsIssuingReferral g.sname body.realm r.self.server
  isCrossrealm : r.isCrossrealm = (g.header.realm != r.self.server.realm)
  localTgt : run.store.fetchKrbtgt = .ok r.localTgt
  stkt : decrypt2ndtkt run.libs run.store outer r.localTgt = .ok r.stkt
  lineage : (g.header.encTkt.crealm == run.store.realm && r.isCrossrealm && r.self.s4u.isNone)
    = false
  u2u : checkU2u run body r.stkt r.self.server = .ok ()
  subject : resolveSubject run body g r.self r.isCrossrealm r.isReferral r.stkt = .ok r.subject

theorem resolve_ok (h : resolve run outer body g = .ok r) : Resolves run outer body g r := by
  obtain ⟨self, hself, h⟩ := bind_ok h
  obtain ⟨localTgt, hlocal, h⟩ := bind_ok h
  obtain ⟨stkt, hstkt, h⟩ := bind_ok h
  obtain ⟨hlineage, h⟩ := rejectIf_bind_ok h
  obtain ⟨_, hu2u, h⟩ := bind_ok h
  obtain ⟨subject, hsubject, h⟩ := bind_ok h
  cases h
  exact ⟨hself, rfl, rfl, hlocal, hstkt, hlineage, hu2u, hsubject⟩

/-- What the second half of `check_tgs_req` has checked and found. -/
structure Polices (run : Run) (body : ReqBody) (g : Gathered) (r : Resolved) (p : Policed) :
    Prop where
  indicators : ∃ tgt tgtKey, localTgtKey run r = .ok (tgt, tgtKey) ∧
    authIndicators run g r tgt tgtKey.key = .ok p.indicators
  proxy : checkProxyPolicy run g r = .ok ()
  anon : checkAnon run.store g.header.encTkt.cname r.self.server.name = .ok ()
  transited : newTransited g r = .ok p.transited
  setTransitedFlag : p.setTransitedFlag = (!body.kdcOptions.bit FlagBit.disableTransitedCheck
    && transitChecked run.store.policy (tktClientRealm g r) body.realm p.transited)

theorem policyChecks_ok (h : policyChecks run body g r = .ok p) : Polices run body g r p := by
  obtain ⟨⟨tgt, tgtKey⟩, htgt, h⟩ := bind_ok h
  obtain ⟨indicators, hind, h⟩ := bind_ok h
  obtain ⟨_, hproxy, h⟩ := bind_ok h
  obtain ⟨_, hanon, h⟩ := bind_ok h
  obtain ⟨u2u, _, h⟩ := bind_ok h
  obtain ⟨etype, _, h⟩ := bind_ok h
  obtain ⟨key, _, h⟩ := bind_ok h
  obtain ⟨transited, htransited, h⟩ := bind_ok h
  obtain ⟨_, h⟩ := rejectIf_bind_ok h
  cases h
  exact ⟨⟨tgt, tgtKey, htgt, hind⟩, hproxy, hanon, htransited, rfl⟩

/-- What `check_tgs_req` has checked and found. -/
structure Checks (run : Run) (outer body : ReqBody) (g : Gathered) (c : Checked) : Prop where
  gathered : c.gathered = g
  constraints : checkTgsConstraintsSkeleton run.checkNow body.toKdcReqBody g.header.sname
    g.header.realm g.header.encTkt.toEncTicketPart g.sname body.realm g.renew g.validate = .ok ()
  resolved : Resolves run outer body g c.resolved
  policyFlags : checkTgsPolicyFlags run.dbNow c.resolved.self.server body.toKdcReqBody
    g.header.sname.isKrbtgt g.header.encTkt.toEncTicketPart = .ok ()
  policed : Polices run body g c.resolved c.policed
  times : tgsFlagsTimesPolicy (timesEnv run body g c.resolved c.policed) body.toKdcReqBody
    (g.toTgsGather body) c.resolved.toTgsResolved c.policed.setTransitedFlag = .ok c.times

theorem checkTgsReq_ok (h : checkTgsReq run outer body g = .ok c) : Checks run outer body g c := by
  obtain ⟨_, hconstraints, h⟩ := bind_ok h
  obtain ⟨r, hr, h⟩ := bind_ok h
  obtain ⟨_, hflags, h⟩ := bind_ok h
  obtain ⟨p, hp, h⟩ := bind_ok h
  obtain ⟨session, _, h⟩ := bind_ok h
  obtain ⟨_, _, h⟩ := bind_ok h
  obtain ⟨times, htimes, h⟩ := bind_ok h
  cases h
  exact ⟨rfl, hconstraints, resolve_ok hr, hflags, policyChecks_ok hp, htimes⟩

/-- What a ticket takes from the checks. -/
structure Mints (c : Checked) (m : MintTicket) : Prop where
  cname : m.cname = c.resolved.subject.client.1
  crealm : m.crealm = c.resolved.subject.client.2
  flags : m.flags = c.times.flags
  authtime : m.authtime = c.times.authtime
  starttime : m.starttime = c.times.starttime
  endtime : m.endtime = c.times.end
  renewTill : m.renewTill = c.times.ticketRenewTill
  transited : m.transited = c.policed.transited
  indicators : m.indicators = c.policed.indicators

theorem ticketToMint_ok (h : ticketToMint run body c = .ok m) : Mints c m := by
  obtain ⟨⟨krbtgt, krbtgtKey⟩, _, h⟩ := bind_ok h
  obtain ⟨kdcKey, _, h⟩ := bind_ok h
  obtain ⟨clientKey, _, h⟩ := bind_ok h
  obtain ⟨extraAd, _, h⟩ := bind_ok h
  obtain ⟨updated, _, h⟩ := bind_ok h
  cases h
  exact ⟨rfl, rfl, rfl, rfl, rfl, rfl, rfl, rfl, rfl⟩

/-! ### The whole request -/

/-- What the steps of a request settle. -/
structure Steps where
  header : Header
  fast : Option FastOk
  body : ReqBody
  checked : Checked
  minted : MintTicket
  part : TicketPart

namespace Steps

/-- What the request settled before the policy of the server. -/
abbrev resolved (s : Steps) : Resolved := s.checked.resolved

abbrev headerTkt (s : Steps) : TicketPart := s.header.encTkt

end Steps

/-- `issue_tgs_from` up to the encryption of the ticket, with what each step settles. -/
def steps (run : Run) (req : Req) (raw : Option Str) (sender : Option HostAddress) :
    Except Error Steps := do
  let der ← bodyDer run req raw
  let paTgs ← (findPa req.padata paTgsReq).elim
    (.error (proto Err.padataTypeNosupp Status.processTgs)) .ok
  let header ← processTgsHeader run paTgs der sender
  let fast ← run.unwrapFastTgs (findPa req.padata paFxFast) paTgs header.subkey header.session
  let body ← innerBody run req.body fast
  let g ← gatherTgsReqInfo run req body fast header
  let checked ← checkTgsReq run req.body body g
  let minted ← ticketToMint run body checked
  let part ← minted.part run.libs.toLibs run.store
  return { header, fast, body, checked, minted, part }

/-- **A successful request goes through its steps**, and its ticket is the one they settle. -/
theorem steps_of_issued (h : issueTgsFrom run req raw sender = .ok issued) :
    ∃ s, steps run req raw sender = .ok s ∧
      s.minted.mint run.libs.toLibs run.store run.draw = .ok issued.ticket := by
  obtain ⟨der, hder, h⟩ := bind_ok h
  obtain ⟨-, h⟩ := rejectIf_bind_ok h
  obtain ⟨paTgs, hpa, h⟩ := bind_ok h
  obtain ⟨header, hheader, h⟩ := bind_ok h
  obtain ⟨fast, hfast, h⟩ := bind_ok h
  obtain ⟨body, hbody, h⟩ := bind_ok h
  have h := mapError_ok h
  obtain ⟨g, hg, h⟩ := bind_ok h
  obtain ⟨c, hc, h⟩ := bind_ok h
  obtain ⟨m, hm, h⟩ := bind_ok h
  obtain ⟨ticket, hticket, h⟩ := bind_ok h
  obtain ⟨reply, -, h⟩ := bind_ok h
  cases h
  obtain ⟨part, hpart, -⟩ := bind_ok hticket
  refine ⟨⟨header, fast, body, c, m, part⟩, ?_, hticket⟩
  rw [steps, hder, ok_bind, hpa, ok_bind, hheader, ok_bind, hfast, ok_bind, hbody, ok_bind, hg,
    ok_bind, hc, ok_bind, hm, ok_bind, hpart]
  rfl

/-- What the steps have checked. -/
structure Trace (run : Run) (req : Req) (raw : Option Str) (sender : Option HostAddress)
    (s : Steps) : Prop where
  accepted : ∃ der paTgs, bodyDer run req raw = .ok der ∧
    findPa req.padata paTgsReq = some paTgs ∧
    processTgsHeader run paTgs der sender = .ok s.header ∧
    run.unwrapFastTgs (findPa req.padata paFxFast) paTgs s.header.subkey s.header.session
      = .ok s.fast
  body : innerBody run req.body s.fast = .ok s.body
  gathers : Gathers run req s.body s.fast s.header s.checked.gathered
  checks : Checks run req.body s.body s.checked.gathered s.checked
  mints : Mints s.checked s.minted
  part : s.minted.part run.libs.toLibs run.store = .ok s.part

theorem trace_of_steps {s : Steps} (h : steps run req raw sender = .ok s) :
    Trace run req raw sender s := by
  obtain ⟨der, hder, h⟩ := bind_ok h
  obtain ⟨paTgs, hpa, h⟩ := bind_ok h
  obtain ⟨header, hheader, h⟩ := bind_ok h
  obtain ⟨fast, hfast, h⟩ := bind_ok h
  obtain ⟨body, hbody, h⟩ := bind_ok h
  obtain ⟨g, hg, h⟩ := bind_ok h
  obtain ⟨c, hc, h⟩ := bind_ok h
  obtain ⟨m, hm, h⟩ := bind_ok h
  obtain ⟨part, hpart, h⟩ := bind_ok h
  cases h
  have hchecks := checkTgsReq_ok hc
  obtain rfl := hchecks.gathered
  exact ⟨⟨der, paTgs, hder, elim_ok hpa, hheader, hfast⟩, hbody, gatherTgsReqInfo_ok hg, hchecks,
    ticketToMint_ok hm, hpart⟩

theorem minted_of_steps {s : Steps} (h : steps run req raw sender = .ok s) :
    ticketToMint run s.body s.checked = .ok s.minted := by
  obtain ⟨der, -, h⟩ := bind_ok h
  obtain ⟨paTgs, -, h⟩ := bind_ok h
  obtain ⟨header, -, h⟩ := bind_ok h
  obtain ⟨fast, -, h⟩ := bind_ok h
  obtain ⟨body, -, h⟩ := bind_ok h
  obtain ⟨g, -, h⟩ := bind_ok h
  obtain ⟨c, -, h⟩ := bind_ok h
  obtain ⟨m, hm, h⟩ := bind_ok h
  obtain ⟨part, -, h⟩ := bind_ok h
  cases h
  exact hm

/-- The server entry after the S4U2Self part, as the flags and times take it. -/
theorem server_eq_issueServer (h : resolveSelf run body g = .ok r.self) :
    r.self.server = (g.toTgsGather body).issueServer r.toTgsResolved := by
  show _ = if r.self.s4u.isSome then _ else _
  rcases (resolveSelf_ok h).2 with hself | ⟨s4u, -, hself⟩
  · rw [hself]
    rfl
  · rw [hself]
    rfl

/-- The environment of the flags and times of a request. -/
def Steps.env (run : Run) (s : Steps) : TgsEnv :=
  timesEnv run s.body s.checked.gathered s.checked.resolved s.checked.policed

/-! ### The flags and times -/

namespace Trace

variable {s : Steps}

/-- The client and the realm of the ticket are the ones that were settled. -/
theorem part_client (t : Trace run req raw sender s) :
    (s.part.cname, s.part.crealm) = s.resolved.subject.client := by
  rw [eq_bare_of_part t.part, MintTicket.bare, t.mints.cname, t.mints.crealm]

theorem part_flags (t : Trace run req raw sender s) : s.part.flags = s.checked.times.flags := by
  rw [eq_bare_of_part t.part, MintTicket.bare, t.mints.flags]

/-- **The flags and times of a successful request are those of `issueTgsBody`**: what is proved of
every ticket that gives holds of the issued one. -/
theorem issueTgsBody_env (t : Trace run req raw sender s) :
    Issue.issueTgsBody (s.env run) s.body.toKdcReqBody
      ⟨s.header.sname, s.header.realm, s.header.encTkt.toEncTicketPart⟩
        = .ok s.part.toEncTicketPart := by
  have hg := t.gathers
  have hc := t.checks
  have hgather : Issue.gatherTgsReqInfo (s.env run) s.body.toKdcReqBody
      ⟨s.header.sname, s.header.realm, s.header.encTkt.toEncTicketPart⟩
        = .ok (s.checked.gathered.toTgsGather s.body) := by
    have hboth := hg.renewAndValidate
    rw [hg.renew, hg.validate] at hboth
    have hrealm : (s.body.realm != (s.env run).store.realm) = false := by
      rw [hg.realm]
      exact bne_self_eq_false _
    rw [Issue.gatherTgsReqInfo, hg.unsupportedBits, rejectIf_false_bind]
    dsimp only
    rw [hboth, rejectIf_false_bind, hg.sname, Option.elim_some, ok_bind, hrealm,
      rejectIf_false_bind]
    show Except.ok _ = _
    rw [Gathered.toTgsGather, hg.header_eq, hg.renew, hg.validate]
  have hcheck : Issue.checkTgsReq (s.env run) s.body.toKdcReqBody (s.checked.gathered.toTgsGather s.body)
      = .ok (s.checked.resolved.toTgsResolved, s.checked.times) := by
    rw [Issue.checkTgsReq]
    show (checkTgsConstraintsSkeleton run.checkNow s.body.toKdcReqBody
      s.checked.gathered.header.sname s.checked.gathered.header.realm
      s.checked.gathered.header.encTkt.toEncTicketPart s.checked.gathered.sname s.body.realm
      s.checked.gathered.renew s.checked.gathered.validate >>= _) = _
    rw [hc.constraints, ok_bind]
    show (checkTgsPolicyFlags run.dbNow
      ((s.checked.gathered.toTgsGather s.body).issueServer s.checked.resolved.toTgsResolved)
      s.body.toKdcReqBody s.checked.gathered.header.sname.isKrbtgt
      s.checked.gathered.header.encTkt.toEncTicketPart >>= _) = _
    rw [← server_eq_issueServer hc.resolved.self, hc.policyFlags, ok_bind]
    show (tgsFlagsTimesPolicy (s.env run) _ _ _ s.checked.policed.setTransitedFlag >>= _) = _
    rw [Steps.env, hc.times]
    rfl
  rw [Issue.issueTgsBody, hgather, ok_bind, hcheck]
  show Except.ok _ = _
  rw [eq_bare_of_part t.part]
  have hm := t.mints
  simp only [MintTicket.bare, mintTicket, Resolved.toTgsResolved, hm.cname, hm.crealm, hm.flags,
    hm.authtime, hm.starttime, hm.endtime, hm.renewTill]

end Trace

end Kerber.Issue.Tgs
