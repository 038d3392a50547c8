import Kerber.Issue.Equiv.Indicators

/-!
# Who may ask for a ticket on behalf of a user

`s4u2proxy_authorized`: a successful request with CNAME-IN-ADDL-TKT has a forwardable second ticket
with a verified PAC, the ticket was issued to the service that presents it, and the delegation is
allowed by the list of the service or by the one of the target.  A target in another realm is left to
that realm: the KDC answers with a ticket for it that is still the service's own
(`referral_without_lists`).
-/

namespace Kerber.Issue

open FlagBit PrincipalName

variable {isCrossrealm isReferral : Bool}

variable {l : KdcLibs} {store : KdcStore} {body : ReqBody} {st : SecondTicket}

/-! ### The second ticket -/

/-- A second ticket as it was opened: the first additional ticket of the body, decrypted with a key of
its server, and its PAC verified. -/
structure Opened (l : KdcLibs) (store : KdcStore) (body : ReqBody) (st : SecondTicket) : Prop where
  ticket : ∃ extra key tgt, body.additionalTickets.bind List.head? = some extra ∧
    store.fetch (lookupPrincipalId extra.sname extra.realm) = .ok (some st.server) ∧
    decryptTicketPart l.toLibs key extra = .ok st.part ∧
    getVerifiedPac l store.policy st.part key st.server tgt = .ok st.pac

theorem opened_of_decrypt2ndtkt {localTgt : Option Principal}
    (h : decrypt2ndtkt l store body localTgt = .ok (some st)) : Opened l store body st := by
  unfold decrypt2ndtkt at h
  split at h
  · cases h
  · split at h
    · cases h
    · rename_i extra hextra
      obtain ⟨realm, hrealm, h⟩ := bind_ok h
      obtain ⟨found, hfound, h⟩ := bind_ok h
      obtain rfl := Tgs.utf8Realm_ok hrealm
      cases found with
      | none => cases h
      | some server =>
        obtain ⟨st', hopen, hst⟩ := map_ok h
        cases hst
        obtain ⟨_, hopen⟩ := rejectIf_bind_ok hopen
        obtain ⟨etype, _, hopen⟩ := bind_ok hopen
        obtain ⟨⟨key, _⟩, _, hopen⟩ := bind_ok hopen
        obtain ⟨part, hpart, hopen⟩ := bind_ok hopen
        obtain ⟨tgt, _, hopen⟩ := bind_ok hopen
        obtain ⟨pac, hpac, hopen⟩ := bind_ok hopen
        cases hopen
        exact ⟨extra, key, tgt, hextra, hfound, mapError_ok hpart, mapError_ok hpac⟩

/-! ### The checks -/

/-- What `check_tgs_s4u2proxy` has checked of the second ticket. -/
structure Proxied (store : KdcStore) (body : KdcReqBody) (header : TicketPart) (st : SecondTicket)
    (pac : Str) (parsed : Pac) (isCrossrealm isReferral : Bool) : Prop where
  forwardable : st.part.flags.forwardable = true
  pac_eq : st.pac = some pac
  parse : Pac.parse pac = .ok parsed
  own : isCrossrealm = false → isClientDbAlias store st.server header.cname = true ∧
    pacClientMatches parsed st.part = true
  cross : isCrossrealm = true → isReferral = false ∧ st.part.cname = header.cname ∧
    utf8OrEmpty st.part.crealm = utf8OrEmpty header.crealm ∧
    verifyDelegPac parsed st.part body.sname = true

theorem checkTgsS4u2proxy_ok {reqBody : KdcReqBody} {header : TicketPart} {headerPac : Option Str}
    {destRealm : Str}
    (h : checkTgsS4u2proxy store reqBody header headerPac st destRealm isCrossrealm isReferral
      = .ok ()) :
    ∃ pac parsed, Proxied store reqBody header st pac parsed isCrossrealm isReferral := by
  obtain ⟨hforward, h⟩ := rejectIf_bind_ok h
  obtain ⟨_, h⟩ := rejectIf_bind_ok h
  obtain ⟨_, h⟩ := rejectIf_bind_ok h
  obtain ⟨hpac, _, h⟩ := bind_ok h
  obtain ⟨headerParsed, _, h⟩ := bind_ok h
  obtain ⟨_, h⟩ := rejectIf_bind_ok h
  obtain ⟨pac, hspac, h⟩ := bind_ok h
  obtain ⟨parsed, hparsed, h⟩ := bind_ok h
  have hforward : st.part.flags.forwardable = true := by simpa using hforward
  refine ⟨pac, parsed, hforward, elim_ok hspac, mapError_ok hparsed, fun hcross => ?_,
    fun hcross => ?_⟩
  · rw [hcross, if_neg Bool.false_ne_true] at h
    obtain ⟨halias, h⟩ := rejectIf_bind_ok h
    have hmatch := rejectIf_ok h
    exact ⟨by simpa using halias, by simpa using hmatch⟩
  · rw [hcross, if_pos rfl] at h
    obtain ⟨hticket, h⟩ := rejectIf_bind_ok h
    have hdeleg := rejectIf_ok h
    simp only [Bool.or_eq_false_iff, bne_eq_false_iff_eq] at hticket
    exact ⟨hticket.1.1.1.1, hticket.1.2, hticket.2, by simpa using hdeleg⟩

/-- What `check_s4u2proxy_policy` has checked. -/
theorem checkS4u2proxyPolicy_ok {padata : Option (List PaData)} {dest name : PrincipalName}
    {realm : Str} {impersonator resource : Principal}
    (h : checkS4u2proxyPolicy l store padata dest name realm impersonator resource isCrossrealm
      isReferral = .ok ()) :
    (isReferral = true → paPacRbcd l padata = .ok true) ∧
    (isReferral = false →
      (paPacRbcd l padata = .ok true ∧ KdcStore.allowedFrom resource name realm = true) ∨
      (isCrossrealm = false ∧ store.allowedToDelegate impersonator dest = true)) := by
  obtain ⟨rbcd, hrbcd, h⟩ := bind_ok h
  refine ⟨fun href => ?_, fun href => ?_⟩
  · rw [href, if_pos rfl] at h
    have hsupport := rejectIf_ok h
    rw [hrbcd]
    simpa using hsupport
  · rw [href, if_neg Bool.false_ne_true] at h
    have hallowed := rejectIf_ok h
    rw [hrbcd]
    cases rbcd with
    | false => exact .inr (by simpa using hallowed)
    | true =>
      cases hres : KdcStore.allowedFrom resource name realm with
      | true => exact .inl ⟨rfl, rfl⟩
      | false =>
        rw [hres] at hallowed
        exact .inr (by simpa using hallowed)

theorem verifyDelegPac_ok {parsed : Pac} {encTkt : TicketPart} {target : PrincipalName}
    (h : verifyDelegPac parsed encTkt (some target) = true) :
    ∃ di, pacDelegation parsed = some di ∧ di.proxyTarget = target.componentsJoined ∧
      di.transitedServices.getLast?
        = some (encTkt.cname.unparseWithRealm (utf8OrEmpty encTkt.crealm)) := by
  unfold verifyDelegPac at h
  split at h
  · rename_i di _ hdi
    rw [Bool.and_eq_true, Bool.and_eq_true] at h
    exact ⟨di, hdi, by simpa using h.1.2, by simpa using h.2⟩
  · cases h

theorem rbcdPacClient_ok {pac : Str} {user : PrincipalName × Str} (h : rbcdPacClient pac = .ok user) :
    ∃ parsed name authtime, Pac.parse pac = .ok parsed ∧
      pacPrincWithRealm parsed = some (name, authtime) ∧
      user = (⟨ntMsPrincipal, name.components⟩, name.realm) := by
  obtain ⟨parsed, hparsed, h⟩ := bind_ok h
  split at h
  · cases h
  · rename_i name authtime hname
    obtain ⟨princ, hprinc, h⟩ := bind_ok h
    have hprinc := mapError_ok hprinc
    unfold tryNew at hprinc
    split at hprinc
    · cases hprinc
      cases h
      exact ⟨parsed, name, authtime, mapError_ok hparsed, hname, rfl⟩
    · cases hprinc

namespace Tgs

variable {run : Run} {req : Req} {raw : Option Str} {sender : Option HostAddress}
  {issued : IssuedTgs} {g : Gathered}

theorem proxiedUser_ok {server : Principal} {user : PrincipalName × Str}
    (h : proxiedUser run body g server isCrossrealm isReferral st = .ok user) :
    ∃ pac parsed, Proxied run.store body.toKdcReqBody g.header.encTkt st pac parsed isCrossrealm
        isReferral ∧
      (isCrossrealm = false → user = (st.part.cname, st.part.crealm)) ∧
      (isCrossrealm = true → ∃ name authtime, pacPrincWithRealm parsed = some (name, authtime) ∧
        user = (⟨ntMsPrincipal, name.components⟩, name.realm)) := by
  unfold proxiedUser at h
  cases hcross : isCrossrealm with
  | true =>
    rw [hcross, if_pos rfl] at h
    obtain ⟨user', hclient, h⟩ := bind_ok h
    obtain ⟨_, hcheck, h⟩ := bind_ok h
    cases h
    obtain ⟨pac, parsed, hproxied⟩ := checkTgsS4u2proxy_ok hcheck
    refine ⟨pac, parsed, hproxied, fun h => absurd h.symm Bool.false_ne_true, fun _ => ?_⟩
    obtain ⟨pac', hpac', hclient⟩ := bind_ok hclient
    obtain ⟨parsed', name, authtime, hparse, hname, huser⟩ := rbcdPacClient_ok hclient
    -- the client was read from the PAC that was checked
    obtain rfl : pac = pac' := Option.some.inj (hproxied.pac_eq.symm.trans (elim_ok hpac'))
    obtain rfl : parsed = parsed' := Except.ok.inj (hproxied.parse.symm.trans hparse)
    exact ⟨name, authtime, hname, huser⟩
  | false =>
    rw [hcross, if_neg Bool.false_ne_true] at h
    obtain ⟨_, hcheck, h⟩ := bind_ok h
    obtain ⟨crealm, hcrealm, h⟩ := bind_ok h
    obtain rfl := utf8Realm_ok hcrealm
    cases h
    obtain ⟨pac, parsed, hproxied⟩ := checkTgsS4u2proxy_ok hcheck
    exact ⟨pac, parsed, hproxied, fun _ => rfl, fun h => absurd h Bool.false_ne_true⟩

/-- An S4U2Proxy request is not an S4U2Self one: its client so far is the one of the header
ticket. -/
theorem self_of_proxy {self : SelfPart} (h : resolveSelf run body g = .ok self)
    (hopt : body.kdcOptions.bit cnameInAddlTkt = true) :
    self = ⟨g.server, (g.header.encTkt.cname, g.header.encTkt.crealm), none, false⟩ := by
  rcases (resolveSelf_ok h).2 with hself | ⟨s4u, hcheck, -⟩
  · exact hself
  · obtain ⟨hoptions, -⟩ := rejectIf_bind_ok hcheck
    have hopt' : body.toKdcReqBody.kdcOptions.bit cnameInAddlTkt = true := hopt
    rw [s4u2selfAsInvalidOptions, hopt', Bool.or_true] at hoptions
    cases hoptions

/-- A request on behalf of the user of a second ticket, as it has to be. -/
structure Delegated (run : Run) (outer : ReqBody) (s : Steps) (st : SecondTicket) (pac : Str)
    (parsed : Pac) : Prop where
  opened : Opened run.libs run.store outer st
  forwardable : st.part.flags.forwardable = true
  pac_eq : st.pac = some pac
  parse : Pac.parse pac = .ok parsed
  /-- In the realm, the PAC names the client of the second ticket, to whom the ticket is issued. -/
  ownClient : s.resolved.isCrossrealm = false → pacClientMatches parsed st.part = true ∧
    (s.resolved.isReferral = false →
      (s.part.cname, s.part.crealm) = (st.part.cname, st.part.crealm))
  /-- In the realm, the second ticket is for the service that presents it. -/
  ownService : s.resolved.isCrossrealm = false → s.headerTkt.crealm = run.store.realm →
    ∃ entry, run.store.fetch (lookupPrincipalId s.headerTkt.cname s.headerTkt.crealm)
        = .ok (some entry) ∧
      entry.name = st.server.name ∧ entry.realm = st.server.realm
  /-- Across realms, the PAC names the client the ticket is issued to with its realm. -/
  crossClient : s.resolved.isCrossrealm = true → ∃ name authtime,
    pacPrincWithRealm parsed = some (name, authtime) ∧
    (s.part.cname, s.part.crealm)
      = (⟨ntMsPrincipal, name.components⟩, name.realm)
  /-- Across realms, the delegation information names the service and its target. -/
  crossService : s.resolved.isCrossrealm = true → ∃ di sname, pacDelegation parsed = some di ∧
    s.body.sname = some sname ∧ di.proxyTarget = sname.componentsJoined ∧
    di.transitedServices.getLast?
      = some (s.headerTkt.cname.unparseWithRealm (utf8OrEmpty s.headerTkt.crealm))
  /-- The target allows the service, or in the realm the service has the target in its list. -/
  allowed : s.resolved.isReferral = false →
    (paPacRbcd run.libs s.checked.gathered.padata = .ok true ∧
      KdcStore.allowedFrom s.resolved.self.server s.headerTkt.cname s.headerTkt.crealm = true) ∨
    (s.resolved.isCrossrealm = false ∧ ∃ sname, s.body.sname = some sname ∧
      run.store.allowedToDelegate st.server sname = true)
  /-- For a target in another realm the request is one for resource-based delegation, and the ticket
  for that realm is the service's own. -/
  referral : s.resolved.isReferral = true → s.resolved.isCrossrealm = false ∧
    paPacRbcd run.libs s.checked.gathered.padata = .ok true ∧
    (s.part.cname, s.part.crealm) = (s.headerTkt.cname, s.headerTkt.crealm)

/-- **Delegation is authorized.**  A successful request with CNAME-IN-ADDL-TKT is on behalf of the
user of a second ticket, as it has to be. -/
theorem s4u2proxy_authorized (h : issueTgsFrom run req raw sender = .ok issued) :
    ∃ s, steps run req raw sender = .ok s ∧
      s.minted.mint run.libs.toLibs run.store run.draw = .ok issued.ticket ∧
      (s.body.kdcOptions.bit cnameInAddlTkt = true → ∃ st pac parsed,
        s.resolved.stkt = some st ∧ Delegated run req.body s st pac parsed) := by
  obtain ⟨s, hs, hmint⟩ := steps_of_issued h
  refine ⟨s, hs, hmint, fun hopt => ?_⟩
  have t := trace_of_steps hs
  have hres := t.checks.resolved
  have hheader := t.gathers.header_eq
  have hsubject := hres.subject
  have hproxy := (s4u2proxy_iff hsubject).1.trans hopt
  obtain ⟨st, hst⟩ := Option.isSome_iff_exists.mp ((s4u2proxy_iff hsubject).2 hproxy)
  have hopened : Opened run.libs run.store req.body st := by
    have hdecrypted : decrypt2ndtkt run.libs run.store req.body s.resolved.localTgt
        = .ok (some st) := by
      rw [hres.stkt, hst]
    exact opened_of_decrypt2ndtkt hdecrypted
  -- the user and whom the ticket is issued to
  unfold resolveSubject at hsubject
  rw [if_pos hopt, hst] at hsubject
  obtain ⟨user, huser, hsubject⟩ := bind_ok hsubject
  have hclient : (s.part.cname, s.part.crealm)
      = if s.resolved.isReferral then s.resolved.self.client else user := by
    rw [t.part_client, ← Except.ok.inj hsubject]
  obtain ⟨pac, parsed, hp, hownUser, hcrossUser⟩ := proxiedUser_ok huser
  rw [hheader] at hp
  -- the delegation policy
  have hpolicy := t.checks.policed.proxy
  unfold checkProxyPolicy at hpolicy
  rw [if_pos hproxy, hst] at hpolicy
  obtain ⟨hreferral, hlists⟩ := checkS4u2proxyPolicy_ok hpolicy
  rw [hheader] at hlists
  refine ⟨st, pac, parsed, hst, hopened, hp.forwardable, hp.pac_eq, hp.parse, ?_, ?_, ?_, ?_, ?_, ?_⟩
  · intro hown
    refine ⟨(hp.own hown).2, fun href => ?_⟩
    rw [hclient, href, if_neg Bool.false_ne_true, hownUser hown]
  · intro hown hrealm
    have halias := (hp.own hown).1
    unfold isClientDbAlias at halias
    split at halias
    · rename_i entry hentry
      rw [Bool.and_eq_true] at halias
      rw [hrealm]
      exact ⟨entry, hentry, by simpa using halias.1, by simpa using halias.2⟩
    · cases halias
  · intro hcross
    obtain ⟨name, authtime, hname, huser⟩ := hcrossUser hcross
    refine ⟨name, authtime, hname, ?_⟩
    rw [hclient, (hp.cross hcross).1, if_neg Bool.false_ne_true, huser]
  · intro hcross
    obtain ⟨-, hcname, hcrealm, hdeleg⟩ := hp.cross hcross
    have hsname : s.body.toKdcReqBody.sname = some s.checked.gathered.sname := t.gathers.sname
    rw [hsname] at hdeleg
    obtain ⟨di, hdi, htarget, hlast⟩ := verifyDelegPac_ok hdeleg
    rw [hcname, hcrealm] at hlast
    exact ⟨di, s.checked.gathered.sname, hdi, hsname, htarget, hlast⟩
  · intro href
    rcases hlists href with hfrom | ⟨hown, hto⟩
    · exact .inl hfrom
    · exact .inr ⟨hown, s.checked.gathered.sname, t.gathers.sname, hto⟩
  · intro href
    refine ⟨?_, hreferral href, ?_⟩
    · rw [Bool.eq_false_iff]
      intro hcross
      rw [(hp.cross hcross).1] at href
      cases href
    · rw [hclient, href, if_pos rfl, self_of_proxy hres.self hopt, hheader]

/-! ### A target in another realm -/

def pacTicket (sname : List Str) (key : ProtocolKey) (cname : List Str) : MintTicket where
  serviceKey := key
  kvno := 1
  serviceEtype := key.etype
  session := serverKeyA
  srealm := str "R"
  sname := ⟨ntSrvInst, sname⟩
  crealm := str "R"
  cname := ⟨ntPrincipal, cname⟩
  authtime := .fromUnixSeconds 1000
  endtime := .fromUnixSeconds 9000
  flags := plainFlags [forwardable]
  kdcKey := kdcKeyB
  transited := .empty
  renewTill := none
  pac := some (.mit ⟨none, false, false, none, none⟩)
  starttime := .fromUnixSeconds 1000
  caddr := none
  extraAd := none
  indicators := []
  krbtgt := tgsEntry
  krbtgtKey := kdcKeyB
  noAuthData := false

/-- The service that asks, without a list of targets. -/
def frontEntry : Principal := plainEntry [str "http", str "web"] serverKeyA

/-- The ticket-granting service of another realm. -/
def crossEntry : Principal := plainEntry [str "krbtgt", str "X"] serverKeyA

/-- The ticket of the service for the TGS. -/
def frontTgt : TicketPart :=
  ((pacTicket [str "krbtgt", str "R"] kdcKeyB [str "http", str "web"]).part plainKdcLibs.toLibs
    emptyStore).toOption.getD aliceTgt

/-- The ticket of `alice` for the service. -/
def evidence : Ticket :=
  ((pacTicket [str "http", str "web"] serverKeyA [str "alice"]).mint plainKdcLibs.toLibs emptyStore
    []).toOption.getD ⟨[], .krbtgt [], ⟨0, none, []⟩⟩

/-- A request on behalf of `alice` for a service of the other realm. -/
def proxyBody : ReqBody :=
  plainBody [cnameInAddlTkt, canonicalize] [str "http", str "db.x"] 0
    (some [evidence])

/-- It asks for resource-based delegation. -/
def proxyReq : Req :=
  { plainReq proxyBody with padata := some [⟨paTgsReq, []⟩, ⟨paPacOptions, [1]⟩] }

/-- The KDC that receives it. -/
def proxyRun : Run :=
  let run := plainRun [frontEntry, crossEntry] (plainHeader (str "R") frontTgt proxyBody) none
  { run with store := { run.store with
      policy := { run.store.policy with realmForHost := fun _ => some (str "X") } } }

def proxyIssued : IssuedTgs :=
  (issueTgsFrom proxyRun proxyReq none none).toOption.getD
    ⟨⟨[], .krbtgt [], ⟨0, none, []⟩⟩, [], kdcKeyB⟩

def proxyPart : TicketPart :=
  (decryptTicketPart plainKdcLibs.toLibs serverKeyA proxyIssued.ticket).toOption.getD aliceTgt

/-- **A target in another realm needs no list.**  The service gets a ticket for that realm though
neither list allows it, and the ticket is the service's and not the one of `alice`. -/
theorem referral_without_lists :
    issueTgsFrom proxyRun proxyReq none none = .ok proxyIssued ∧
    proxyBody.kdcOptions.bit cnameInAddlTkt = true ∧
    frontEntry.s4uAllowedTo = [] ∧ crossEntry.s4uAllowedFrom = [] ∧
    (decryptTicketPart plainKdcLibs.toLibs serverKeyA evidence).map (·.cname.nameString)
      = .ok [str "alice"] ∧
    decryptTicketPart plainKdcLibs.toLibs serverKeyA proxyIssued.ticket = .ok proxyPart ∧
    proxyPart.cname.nameString = [str "http", str "web"] := by
  refine ⟨?_, ?_, rfl, rfl, ?_, ?_, ?_⟩ <;> decide +kernel

/-- A request on behalf of `alice` for a service of the realm. -/
def ownBody : ReqBody :=
  plainBody [cnameInAddlTkt] [str "http", str "db"] 0 (some [evidence])

/-- The KDC that receives it, where the service has the target in its list. -/
def ownRun : Run :=
  plainRun [{ frontEntry with s4uAllowedTo := [str "http/db@R"] },
    plainEntry [str "http", str "db"] kdcKeyB] (plainHeader (str "R") frontTgt ownBody) none

theorem s4u2proxy_authorized_own :
    ∃ s st pac parsed, steps ownRun (plainReq ownBody) none none = .ok s ∧
      s.resolved.stkt = some st ∧ Delegated ownRun ownBody s st pac parsed := by
  have hissued : (issueTgsFrom ownRun (plainReq ownBody) none none).isOk = true := by decide +kernel
  obtain ⟨issued, hissued⟩ := exists_of_isOk hissued
  obtain ⟨s, hs, -, hfacts⟩ := s4u2proxy_authorized hissued
  have hopt := map_ok_inj (f := fun s => s.body.kdcOptions.bit cnameInAddlTkt) hs
    (b := true) (by decide +kernel)
  obtain ⟨st, pac, parsed, hst, hdelegated⟩ := hfacts hopt
  exact ⟨s, st, pac, parsed, hs, hst, hdelegated⟩

end Tgs

end Kerber.Issue
