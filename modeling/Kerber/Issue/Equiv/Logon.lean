import Kerber.Issue.Equiv.Proxy
import Kerber.Pac.Equiv.LogonInfo

/-!
# What another realm may say of a user

The PAC of a ticket from another realm is carried over into the ticket the KDC issues.  `Carries` says
what holds of the buffers between the signatures, whoever signs them.  For an ordinary request, and for
S4U2Self on behalf of a user of another realm, the logon information goes through the filter, and no SID
of the local domain is left in it (`foreign_logon_filtered`).
-/

namespace Kerber

open List

variable {b : PacBuffer} {authtime : UInt32}
variable {s4uClientInfo : Option Str} {subject : Option Str} {updated : Option Str}
  {store : KdcStore} {pac : TicketPac} {p : MintTicket} {adData : Bool}

/-! ### Between the signatures -/

/-- What holds of every buffer that is no signature. -/
def Carries (P : PacBuffer → Prop) (bs : List PacBuffer) : Prop :=
  ∀ b ∈ bs, isPacSignature b.kind = false → P b

variable {m : Macs} {P : PacBuffer → Prop} {ticket : PacTicket} {bs : List PacBuffer} {bytes : Str}

theorem carries_iff : Carries P bs ↔ ∀ b ∈ others bs, P b := by
  simp [Carries, others]

theorem carries_signReplyBuffers (h : ∀ b ∈ bs, P b) (hsign : signReplyBuffers m ticket bs = .ok bytes) :
    ∃ signed, bytes = (Pac.built 0 signed).toBytes ∧ Carries P signed := by
  obtain ⟨signed, rfl, hsigned⟩ := others_signReplyBuffers hsign
  refine ⟨signed, rfl, carries_iff.mpr ?_⟩
  rw [hsigned]
  exact fun b hb => h b (mem_of_mem_filter hb)

def IsMit (b : PacBuffer) : Prop := b.kind = pacDelegationInfo ∨ b.kind = pacClientInfo

theorem carries_mitTicketPac {req : HandlePac} {client : PrincipalName}
    (h : mitTicketPac m req client authtime ticket = .ok bytes) :
    ∃ signed, bytes = (Pac.built 0 signed).toBytes ∧ Carries IsMit signed := by
  obtain ⟨subject, delegation, carried, signed, -, hdelegation, rfl, hothers, hcarried⟩ :=
    others_mitTicketPac h
  refine ⟨signed, rfl, carries_iff.mpr ?_⟩
  rw [hothers]
  exact forall_mem_append.mpr ⟨fun b hb => .inl (kind_of_mitDelegation hdelegation b hb),
    fun b hb => .inr (hcarried b hb)⟩

/-! ### The buffers of the subject -/

theorem data_of_mem_replaceFirst {kind : UInt32} {data : Str}
    (hone : (bs.filter (·.kind == kind)).length ≤ 1) (h : b ∈ replaceFirst kind data bs)
    (hkind : b.kind = kind) : b.data = data := by
  induction bs with
  | nil => exact absurd h not_mem_nil
  | cons c bs ih =>
    rw [replaceFirst] at h
    split at h
    · rename_i hc
      rcases mem_cons.mp h with rfl | h
      · rfl
      · -- another one would be a second one
        have hmem : b ∈ bs.filter (·.kind == kind) := mem_filter.mpr ⟨h, by simp [hkind]⟩
        have hpos := length_pos_of_mem hmem
        rw [filter_cons_of_pos (by simp [hc]), length_cons] at hone
        omega
    · rename_i hc
      rcases mem_cons.mp h with rfl | h
      · exact absurd hkind hc
      · rw [filter_cons_of_neg (by simp [hc])] at hone
        exact ih hone h

def unsigned (subject : Pac) : List PacBuffer :=
  (subject.buffers.filter fun b => !isPacSignature b.kind).map fun b => PacBuffer.new b.kind b.data

theorem mem_of_mem_unsigned {subject : Pac} (h : b ∈ unsigned subject) :
    ∃ c ∈ subject.buffers, c.kind = b.kind ∧ c.data = b.data := by
  obtain ⟨c, hc, rfl⟩ := mem_map.mp h
  exact ⟨c, mem_of_mem_filter hc, rfl, rfl⟩

theorem length_filter_unsigned_le (subject : Pac) (kind : UInt32) :
    ((unsigned subject).filter (·.kind == kind)).length
      ≤ (subject.buffers.filter (·.kind == kind)).length := by
  rw [← countP_eq_length_filter, ← countP_eq_length_filter, unsigned, countP_map]
  exact filter_sublist.countP_le

theorem mem_of_mem_clientInfo
    (h : b ∈ (match s4uClientInfo with
      | none => bs
      | some name =>
        if bs.any (·.kind == pacClientInfo) then
          replaceFirst pacClientInfo (clientInfoBuffer authtime name) bs
        else bs ++ [PacBuffer.new pacClientInfo (clientInfoBuffer authtime name)])) :
    b ∈ bs ∨ b.kind = pacClientInfo := by
  split at h
  · exact .inl h
  · split at h
    · exact (mem_replaceFirst h).imp id And.left
    · rcases mem_append.mp h with h | h
      · exact .inl h
      · rw [mem_singleton.mp h]
        exact .inr rfl

/-- **What is carried from a subject** with one logon information: the new logon information, and the
subject's own buffers of the other kinds. -/
theorem mem_carriedBuffers {subject : Pac} {logon : Str}
    (hone : (subject.buffers.filter (·.kind == pacLogonInfo)).length ≤ 1)
    (hb : b ∈ carriedBuffers subject authtime (some logon) s4uClientInfo) :
    (b.kind = pacLogonInfo → b.data = logon) ∧
    (b.kind = pacRequesterSid → ∃ c ∈ subject.buffers, c.kind = b.kind ∧ c.data = b.data) := by
  have hbuffers := Nat.le_trans (length_filter_unsigned_le subject pacLogonInfo) hone
  rcases mem_of_mem_clientInfo hb with hb | hkind
  · change b ∈ (if (unsigned subject).any (·.kind == pacLogonInfo) then
      replaceFirst pacLogonInfo logon (unsigned subject)
      else .new pacLogonInfo logon :: unsigned subject) at hb
    split at hb
    · refine ⟨data_of_mem_replaceFirst hbuffers hb, fun hkind => ?_⟩
      rcases mem_replaceFirst hb with hb | ⟨hlogon, -⟩
      · exact mem_of_mem_unsigned hb
      · exact absurd (hlogon.symm.trans hkind) (by decide)
    · rename_i hnone
      rcases mem_cons.mp hb with rfl | hb
      · exact ⟨fun _ => rfl, fun hkind => absurd hkind (show pacLogonInfo ≠ pacRequesterSid by decide)⟩
      · refine ⟨fun hkind => absurd ?_ hnone, fun _ => mem_of_mem_unsigned hb⟩
        exact any_eq_true.mpr ⟨b, hb, by simp [hkind]⟩
  · refine ⟨fun h => ?_, fun h => ?_⟩
    · exact absurd (hkind.symm.trans h) (by decide)
    · exact absurd (hkind.symm.trans h) (by decide)

namespace Issue

/-! ### The PAC of the issued ticket -/

/-- What a buffer of the issued PAC may say: logon information without a SID of the local domain, and a
requester that the subject's PAC has beside logon information. -/
structure Filtered (domain : RpcSid) (subject : Option Str) (b : PacBuffer) : Prop where
  logon : b.kind = pacLogonInfo → ∀ info, parseKerbValidationInfo b.data = .ok info →
    ¬ info.Claims domain
  requester : b.kind = pacRequesterSid → ∃ raw pac, subject = some raw ∧ Pac.parse raw = .ok pac ∧
    (∃ c ∈ pac.buffers, c.kind = pacLogonInfo) ∧
    ∃ c ∈ pac.buffers, c.kind = b.kind ∧ c.data = b.data

theorem filtered_of_isMit {domain : RpcSid} (h : IsMit b) : Filtered domain subject b := by
  refine ⟨fun hkind => ?_, fun hkind => ?_⟩
  · rcases h with h | h
    · exact absurd (h.symm.trans hkind) (by decide)
    · exact absurd (h.symm.trans hkind) (by decide)
  · rcases h with h | h
    · exact absurd (h.symm.trans hkind) (by decide)
    · exact absurd (h.symm.trans hkind) (by decide)

theorem pacFromTicketPart_of_part {l : Libs} (hc : l.ad.Lawful) {part : TicketPart}
    (hpac : p.pac = some pac) (h : p.part l store = .ok part) :
    ∃ signed der, MintTicket.signPac l store p pac
        ⟨p.serviceKey, p.kdcKey, der, shouldHaveTicketSignature p.sname⟩ = .ok signed ∧
      pacFromTicketPart l.ad part = some signed := by
  obtain ⟨crealm, -, h⟩ := bind_ok h
  obtain ⟨extra, -, h⟩ := bind_ok h
  rw [hpac] at h
  obtain ⟨der, -, h⟩ := bind_ok h
  obtain ⟨signed, hsigned, h⟩ := bind_ok h
  obtain ⟨wrapped, hwrapped, h⟩ := bind_ok h
  cases h
  exact ⟨signed, der, hsigned, pacFromAuthdata_wrapWin2kPac hc hwrapped extra⟩

namespace Tgs

variable {run : Run} {req : Req} {raw : Option Str} {sender : Option HostAddress} {issued : IssuedTgs}
  {body : ReqBody} {g : Gathered} {r : Resolved} {c : Checked} {m : MintTicket} {domain : RpcSid}

theorem pac_of_ticketToMint (h : ticketToMint run body c = .ok m) (hpac : m.pac = some pac) :
    ∃ adData updated, updatedPac c adData = .ok updated ∧
      pac = ticketPac c adData updated ∧
      (adData = true → pacHasAdData run.store.policy c.resolved.subject.pac (initialPac c.resolved) = true) := by
  obtain ⟨⟨krbtgt, krbtgtKey⟩, -, h⟩ := bind_ok h
  obtain ⟨kdcKey, -, h⟩ := bind_ok h
  obtain ⟨clientKey, -, h⟩ := bind_ok h
  obtain ⟨extraAd, -, h⟩ := bind_ok h
  obtain ⟨updated, hupdated, h⟩ := bind_ok h
  cases h
  refine ⟨_, updated, hupdated, ?_, fun had => (Bool.and_eq_true_iff.mp had).2⟩
  split at hpac
  · exact (Option.some.inj hpac).symm
  · cases hpac

/-- A request without a second ticket's client takes the PAC of its header, and its logon information
goes through the filter unless the user is of this realm. -/
theorem subject_of_header (hopt : body.kdcOptions.bit FlagBit.cnameInAddlTkt = false)
    (hlocal : initialPac r = false)
    (h : resolveSubject run body g r.self r.isCrossrealm r.isReferral r.stkt = .ok r.subject) :
    r.subject.s4u2proxy = false ∧ r.subject.pac = g.headerPac ∧
      carriedLogon run g.header.realm g.headerPac = .ok r.subject.evidenceLogon := by
  unfold resolveSubject at h
  rw [hopt, if_neg Bool.false_ne_true] at h
  cases hs4u : r.self.s4u with
  | none =>
    rw [hs4u] at h
    obtain ⟨_, -, h⟩ := bind_ok h
    obtain ⟨logon, hlogon, h⟩ := bind_ok h
    rw [← Except.ok.inj h]
    exact ⟨rfl, rfl, hlogon⟩
  | some s4u =>
    rw [hs4u] at h
    obtain ⟨logon, hlogon, h⟩ := bind_ok h
    have hnone : s4u.local.isNone = true := by
      rw [initialPac, hs4u] at hlocal
      simpa using hlocal
    rw [selfLogon, if_pos hnone] at hlogon
    rw [← Except.ok.inj h]
    exact ⟨rfl, rfl, hlogon⟩

theorem updatedPac_of_plain (hproxy : c.resolved.subject.s4u2proxy = false)
    (h : updatedPac c adData = .ok updated) : updated = none := by
  have hhop : delegationHop c.resolved = none := by
    rw [delegationHop, hproxy]
    rfl
  unfold updatedPac at h
  split at h
  · rename_i hsome _
    rw [hhop] at hsome
    cases hsome
  · exact (Except.ok.inj h).symm

theorem uniqueBuffer_of_one {pac : Pac} (hone : (pac.buffers.filter (·.kind == pacLogonInfo)).length ≤ 1)
    (hany : pac.buffers.any (·.kind == pacLogonInfo) = true) :
    ∃ logon, pac.uniqueBuffer pacLogonInfo = .ok (some logon) := by
  obtain ⟨b, hb, hkind⟩ := any_eq_true.mp hany
  have hmem : b ∈ pac.buffers.filter (·.kind == pacLogonInfo) := mem_filter.mpr ⟨hb, hkind⟩
  unfold Pac.uniqueBuffer
  match hfilter : pac.buffers.filter (·.kind == pacLogonInfo) with
  | [] =>
    rw [hfilter] at hmem
    exact absurd hmem not_mem_nil
  | [c] => exact ⟨c.data, by rw [hfilter]⟩
  | c :: d :: rest =>
    rw [hfilter, length_cons, length_cons] at hone
    omega

theorem filter_of_carriedLogon {headerPac : Str} {pac : Pac} {evidence : Option Str}
    (hforeign : g.header.realm ≠ run.store.realm) (hparse : Pac.parse headerPac = .ok pac)
    (hone : (pac.buffers.filter (·.kind == pacLogonInfo)).length ≤ 1)
    (hany : pac.buffers.any (·.kind == pacLogonInfo) = true)
    (h : carriedLogon run g.header.realm (some headerPac) = .ok evidence) :
    ∃ given logon, run.filterCrossRealmLogon given = .ok logon ∧ evidence = some logon := by
  obtain ⟨given, hgiven⟩ := uniqueBuffer_of_one hone hany
  have hfound : ((some headerPac).bind fun p => (Pac.parse p).toOption.bind fun parsed =>
      (parsed.uniqueBuffer pacLogonInfo).toOption.join) = some given := by
    rw [Option.bind_some, hparse, Except.toOption, Option.bind_some, hgiven]
    rfl
  rw [carriedLogon, hfound] at h
  dsimp only at h
  rw [if_neg hforeign] at h
  obtain ⟨logon, hlogon, hev⟩ := map_ok h
  exact ⟨given, logon, hlogon, hev.symm⟩

theorem pac_of_adData {policy : Policy} (h : pacHasAdData policy subject false = true) :
    ∃ raw pac, subject = some raw ∧ Pac.parse raw = .ok pac ∧
      pac.buffers.any (·.kind == pacLogonInfo) = true := by
  unfold pacHasAdData at h
  rw [if_neg Bool.false_ne_true] at h
  split at h
  · cases h
  · rename_i raw
    split at h
    · cases h
    · rename_i pac hparse
      exact ⟨raw, pac, rfl, hparse, h⟩

theorem filtered_of_signPac {l : Libs} {ticket : PacTicket} {signed : Str}
    (hfilter : run.filterCrossRealmLogon = filterCrossRealmLogon domain)
    (hforeign : c.gathered.header.realm ≠ run.store.realm)
    (hlocal : initialPac c.resolved = false)
    (hpac : c.resolved.subject.pac = c.gathered.headerPac) (hupdated : updated = none)
    (hlogon : carriedLogon run c.gathered.header.realm c.gathered.headerPac
      = .ok c.resolved.subject.evidenceLogon)
    (hone : ∀ raw pac, c.gathered.headerPac = some raw → Pac.parse raw = .ok pac →
      (pac.buffers.filter (·.kind == pacLogonInfo)).length ≤ 1)
    (had : adData = true →
      pacHasAdData run.store.policy c.resolved.subject.pac (initialPac c.resolved) = true)
    (hsigned : MintTicket.signPac l store p (ticketPac c adData updated) ticket = .ok signed) :
    ∃ bs, signed = (Pac.built 0 bs).toBytes ∧ Carries (Filtered domain c.gathered.headerPac) bs := by
  cases adData with
  | false =>
    obtain ⟨bs, rfl, hbs⟩ := carries_mitTicketPac (mapError_ok hsigned)
    exact ⟨bs, rfl, fun b hb hkind => filtered_of_isMit (hbs b hb hkind)⟩
  | true =>
    have had := had rfl
    subst hupdated
    rw [hpac, hlocal] at had
    obtain ⟨raw, pac, hraw, hparse, hany⟩ := pac_of_adData had
    rw [hraw] at hlogon
    have hone := hone raw pac hraw hparse
    obtain ⟨given, logon, hgiven, hev⟩ := filter_of_carriedLogon hforeign hparse hone hany hlogon
    obtain ⟨ident, -, hsigned⟩ := bind_ok hsigned
    obtain ⟨buffers, hbuffers, hsigned⟩ := bind_ok (mapError_ok hsigned)
    rw [hlocal, if_neg Bool.false_ne_true, hpac, hraw, Option.none_or, hev] at hbuffers
    obtain ⟨subject, hsubject, rfl⟩ := map_ok hbuffers
    obtain rfl := Except.ok.inj (hparse.symm.trans (mapError_ok hsubject))
    refine carries_signReplyBuffers (fun b hb => ?_) hsigned
    obtain ⟨hdata, hrequester⟩ := mem_carriedBuffers hone hb
    refine ⟨fun hkind info hinfo => ?_, fun hkind => ⟨raw, pac, hraw, hparse, ?_, hrequester hkind⟩⟩
    · rw [hdata hkind] at hinfo
      rw [hfilter] at hgiven
      exact not_claims_of_filter hgiven hinfo
    · obtain ⟨c, hc, hlogonKind⟩ := any_eq_true.mp hany
      exact ⟨c, hc, by simpa using hlogonKind⟩

/-- **No local SID in another realm's logon information.**  When the header ticket is from another realm,
and the request is neither on behalf of a second ticket's client nor S4U2Self for a user of this realm, the
logon information in the PAC of the issued ticket has no SID of the local domain, if the header's PAC has
it once; and a requester there is the one of the header's PAC. -/
theorem foreign_logon_filtered (hc : run.libs.ad.Lawful)
    (hfilter : run.filterCrossRealmLogon = filterCrossRealmLogon domain)
    (h : issueTgsFrom run req raw sender = .ok issued) :
    ∃ s, steps run req raw sender = .ok s ∧
      s.minted.mint run.libs.toLibs run.store run.draw = .ok issued.ticket ∧
      (s.header.realm ≠ run.store.realm →
        s.body.kdcOptions.bit FlagBit.cnameInAddlTkt = false →
        s.resolved.self.s4u.bind (·.local) = none →
        (∀ raw pac, s.checked.gathered.headerPac = some raw → Pac.parse raw = .ok pac →
          (pac.buffers.filter (·.kind == pacLogonInfo)).length ≤ 1) →
        s.minted.pac.isSome = true →
        ∃ bs, pacFromTicketPart run.libs.ad s.part = some (Pac.built 0 bs).toBytes ∧
          Carries (Filtered domain s.checked.gathered.headerPac) bs) := by
  obtain ⟨s, hs, hmint⟩ := steps_of_issued h
  refine ⟨s, hs, hmint, fun hforeign hopt hself hone hsome => ?_⟩
  have t := trace_of_steps hs
  have hlocal : initialPac s.resolved = false := by
    rw [initialPac, hself]
    rfl
  obtain ⟨hproxy, hpac, hlogon⟩ := subject_of_header hopt hlocal t.checks.resolved.subject
  obtain ⟨pac, hsome⟩ := Option.isSome_iff_exists.mp hsome
  obtain ⟨adData, updated, hupdated, rfl, had⟩ := pac_of_ticketToMint (minted_of_steps hs) hsome
  obtain ⟨signed, der, hsigned, hfound⟩ := pacFromTicketPart_of_part hc hsome t.part
  have hheader : s.checked.gathered.header.realm ≠ run.store.realm := by
    rw [t.gathers.header_eq]
    exact hforeign
  obtain ⟨bs, rfl, hbs⟩ := filtered_of_signPac hfilter hheader hlocal hpac
    (updatedPac_of_plain hproxy hupdated) hlogon hone had hsigned
  exact ⟨bs, hfound, hbs⟩

/-! ### Two domains -/

def localDomain : RpcSid := .ntDomain 11 13 17

def otherDomain : RpcSid := .ntDomain 23 29 31

/-- A KDC of the local domain that accepts a header of the other realm. -/
def domainRun (entries : List Principal) (encTkt : TicketPart) (body : ReqBody) : Run :=
  let run := plainRun entries (plainHeader (str "X") encTkt body) none
  { run with
    libs := { plainKdcLibs with logonIdentity := fun _ _ => .ok ⟨[], [], [], []⟩ }
    filterCrossRealmLogon := filterCrossRealmLogon localDomain
    store := { run.store with
      policy := { run.store.policy with adIdentity := true, realmForHost := fun _ => some (str "X") }
      pacIdentity := fun name realm =>
        ⟨logonInfoBuffer name.componentsJoined realm localDomain 1000, [], [],
          requesterSidBuffer (localDomain.withRid 1000)⟩ } }

def foreignTicket (key : ProtocolKey) (cname : List Str) (buffers : List PacBuffer) : MintTicket :=
  { pacTicket [str "krbtgt", str "R"] key cname with
    srealm := str "X"
    crealm := str "X"
    kdcKey := key
    pac := some (.ad none (some (Pac.built 0 buffers).toBytes) none none) }

def foreignTgt (cname : List Str) (buffers : List PacBuffer) : TicketPart :=
  ((foreignTicket kdcKeyB cname buffers).part plainKdcLibs.toLibs emptyStore).toOption.getD aliceTgt

def logonOf (domain : RpcSid) : PacBuffer :=
  .new pacLogonInfo (logonInfoBuffer (str "eve") (str "X") domain 500)

def clientOf (name : Str) : PacBuffer := .new pacClientInfo (clientInfoBuffer 1000 name)

def issuedPac (run : Run) (req : Req) : Option Pac := do
  let issued ← (issueTgsFrom run req none none).toOption
  let part ← (decryptTicketPart plainKdcLibs.toLibs serverKeyA issued.ticket).toOption
  let raw ← pacFromTicketPart plainAd part
  (Pac.parse raw).toOption

/-- The logon domains and the requesters in it. -/
def issuedSids (run : Run) (req : Req) : Option (List RpcSid × List RpcSid) :=
  (issuedPac run req).map fun pac =>
    ((pac.buffers.filter (·.kind == pacLogonInfo)).filterMap fun b =>
        (parseKerbValidationInfo b.data).toOption.map (·.logonDomainId),
      (pac.buffers.filter (·.kind == pacRequesterSid)).filterMap fun b => RpcSid.fromMsDtyp b.data)

/-- A request for a service of the realm. -/
def eveBody : ReqBody := plainBody [] [str "http", str "web"] 0 none

/-- The KDC that receives it with some buffers in the PAC of the header. -/
def eveRun (buffers : List PacBuffer) : Run :=
  domainRun [frontEntry] (foreignTgt [str "eve"] (clientOf (str "eve") :: buffers)) eveBody

/-- The header of a service of the other realm. -/
def serviceTgt : TicketPart :=
  foreignTgt [str "http", str "web.x"] [clientOf (str "http/web.x")]

def userEntry : Principal :=
  { plainEntry [] kdcKeyB with name := ⟨PrincipalName.ntPrincipal, [str "bob"]⟩ }

/-- The request of the service for a ticket of `bob` to itself. -/
def bobBody : ReqBody := plainBody [FlagBit.canonicalize] [str "http", str "web.x"] 0 none

/-- The KDC that receives it. -/
def bobRun : Run :=
  { domainRun [userEntry, crossEntry] serviceTgt bobBody with
    processS4u2selfReq := fun _ _ _ _ => .ok (some ⟨userEntry.name, str "R", some userEntry, none⟩) }

/-- The second ticket the other realm issues to the service, for `alice` and a service of this one. -/
def foreignEvidence : Ticket :=
  ((foreignTicket serverKeyA [str "http", str "web.x"]
    [logonOf localDomain, clientOf (str "alice@X"),
      .new pacDelegationInfo (S4uDelegationInfo.toBuffer ⟨str "http/db", [str "http/web.x@X"]⟩)]).mint
      plainKdcLibs.toLibs emptyStore []).toOption.getD ⟨[], .krbtgt [], ⟨0, none, []⟩⟩

/-- The request of the service on behalf of `alice`. -/
def aliceBody : ReqBody :=
  plainBody [FlagBit.cnameInAddlTkt] [str "http", str "db"] 0 (some [foreignEvidence])

/-- It asks for resource-based delegation. -/
def aliceReq : Req :=
  { plainReq aliceBody with padata := some [⟨paTgsReq, []⟩, ⟨paPacOptions, [1]⟩] }

/-- The KDC that receives it, where the target lets the service through. -/
def aliceRun : Run :=
  domainRun [{ plainEntry [str "krbtgt", str "R"] serverKeyA with realm := str "X" },
    { plainEntry [str "http", str "db"] serverKeyA with s4uAllowedFrom := [str "http/web.x@X"] }]
    serviceTgt aliceBody

/-- **Local SIDs under a header of another realm.**  A PAC made for a user of the realm has them; the
requester is copied as it is; and so is the logon information of a second ticket, and the one that stands
twice in the header's PAC. -/
theorem local_sids_under_foreign_header :
    issuedSids bobRun (plainReq bobBody) = some ([localDomain], [localDomain.withRid 1000]) ∧
    issuedSids (eveRun [logonOf otherDomain,
        .new pacRequesterSid (requesterSidBuffer (localDomain.withRid 500))]) (plainReq eveBody)
      = some ([otherDomain], [localDomain.withRid 500]) ∧
    issuedSids aliceRun aliceReq = some ([localDomain], []) ∧
    issuedSids (eveRun [logonOf localDomain, .new pacLogonInfo []]) (plainReq eveBody)
      = some ([localDomain], []) := by
  refine ⟨?_, ?_, ?_, ?_⟩ <;> decide +kernel

/-- The KDC receives the logon information of the other domain with SIDs of this one. -/
def mixedRun : Run :=
  eveRun [.new pacLogonInfo ({ KerbValidationInfo.forClient (str "eve") (str "X") otherDomain 500 with
    extraSids := [⟨localDomain.withRid 512, seGroupDefault⟩, ⟨otherDomain.withRid 7, seGroupDefault⟩]
    resourceGroupDomainSid := some localDomain }).toNdr]

theorem foreign_logon_filtered_mixed :
    ∃ s bs, steps mixedRun (plainReq eveBody) none none = .ok s ∧
      pacFromTicketPart mixedRun.libs.ad s.part = some (Pac.built 0 bs).toBytes ∧
      Carries (Filtered localDomain s.checked.gathered.headerPac) bs := by
  have hissued : (issueTgsFrom mixedRun (plainReq eveBody) none none).isOk = true := by
    decide +kernel
  obtain ⟨issued, hissued⟩ := exists_of_isOk hissued
  obtain ⟨s, hs, -, hfacts⟩ := foreign_logon_filtered lawful_plainAd rfl hissued
  have hplain := map_ok_inj (f := fun s => s.header.realm == str "X"
    && !s.body.kdcOptions.bit FlagBit.cnameInAddlTkt
    && (s.resolved.self.s4u.bind (·.local)).isNone
    && (s.checked.gathered.headerPac.bind fun raw => (Pac.parse raw).toOption).all (fun pac =>
      (pac.buffers.filter (·.kind == pacLogonInfo)).length ≤ 1)
    && s.minted.pac.isSome) hs (b := true) (by decide +kernel)
  simp only [Bool.and_eq_true, beq_iff_eq, Bool.not_eq_true', Option.isNone_iff_eq_none] at hplain
  obtain ⟨⟨⟨⟨hrealm, hopt⟩, hself⟩, hone⟩, hsome⟩ := hplain
  have hforeign : s.header.realm ≠ mixedRun.store.realm := by
    rw [hrealm]
    decide
  obtain ⟨bs, hpac, hbs⟩ := hfacts hforeign hopt hself
    (fun raw pac hraw hparse => by simpa [hraw, hparse, Except.toOption] using hone) hsome
  exact ⟨s, bs, hs, hpac, hbs⟩

end Tgs

end Issue

end Kerber
