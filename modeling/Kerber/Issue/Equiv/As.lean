import Kerber.Issue.As
import Kerber.Issue.Equiv.Indicators
import Kerber.Issue.Equiv.Lifetime

/-!
# A successful AS request, step by step

`steps` is a request with what every step settles, and `steps_of_issued` and `trace_of_steps` take a
successful one apart.  `Trace.finishProcessAsReq_env` connects the whole request to the model of flags
and times: a successful request is a successful one there, with the same ticket.

`preauthenticated` is what a reply stands for: a client that requires pre-authentication, and one that
asks for an anonymous ticket, has been verified by some mechanism, the PRE-AUTHENT flag says so, and
the indicators are the ones of that mechanism.
-/

namespace Kerber.Issue.As

open List FlagBit

open Tgs (FastOk Req)

variable {run : Run} {req : Req} {raw : Option Str} {body : ReqBody} {fast : Option FastOk}
  {l : AsLookup} {pre : AsPreauth} {times : TgsTimes} {m : MintTicket} {issued : IssuedAs}
variable {modules : List PreauthModule} {rock : PreauthRock} {kdc : PreauthKdc}

/-! ### The steps -/

/-- What `lookup_client` has checked and found. -/
structure Looks (run : Run) (req : Req) (body : ReqBody) (fast : Option FastOk) (l : AsLookup) :
    Prop where
  realm : body.realm = run.store.realm
  reqCname : body.cname = some l.reqCname
  client : run.store.fetchName l.reqCname = .ok (some l.client)
  server : run.store.fetchName l.sname = .ok (some l.server)
  validated : validateAsRequest run.store l.client l.server body.toKdcReqBody run.kdcTime = .ok ()
  cname : l.cname = l.reqCname ∨ l.cname = l.client.name
  workPadata : l.workPadata = fast.elim req.padata fun f => some f.innerPadata

theorem lookupAsPrinc_ok {store : KdcStore} {name : PrincipalName} {lookingUp : String}
    {found : Option Principal} (h : lookupAsPrinc store name lookingUp = .ok found) :
    store.fetchName name = .ok found :=
  mapError_ok h

theorem lookupClient_ok (h : lookupClient run req body fast = .ok l) : Looks run req body fast l := by
  obtain ⟨realm, hutf8, h⟩ := bind_ok h
  obtain ⟨hrealm, h⟩ := rejectIf_bind_ok h
  obtain ⟨reqCname, hcname, h⟩ := bind_ok h
  obtain ⟨found, hfound, h⟩ := bind_ok h
  obtain ⟨client, hclient, h⟩ := bind_ok h
  obtain ⟨found', hfound', h⟩ := bind_ok h
  obtain ⟨server, hserver, h⟩ := bind_ok h
  obtain ⟨_, hvalid, h⟩ := bind_ok h
  obtain ⟨etype, _, h⟩ := bind_ok h
  cases h
  obtain rfl := Tgs.utf8Realm_ok hutf8
  obtain rfl := elim_ok hclient
  obtain rfl := elim_ok hserver
  refine ⟨by simpa using hrealm, elim_ok hcname, lookupAsPrinc_ok hfound, lookupAsPrinc_ok hfound',
    hvalid, ?_, rfl⟩
  split
  · exact .inr rfl
  · exact .inl rfl

/-- What `finish_preauth` has checked and found. -/
structure Preauths (run : Run) (req : Req) (raw : Option Str) (body : ReqBody)
    (fast : Option FastOk) (l : AsLookup) (pre : AsPreauth) : Prop where
  lookup : pre.lookup = l
  anonymous : pre.anonymousAs = body.kdcOptions.bit FlagBit.anonymous
  anonymousName : pre.anonymousAs = true → isAnonymousPrincipal l.reqCname = true
  cname : pre.cname = if pre.anonymousAs then anonymousPrincipalName else l.cname
  rock : ∃ asReqDer' paBody, asReqDer run req raw = .ok asReqDer' ∧
    pre.rock = preauthRock l fast asReqDer' paBody pre.cname
  answer : runAsPreauth run.kdc pre.rock run.modules = .ok pre.answer
  outcome : ∃ o, applyAction run l (pre.answer.map (·.2)) = .ok o ∧
    applyChallenge run fast l.ckey o = .ok pre.outcome
  required : (attr l.client kdbRequiresPreAuth || pre.anonymousAs) = true →
    pre.outcome.skipTimestamp = true
  hardware : attr l.client kdbRequiresHwAuth = false
  hwPreauth : pre.hwPreauth = false

theorem anonymousAs_ok {reqCname : PrincipalName} {anonymous : Bool}
    (h : anonymousAs body reqCname = .ok anonymous) :
    anonymous = body.kdcOptions.bit FlagBit.anonymous ∧
      (anonymous = true → isAnonymousPrincipal reqCname = true) := by
  unfold anonymousAs at h
  split at h
  · rename_i hbit
    obtain ⟨hname, h⟩ := rejectIf_bind_ok h
    cases h
    exact ⟨hbit.symm, fun _ => by simpa using hname⟩
  · rename_i hbit
    cases h
    exact ⟨(Bool.not_eq_true _ ▸ hbit).symm, fun h => absurd h Bool.false_ne_true⟩

theorem finishPreauth_ok (h : finishPreauth run req raw body fast l = .ok pre) :
    Preauths run req raw body fast l pre := by
  obtain ⟨der, _, h⟩ := bind_ok h
  obtain ⟨_, _, h⟩ := bind_ok h
  obtain ⟨anonymous, hanon, h⟩ := bind_ok h
  obtain ⟨asReqDer', hder, h⟩ := bind_ok h
  obtain ⟨answer, hanswer, h⟩ := bind_ok h
  obtain ⟨o, ho, h⟩ := bind_ok h
  obtain ⟨outcome, houtcome, h⟩ := bind_ok h
  obtain ⟨hrequired, h⟩ := rejectIf_bind_ok h
  obtain ⟨hhw, h⟩ := rejectIf_bind_ok h
  cases h
  refine ⟨rfl, (anonymousAs_ok hanon).1, (anonymousAs_ok hanon).2, rfl, ⟨asReqDer', _, hder, rfl⟩,
    mapError_ok hanswer, ⟨o, ho, houtcome⟩, fun hneeds => ?_, by simpa using hhw, rfl⟩
  dsimp only at hneeds ⊢
  rw [hneeds, Bool.true_and] at hrequired
  simpa using hrequired

/-- What the steps of a request settle. -/
structure Steps where
  fast : Option FastOk
  body : ReqBody
  pre : AsPreauth
  keys : Keys
  times : TgsTimes
  minted : MintTicket
  part : TicketPart

abbrev Steps.client (s : Steps) : Principal := s.pre.lookup.client

/-- `issue_as_from` up to the encryption of the ticket, with what each step settles. -/
def steps (run : Run) (req : Req) (raw : Option Str) : Except Error Steps := do
  let der ← bodyDer run.libs.toKdcLibs req.body raw
  let fast ← run.unwrapFast (findPa req.padata Tgs.paFxFast) der
  let body ← innerBody run req.body fast
  let l ← lookupClient run req body fast
  let pre ← finishPreauth run req raw body fast l
  let keys ← replyKeys run pre
  let times ← asTimes run body pre
  let minted ← ticketToMint run req body pre keys times
  let part ← minted.part run.libs.toLibs run.store
  return { fast, body, pre, keys, times, minted, part }

/-- **A successful request goes through its steps**, and its ticket is the one they settle. -/
theorem steps_of_issued (h : issueAsFrom run req raw = .ok issued) :
    ∃ s, steps run req raw = .ok s ∧
      s.minted.mint run.libs.toLibs run.store run.draw = .ok issued.ticket := by
  obtain ⟨der, hder, h⟩ := bind_ok h
  obtain ⟨-, h⟩ := rejectIf_bind_ok h
  obtain ⟨fast, hfast, h⟩ := bind_ok h
  obtain ⟨body, hbody, h⟩ := bind_ok h
  have h := mapError_ok h
  obtain ⟨l, hl, h⟩ := bind_ok h
  obtain ⟨pre, hpre, h⟩ := bind_ok h
  obtain ⟨keys, hkeys, h⟩ := bind_ok h
  obtain ⟨times, htimes, h⟩ := bind_ok h
  obtain ⟨m, hm, h⟩ := bind_ok h
  obtain ⟨ticket, hticket, h⟩ := bind_ok h
  obtain ⟨⟨reply, key⟩, -, h⟩ := bind_ok h
  cases h
  obtain ⟨part, hpart, -⟩ := bind_ok hticket
  refine ⟨⟨fast, body, pre, keys, times, m, part⟩, ?_, hticket⟩
  rw [steps, hder, ok_bind, hfast, ok_bind, hbody, ok_bind, hl, ok_bind, hpre, ok_bind, hkeys,
    ok_bind, htimes, ok_bind, hm, ok_bind, hpart]
  rfl

/-- What a ticket takes from the steps before it. -/
structure Mints (run : Run) (pre : AsPreauth) (times : TgsTimes) (m : MintTicket) : Prop where
  cname : m.cname = pre.cname
  crealm : m.crealm = if pre.anonymousAs then anonymousRealm else run.store.realm
  flags : m.flags = times.flags
  authtime : m.authtime = times.authtime
  starttime : m.starttime = times.starttime
  endtime : m.endtime = times.end
  renewTill : m.renewTill = times.ticketRenewTill
  indicators : m.indicators = pre.outcome.indicators

theorem ticketToMint_ok {keys : Keys} (h : ticketToMint run req body pre keys times = .ok m) :
    Mints run pre times m := by
  obtain ⟨⟨krbtgt, krbtgtKey⟩, _, h⟩ := bind_ok h
  obtain ⟨kdcKey, _, h⟩ := bind_ok h
  obtain ⟨extraAd, _, h⟩ := bind_ok h
  obtain ⟨_, _, h⟩ := bind_ok h
  cases h
  exact ⟨rfl, rfl, rfl, rfl, rfl, rfl, rfl, rfl⟩

/-- What the steps have checked. -/
structure Trace (run : Run) (req : Req) (raw : Option Str) (s : Steps) : Prop where
  unwrapped : ∃ der, bodyDer run.libs.toKdcLibs req.body raw = .ok der ∧
    run.unwrapFast (findPa req.padata Tgs.paFxFast) der = .ok s.fast
  body : innerBody run req.body s.fast = .ok s.body
  looks : Looks run req s.body s.fast s.pre.lookup
  preauths : Preauths run req raw s.body s.fast s.pre.lookup s.pre
  times : asTimes run s.body s.pre = .ok s.times
  mints : Mints run s.pre s.times s.minted
  part : s.minted.part run.libs.toLibs run.store = .ok s.part

theorem trace_of_steps {s : Steps} (h : steps run req raw = .ok s) : Trace run req raw s := by
  obtain ⟨der, hder, h⟩ := bind_ok h
  obtain ⟨fast, hfast, h⟩ := bind_ok h
  obtain ⟨body, hbody, h⟩ := bind_ok h
  obtain ⟨l, hl, h⟩ := bind_ok h
  obtain ⟨pre, hpre, h⟩ := bind_ok h
  obtain ⟨keys, _, h⟩ := bind_ok h
  obtain ⟨times, htimes, h⟩ := bind_ok h
  obtain ⟨m, hm, h⟩ := bind_ok h
  obtain ⟨part, hpart, h⟩ := bind_ok h
  cases h
  have hp := finishPreauth_ok hpre
  obtain rfl := hp.lookup
  exact ⟨⟨der, hder, hfast⟩, hbody, lookupClient_ok hl, hp, htimes, ticketToMint_ok hm, hpart⟩

/-- The environment of the flags and times of a request. -/
def Steps.env (run : Run) (s : Steps) : AsEnv where
  store := run.store.read
  kdcTime := run.kdcTime.toNat
  client := s.pre.lookup.client
  server := s.pre.lookup.server
  cname := s.minted.cname
  crealm := s.minted.crealm
  skipTimestamp := s.pre.outcome.skipTimestamp
  hwPreauth := s.pre.hwPreauth
  keys := .ok ()
  policies := run.kdcpolicies s.body s.pre.lookup.client s.pre.lookup.server s.pre.outcome.indicators
  encode := .ok ()

/-! ### The flags and times -/

theorem length_getTicketFlags (options : KdcOptions) (client : Option Principal)
    (server : Principal) : (getTicketFlags options client server none).bits.length = 32 := by
  simp only [getTicketFlags, limitFlags, length_setIf, KerberosFlags.length_withBit,
    length_optsToFlags]

theorem bit_asTimes (h : asTimes run body pre = .ok times) :
    times.flags.bit preAuthent = pre.outcome.skipTimestamp ∧
      times.flags.bit hwAuthent = pre.hwPreauth := by
  obtain ⟨fin, _, h⟩ := bind_ok h
  obtain ⟨adjusted, _, h⟩ := bind_ok h
  cases h
  have hother := (kdcGetTicketRenewtime_spec run.store.read body.toKdcReqBody none
    (some pre.lookup.client) pre.lookup.server
    ((getTicketFlags body.kdcOptions (some pre.lookup.client) pre.lookup.server none
      |>.withBit preAuthent pre.outcome.skipTimestamp)
      |>.withBit hwAuthent pre.hwPreauth)
    (requestStart (KerberosTime.fromUnixSeconds run.kdcTime.toNat) body.toKdcReqBody) fin).1
  refine ⟨(hother _ (by decide)).trans ?_, (hother _ (by decide)).trans ?_⟩
  · rw [KerberosFlags.bit_withBit_ne _ (by decide), KerberosFlags.bit_withBit,
      length_getTicketFlags, if_pos (by decide)]
  · rw [KerberosFlags.bit_withBit, KerberosFlags.length_withBit, length_getTicketFlags,
      if_pos (by decide)]

namespace Trace

variable {s : Steps}

theorem part_flags (t : Trace run req raw s) : s.part.flags = s.times.flags := by
  rw [eq_bare_of_part t.part, MintTicket.bare, t.mints.flags]

end Trace

/-! ### Who was verified -/

/-- A way to verify the client: the answer of a module, or the encrypted challenge. -/
inductive Mechanism
  | answer (m : PreauthModule) (a : PreauthAction)
  | challenge (f : FastOk) (blob : Str) (key : KeyEntry)

/-- Whether an action is the end of the exchange. -/
def Final : PreauthAction → Prop
  | .challenge _ => False
  | _ => True

namespace Mechanism

/-- The mechanism has verified padata of the request: a loaded module says so of the padata it was
given, or the challenge in the armored padata is one under the client's key. -/
def Verified (run : Run) (s : Steps) : Mechanism → Prop
  | answer m a => m ∈ run.modules ∧ m.processAs run.kdc s.pre.rock = .ok (some a) ∧ Final a
  | challenge f blob key => challengeBlob run s.fast = some (f, blob) ∧
    s.pre.lookup.ckey = some key ∧
    verifyEncryptedChallenge run.kdc key.key f.armorKey blob = .ok ()

def asserted (policy : Policy) : Mechanism → List Str
  | answer _ (.pkinit _ _ signed) => if signed then policy.pkinitIndicators else []
  | answer _ (.otp _ indicators) => indicators
  | answer _ (.spakeDone _) => policy.spakePreauthIndicators
  | answer _ _ => []
  | challenge _ _ _ => policy.encryptedChallengeIndicator.toList

end Mechanism

theorem mem_of_mem_authindAdd {indicators : List Str} {ind x : Str}
    (h : x ∈ authindAdd indicators ind) : x ∈ indicators ∨ x = ind := by
  unfold authindAdd at h
  split at h
  · exact .inl h
  · simpa using h

theorem mem_of_mem_foldl_authindAdd {x : Str} (new : List Str) :
    ∀ {indicators : List Str}, x ∈ new.foldl authindAdd indicators → x ∈ indicators ∨ x ∈ new := by
  induction new with
  | nil => exact fun h => .inl h
  | cons ind new ih =>
    intro indicators h
    rcases ih h with h | h
    · rcases mem_of_mem_authindAdd h with h | rfl
      · exact .inl h
      · exact .inr mem_cons_self
    · exact .inr (mem_cons_of_mem _ h)

theorem runAsPreauth_some {m : PreauthModule} {a : PreauthAction}
    (h : runAsPreauth kdc rock modules = .ok (some (m, a))) :
    m ∈ modules ∧ m.processAs kdc rock = .ok (some a) := by
  induction modules with
  | nil => cases h
  | cons m' rest ih =>
    unfold runAsPreauth at h
    split at h
    · rename_i a' hm'
      cases h
      exact ⟨mem_cons_self, hm'⟩
    · exact ⟨mem_cons_of_mem _ (ih h).1, (ih h).2⟩
    · cases h

theorem runAsPreauth_none (h : runAsPreauth kdc rock modules = .ok none) :
    ∀ m ∈ modules, m.processAs kdc rock = .ok none := by
  induction modules with
  | nil => exact fun m hm => nomatch hm
  | cons m' rest ih =>
    unfold runAsPreauth at h
    split at h
    · cases h
    · rename_i hm'
      intro m hm
      rcases mem_cons.mp hm with rfl | hm
      · exact hm'
      · exact ih h m hm
    · cases h

/-- What an outcome owes to a mechanism: it counts as verified, with indicators of that mechanism. -/
def Outcome.OwedTo (o : Outcome) (policy : Policy) (mech : Mechanism) : Prop :=
  o.skipTimestamp = true ∧ ∀ ind ∈ o.indicators, ind ∈ mech.asserted policy

theorem applyAction_ok {answer : Option (PreauthModule × PreauthAction)} {o : Outcome}
    (h : applyAction run l (answer.map (·.2)) = .ok o) :
    (answer = none ∧ o.skipTimestamp = false ∧ o.indicators = []) ∨
    ∃ m a, answer = some (m, a) ∧ Final a ∧ o.OwedTo run.store.policy (.answer m a) := by
  have hmem : ∀ {new : List Str} {x : Str}, x ∈ new.foldl authindAdd [] → x ∈ new :=
    fun hx => (mem_of_mem_foldl_authindAdd _ hx).resolve_left (not_mem_nil)
  cases answer with
  | none =>
    cases h
    exact .inl ⟨rfl, rfl, rfl⟩
  | some ma =>
    obtain ⟨m, a⟩ := ma
    refine .inr ⟨m, a, rfl, ?_⟩
    cases a with
    | challenge eData => cases h
    | encTsOk =>
      cases h
      exact ⟨trivial, rfl, fun ind hind => absurd hind not_mem_nil⟩
    | spakeDone key =>
      cases h
      exact ⟨trivial, rfl, fun ind hind => hmem hind⟩
    | otp key indicators =>
      cases h
      exact ⟨trivial, rfl, fun ind hind => hmem hind⟩
    | pkinit key pa signed =>
      cases h
      refine ⟨trivial, rfl, fun ind hind => ?_⟩
      cases signed with
      | true => exact hmem hind
      | false => exact absurd hind not_mem_nil

theorem applyChallenge_ok {ckey : Option KeyEntry} {o o' : Outcome}
    (h : applyChallenge run fast ckey o = .ok o') :
    (o' = o ∧ (o.skipTimestamp = false → challengeBlob run fast = none)) ∨
    (o.skipTimestamp = false ∧ ∃ f blob key, challengeBlob run fast = some (f, blob) ∧
      ckey = some key ∧ verifyEncryptedChallenge run.kdc key.key f.armorKey blob = .ok () ∧
      (o.indicators = [] → o'.OwedTo run.store.policy (.challenge f blob key))) := by
  unfold applyChallenge at h
  split at h
  · rename_i hskip
    cases h
    exact .inl ⟨rfl, fun hfalse => absurd (hskip.symm.trans hfalse) Bool.false_ne_true.symm⟩
  · rename_i hskip
    rw [Bool.not_eq_true] at hskip
    split at h
    · rename_i hblob
      cases h
      exact .inl ⟨rfl, fun _ => hblob⟩
    · rename_i f blob hblob
      obtain ⟨key, hkey, h⟩ := bind_ok h
      obtain ⟨_, hverify, h⟩ := bind_ok h
      obtain ⟨pa, _, h⟩ := bind_ok h
      cases h
      refine .inr ⟨hskip, f, blob, key, hblob, elim_ok hkey, mapError_ok hverify, fun hnil => ?_⟩
      refine ⟨rfl, fun ind hind => ?_⟩
      rw [hnil] at hind
      show ind ∈ run.store.policy.encryptedChallengeIndicator.toList
      cases hec : run.store.policy.encryptedChallengeIndicator with
      | none =>
        rw [hec] at hind
        exact absurd hind not_mem_nil
      | some ai =>
        rw [hec] at hind
        exact mem_singleton.mpr ((mem_of_mem_authindAdd hind).resolve_left not_mem_nil)

namespace Trace

variable {s : Steps}

/-- Either nothing was verified and the ticket has no indicators, or a mechanism has verified padata
of the request and the outcome is owed to it. -/
theorem outcome (t : Trace run req raw s) :
    (s.pre.outcome.skipTimestamp = false ∧ s.pre.outcome.indicators = [] ∧
      s.pre.answer = none ∧ challengeBlob run s.fast = none) ∨
    ∃ mech : Mechanism, mech.Verified run s ∧ s.pre.outcome.OwedTo run.store.policy mech := by
  have hp := t.preauths
  obtain ⟨o, haction, hchallenge⟩ := hp.outcome
  rcases applyAction_ok haction with ⟨hnone, hskip, hnil⟩ | ⟨m, a, hsome, hfinal, howed⟩
  · rcases applyChallenge_ok hchallenge with ⟨heq, hblob⟩ | ⟨_, f, blob, key, hblob, hkey, hv, howed⟩
    · rw [heq]
      exact .inl ⟨hskip, hnil, hnone, hblob hskip⟩
    · exact .inr ⟨.challenge f blob key, ⟨hblob, hkey, hv⟩, howed hnil⟩
  · refine .inr ⟨.answer m a, ?_, ?_⟩
    · have hanswer := hp.answer
      rw [hsome] at hanswer
      obtain ⟨hmem, hprocess⟩ := runAsPreauth_some hanswer
      exact ⟨hmem, hprocess, hfinal⟩
    · rcases applyChallenge_ok hchallenge with ⟨heq, _⟩ | ⟨hskip, _⟩
      · rw [heq]
        exact howed
      · exact absurd (howed.1.symm.trans hskip) Bool.false_ne_true.symm

/-- The client counts as verified exactly if some mechanism has verified padata of the request. -/
theorem skipTimestamp_iff (t : Trace run req raw s) :
    s.pre.outcome.skipTimestamp = true ↔ ∃ mech : Mechanism, mech.Verified run s := by
  rcases t.outcome with ⟨hskip, _, hnone, hblob⟩ | ⟨mech, hv, howed⟩
  · rw [hskip]
    refine ⟨fun h => absurd h Bool.false_ne_true, ?_⟩
    rintro ⟨mech, hv⟩
    cases mech with
    | answer m a =>
      have hanswer := t.preauths.answer
      rw [hnone] at hanswer
      have hm := runAsPreauth_none hanswer m hv.1
      rw [hv.2.1] at hm
      cases hm
    | challenge f blob key =>
      rw [Mechanism.Verified, hblob] at hv
      cases hv.1
  · exact ⟨fun _ => ⟨mech, hv⟩, fun _ => howed.1⟩

end Trace

/-- **A reply stands for pre-authentication.**  The client's entry passed `validate_as_request`; a
client that requires pre-authentication, or asks for an anonymous ticket, was verified by some
mechanism from padata of the request; the PRE-AUTHENT flag is set exactly if one did; a client that
requires hardware has the HW-AUTHENT flag; and the indicators are those the mechanism asserts. -/
theorem preauthenticated (h : issueAsFrom run req raw = .ok issued) :
    ∃ s, steps run req raw = .ok s ∧
      s.minted.mint run.libs.toLibs run.store run.draw = .ok issued.ticket ∧
      s.pre.rock.padata = (s.fast.elim req.padata fun f => some f.innerPadata) ∧
      run.store.fetchName s.pre.lookup.reqCname = .ok (some s.client) ∧
      validateAsRequest run.store s.client s.pre.lookup.server s.body.toKdcReqBody run.kdcTime
        = .ok () ∧
      (attr s.client kdbRequiresPreAuth = true ∨ s.body.kdcOptions.bit FlagBit.anonymous = true →
        ∃ mech : Mechanism, mech.Verified run s) ∧
      (s.part.flags.bit preAuthent = true ↔ ∃ mech : Mechanism, mech.Verified run s) ∧
      (attr s.client kdbRequiresHwAuth = true → s.part.flags.bit hwAuthent = true) ∧
      (s.minted.noAuthData = false → ∃ before own,
        s.part.authorizationData.getD [] = before ++ own ∧
        addAuthIndicators run.libs.toLibs [] s.minted.indicators s.minted.serviceKey
          s.minted.krbtgt s.minted.krbtgtKey (s.minted.bare s.minted.crealm) = .ok own) ∧
      (s.minted.indicators = [] ∨ ∃ mech : Mechanism, mech.Verified run s ∧
        ∀ ind ∈ s.minted.indicators, ind ∈ mech.asserted run.store.policy) := by
  obtain ⟨s, hs, hmint⟩ := steps_of_issued h
  have t := trace_of_steps hs
  have hp := t.preauths
  have hbits := bit_asTimes t.times
  refine ⟨s, hs, hmint, ?_, t.looks.client, t.looks.validated, fun hneeds => ?_, ?_, fun hhw => ?_,
    indicators_of_part t.part, ?_⟩
  · obtain ⟨_, _, -, hrock⟩ := hp.rock
    rw [hrock, preauthRock, t.looks.workPadata]
  · rw [← t.skipTimestamp_iff]
    refine hp.required ?_
    rw [hp.anonymous, Bool.or_eq_true]
    exact hneeds
  · rw [t.part_flags, hbits.1]
    exact t.skipTimestamp_iff
  · rw [hp.hardware] at hhw
    cases hhw
  · rw [t.mints.indicators]
    rcases t.outcome with ⟨_, hnil, _⟩ | ⟨mech, hv, howed⟩
    · exact .inl hnil
    · exact .inr ⟨mech, hv, howed.2⟩

/-! ### The anonymous principal without the option -/

/-- Libraries that can encode every message; a request is encoded as its body. -/
def plainPreauthLibs : PreauthLibs where
  toKdcLibs := plainKdcLibs
  encryptedData := encryptedSerial.codec.decode
  patimestamp := timeSerial.codec.decode
  asReqBody der := (bodySerial.codec.decode der).toOption
  preauthDecodeFailure _ _ := preauthFailure
  krbFxCf2 key _ _ _ := .ok key

def plainRun (entries : List Principal) (modules : List PreauthModule) (pkinit : Option PkinitKdc)
    (fast : Option FastOk) : Run where
  kdc :=
    { libs := plainPreauthLibs
      store := plainStore (Tgs.tgsEntry :: entries)
      now := .fromUnixSeconds 2000
      pkinit
      processOtp := fun _ => .ok none
      processSpake := fun _ => .ok none
      otpParkPending := false }
  kdcTime := 2000
  modules
  authdataModules := []
  kdcpolicies _ _ _ _ := []
  randomKey etype := .ok ⟨etype, replicate etype.keyLen 7⟩
  draw := []
  encodeReq req := .ok (bodySerial.put req.body)
  unwrapFast _ _ := .ok fast
  wrapAsFast _ _ e := e
  preauthHintEdata _ _ _ _ _ := []
  challengeEdata _ _ _ e := e
  kdcEncryptedChallenge _ _ := .error preauthFailure
  paPkinitKx _ _ := .error preauthFailure
  sealReply i := .ok ([], i.asRepKey)

/-- A request of a client for a ticket of the TGS. -/
def plainAsBody (cname : PrincipalName) : ReqBody :=
  { plainBody [] [str "krbtgt", str "R"] 0 none with cname := some cname }

def plainAsReq (body : ReqBody) (padata : Option (List PaData)) : Req :=
  ⟨10, padata, body⟩

def anonymousEntry : Principal :=
  { plainEntry [str "WELLKNOWN", str "ANONYMOUS"] serverKeyA with name := anonymousPrincipalName }

/-- The KDC that has it, with no modules. -/
def anonymousRun : Run := plainRun [anonymousEntry] [] none none

/-- A request for the anonymous principal, without padata and without the option. -/
def anonymousReq : Req := plainAsReq (plainAsBody anonymousPrincipalName) none

/-- What it gets. -/
def anonymousIssued : IssuedAs :=
  (issueAsFrom anonymousRun anonymousReq none).toOption.getD
    ⟨⟨[], .krbtgt [], ⟨0, none, []⟩⟩, [], kdcKeyB, kdcKeyB⟩

def anonymousPart : TicketPart :=
  (decryptTicketPart plainKdcLibs.toLibs kdcKeyB anonymousIssued.ticket).toOption.getD Tgs.aliceTgt

theorem not_verified_of_no_modules {s : Steps} (h : run.modules = []) (mech : Mechanism) :
    ¬ mech.Verified run s := by
  intro hv
  cases mech with
  | answer m a =>
    rw [Mechanism.Verified, h] at hv
    exact not_mem_nil hv.1
  | challenge f blob key =>
    obtain ⟨hblob, -⟩ := hv
    have hloaded : ecLoaded run = false := by rw [ecLoaded, h, any_nil]
    unfold challengeBlob at hblob
    rw [hloaded] at hblob
    cases hf : s.fast with
    | none =>
      rw [hf] at hblob
      cases hblob
    | some f' =>
      rw [hf] at hblob
      cases hpa : findPa (some f'.innerPadata) paEncryptedChallenge with
      | none =>
        simp only [Option.bind_eq_bind, Option.bind_some, hpa, Option.bind_none, reduceCtorEq]
          at hblob
      | some blob' =>
        simp only [Option.bind_eq_bind, Option.bind_some, hpa, Bool.false_and, Bool.false_eq_true,
          if_false, reduceCtorEq] at hblob

/-- **The anonymous principal needs no pre-authentication of its own.**  A request that names it
without asking for an anonymous ticket gets one by its entry, and nothing was verified. -/
theorem anonymous_principal_unverified :
    issueAsFrom anonymousRun anonymousReq none = .ok anonymousIssued ∧
    anonymousReq.body.cname.any isAnonymousPrincipal = true ∧
    (∀ s (mech : Mechanism), ¬ mech.Verified anonymousRun s) ∧
    decryptTicketPart plainKdcLibs.toLibs kdcKeyB anonymousIssued.ticket = .ok anonymousPart ∧
    isAnonymousPrincipal anonymousPart.cname = true ∧
    anonymousPart.flags.bit preAuthent = false := by
  refine ⟨?_, ?_, fun s mech => not_verified_of_no_modules rfl mech, ?_, ?_, ?_⟩ <;> decide +kernel

/-- A client that requires pre-authentication. -/
def aliceEntry : Principal :=
  { plainEntry [str "alice"] serverKeyA with attributes := kdbRequiresPreAuth }

def timestampReq : Req :=
  plainAsReq (plainAsBody aliceEntry.name) (some [⟨paEncTimestamp, encryptedSerial.put
    ⟨17, none, serverKeyA.bytes ++ timeSerial.put (.fromUnixSeconds 1990)⟩⟩])

/-- The KDC that receives it. -/
def timestampRun : Run := plainRun [aliceEntry] [.encryptedTimestamp] none none

theorem preauthenticated_by_timestamp :
    ∃ s, steps timestampRun timestampReq none = .ok s ∧
      s.part.flags.bit preAuthent = true ∧
      ∃ mech : Mechanism, mech.Verified timestampRun s := by
  have hissued : (issueAsFrom timestampRun timestampReq none).isOk = true := by decide +kernel
  obtain ⟨issued, hissued⟩ := exists_of_isOk hissued
  obtain ⟨s, hs, _, _, _, _, hneeds, hflag, _⟩ := preauthenticated hissued
  have hattr := map_ok_inj (f := fun s => attr s.client kdbRequiresPreAuth) hs (b := true)
    (by decide +kernel)
  have hmech := hneeds (.inl hattr)
  exact ⟨s, hs, hflag.mpr hmech, hmech⟩

end Kerber.Issue.As
