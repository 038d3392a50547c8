import Kerber.Issue.KdcUtil

/-!
# The TGS exchange

`issueTgsBody` follows one TGS request from the decrypted header ticket to the ticket it issues
(`issue/tgs_req.rs`, `issue/tgs_policy.rs`): the option checks, the constraints on the header
ticket, the policy of the server, and the flags and times of the result.

What the request finds on the way (the PAC, the S4U user and the second ticket, the
authentication indicators, the transited path, the keys) enters through `TgsEnv`: each of those
steps can refuse the request, and what they hand to the times and flags is in `TgsResolved`.
-/

namespace Kerber.Issue

open FlagBit Status Err

/-! ### The policy checks (`issue/tgs_policy.rs`) -/

variable (env : TgsEnv) (body : KdcReqBody) (g : TgsGather) (r : TgsResolved)

def nonTgtOption : Bool :=
  body.kdcOptions.bit forwarded || body.kdcOptions.bit proxy
    || body.kdcOptions.bit renew || body.kdcOptions.bit validate

def EncTicketPart.start (t : EncTicketPart) : KerberosTime :=
  t.starttime.getD t.authtime

/-- `check_tgs_constraints_skeleton`; `now` is the clock it reads. -/
def checkTgsConstraintsSkeleton (now : KerberosTime) (body : KdcReqBody)
    (headerSname : PrincipalName) (headerRealm : Str) (encTkt : EncTicketPart)
    (reqSname : PrincipalName) (reqRealm : Str) (renew validate : Bool) : Except Error Unit := do
  let opts := body.kdcOptions
  rejectIf (opts.bit forwarded && !encTkt.flags.bit forwardable)
    (proto badoption tgtNotForwardable)
  rejectIf (opts.bit proxy && !encTkt.flags.bit proxiable)
    (proto badoption tgtNotProxiable)
  rejectIf ((opts.bit mayPostdate || opts.bit postdated) && !encTkt.flags.bit mayPostdate)
    (proto badoption tgtNotPostdatable)
  rejectIf (validate && !encTkt.flags.invalid)
    (proto badoption validateValidTicket)
  rejectIf (renew && !encTkt.flags.renewable)
    (proto badoption ticketNotRenewable)
  rejectIf (encTkt.flags.invalid && !validate)
    (proto tktNyv ticketNotValid)
  rejectIf (validate && now.deltaSeconds encTkt.start < 0)
    (proto tktNyv notYetValid)
  -- A renew with no renew-till is expired.
  rejectIf (renew && encTkt.renewTill.all fun till => till.unixSeconds ≤ now.unixSeconds)
    (proto tktExpired tktExpired)
  if nonTgtOption body then do
    rejectIf (headerSname != reqSname || headerRealm != reqRealm)
      (proto serverNomatch renewServerMismatch)
    rejectIf (opts.bit proxy && reqSname.isKrbtgt)
      (proto badoption cantProxyTgt)
  else do
    rejectIf (!headerSname.isKrbtgt) (proto notUs badTgsServerName)
    rejectIf (!headerSname.isKrbtgtFor reqRealm) (proto notUs badTgsServerInstance)

def checkTgsPolicyFlags (now : UInt32) (server : Principal) (body : KdcReqBody)
    (headerIsTgt : Bool) (tkt : EncTicketPart) : Except Error Unit := do
  let opts := body.kdcOptions
  rejectIf (attr server kdbDisallowRenewable && opts.bit renewable)
    (proto policy nonRenewableTicket)
  rejectIf (attr server kdbDisallowPostdated && opts.bit mayPostdate)
    (proto cannotPostdate nonPostdatableTicket)
  rejectIf (attr server kdbDisallowDupSkey && opts.bit encTktInSkey)
    (proto policy dupSkeyDisallowed)
  rejectIf (attr server kdbDisallowAllTix)
    (proto sPrincipalUnknown serverLockedOut)
  rejectIf (attr server kdbDisallowSvr && !opts.bit encTktInSkey)
    (proto mustUseUser2user serverNotAllowed)
  rejectIf (attr server kdbDisallowTgtBased && headerIsTgt)
    (proto policy tgtBasedNotAllowed)
  rejectIf (attr server kdbRequiresHwAuth && !tkt.flags.bit hwAuthent)
    (proto generic noHwPreauth)
  rejectIf (attr server kdbRequiresPreAuth && !tkt.flags.bit preAuthent)
    (proto generic noPreauth)
  checkDbTimes now none server

/-! ### The stages of a request -/

/-- The header ticket of a request, authenticated and decrypted (`HeaderTgt`). -/
structure HeaderTgt where
  sname : PrincipalName
  realm : Str
  encTkt : EncTicketPart

structure TgsGather where
  encTkt : EncTicketPart
  headerSname : PrincipalName
  headerRealm : Str
  (renew validate : Bool)
  sname : PrincipalName
  reqRealm : Str
  server : Principal

/-- What the S4U, second-ticket and PAC steps of `check_tgs_req` settle. -/
structure TgsResolved where
  s4u2self : Bool
  s4uLocal : Option Principal
  (s4uReferral s4u2proxy : Bool)
  /-- The decrypted second ticket. -/
  stkt : Option EncTicketPart
  ticketCname : PrincipalName
  ticketCrealm : Str

/-- One run of the KDC over a TGS request: the database, the clock readings in the order they
are taken, and the outcome of every step that is not about flags or times. -/
structure TgsEnv where
  store : PrincipalRead
  /-- The clock as the constraint checks read it. -/
  checkNow : KerberosTime
  /-- The clock as the server's expiration is checked. -/
  dbNow : UInt32
  /-- The clock the ticket's times are computed from. -/
  issueNow : KerberosTime
  /-- `get_verified_pac` on the header ticket. -/
  verifyPac : Except Error Unit
  searchSprinc : PrincipalName → Except Error Principal
  /-- `process_s4u2self_req`, `decrypt_2ndtkt` and the checks of what they find. -/
  resolve : TgsGather → Except Error TgsResolved
  /-- The indicator, anonymity, key and transited checks; the answer is `set_transited_flag`. -/
  policyChecks : TgsGather → TgsResolved → Except Error Bool
  /-- The session key. -/
  randomKey : Except Error Unit
  /-- The answers of the active policy modules. -/
  policies : List (Except Error PolicyAdjustment)
  /-- The authorization data, the PAC and the encryption of the reply. -/
  encode : Except Error Unit

/-- `TgsTimes`, as far as it reaches the ticket. -/
structure TgsTimes where
  (authtime starttime : KerberosTime)
  «end» : KerberosTime
  flags : TicketFlags
  ticketRenewTill : Option KerberosTime

def gatherTgsReqInfo (header : HeaderTgt) : Except Error TgsGather := do
  rejectIf (body.kdcOptions.unsupportedBits != 0) (proto badoption unknownReason)
  let renew := body.kdcOptions.bit renew
  let validate := body.kdcOptions.bit validate
  rejectIf (renew && validate) (proto badoption ticketNotRenewable)
  let sname ← body.sname.elim (.error (proto sPrincipalUnknown nullServer)) .ok
  -- A foreign request realm is refused before the server lookup.
  rejectIf (body.realm != env.store.realm) (proto generic getLocalTgt)
  env.verifyPac
  let server ← env.searchSprinc sname
  return { encTkt := header.encTkt, headerSname := header.sname, headerRealm := header.realm,
           renew, validate, sname, reqRealm := body.realm, server }

/-- The server entry the rest of the request works with: an S4U2Self request drops
NO_AUTH_DATA_REQUIRED from it. -/
def TgsGather.issueServer : Principal :=
  if r.s4u2self then
    { g.server with attributes := g.server.attributes &&& ~~~kdbNoAuthDataRequired }
  else g.server

/-- The client entry whose limits apply to the ticket. -/
def tgsClient (store : PrincipalRead) (g : TgsGather) (r : TgsResolved) :
    Except Error (Option Principal) :=
  let subject := r.stkt.getD g.encTkt
  if r.s4u2self then .ok r.s4uLocal
  else if attr (g.issueServer r) kdbNoAuthDataRequired then .ok none
  else if subject.crealm == store.realm then store.fetchName subject.cname
  else .ok none

def requestStart (now : KerberosTime) (body : KdcReqBody) : KerberosTime :=
  if body.kdcOptions.bit postdated then
    body.from.getD (KerberosTime.fromUnixSeconds 0)
  else now

/-- The end of a renewed ticket: the life of the header again, cut at its renew-till. -/
def renewedEnd (encTkt : EncTicketPart) (starttime : KerberosTime) : KerberosTime :=
  let hlife := lifeBetween encTkt.start.unixSeconds encTkt.endtime.unixSeconds
  let wanted :=
    match starttime.addSeconds hlife with
    | .ok t => t
    | .error _ => starttime
  encTkt.renewTill.elim wanted fun till =>
    if till.unixSeconds < wanted.unixSeconds then till else wanted

/-- The times and flags of a ticket before S4U2Self and the policy modules adjust them. -/
def ticketTimes (client : Option Principal) (setTransitedFlag : Bool) : Except Error TgsTimes := do
  let server := g.issueServer r
  let encTkt := g.encTkt
  let flags := getTicketFlags body.kdcOptions client server (some encTkt.flags)
  if g.renew then do
    rejectIf (!encTkt.flags.renewable) (proto badoption ticketNotRenewable)
    let starttime := requestStart env.issueNow body
    let endtime := renewedEnd encTkt starttime
    let (renewTill, flags) :=
      kdcGetTicketRenewtime env.store body (some encTkt) client server flags starttime endtime
    return { authtime := encTkt.authtime, starttime, «end» := endtime,
             flags := setIf setTransitedFlag transitedPolicyChecked true flags,
             ticketRenewTill := renewTill }
  else if g.validate then
    return { authtime := encTkt.authtime, starttime := encTkt.start, «end» := encTkt.endtime,
             flags := setIf setTransitedFlag transitedPolicyChecked true flags,
             ticketRenewTill := encTkt.renewTill }
  else do
    let starttime := requestStart env.issueNow body
    let endtime ←
      kdcGetTicketEndtime env.store starttime (some encTkt.endtime) body.till client server
    let flags := setIf setTransitedFlag transitedPolicyChecked true flags
    let (renewTill, flags) :=
      kdcGetTicketRenewtime env.store body (some encTkt) client server flags starttime endtime
    -- S4U2Proxy issues for the client of the second ticket, authenticated when that one was.
    let authtime := if r.s4u2proxy then (r.stkt.getD encTkt).authtime else encTkt.authtime
    return { authtime, starttime, «end» := endtime, flags, ticketRenewTill := renewTill }

def tgsFlagsTimesPolicy (setTransitedFlag : Bool) : Except Error TgsTimes := do
  env.randomKey
  let client ← tgsClient env.store g r
  let t ← ticketTimes env body g r client setTransitedFlag
  let flags :=
    if r.s4u2self && !r.s4uReferral then s4u2selfForwardable (g.issueServer r) t.flags
    else t.flags
  let times ← enforceKdcpolicy env.issueNow env.policies (t.end, t.ticketRenewTill)
  return { t with flags, «end» := times.1, ticketRenewTill := times.2 }

def checkTgsReq : Except Error (TgsResolved × TgsTimes) := do
  checkTgsConstraintsSkeleton env.checkNow body g.headerSname g.headerRealm g.encTkt g.sname
    g.reqRealm g.renew g.validate
  let r ← env.resolve g
  checkTgsPolicyFlags env.dbNow (g.issueServer r) body g.headerSname.isKrbtgt g.encTkt
  let setTransitedFlag ← env.policyChecks g r
  let t ← tgsFlagsTimesPolicy env body g r setTransitedFlag
  return (r, t)

/-- The encrypted part `mint_ticket` writes: a start equal to the authtime is left out. -/
def mintTicket (cname : PrincipalName) (crealm : Str) (t : TgsTimes) : EncTicketPart :=
  { flags := t.flags, crealm, cname, authtime := t.authtime,
    starttime := omitStartIfAuth t.starttime t.authtime, endtime := t.end,
    renewTill := t.ticketRenewTill }

/-- `issue_tgs_body`: the ticket of a successful request. -/
def issueTgsBody (header : HeaderTgt) : Except Error EncTicketPart := do
  let g ← gatherTgsReqInfo env body header
  let (r, t) ← checkTgsReq env body g
  env.encode
  return mintTicket r.ticketCname r.ticketCrealm t

end Kerber.Issue
