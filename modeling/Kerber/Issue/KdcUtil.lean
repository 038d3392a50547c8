import Kerber.Lib.Except
import Kerber.Types.Time
import Kerber.Types.Flags
import Kerber.Store.Principal

/-!
# Flags and times of an issued ticket

The helpers both exchanges share (`issue/kdc_util.rs`): which flags a ticket gets, when it ends,
and until when it can be renewed.  `applyPolicyTimes` (`plugins.rs`) is how a policy module
shortens the result.
-/

namespace Kerber.Issue

open FlagBit

/-- The fields of a request body the issuing code reads (`krb5_types::KdcReqBody`). -/
structure KdcReqBody where
  kdcOptions : KdcOptions
  sname : Option PrincipalName
  realm : Str
  «from» : Option KerberosTime
  till : KerberosTime
  rtime : Option KerberosTime
deriving DecidableEq

/-- The fields of a decrypted ticket the issuing code reads (`krb5_types::EncTicketPart`). -/
structure EncTicketPart where
  flags : TicketFlags
  crealm : Str
  cname : PrincipalName
  authtime : KerberosTime
  starttime : Option KerberosTime
  endtime : KerberosTime
  renewTill : Option KerberosTime
deriving DecidableEq

/-- The limits of the realm (`store.policy()`); a maximum life of 0 is no limit. -/
structure RealmPolicy where
  (maxLife realmMaxRenewableLife : Nat)
deriving DecidableEq

/-- The database as the issuing code reads it (`kdb::PrincipalRead`). -/
structure PrincipalRead where
  realm : Str
  policy : RealmPolicy
  fetchName : PrincipalName → Except Error (Option Principal)

def omitStartIfAuth (start auth : KerberosTime) : Option KerberosTime :=
  let s := start.unixSeconds
  if s ≠ 0 ∧ s ≠ auth.unixSeconds then some start else none

/-! ### End time -/

/-- The second a ticket must not outlive: the request's till when it has one, and the end of
the header ticket when there is one. -/
def endUntil (headerEnd : Option KerberosTime) (till : KerberosTime) : Nat :=
  let tillS := till.unixSeconds
  let headerS := headerEnd.map KerberosTime.unixSeconds
  if tillS = 0 then
    headerS.getD (2 ^ 32 - 1)
  else
    headerS.elim tillS (fun h => min tillS h)

/-- The seconds from `start` to `until_`, computed in 32 bits: a positive difference that wraps
to a negative one is taken as `i32::MAX`. -/
def lifeBetween (start until_ : Nat) : Int :=
  let life := wrappingSubSigned until_ start
  if until_ > start ∧ life < 0 then 2 ^ 31 - 1 else life

def capLife (life : Int) (maxLife : Nat) : Int :=
  if maxLife > 0 then min life (i64OrMax maxLife) else life

def kdcGetTicketEndtime (store : PrincipalRead) (starttime : KerberosTime)
    (headerEnd : Option KerberosTime) (till : KerberosTime) (client : Option Principal)
    (server : Principal) : Except Error KerberosTime :=
  let life := lifeBetween starttime.unixSeconds (endUntil headerEnd till)
  let life := client.elim life (fun c => capLife life c.maxLife)
  let life := capLife life server.maxLife
  let life := capLife life store.policy.maxLife
  match starttime.addSeconds life with
  | .ok t => .ok t
  | .error _ =>
    match starttime.addHours 10 with
    | .ok t => .ok t
    | .error _ => .error (proto Err.neverValid Status.unknownReason)

/-! ### Flags -/

/-- The flags a ticket takes from the request (`OPTS2FLAGS`). -/
def optsToFlags (req : KdcOptions) : TicketFlags :=
  let flags := KerberosFlags.none
    |>.withBit forwardable (req.bit forwardable)
    |>.withBit forwarded (req.bit forwarded)
    |>.withBit proxiable (req.bit proxiable)
    |>.withBit proxy (req.bit proxy)
    |>.withBit mayPostdate (req.bit mayPostdate)
    |>.withBit postdated (req.bit postdated)
    |>.withBit anonymous (req.bit anonymous)
    |>.withBit encPaRep true
  if req.bit postdated then flags.withBit invalid true else flags

/-- `if cond { flags = flags.with_bit(bit, on) }`. -/
def setIf (cond : Bool) (bit : Nat) (on : Bool) (flags : TicketFlags) : TicketFlags :=
  if cond then flags.withBit bit on else flags

/-- The flags copied from a header ticket (`COPY_TKT_FLAGS`). -/
def copiedFlags : List Nat :=
  [forwarded, proxy, preAuthent, hwAuthent, anonymous]

def headerFlags (h : TicketFlags) (server : Principal) (flags : TicketFlags) : TicketFlags :=
  copiedFlags.foldl (fun f b => setIf (h.bit b) b true f) flags
    |> setIf (attr server kdbOkAsDelegate) okAsDelegate true
    |> setIf (!h.proxiable) proxiable false
    |> setIf (!h.forwardable) forwardable false
    |> setIf (!h.bit anonymous) anonymous false

def eitherAttr (client : Option Principal) (server : Principal) (bit : UInt32) : Bool :=
  attr server bit || client.any (fun c => attr c bit)

def limitFlags (client : Option Principal) (server : Principal) (flags : TicketFlags) :
    TicketFlags :=
  flags
    |> setIf (eitherAttr client server kdbDisallowProxiable) proxiable false
    |> setIf (eitherAttr client server kdbDisallowForwardable) forwardable false

def getTicketFlags (req : KdcOptions) (client : Option Principal) (server : Principal)
    (header : Option TicketFlags) : TicketFlags :=
  match header with
  | some h =>
    -- A renewed or validated ticket keeps the flags of its header.
    if req.bit validate || req.bit renew then h.withBit invalid false
    else limitFlags client server (headerFlags h server (optsToFlags req))
  | none => limitFlags client server ((optsToFlags req).withBit initial true)

def s4u2selfForwardable (server : Principal) (flags : TicketFlags) : TicketFlags :=
  if attr server kdbOkToAuthAsDelegate || server.s4uAllowedTo.isEmpty then flags
  else flags.withBit forwardable false

/-! ### Renewal -/

/-- The renew-till the request asks for: its rtime when it asks for a renewable ticket, its till
when it would take one and the ticket ends before that. -/
def requestedRtime (body : KdcReqBody) (endtime : KerberosTime) : Option KerberosTime :=
  if body.kdcOptions.bit renewable then
    some (body.rtime.getD (KerberosTime.fromUnixSeconds (2 ^ 32 - 1)))
  else if body.kdcOptions.bit renewableOk ∧ body.till.unixSeconds > endtime.unixSeconds then
    some body.till
  else
    none

/-- The seconds `kdc_get_ticket_renewtime` settles on for a wanted renew-till. -/
def renewSeconds (store : PrincipalRead) (header : Option EncTicketPart)
    (client : Option Principal) (server : Principal) (starttime rtime : KerberosTime) : Nat :=
  let rsec := rtime.unixSeconds
  let rsec := (header.bind (·.renewTill)).elim rsec (fun till => min rsec till.unixSeconds)
  let maxRlife := min server.maxRenewableLife store.policy.realmMaxRenewableLife
  let maxRlife := client.elim maxRlife (fun c => min maxRlife c.maxRenewableLife)
  match starttime.addSeconds (i64OrMax maxRlife) with
  | .ok cap => min rsec cap.unixSeconds
  | .error _ => rsec

/-- `kdc_get_ticket_renewtime`: the renew-till and the flags with RENEWABLE settled. -/
def kdcGetTicketRenewtime (store : PrincipalRead) (body : KdcReqBody)
    (header : Option EncTicketPart) (client : Option Principal) (server : Principal)
    (flags : TicketFlags) (starttime endtime : KerberosTime) :
    Option KerberosTime × TicketFlags :=
  let flags := flags.withBit renewable false
  if eitherAttr client server kdbDisallowRenewable then (none, flags)
  else if header.any (fun h => !h.flags.renewable) then (none, flags)
  else
    match requestedRtime body endtime with
    | none => (none, flags)
    | some rtime =>
      let rsec := renewSeconds store header client server starttime rtime
      if !body.kdcOptions.bit renewable ∧ rsec ≤ endtime.unixSeconds then (none, flags)
      else (some (KerberosTime.fromUnixSeconds rsec), flags.withBit renewable true)

/-! ### Policy modules -/

/-- What a policy module asks for; 0 leaves the time unchanged (`plugins::PolicyAdjustment`). -/
structure PolicyAdjustment where
  (lifetime renewLifetime : Int)
deriving DecidableEq

/-- One cap of `apply_policy_times`: the time `adjust` seconds from now when that is earlier. -/
def capAt (now : KerberosTime) (adjust : Int) (t : KerberosTime) : KerberosTime :=
  if adjust ≠ 0 then
    match now.addSeconds adjust with
    | .ok cap => if cap.unixSeconds < t.unixSeconds then cap else t
    | .error _ => t
  else t

def applyPolicyTimes (now : KerberosTime) (times : KerberosTime × Option KerberosTime)
    (adj : PolicyAdjustment) : KerberosTime × Option KerberosTime :=
  (capAt now adj.lifetime times.1, times.2.map (capAt now adj.renewLifetime))

/-- `enforce_kdcpolicy_as` and `enforce_kdcpolicy_tgs`: the answers of the active modules, in
order; the first refusal ends the request. -/
def enforceKdcpolicy (now : KerberosTime) :
    List (Except Error PolicyAdjustment) → KerberosTime × Option KerberosTime →
      Except Error (KerberosTime × Option KerberosTime)
  | [], times => .ok times
  | .ok adj :: rest, times => enforceKdcpolicy now rest (applyPolicyTimes now times adj)
  | .error e :: _, _ => .error e

/-! ### Database times -/

def checkDbTimes (now : UInt32) (client : Option Principal) (server : Principal) :
    Except Error Unit := do
  let pwchangeSvc := attr server kdbPwchangeService
  rejectIf (client.any fun c => c.expiration != 0 && now > c.expiration)
    (proto Err.nameExp Status.clientExpired)
  rejectIf (client.any fun c => c.pwExpire != 0 && now > c.pwExpire && !pwchangeSvc)
    (proto Err.keyExpired Status.clientKeyExpired)
  rejectIf (server.expiration != 0 && now > server.expiration)
    (proto Err.serviceExp Status.serviceExpired)
  rejectIf (client.any fun c => attr c kdbRequiresPwchange && !pwchangeSvc)
    (proto Err.keyExpired Status.requiredPwchange)

end Kerber.Issue
