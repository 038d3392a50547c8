import Kerber.Issue.TgsReq

/-!
# The AS exchange

The flags and times of an initial ticket (`finish_process_as_req`, `issue/as_req.rs`).  What
comes before it, pre-authentication and the choice of the client, the server and the keys, enters
through `AsEnv`.
-/

namespace Kerber.Issue

/-- One run of the KDC over an AS request, after pre-authentication. -/
structure AsEnv where
  store : PrincipalRead
  /-- `kdc_time`, the clock in seconds. -/
  kdcTime : Nat
  (client server : Principal)
  cname : PrincipalName
  crealm : Str
  /-- Whether a pre-authentication mechanism succeeded. -/
  (skipTimestamp hwPreauth : Bool)
  /-- The keys of the client and the server, and the session key. -/
  keys : Except Error Unit
  /-- The answers of the active policy modules. -/
  policies : List (Except Error PolicyAdjustment)
  /-- The authorization data, the PAC and the encryption of the reply. -/
  encode : Except Error Unit

/-- `finish_process_as_req`: the ticket of a successful request. -/
def finishProcessAsReq (env : AsEnv) (body : KdcReqBody) : Except Error EncTicketPart := do
  env.keys
  let now := KerberosTime.fromUnixSeconds env.kdcTime
  let starttime := requestStart now body
  let flags := getTicketFlags body.kdcOptions (some env.client) env.server none
    |>.withBit FlagBit.preAuthent env.skipTimestamp
    |>.withBit FlagBit.hwAuthent env.hwPreauth
  let endtime ←
    kdcGetTicketEndtime env.store starttime none body.till (some env.client) env.server
  let (renewTill, flags) :=
    kdcGetTicketRenewtime env.store body none (some env.client) env.server flags starttime endtime
  let times ← enforceKdcpolicy now env.policies (endtime, renewTill)
  env.encode
  return mintTicket env.cname env.crealm
    { authtime := now, starttime, «end» := times.1, flags, ticketRenewTill := times.2 }

end Kerber.Issue
