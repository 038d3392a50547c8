import Kerber.Issue.Checks

/-!
# The server of a TGS request

How a request finds the entry it asks for, and the ticket-granting service it is referred to when
there is none (`search_sprinc`, `issue/tgs_req.rs`).
-/

namespace Kerber.Issue

open FlagBit PrincipalName

variable (store : KdcStore) (requested : PrincipalName)

def lookupSvcPrinc (name : PrincipalName) : Except Error (Option Principal) :=
  match store.fetchName name with
  | .ok v => .ok v
  | .error (.protocol code _ eData detail) =>
    if code = Err.svcUnavailable then
      .error (.protocol code (some Status.lookingUpServer) eData detail)
    else .error (proto Err.sPrincipalUnknown Status.lookingUpServer)
  | .error _ => .error (proto Err.sPrincipalUnknown Status.lookingUpServer)

def inList (list item : Str) : Bool :=
  list ≠ [] && (list.splitOnP fun b => [9, 10, 12, 13, 32, 44].contains b).contains item

def noReferralOption (body : KdcReqBody) : Bool :=
  body.kdcOptions.bit forwarded || body.kdcOptions.bit proxy
    || body.kdcOptions.bit renew || body.kdcOptions.bit validate
    || body.kdcOptions.bit encTktInSkey

def componentText (name : PrincipalName) (i : Nat) : Str :=
  fromUtf8Lossy (name.nameString[i]?.getD [])

def isHostbased (hostbased : Str) (sname : PrincipalName) : Bool :=
  let stype := componentText sname 0
  if sname.nameType = ntUnknown then
    inList hostbased stype || inList hostbased (str "*")
  else sname.nameType = ntSrvHst || sname.nameType = ntSrvInst

def isReferralReq (policy : Policy) (body : KdcReqBody) (sname : PrincipalName) : Bool :=
  let stype := componentText sname 0
  body.kdcOptions.bit canonicalize && !body.kdcOptions.bit encTktInSkey
    && sname.nameString.length == 2 && isHostbased policy.hostBasedServices sname
    && !inList policy.noHostReferral stype && !inList policy.noHostReferral (str "*")

def isNumericAddress (name : Str) : Bool :=
  name.contains 58
    || (name.all fun b => (48 ≤ b && b ≤ 57) || b == 46) && name.count 46 == 3

def findReferralTgs (policy : Policy) (body : KdcReqBody) (sname : PrincipalName) (reqRealm : Str) :
    Except Error PrincipalName := do
  let refusal := proto Err.sPrincipalUnknown Status.lookingUpServer
  rejectIf (!isReferralReq policy body sname) refusal
  let host := componentText sname 1
  rejectIf (!host.contains 46 || isNumericAddress host) refusal
  let other ← (policy.realmForHost host).elim (.error refusal) .ok
  rejectIf (other.isEmpty || other == reqRealm) refusal
  return .krbtgt other

/-- The loop of `find_alternate_tgs` over the realms on the way. -/
def firstTgs (store : KdcStore) : List Str → Except Error Principal
  | [] => .error (proto Err.sPrincipalUnknown Status.unknownServer)
  | inst :: rest => do
    let hop ← (tryNew ntSrvInst [str "krbtgt", inst]).mapError fun _ =>
      proto Err.sPrincipalUnknown Status.unknownServer
    match ← lookupSvcPrinc store hop with
    | some p => .ok p
    | none => firstTgs store rest

/-- `find_alternate_tgs`: the ticket-granting service nearest to the realm that is asked for. -/
def findAlternateTgs (princ : PrincipalName) : Except Error Principal :=
  firstTgs store ((Transited.walkRealmTree store.policy.capaths store.realm
    (componentText princ 1)).drop 1).reverse

/-- The part of `search_sprinc` after the name itself was not found. -/
def searchReferral (reqRealm : Str) (body : KdcReqBody) : Except Error Principal :=
  if requested.isCrossTgsPrincipal reqRealm then findAlternateTgs store requested
  else do
    let reftgs ← findReferralTgs store.policy body requested reqRealm
    match ← lookupSvcPrinc store reftgs with
    | some p => .ok p
    | none => findAlternateTgs store reftgs

def searchSprinc (reqRealm : Str) (body : KdcReqBody) : Except Error Principal := do
  match ← lookupSvcPrinc store requested with
  | some p => .ok p
  | none => do
    rejectIf (noReferralOption body) (proto Err.sPrincipalUnknown Status.lookingUpServer)
    searchReferral store requested reqRealm body

def tgsIssuingReferral (reqRealm : Str) (resolved : Principal) : Bool :=
  resolved.name.isCrossTgsPrincipal resolved.realm
    && !compare resolved.name resolved.realm requested reqRealm

end Kerber.Issue
