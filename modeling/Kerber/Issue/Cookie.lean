import Kerber.Issue.Kdb
import Kerber.Issue.Message

/-!
# The pre-authentication cookie

What the KDC has to remember between two requests of a client it hands to the client, encrypted under
a key made of the key of the ticket-granting service and the client's name (`preauth.rs`).  The time
in a cookie has 31 bits, and the clock 32.
-/

namespace Kerber.Issue

def cookieLifetime : Int := 600
def cookieMagic : Str := str "MIT1"

structure SecureCookie where
  time : Int32
  data : List PaData
deriving DecidableEq

/-- The libraries a cookie is made with. -/
structure CookieLibs where
  ciphers : Ciphers
  secureCookie : Codec SecureCookie

def deriveCookieKey (l : CookieLibs) (tgtKey : ProtocolKey) (client : PrincipalName) (realm : Str) :
    Except Error ProtocolKey :=
  (l.ciphers.derivePrfplusEnctype tgtKey (str "COOKIE" ++ client.unparseWithRealm realm)
    tgtKey.etype).mapError Error.ofCrypto

/-- The clock as a cookie has it: `i32::try_from(now).unwrap_or(0)`. -/
def cookieTime (now : UInt32) : Int32 :=
  if now.toNat < 2 ^ 31 then Int32.ofNat now.toNat else 0

/-- Empty contents, or no key of the ticket-granting service, is a cookie of three bytes. -/
def makeCookieAt (l : CookieLibs) (draw : Draw) (store : KdcStore) (client : PrincipalName)
    (contents : List PaData) (time : Int32) : Except Error Str :=
  if contents = [] then .ok (str "MIT")
  else
    match store.fetchKrbtgt with
    | .ok (some krbtgtP) =>
      match store.policy.firstCurrentKey krbtgtP with
      | .ok krbtgt => do
        let key ← deriveCookieKey l krbtgt.key client store.realm
        let der ← (l.secureCookie.encode ⟨time, contents⟩).mapError Error.asn1
        let cipher ← (l.ciphers.encrypt draw key Ku.paFxCookie der).mapError Error.ofCrypto
        return cookieMagic ++ (be32 krbtgt.kvno ++ cipher)
      | .error _ => .ok (str "MIT")
    | _ => .ok (str "MIT")

def makeCookie (l : CookieLibs) (draw : Draw) (store : KdcStore) (client : PrincipalName)
    (contents : List PaData) (now : UInt32) : Except Error Str :=
  makeCookieAt l draw store client contents (cookieTime now)

/-- `i32::saturating_sub`. -/
def saturatingSub (a b : Int32) : Int :=
  max (-2 ^ 31) (min (2 ^ 31 - 1) (a.toInt - b.toInt))

/-- `open_cookie`.  A cookie that cannot be read is empty. -/
def openCookie (l : CookieLibs) (store : KdcStore) (client : PrincipalName) (blob : Str)
    (now : UInt32) : List PaData :=
  if blob.length ≤ 8 || !cookieMagic.isPrefixOf blob then []
  else
    (do
      let krbtgtP ← store.fetchKrbtgt.toOption.join
      let ke ← (store.policy.findEnctype krbtgtP none (be32At blob 4)).toOption
      let key ← (deriveCookieKey l ke.key client store.realm).toOption
      let plain ← (l.ciphers.decrypt key Ku.paFxCookie (blob.drop 8)).toOption
      let cookie ← (l.secureCookie.decode plain).toOption
      if saturatingSub (cookieTime now) cookie.time > cookieLifetime then none
      else some cookie.data).getD []

end Kerber.Issue
