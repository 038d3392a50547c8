import Kerber.Admin.Xdr
import Kerber.Gss.Mic

/-!
# Records of a kadm5 connection

What a record says, what a connection keeps between records, and the replies (`kadm5/rpc.rs`,
`kadm5/codes.rs`).  What lies outside of the authentication comes with the record it answers: the
clock, what the acceptor makes of a token, the random numbers, and what the database answers to a
call.
-/

namespace Kerber.Admin

open Gss (GssContext)

/-! ### Numbers -/

def rpcVersion : UInt32 := 2
def kadmProg : UInt32 := 2112
def kadmVers : UInt32 := 2
def ipropProg : UInt32 := 100423
def ipropVers : UInt32 := 1
def ipropFullResyncExt : UInt32 := 3
def flavorNone : UInt32 := 0
def flavorUnix : UInt32 := 1
def flavorGss : UInt32 := 6
def flavorAuthGssapi : UInt32 := 300001
def authGssapiInit : UInt32 := 1
def authGssapiContinueInit : UInt32 := 2
def authGssapiMsg : UInt32 := 3
def authGssapiDestroy : UInt32 := 4
def authGssapiCredsVers : UInt32 := 2
def rpcsecGssVers : UInt32 := 1
def rpgData : UInt32 := 0
def rpgInit : UInt32 := 1
def rpgContinue : UInt32 := 2
def rpgDestroy : UInt32 := 3
def gssNone : UInt32 := 1
def gssIntegrity : UInt32 := 2
def gssPrivacy : UInt32 := 3
def maxseq : UInt32 := 0x80000000
def rpcsecSeqWindow : UInt32 := 32
def msgCall : UInt32 := 0
def msgReply : UInt32 := 1
def msgAccepted : UInt32 := 0
def msgDenied : UInt32 := 1
def rejectAuthError : UInt32 := 1
def success : UInt32 := 0
def progUnavail : UInt32 := 1
def progMismatch : UInt32 := 2
def procUnavail : UInt32 := 3
def garbageArgs : UInt32 := 4
def systemErr : UInt32 := 5
def authBadcred : UInt32 := 1
def authRejectedcred : UInt32 := 2
def authBadverf : UInt32 := 3
def authRejectedverf : UInt32 := 4
def authTooweak : UInt32 := 5
def authFailed : UInt32 := 7
def rpcsecGssCredproblem : UInt32 := 13
def rpcsecGssCtxproblem : UInt32 := 14
def maxAuthBytes : Nat := 400
def maxMachineName : Nat := 255
def ngrps : UInt32 := 16
def gssSBadBindings : UInt32 := 0x00040000
def gssSDefectiveToken : UInt32 := 0x00090000
def gssSFailure : UInt32 := 0x000d0000
def agssInitiationTimeout : UInt32 := 60 * 15
def agssIndefExpire : UInt32 := 60 * 60 * 24
def setv4keyPrincipal : UInt32 := 17
def createAlias : UInt32 := 27

/-! ### What a connection keeps -/

/-- A context that the acceptor made, as far as the server reads it. -/
structure Accepted where
  gss : GssContext
  client : Option Str
  acceptor : Option PrincipalName
  ticketRealm : Option Str
  ticketInitial : Bool
  lifetimeEnd : UInt32
deriving DecidableEq

structure RpcsecGss where
  ctx : Accepted
  (seqlast seqmask svc : UInt32)
deriving DecidableEq

structure Agss where
  ctx : Option Accepted
  handle : Str
  (seq expires : UInt32)
deriving DecidableEq

/-- `Kadm5RpcSession`. -/
structure Session where
  gss : Option RpcsecGss
  agss : Option Agss
deriving DecidableEq

/-- `Kadm5RpcSession::default`. -/
def Session.new : Session := ⟨none, none⟩

/-- `RpcCtx`, and the addresses of the peer. -/
structure RpcCtx where
  expectedRealm : Str
  clockskew : Int
  (programsKadm programsIprop : Bool)
  remoteInet : Str
  localInet : Option Str

/-! ### Calls -/

/-- A call of `kadm5_or_iprop`. -/
structure Call where
  client : Str
  (flavor proc : UInt32)
  args : Str
  (ticketInitial changepw iprop : Bool)
deriving DecidableEq

/-- The errors of a call that are answered each in its way. -/
inductive CallError
  | garbageArgs
  | procUnavail
  | other
deriving DecidableEq

/-- A record, and what the outside gives while it is handled. -/
structure Event where
  raw : Str
  /-- `KerberosTime::now().unix_seconds()`. -/
  now : UInt32
  logging : Bool
  /-- `accept_from_kdb` without bindings. -/
  accept : Str → Except Gss.Error (Accepted × Option Str)
  /-- `accept_auth_gssapi`, with the addresses of the initiator and the acceptor. -/
  acceptAuthGssapi : Str → Option (Str × Str) → Except Gss.Error (Accepted × Option Str)
  /-- `getrandom`. -/
  isn : Option UInt32
  /-- `kadm5_or_iprop`. -/
  answer : Call → Except CallError Str
  /-- The randomness of an encryption. -/
  draw : Draw

/-- The head of a call. -/
structure RpcCall where
  (xid prog vers proc credFlavor : UInt32)
  cred : Str
  /-- The record up to the end of the credential. -/
  (header verf args : Str)
deriving DecidableEq

/-- The head of a record; `none` where the source answers nothing. -/
def parseCall (raw : Str) : Option RpcCall := do
  let (xid, b) ← xdrU32 raw
  let (mtype, b) ← xdrU32 b
  if mtype ≠ msgCall then none
  else
    let (rpcvers, b) ← xdrU32 b
    if rpcvers ≠ rpcVersion then none
    else
      let (prog, b) ← xdrU32 b
      let (vers, b) ← xdrU32 b
      let (proc, b) ← xdrU32 b
      let (credFlavor, b) ← xdrU32 b
      let (cred, b) ← xdrOpaque b
      let header := raw.take (raw.length - b.length)
      let (_, b) ← xdrU32 b
      let (verf, b) ← xdrOpaque b
      if cred.length > maxAuthBytes ∨ verf.length > maxAuthBytes then none
      else some ⟨xid, prog, vers, proc, credFlavor, cred, header, verf, b⟩

structure Gcred where
  (version proc seqNum service : UInt32)
deriving DecidableEq

def parseGcred (data : Str) : Option Gcred := do
  let (version, b) ← xdrU32 data
  let (proc, b) ← xdrU32 b
  let (seqNum, b) ← xdrU32 b
  let (service, b) ← xdrU32 b
  let _ ← xdrOpaque b
  return ⟨version, proc, seqNum, service⟩

def authunixParmsDecode (cred : Str) : Bool :=
  ((do
    let (_, b) ← xdrU32 cred
    let (machine, b) ← xdrOpaque b
    if machine.length > maxMachineName then none
    else
      let (_, b) ← xdrU32 b
      let (_, b) ← xdrU32 b
      let (groups, b) ← xdrU32 b
      if groups > ngrps ∨ b.length < 4 * groups.toNat then none else some ()) : Option Unit).isSome

/-! ### Replies -/

inductive ReplyVerf
  | none
  | gss (mic : Str)
  | authGssapi (verf : Str)
deriving DecidableEq

def rpcReplyAuthError (xid stat : UInt32) : Str :=
  be32 xid ++ be32 msgReply ++ be32 msgDenied ++ be32 rejectAuthError ++ be32 stat

variable (xid : UInt32)

def rpcReplyWeakauth : Str := rpcReplyAuthError xid authTooweak

def rpcReplyStatus (verf : ReplyVerf) (stat : UInt32) : Str :=
  let (flavor, body) : UInt32 × Str := match verf with
    | .none => (flavorNone, [])
    | .gss b => (flavorGss, b)
    | .authGssapi b => (flavorAuthGssapi, b)
  be32 xid ++ be32 msgReply ++ be32 msgAccepted ++ be32 flavor ++ putOpaque body ++ be32 stat

/-- `rpc_reply_accepted_verf`, with a verifier. -/
def rpcReplyAcceptedVerf (mic : Str) (stat : UInt32) : Str :=
  rpcReplyStatus xid (.gss mic) stat

def rpcReplyMismatchAt (verf : ReplyVerf) (low high : UInt32) : Str :=
  rpcReplyStatus xid verf progMismatch ++ be32 low ++ be32 high

def rpcReplyClear (body : Str) : Str :=
  rpcReplyStatus xid .none success ++ body

def rpcReplyGssVerf (mic body : Str) : Str :=
  rpcReplyStatus xid (.gss mic) success ++ body

def rpcReplyGss (mic wrap : Str) : Str :=
  rpcReplyStatus xid (.gss mic) success ++ putOpaque wrap

def rpcReplyAgssStatus (verf : Str) (stat : UInt32) : Str :=
  rpcReplyStatus xid (.authGssapi verf) stat

def rpcReplyAgss (verf body : Str) : Str :=
  rpcReplyAgssStatus xid verf success ++ body

/-- What comes of a record: the reply, and the call it was dispatched as. -/
structure Outcome where
  reply : Option Str
  dispatched : Option Call
deriving DecidableEq

/-- A record that is answered without a call. -/
def Outcome.refuse (reply : Str) : Outcome := ⟨some reply, none⟩

end Kerber.Admin
