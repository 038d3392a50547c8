import Kerber.Admin.Rpc

/-!
# Authentication of kadm5 records

The two flavors of authenticated records, RPCSEC_GSS and AUTH_GSSAPI, and the connection that takes
records of any flavor (`kadm5/auth.rs`, `kadm5/rpc.rs`).
-/

namespace Kerber.Admin

open Gss (GssContext GssLibs)

/-! ### Names of the acceptor -/

def acceptorRealmOk (ctx : Accepted) (storeRealm : Str) (pred : PrincipalName → Bool) : Bool :=
  ctx.ticketRealm == some storeRealm && ctx.acceptor.any pred

def twoParts (first : Str) (second : Str → Bool) (n : PrincipalName) : Bool :=
  match n.nameString with
  | [a, b] => a == first && second b
  | _ => false

def changepwAcceptor (ctx : Accepted) (storeRealm : Str) : Bool :=
  acceptorRealmOk ctx storeRealm (twoParts (str "kadmin") (· == str "changepw"))

def checkRpcsecAuth (ctx : Accepted) (storeRealm : Str) : Bool :=
  acceptorRealmOk ctx storeRealm (twoParts (str "kadmin") (· != str "history"))

def checkIpropRpcsecAuth (ctx : Accepted) (storeRealm : Str) : Bool :=
  acceptorRealmOk ctx storeRealm (twoParts (str "kiprop") fun _ => true)

/-! ### RPCSEC_GSS -/

def seqWindowOk (gd : RpcsecGss) (seq : UInt32) : Bool × RpcsecGss :=
  if gd.seqlast < seq then
    let shift := seq - gd.seqlast
    let mask := if shift ≥ 32 then 0 else gd.seqmask <<< shift
    (true, { gd with seqlast := seq, seqmask := mask ||| 1 })
  else
    let off := gd.seqlast - seq
    if off ≥ rpcsecSeqWindow ∨ gd.seqmask &&& (1 <<< off) ≠ 0 then (false, gd)
    else (true, { gd with seqmask := gd.seqmask ||| (1 <<< off) })

/-- The window is asked before anything of the record is verified. -/
def windowGate (gss : Option RpcsecGss) (seq : UInt32) : Bool × Option RpcsecGss :=
  match gss with
  | none => (true, none)
  | some gd =>
    if seq > maxseq then (false, some gd)
    else ((seqWindowOk gd seq).1, some (seqWindowOk gd seq).2)

namespace RpcsecGss

variable (l : GssLibs) (gd : RpcsecGss)

/-- The window's owner with another state of its context. -/
def withGss (ctx : GssContext) : RpcsecGss := { gd with ctx := { gd.ctx with gss := ctx } }

/-- `get_mic` of the context. -/
def getMic (data : Str) : Except Gss.Error Str × RpcsecGss :=
  ((gd.ctx.gss.getMic l data).1, gd.withGss (gd.ctx.gss.getMic l data).2)

/-- `verify_mic` of the context. -/
def verifyMic (data token : Str) : Except Gss.Error Unit × RpcsecGss :=
  ((gd.ctx.gss.verifyMic l data token).1, gd.withGss (gd.ctx.gss.verifyMic l data token).2)

def afterSeq (seq : UInt32) (body : Str) : Option Str :=
  if body.take 4 = be32 seq then some (body.drop 4) else none

/-- The arguments of a call, by the service of the context; without any it is `GARBAGE_ARGS`. -/
def openArgs (seq : UInt32) (args : Str) : Option Str × RpcsecGss :=
  if gd.svc = gssNone then (some args, gd)
  else if gd.svc = gssIntegrity then
    match xdrOpaque args with
    | none => (none, gd)
    | some (databody, rest) =>
      match xdrOpaque rest with
      | none => (none, gd)
      | some (checksum, _) =>
        let (verified, gd') := gd.verifyMic l databody checksum
        (if verified.isOk then afterSeq seq databody else none, gd')
  else
    match xdrOpaque args with
    | none => (none, gd)
    | some (wrapped, _) =>
      let (plain, ctx) := gd.ctx.gss.unwrapV3 l wrapped
      (match plain with
        | .ok (plain, conf) => if conf then afterSeq seq plain else none
        | .error _ => none, gd.withGss ctx)

/-- The reply to a call that was answered. -/
def sealResult (draw : Draw) (xid : UInt32) (mic : Str) (seq : UInt32) (result : Str) :
    Str × RpcsecGss :=
  if gd.svc = gssNone then (rpcReplyGssVerf xid mic result, gd)
  else if gd.svc = gssIntegrity then
    let databody := be32 seq ++ result
    let (checksum, gd') := gd.getMic l databody
    (match checksum with
      | .ok checksum => rpcReplyGssVerf xid mic (putOpaque databody ++ putOpaque checksum)
      | .error _ => rpcReplyAuthError xid authFailed, gd')
  else
    let (wrapped, ctx) := gd.ctx.gss.wrapWithRrc l draw (be32 seq ++ result) 0
    (match wrapped with
      | .ok w => rpcReplyGss xid mic w
      | .error _ => rpcReplyAuthError xid authFailed, gd.withGss ctx)

/-- Whether the name of the acceptor serves the program. -/
def served (cfg : RpcCtx) (iprop : Bool) : Bool :=
  if iprop then checkIpropRpcsecAuth gd.ctx cfg.expectedRealm
  else checkRpcsecAuth gd.ctx cfg.expectedRealm

def unservedProc (iprop : Bool) (proc : UInt32) : Bool :=
  if iprop then decide (proc > ipropFullResyncExt)
  else decide (proc > createAlias) || proc == setv4keyPrincipal

/-- `rpcsec_dispatch`. -/
def dispatch (cfg : RpcCtx) (ev : Event) (xid proc : UInt32) (args : Str) (iprop : Bool) (mic : Str)
    (seq : UInt32) : Outcome × RpcsecGss :=
  match gd.ctx.client with
  | none => (.refuse (rpcReplyWeakauth xid), gd)
  | some client =>
    if !gd.served cfg iprop then (.refuse (rpcReplyWeakauth xid), gd)
    else if unservedProc iprop proc then (.refuse (rpcReplyAcceptedVerf xid mic procUnavail), gd)
    else
      let call : Call := ⟨client, flavorGss, proc, args, gd.ctx.ticketInitial,
        changepwAcceptor gd.ctx cfg.expectedRealm, iprop⟩
      match ev.answer call with
      | .ok result =>
        let (reply, gd') := gd.sealResult l ev.draw xid mic seq result
        (⟨some reply, some call⟩, gd')
      | .error .garbageArgs => (⟨some (rpcReplyAcceptedVerf xid mic garbageArgs), some call⟩, gd)
      | .error .procUnavail => (⟨some (rpcReplyAcceptedVerf xid mic procUnavail), some call⟩, gd)
      | .error .other => (⟨some (rpcReplyAcceptedVerf xid mic systemErr), some call⟩, gd)

/-- A `RPG_DATA` record whose verifier has been taken. -/
def data (cfg : RpcCtx) (ev : Event) (call : RpcCall) (kadm iprop : Bool) (seq : UInt32) :
    Outcome × RpcsecGss :=
  match gd.getMic l (be32 seq) with
  | (.error _, gd) => (.refuse (rpcReplyAuthError call.xid authFailed), gd)
  | (.ok mic, gd) =>
    if kadm ∧ call.vers ≠ kadmVers then
      (.refuse (rpcReplyMismatchAt call.xid (.gss mic) kadmVers kadmVers), gd)
    else if iprop ∧ call.vers ≠ ipropVers then
      (.refuse (rpcReplyMismatchAt call.xid (.gss mic) ipropVers ipropVers), gd)
    else if !kadm ∧ !iprop then (.refuse (rpcReplyAcceptedVerf call.xid mic progUnavail), gd)
    else
      match gd.openArgs l seq call.args with
      | (none, gd) => (.refuse (rpcReplyAcceptedVerf call.xid mic garbageArgs), gd)
      | (some args, gd) => gd.dispatch l cfg ev call.xid call.proc args iprop mic seq

end RpcsecGss

def rpcsecValidate (l : GssLibs) (gss : Option RpcsecGss) (header verf : Str) :
    Bool × Option RpcsecGss :=
  match gss with
  | none => (false, none)
  | some gd => ((gd.verifyMic l header verf).1.isOk, some (gd.verifyMic l header verf).2)

/-- The context that the token in the arguments makes, with the verifier of the reply and the token to
send back; or why it makes none. -/
def rpcsecMake (l : GssLibs) (ev : Event) (service : UInt32) (args : Str) :
    Except UInt32 (RpcsecGss × Str × Str) :=
  match xdrOpaque args with
  | none => .error authRejectedcred
  | some (token, _) =>
    match ev.accept token with
    | .error _ => .error authRejectedcred
    | .ok (ctx, outTok) =>
      -- the window is signed twice, and only the second signature is sent
      match (⟨ctx, 0, 0, service⟩ : RpcsecGss).getMic l (be32 rpcsecSeqWindow) with
      | (.error _, _) => .error authRejectedcred
      | (.ok _, gd) =>
        match gd.getMic l (be32 rpcsecSeqWindow) with
        | (.error _, _) => .error authFailed
        | (.ok mic, gd) => .ok (gd, mic, outTok.getD [])

/-- `RPG_INIT` and `RPG_CONTINUE`. -/
def rpcsecInit (l : GssLibs) (handle : Str) (ev : Event) (call : RpcCall) (service : UInt32)
    (gss : Option RpcsecGss) : Outcome × Option RpcsecGss :=
  if call.proc ≠ 0 then (.refuse (rpcReplyAuthError call.xid authFailed), gss)
  else
    match rpcsecMake l ev service call.args with
    | .error why => (.refuse (rpcReplyAuthError call.xid why), gss)
    | .ok (gd, mic, outTok) =>
      let body := putOpaque handle ++ be32 0 ++ be32 0 ++ be32 rpcsecSeqWindow ++ putOpaque outTok
      (.refuse (rpcReplyGssVerf call.xid mic body), some gd)

/-- `RPG_DATA`. -/
def rpcsecData (l : GssLibs) (cfg : RpcCtx) (ev : Event) (call : RpcCall) (kadm iprop : Bool)
    (seq : UInt32) (gss : Option RpcsecGss) : Outcome × Option RpcsecGss :=
  match rpcsecValidate l gss call.header call.verf with
  | (true, some gd) =>
    let (out, gd') := gd.data l cfg ev call kadm iprop seq
    (out, some gd')
  | (_, gss) => (.refuse (rpcReplyAuthError call.xid rpcsecGssCredproblem), gss)

/-- `RPG_DESTROY`. -/
def rpcsecDestroy (l : GssLibs) (call : RpcCall) (seq : UInt32) (gss : Option RpcsecGss) :
    Outcome × Option RpcsecGss :=
  if call.proc ≠ 0 then (.refuse (rpcReplyAuthError call.xid authFailed), gss)
  else
    match rpcsecValidate l gss call.header call.verf with
    | (true, some gd) =>
      match gd.getMic l (be32 seq) with
      | (.error _, gd) => (.refuse (rpcReplyAuthError call.xid authFailed), some gd)
      | (.ok mic, _) => (.refuse (rpcReplyGssVerf call.xid mic []), none)
    | (_, gss) => (.refuse (rpcReplyAuthError call.xid rpcsecGssCredproblem), gss)

/-- The credential of a record that `handle_rpcsec_gss` reads on. -/
def rpcsecCred (cred : Str) : Option Gcred :=
  (parseGcred cred).filter fun g => g.version == rpcsecGssVers
    && (g.service == gssNone || g.service == gssIntegrity || g.service == gssPrivacy)

/-- A record whose number the window has taken. -/
def rpcsecProc (l : GssLibs) (cfg : RpcCtx) (handle : Str) (ev : Event) (call : RpcCall)
    (kadm iprop : Bool) (gcred : Gcred) (gss : Option RpcsecGss) : Outcome × Option RpcsecGss :=
  if gcred.proc = rpgInit ∨ gcred.proc = rpgContinue then
    rpcsecInit l handle ev call gcred.service gss
  else if gcred.proc = rpgData then rpcsecData l cfg ev call kadm iprop gcred.seqNum gss
  else if gcred.proc = rpgDestroy then rpcsecDestroy l call gcred.seqNum gss
  else (.refuse (rpcReplyAuthError call.xid authRejectedcred), gss)

def handleRpcsecGss (l : GssLibs) (cfg : RpcCtx) (handle : Str) (ev : Event) (call : RpcCall)
    (kadm iprop : Bool) (gss : Option RpcsecGss) : Outcome × Option RpcsecGss :=
  match rpcsecCred call.cred with
  | none => (.refuse (rpcReplyAuthError call.xid authBadcred), gss)
  | some gcred =>
    match windowGate gss gcred.seqNum with
    | (false, gss) => (.refuse (rpcReplyAuthError call.xid rpcsecGssCtxproblem), gss)
    | (true, gss) => rpcsecProc l cfg handle ev call kadm iprop gcred gss

/-! ### AUTH_GSSAPI -/

inductive AgssAuth
  | denied (why : UInt32)
  | replied (reply : Str)
  | dispatch (verf : Str)
deriving DecidableEq

def agssHandle : Str := le32 1

/-- `u32::saturating_add`. -/
def satAdd (a b : UInt32) : UInt32 :=
  if a.toNat + b.toNat < 2 ^ 32 then a + b else 0xFFFFFFFF

/-- `u32::saturating_add_signed`. -/
def satAddSigned (a : UInt32) (b : Int) : UInt32 :=
  UInt32.ofNat (min ((a.toNat : Int) + b).toNat 0xFFFFFFFF)

def acceptMajor : Gss.Error → UInt32
  | .channelBindings => gssSBadBindings
  | .truncated => gssSDefectiveToken
  | _ => gssSFailure

/-- `init_res_reply`, with the body of `encode_init_res`. -/
def initResReply (xid version : UInt32) (handle : Str) (major : UInt32) (token signedIsn : Str) : Str :=
  rpcReplyClear xid (be32 version ++ putOpaque handle ++ be32 major ++ be32 0 ++ putOpaque token
    ++ putOpaque signedIsn)

/-- The version of the answer to `AUTH_GSSAPI_INIT`. -/
def initResVersion (argVer : UInt32) : Option UInt32 :=
  if argVer = 1 ∨ argVer = 2 then some 1
  else if argVer = 3 ∨ argVer = 4 then some argVer
  else none

def Agss.establish (l : GssLibs) (cfg : RpcCtx) (ev : Event) (st : Agss) (xid resVer : UInt32)
    (gctx : Accepted) (outTok : Option Str) : AgssAuth × Agss :=
  match ev.isn with
  | none => (.denied authFailed, st)
  | some seq =>
    match gctx.gss.wrapInteg l (be32 seq) with
    | (.error _, _) => (.denied authFailed, st)
    | (.ok signedIsn, ctx) =>
      let expires :=
        if gctx.lifetimeEnd = 0 then satAdd ev.now agssIndefExpire
        else satAddSigned gctx.lifetimeEnd cfg.clockskew
      (.replied (initResReply xid resVer st.handle 0 (outTok.getD []) signedIsn),
        { st with ctx := some { gctx with gss := ctx }, seq, expires })

/-- The bindings of versions 3 and 4; `none` without the local address. -/
def initBindings (cfg : RpcCtx) (argVer : UInt32) : Option (Option (Str × Str)) :=
  if argVer ≥ 3 then cfg.localInet.map fun a => some (cfg.remoteInet, a) else some none

/-- `agss_init`. -/
def Agss.init (l : GssLibs) (cfg : RpcCtx) (ev : Event) (st : Agss) (xid proc : UInt32)
    (authMsg : Bool) (args : Str) : AgssAuth × Agss :=
  if !authMsg then (.denied authRejectedcred, st)
  else if proc ≠ authGssapiInit ∧ proc ≠ authGssapiContinueInit then (.denied authFailed, st)
  else
    match (do
        let (argVer, b) ← xdrU32 args
        let (token, _) ← xdrOpaque b
        return (argVer, token) : Option (UInt32 × Str)) with
    | none => (.denied authBadcred, st)
    | some (argVer, token) =>
      match initResVersion argVer with
      | none => (.denied authBadcred, st)
      | some resVer =>
        match initBindings cfg argVer with
        | none => (.denied authFailed, st)
        | some bindings =>
          match ev.acceptAuthGssapi token bindings with
          | .error e => (.replied (initResReply xid resVer st.handle (acceptMajor e) [] []), st)
          | .ok (gctx, outTok) => st.establish l cfg ev xid resVer gctx outTok

/-- The number a verifier seals. -/
def verifierSeq (plain : Except Gss.Error (Str × Bool)) : Option UInt32 :=
  match plain with
  | .ok (p, _) => if p.length = 4 then some (be32At p 0) else none
  | .error _ => none

def agssUnwrapArgs (l : GssLibs) (gctx : GssContext) (callSeq : UInt32) (args : Str) :
    Option Str × GssContext :=
  match xdrOpaque args with
  | none => (none, gctx)
  | some (wrapped, _) =>
    let (plain, gctx') := gctx.unwrapV3 l wrapped
    (match plain with
      | .ok (plain, _) => if plain.take 4 = be32 callSeq then some plain else none
      | .error _ => none, gctx')

def agssResult (l : GssLibs) (draw : Draw) (gctx : GssContext) (seq xid : UInt32)
    (replyVerf result : Str) : Option Str × GssContext :=
  let (wrapped, gctx') := gctx.wrapWithRrc l draw (be32 seq ++ result) 0
  (match wrapped with
    | .ok w => some (rpcReplyAgss xid replyVerf (putOpaque w))
    | .error _ => none, gctx')

/-- An authentication message of an established record, when its verifier has been answered; and
whether the record goes. -/
def Agss.authMessage (l : GssLibs) (draw : Draw) (st : Agss) (ctx : Accepted) (xid proc seq : UInt32)
    (replyVerf args : Str) : AgssAuth × Agss × Bool :=
  if proc = authGssapiMsg then
    let (plain, gctx) := agssUnwrapArgs l ctx.gss seq args
    let decoded := ((do
      let plain ← plain
      let (_, b) ← xdrU32 (plain.drop 4)
      let _ ← xdrOpaque b
      return ()) : Option Unit).isSome
    (.denied (if decoded then authFailed else authBadcred),
      { st with ctx := some { ctx with gss := gctx } }, false)
  else if proc = authGssapiDestroy then
    let (reply, gctx) := agssResult l draw ctx.gss st.seq xid replyVerf []
    (.replied (reply.getD (rpcReplyAgssStatus xid replyVerf systemErr)),
      { st with ctx := some { ctx with gss := gctx } }, true)
  else (.denied authFailed, st, false)

/-- `agss_established`, with the context of the record. -/
def Agss.established (l : GssLibs) (draw : Draw) (st : Agss) (ctx : Accepted) (xid proc : UInt32)
    (authMsg : Bool) (verf args : Str) : AgssAuth × Agss × Bool :=
  let (plain, gctx) := ctx.gss.unwrapV3 l verf
  let st := { st with ctx := some { ctx with gss := gctx } }
  match verifierSeq plain with
  | none => (.denied authBadverf, st, false)
  | some seq =>
    if seq ≠ st.seq + 1 then (.denied authRejectedverf, st, false)
    else
      match gctx.wrapInteg l (be32 (seq + 1)) with
      | (.error _, gctx) =>
        (.denied authFailed, { st with ctx := some { ctx with gss := gctx }, seq }, false)
      | (.ok replyVerf, gctx) =>
        let ctx := { ctx with gss := gctx }
        let st := { st with ctx := some ctx, seq := seq + 1 }
        if !authMsg then (.dispatch replyVerf, st, false)
        else st.authMessage l draw ctx xid proc seq replyVerf args

/-- `clean_client`: a record past its time goes. -/
def cleanClient (now : UInt32) (agss : Option Agss) : Option Agss :=
  agss.filter fun st => !decide (st.expires < now)

/-- The credential of an AUTH_GSSAPI record: its version, whether it is an authentication message,
and the handle. -/
def agssCred (cred : Str) : Option (UInt32 × Bool × Str) := do
  let (version, b) ← xdrU32 cred
  let (authMsg, b) ← xdrBool b
  let (handle, _) ← xdrOpaque b
  return (version, authMsg, handle)

/-- The record of a call: a new one for `AUTH_GSSAPI_INIT`, else the one its handle names. -/
def agssRecord (ev : Event) (agss : Option Agss) (proc : UInt32) (authMsg : Bool) (handle : Str) :
    Except UInt32 Agss :=
  if authMsg ∧ proc = authGssapiInit then
    if handle ≠ [] then .error authFailed
    else .ok ⟨none, agssHandle, 0, satAdd ev.now agssInitiationTimeout⟩
  else if handle = [] then .error authFailed
  else
    match agss with
    | none => .error authBadcred
    | some st => if handle.length ≥ 4 ∧ handle.take 4 = st.handle then .ok st else .error authBadcred

def svcauthGssapi (l : GssLibs) (cfg : RpcCtx) (ev : Event) (call : RpcCall) (agss : Option Agss) :
    AgssAuth × Option Agss :=
  let agss := cleanClient ev.now agss
  match agssCred call.cred with
  | none => (.denied authBadcred, agss)
  | some (version, authMsg, handle) =>
    if version ≠ authGssapiCredsVers then (.denied authBadcred, agss)
    else
      match agssRecord ev agss call.proc authMsg handle with
      | .error why => (.denied why, agss)
      | .ok st =>
        match st.ctx with
        | none =>
          let (auth, st) := st.init l cfg ev call.xid call.proc authMsg call.args
          (auth, some st)
        | some ctx =>
          let (auth, st, destroyed) :=
            st.established l ev.draw ctx call.xid call.proc authMsg call.verf call.args
          (auth, if destroyed then none else some st)

/-- `agss_dispatch` of a procedure with arguments. -/
def Agss.serve (l : GssLibs) (cfg : RpcCtx) (ev : Event) (st : Agss) (ctx : Accepted) (xid proc : UInt32)
    (args replyVerf : Str) : Outcome × Agss :=
  let (plain, gctx) := agssUnwrapArgs l ctx.gss (st.seq - 1) args
  let ctx := { ctx with gss := gctx }
  let st := { st with ctx := some ctx }
  match plain, ctx.client with
  | none, _ => (.refuse (rpcReplyAgssStatus xid replyVerf garbageArgs), st)
  | some _, none => (.refuse (rpcReplyWeakauth xid), st)
  | some plain, some client =>
    let call : Call := ⟨client, flavorAuthGssapi, proc, plain.drop 4, ctx.ticketInitial,
      changepwAcceptor ctx cfg.expectedRealm, false⟩
    match ev.answer call with
    | .ok result =>
      let (reply, gctx) := agssResult l ev.draw gctx st.seq xid replyVerf result
      (⟨some (reply.getD (rpcReplyAgssStatus xid replyVerf systemErr)), some call⟩,
        { st with ctx := some { ctx with gss := gctx } })
    | .error .garbageArgs => (⟨some (rpcReplyAgssStatus xid replyVerf garbageArgs), some call⟩, st)
    | .error .procUnavail => (⟨some (rpcReplyAgssStatus xid replyVerf procUnavail), some call⟩, st)
    | .error .other => (⟨some (rpcReplyAgssStatus xid replyVerf systemErr), some call⟩, st)

/-- `agss_dispatch`. -/
def Agss.dispatch (l : GssLibs) (cfg : RpcCtx) (ev : Event) (st : Agss) (xid proc : UInt32)
    (args replyVerf : Str) : Outcome × Agss :=
  match st.ctx with
  | none => (.refuse (rpcReplyAgssStatus xid replyVerf systemErr), st)
  | some ctx =>
    if proc = 0 then
      let (reply, gctx) := agssResult l ev.draw ctx.gss st.seq xid replyVerf []
      (.refuse (reply.getD (rpcReplyAgssStatus xid replyVerf systemErr)),
        { st with ctx := some { ctx with gss := gctx } })
    else if proc > createAlias ∨ proc = setv4keyPrincipal then
      (.refuse (rpcReplyAgssStatus xid replyVerf procUnavail), st)
    else st.serve l cfg ev ctx xid proc args replyVerf

/-! ### The connection -/

def handleProgram (l : GssLibs) (cfg : RpcCtx) (ev : Event) (call : RpcCall) (kadm iprop : Bool)
    (replyVerf : Option Str) (agss : Option Agss) : Outcome × Option Agss :=
  let verf := replyVerf.elim .none ReplyVerf.authGssapi
  if kadm ∧ call.vers ≠ kadmVers then
    (.refuse (rpcReplyMismatchAt call.xid verf kadmVers kadmVers), agss)
  else if iprop ∧ call.vers ≠ ipropVers then
    (.refuse (rpcReplyMismatchAt call.xid verf ipropVers ipropVers), agss)
  else if !kadm ∧ !iprop then (.refuse (rpcReplyStatus call.xid verf progUnavail), agss)
  else
    match agss, replyVerf with
    | some st, some replyVerf =>
      if kadm then
        let (out, st) := st.dispatch l cfg ev call.xid call.proc call.args replyVerf
        (out, some st)
      else (.refuse (rpcReplyWeakauth call.xid), agss)
    | _, _ => (.refuse (rpcReplyWeakauth call.xid), agss)

/-- `handle_rpc` of an AUTH_GSSAPI record. -/
def handleAuthGssapi (l : GssLibs) (cfg : RpcCtx) (ev : Event) (call : RpcCall) (kadm iprop : Bool)
    (agss : Option Agss) : Outcome × Option Agss :=
  match svcauthGssapi l cfg ev call agss with
  | (.denied why, agss) => (.refuse (rpcReplyAuthError call.xid why), agss)
  | (.replied reply, agss) => (.refuse reply, agss)
  | (.dispatch replyVerf, agss) => handleProgram l cfg ev call kadm iprop (some replyVerf) agss

def rpcsecHandle : Str := str "xxxx"

def isKadm (cfg : RpcCtx) (call : RpcCall) : Bool := call.prog == kadmProg && cfg.programsKadm

def isIprop (cfg : RpcCtx) (ev : Event) (call : RpcCall) : Bool :=
  call.prog == ipropProg && cfg.programsIprop && ev.logging

/-- `Kadm5Conn::call`, with `handle_rpc`. -/
def handleRpc (l : GssLibs) (cfg : RpcCtx) (s : Session) (ev : Event) : Outcome × Session :=
  match parseCall ev.raw with
  | none => (⟨none, none⟩, s)
  | some call =>
    let kadm := isKadm cfg call
    let iprop := isIprop cfg ev call
    if call.credFlavor = flavorGss then
      let (out, gss) := handleRpcsecGss l cfg rpcsecHandle ev call kadm iprop s.gss
      (out, { s with gss })
    else if call.credFlavor = flavorAuthGssapi then
      let (out, agss) := handleAuthGssapi l cfg ev call kadm iprop s.agss
      (out, { s with agss })
    else if call.credFlavor = flavorNone ∨
        (call.credFlavor = flavorUnix ∧ authunixParmsDecode call.cred) then
      ((handleProgram l cfg ev call kadm iprop none s.agss).1, s)
    else if call.credFlavor = flavorUnix then
      (.refuse (rpcReplyAuthError call.xid authBadcred), s)
    else (.refuse (rpcReplyAuthError call.xid authRejectedcred), s)

end Kerber.Admin
