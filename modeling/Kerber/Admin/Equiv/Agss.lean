import Kerber.Admin.Equiv.Rpcsec

/-!
# AUTH_GSSAPI calls

A record that the connection keeps for AUTH_GSSAPI expects the next number, sealed in the verifier of a
call, and answers with the number after it.  `established_spec` says how the number moves, and
`agss_step` what one record of the connection does to it.
-/

namespace Kerber.Admin

variable {agss : Option Agss} {iprop kadm : Bool}

open Gss (GssContext GssLibs)

variable {l : GssLibs} {cfg : RpcCtx} {ev : Event} {call : RpcCall} {st st' : Agss}
  {ctx ctx' : Accepted}
variable {authMsg : Bool} {handle : Str}

/-! ### Numbers of verifiers -/

/-- The number that a wrap token holds under the keys of a context. -/
def openedNumber (l : GssLibs) (g : GssContext) (verf : Str) : Option UInt32 :=
  verifierSeq ((g.openToken l verf).map fun out => out.2)

theorem SameKeys.openedNumber {g g' : GssContext} (h : SameKeys g g') (verf : Str) :
    openedNumber l g' verf = openedNumber l g verf := by
  unfold Admin.openedNumber
  rw [h.openToken]

theorem openedNumber_of_unwrapV3 {g : GssContext} {verf : Str} {n : UInt32}
    (h : verifierSeq (g.unwrapV3 l verf).1 = some n) : openedNumber l g verf = some n := by
  unfold GssContext.unwrapV3 at h
  unfold openedNumber
  cases hopen : g.openToken l verf with
  | error e =>
    rw [hopen] at h
    cases h
  | ok out =>
    obtain ⟨seq, out⟩ := out
    rw [hopen] at h
    dsimp only at h
    cases hseq : (g.acceptSeq seq).1 with
    | error e =>
      rw [hseq] at h
      cases h
    | ok _ =>
      rw [hseq] at h
      exact h

/-- The context of a record, after some messages. -/
def Keeps (ctx : Accepted) (st' : Agss) : Prop :=
  ∃ ctx', st'.ctx = some ctx' ∧ SameKeys ctx.gss ctx'.gss

theorem agssUnwrapArgs_sameKeys (l : GssLibs) (g : GssContext) (seq : UInt32) (args : Str) :
    SameKeys g (agssUnwrapArgs l g seq args).2 := by
  unfold agssUnwrapArgs
  split
  · exact .refl g
  · exact .unwrapV3 l g _

theorem authMessage_spec (l : GssLibs) (draw : Draw) {st : Agss} (hctx : st.ctx = some ctx)
    (xid proc seq : UInt32) (replyVerf args : Str) :
    let r := st.authMessage l draw ctx xid proc seq replyVerf args
    (∀ v, r.1 ≠ .dispatch v) ∧ r.2.1.seq = st.seq ∧ Keeps ctx r.2.1 := by
  unfold Agss.authMessage
  split
  · exact ⟨fun v h => (by cases h), rfl, _, rfl, agssUnwrapArgs_sameKeys l _ _ _⟩
  · split
    · exact ⟨fun v h => (by cases h), rfl, _, rfl, SameKeys.wrapWithRrc l _ _ _ _⟩
    · exact ⟨fun v h => (by cases h), rfl, ctx, hctx, .refl _⟩

/-- **How the number of a record moves**: a verifier with another number than the next leaves it, and a
call is let through two numbers on. -/
theorem established_spec (l : GssLibs) (st : Agss) (ctx : Accepted) (draw : Draw) (xid proc : UInt32) (authMsg : Bool) (verf args : Str) :
    let r := st.established l draw ctx xid proc authMsg verf args
    Keeps ctx r.2.1 ∧
    (∃ k ≤ 2, r.2.1.seq = st.seq + UInt32.ofNat k) ∧
    ∀ v, r.1 = .dispatch v → r.2.2 = false ∧ r.2.1.seq = st.seq + 2 ∧
      openedNumber l ctx.gss verf = some (st.seq + 1) := by
  have hunwrap := SameKeys.unwrapV3 l ctx.gss verf
  unfold Agss.established
  dsimp only
  split
  · exact ⟨⟨_, rfl, hunwrap⟩, ⟨0, by omega, (UInt32.add_zero _).symm⟩, fun v h => by cases h⟩
  · rename_i seq hseq
    have hopened := openedNumber_of_unwrapV3 hseq
    split
    · exact ⟨⟨_, rfl, hunwrap⟩, ⟨0, by omega, (UInt32.add_zero _).symm⟩, fun v h => by cases h⟩
    · rename_i hnext
      obtain rfl : seq = st.seq + 1 := not_not.mp hnext
      have hwrap := SameKeys.wrapInteg l (ctx.gss.unwrapV3 l verf).2 (be32 (st.seq + 1 + 1))
      have htwo : st.seq + 1 + 1 = st.seq + 2 := by
        rw [UInt32.add_assoc]
        rfl
      split
      · rename_i g hg
        rw [hg] at hwrap
        exact ⟨⟨_, rfl, hunwrap.trans hwrap⟩, ⟨1, by omega, rfl⟩, fun v h => by cases h⟩
      · rename_i replyVerf g hg
        rw [hg] at hwrap
        split
        · exact ⟨⟨_, rfl, hunwrap.trans hwrap⟩, ⟨2, by omega, htwo⟩, fun v _ => ⟨rfl, htwo, hopened⟩⟩
        · have hst : ({ st with ctx := some { ctx with gss := g }, seq := st.seq + 1 + 1 } : Agss).ctx
              = some { ctx with gss := g } := rfl
          obtain ⟨hnot, hsame, ctx', hctx', hkeys⟩ := authMessage_spec l draw hst xid proc (st.seq + 1)
            replyVerf args
          refine ⟨⟨ctx', hctx', (hunwrap.trans hwrap).trans hkeys⟩, ⟨2, by omega, ?_⟩,
            fun v h => absurd h (hnot v)⟩
          rw [hsame]
          exact htwo

/-- A call that is let through leaves the number. -/
theorem dispatch_spec (xid proc : UInt32) (args replyVerf : Str) (hctx : st.ctx = some ctx) :
    Keeps ctx (st.dispatch l cfg ev xid proc args replyVerf).2 ∧
      (st.dispatch l cfg ev xid proc args replyVerf).2.seq = st.seq := by
  unfold Agss.dispatch
  rw [hctx]
  dsimp only
  split
  · exact ⟨⟨_, rfl, SameKeys.wrapWithRrc l _ _ _ _⟩, rfl⟩
  · split
    · exact ⟨⟨ctx, hctx, .refl _⟩, rfl⟩
    · have hargs := agssUnwrapArgs_sameKeys l ctx.gss (st.seq - 1) args
      unfold Agss.serve
      dsimp only
      -- only an answer to a call is wrapped
      repeat' split
      all_goals first
        | exact ⟨⟨_, rfl, hargs⟩, rfl⟩
        | exact ⟨⟨_, rfl, hargs.trans (SameKeys.wrapWithRrc l _ _ _ _)⟩, rfl⟩

/-! ### One record -/

/-- Whether a record is one of AUTH_GSSAPI. -/
def isAgss (raw : Str) : Bool :=
  (parseCall raw).any fun call => call.credFlavor == flavorAuthGssapi

def beginsRecord (call : RpcCall) : Bool :=
  agssCred call.cred == some (authGssapiCredsVers, true, []) && call.proc == authGssapiInit

/-- Whether a record begins a new record of the connection. -/
def agssInits (raw : Str) : Bool :=
  isAgss raw && (parseCall raw).any beginsRecord

section Record

variable {s : Session}

theorem handleRpc_of_not_agss (l : GssLibs) (cfg : RpcCtx) (s : Session) (h : isAgss ev.raw = false) :
    (handleRpc l cfg s ev).2.agss = s.agss := by
  unfold handleRpc
  cases hcall : parseCall ev.raw with
  | none => rfl
  | some call =>
    have hflavor : call.credFlavor ≠ flavorAuthGssapi := by
      rw [isAgss, hcall] at h
      simpa using h
    dsimp only
    rw [if_neg hflavor]
    split
    · rfl
    · split
      · rfl
      · split <;> rfl

theorem handleRpc_of_agss (l : GssLibs) (cfg : RpcCtx) (s : Session)
    (hcall : parseCall ev.raw = some call) (h : isAgss ev.raw = true) :
    handleRpc l cfg s ev =
      ((handleAuthGssapi l cfg ev call (isKadm cfg call) (isIprop cfg ev call) s.agss).1,
        { s with agss :=
          (handleAuthGssapi l cfg ev call (isKadm cfg call) (isIprop cfg ev call) s.agss).2 }) := by
  have hflavor : call.credFlavor = flavorAuthGssapi := by
    rw [isAgss, hcall] at h
    simpa using h
  have hother : call.credFlavor ≠ flavorGss := by
    rw [hflavor]
    decide
  unfold handleRpc
  rw [hcall]
  dsimp only
  rw [if_neg hother, if_pos hflavor]

theorem cleanClient_eq_some {now : UInt32} (h : cleanClient now agss = some st) :
    agss = some st := (Option.filter_eq_some_iff.mp h).1

/-- A context keeps its keys, and the number goes up by two at most. -/
def Goes (st st' : Agss) : Prop :=
  ∀ ctx, st.ctx = some ctx → Keeps ctx st' ∧ ∃ k ≤ 2, st'.seq = st.seq + UInt32.ofNat k

theorem Goes.refl (st : Agss) : Goes st st :=
  fun ctx hctx => ⟨⟨ctx, hctx, .refl _⟩, 0, by omega, (UInt32.add_zero _).symm⟩

/-- What becomes of the record of a connection: it is not a new one, and a call that is let through
has the next number. -/
structure Moves (l : GssLibs) (agss : Option Agss) (verf : Str) (out : Outcome)
    (agss' : Option Agss) : Prop where
  goes : ∀ st', agss' = some st' → ∃ st, agss = some st ∧ Goes st st'
  dispatched : out.dispatched.isSome = true → ∃ st ctx, agss = some st ∧ st.ctx = some ctx ∧
    openedNumber l ctx.gss verf = some (st.seq + 1) ∧
    ∀ st', agss' = some st' → st'.seq = st.seq + 2 ∧ Keeps ctx st'

theorem handleProgram_spec (l : GssLibs) (cfg : RpcCtx) (ev : Event) (call : RpcCall) (kadm iprop : Bool) (replyVerf : Str) (hctx : st.ctx = some ctx) :
    ∃ st', (handleProgram l cfg ev call kadm iprop (some replyVerf) (some st)).2 = some st' ∧
      Keeps ctx st' ∧ st'.seq = st.seq := by
  have hsame : Keeps ctx st ∧ st.seq = st.seq := ⟨⟨ctx, hctx, .refl _⟩, rfl⟩
  unfold handleProgram
  dsimp only
  split
  · exact ⟨st, rfl, hsame⟩
  · split
    · exact ⟨st, rfl, hsame⟩
    · split
      · exact ⟨st, rfl, hsame⟩
      · split
        · exact ⟨_, rfl, dispatch_spec _ _ _ _ hctx⟩
        · exact ⟨st, rfl, hsame⟩

/-- What the record that a credential names makes of a call. -/
def next (l : GssLibs) (cfg : RpcCtx) (ev : Event) (st : Agss) (call : RpcCall) (authMsg : Bool) :
    AgssAuth × Option Agss :=
  match st.ctx with
  | none => ((st.init l cfg ev call.xid call.proc authMsg call.args).1,
      some (st.init l cfg ev call.xid call.proc authMsg call.args).2)
  | some ctx =>
    let r := st.established l ev.draw ctx call.xid call.proc authMsg call.verf call.args
    (r.1, if r.2.2 then none else some r.2.1)

theorem svcauthGssapi_of_record
    (hcred : agssCred call.cred = some (authGssapiCredsVers, authMsg, handle))
    (hrecord : agssRecord ev (cleanClient ev.now agss) call.proc authMsg handle = .ok st) :
    svcauthGssapi l cfg ev call agss = next l cfg ev st call authMsg := by
  unfold svcauthGssapi
  rw [hcred]
  dsimp only
  rw [if_neg (not_not.mpr rfl), hrecord]
  rfl

/-- A call is denied at once, or goes to the record its credential names. -/
theorem svcauthGssapi_cases (l : GssLibs) (cfg : RpcCtx) (ev : Event) (call : RpcCall)
    (agss : Option Agss) :
    (∃ why, svcauthGssapi l cfg ev call agss = (.denied why, cleanClient ev.now agss)) ∨
    ∃ authMsg handle st, agssCred call.cred = some (authGssapiCredsVers, authMsg, handle) ∧
      agssRecord ev (cleanClient ev.now agss) call.proc authMsg handle = .ok st := by
  unfold svcauthGssapi
  cases hcred : agssCred call.cred with
  | none => exact .inl ⟨_, rfl⟩
  | some cred =>
    obtain ⟨version, authMsg, handle⟩ := cred
    dsimp only
    by_cases hversion : version = authGssapiCredsVers
    · subst hversion
      cases hrecord : agssRecord ev (cleanClient ev.now agss) call.proc authMsg handle with
      | error why => exact .inl ⟨why, by rw [if_neg (not_not.mpr rfl)]⟩
      | ok st => exact .inr ⟨authMsg, handle, st, rfl, hrecord⟩
    · exact .inl ⟨_, if_pos hversion⟩

theorem handleAuthGssapi_established (hst : agss = some st)
    (hcred : agssCred call.cred = some (authGssapiCredsVers, authMsg, handle))
    (hrecord : agssRecord ev (cleanClient ev.now agss) call.proc authMsg handle = .ok st)
    (hctx : st.ctx = some ctx) :
    Moves l agss call.verf (handleAuthGssapi l cfg ev call kadm iprop agss).1
      (handleAuthGssapi l cfg ev call kadm iprop agss).2 := by
  obtain ⟨hkeeps, hmoves, hdispatch⟩ := established_spec l st ctx ev.draw call.xid
    call.proc authMsg call.verf call.args
  have hauth := @svcauthGssapi_of_record agss l cfg ev call st authMsg handle hcred hrecord
  rw [next, hctx] at hauth
  dsimp only at hauth
  unfold handleAuthGssapi
  rw [hauth]
  revert hkeeps hmoves hdispatch
  generalize st.established l ev.draw ctx call.xid call.proc authMsg call.verf call.args = r
  obtain ⟨auth, st₁, destroyed⟩ := r
  intro hkeeps hmoves hdispatch
  have hgoes : ∀ {st'}, Keeps ctx st' → (∃ k ≤ 2, st'.seq = st.seq + UInt32.ofNat k) →
      ∃ st, agss = some st ∧ Goes st st' := by
    intro st' hkeeps hmoves
    refine ⟨st, hst, fun ctx' hctx' => ?_⟩
    obtain rfl := Option.some.inj (hctx.symm.trans hctx')
    exact ⟨hkeeps, hmoves⟩
  have hstay : ∀ st', (if destroyed = true then none else some st₁) = some st' →
      ∃ st, agss = some st ∧ Goes st st' := by
    intro st' h
    split at h
    · cases h
    · obtain rfl := Option.some.inj h
      exact hgoes hkeeps hmoves
  cases auth with
  | denied why => exact ⟨hstay, fun h => by cases h⟩
  | replied reply => exact ⟨hstay, fun h => by cases h⟩
  | dispatch v =>
    obtain ⟨rfl, htwo, hopened⟩ := hdispatch v rfl
    obtain ⟨ctx₁, hctx₁, hkeys⟩ := hkeeps
    obtain ⟨st₂, hst₂, ⟨ctx₂, hctx₂, hkeys₂⟩, hseq⟩ := handleProgram_spec l cfg ev call kadm
      iprop v hctx₁
    have hkeeps₂ : Keeps ctx st₂ := ⟨ctx₂, hctx₂, hkeys.trans hkeys₂⟩
    rw [if_neg Bool.false_ne_true]
    rw [hst₂]
    refine ⟨fun st' h => ?_, fun _ => ⟨st, ctx, hst, hctx, hopened, fun st' h => ?_⟩⟩
    · obtain rfl := Option.some.inj h
      exact hgoes hkeeps₂ ⟨2, by omega, hseq.trans htwo⟩
    · obtain rfl := Option.some.inj h
      exact ⟨hseq.trans htwo, hkeeps₂⟩

/-- A record without a context lets no call through: it answers every one itself. -/
theorem init_ne_dispatch (st : Agss) (xid proc : UInt32) (authMsg : Bool) (args v : Str) :
    (st.init l cfg ev xid proc authMsg args).1 ≠ .dispatch v := by
  unfold Agss.init Agss.establish
  repeat' split
  all_goals exact fun h => by cases h

theorem next_ne_dispatch (hctx : st.ctx = none) (authMsg : Bool) (v : Str) :
    (next l cfg ev st call authMsg).1 ≠ .dispatch v := by
  rw [next, hctx]
  exact init_ne_dispatch _ _ _ _ _ v

theorem dispatched_of_ne_dispatch (h : ∀ v, (svcauthGssapi l cfg ev call agss).1 ≠ .dispatch v) :
    (handleAuthGssapi l cfg ev call kadm iprop agss).1.dispatched = none := by
  unfold handleAuthGssapi
  revert h
  generalize svcauthGssapi l cfg ev call agss = r
  obtain ⟨auth, agss'⟩ := r
  intro h
  cases auth with
  | denied why => rfl
  | replied reply => rfl
  | dispatch v => exact absurd rfl (h v)

/-- A record that is not begun anew is the one the connection keeps. -/
theorem agssRecord_ok (hcred : agssCred call.cred = some (authGssapiCredsVers, authMsg, handle))
    (hbegins : beginsRecord call = false)
    (h : agssRecord ev agss call.proc authMsg handle = .ok st) : agss = some st := by
  unfold agssRecord at h
  split at h
  · rename_i hinit
    split at h
    · cases h
    · rename_i hhandle
      obtain ⟨rfl, hproc⟩ := hinit
      obtain rfl := not_not.mp hhandle
      rw [beginsRecord, hcred, hproc] at hbegins
      simp at hbegins
  · split at h
    · cases h
    · split at h
      · cases h
      · split at h
        · rw [Except.ok.inj h]
        · cases h

theorem handleAuthGssapi_of_begins (hbegins : beginsRecord call = true) (agss : Option Agss) :
    (handleAuthGssapi l cfg ev call kadm iprop agss).1.dispatched = none := by
  have hand := Bool.and_eq_true_iff.mp hbegins
  have hcred : agssCred call.cred = some (authGssapiCredsVers, true, []) := by simpa using hand.1
  have hproc : call.proc = authGssapiInit := by simpa using hand.2
  have hrecord : agssRecord ev (cleanClient ev.now agss) call.proc true []
      = .ok ⟨none, agssHandle, 0, satAdd ev.now agssInitiationTimeout⟩ := by
    unfold agssRecord
    rw [if_pos ⟨rfl, hproc⟩]
    rfl
  refine dispatched_of_ne_dispatch fun v => ?_
  rw [svcauthGssapi_of_record hcred hrecord]
  exact next_ne_dispatch rfl true v

/-- **What an AUTH_GSSAPI record does** to the record of the connection, unless it begins a new one. -/
theorem handleAuthGssapi_spec (l : GssLibs) (cfg : RpcCtx) (ev : Event) (kadm iprop : Bool)
    (hbegins : beginsRecord call = false) (agss : Option Agss) :
    Moves l agss call.verf (handleAuthGssapi l cfg ev call kadm iprop agss).1
      (handleAuthGssapi l cfg ev call kadm iprop agss).2 := by
  rcases svcauthGssapi_cases l cfg ev call agss with ⟨why, hdenied⟩ | ⟨authMsg, handle, st, hcred, hrecord⟩
  · -- a record that is denied at once leaves what there is
    unfold handleAuthGssapi
    rw [hdenied]
    exact ⟨fun st' h => ⟨st', cleanClient_eq_some h, .refl st'⟩, fun h => by cases h⟩
  · have hst : agss = some st := cleanClient_eq_some (agssRecord_ok hcred hbegins hrecord)
    cases hctx : st.ctx with
    | some ctx => exact handleAuthGssapi_established hst hcred hrecord hctx
    | none =>
      refine ⟨fun st' _ => ⟨st, hst, fun ctx h => ?_⟩, fun hd => ?_⟩
      · rw [hctx] at h
        cases h
      · rw [dispatched_of_ne_dispatch] at hd
        · cases hd
        · intro v
          rw [svcauthGssapi_of_record hcred hrecord]
          exact next_ne_dispatch hctx authMsg v

/-- The number that the verifier of a record holds. -/
def verfNumber (l : GssLibs) (g : GssContext) (raw : Str) : Option UInt32 :=
  (parseCall raw).bind fun call => openedNumber l g call.verf

theorem exists_call_of_isAgss {raw : Str} (h : isAgss raw = true) :
    ∃ call, parseCall raw = some call ∧ agssInits raw = beginsRecord call := by
  cases hcall : parseCall raw with
  | none =>
    rw [isAgss, hcall] at h
    cases h
  | some call =>
    refine ⟨call, rfl, ?_⟩
    rw [agssInits, h, hcall]
    rfl

/-- **What any record does** to the AUTH_GSSAPI record, unless it begins a new one. -/
theorem handleRpc_moves (l : GssLibs) (cfg : RpcCtx) (s : Session) (h : agssInits ev.raw = false) :
    (∀ st', (handleRpc l cfg s ev).2.agss = some st' → ∃ st, s.agss = some st ∧ Goes st st') ∧
    (isAgss ev.raw = true → (handleRpc l cfg s ev).1.dispatched.isSome = true →
      ∃ st ctx, s.agss = some st ∧ st.ctx = some ctx ∧
        verfNumber l ctx.gss ev.raw = some (st.seq + 1) ∧
        ∀ st', (handleRpc l cfg s ev).2.agss = some st' → st'.seq = st.seq + 2 ∧ Keeps ctx st') := by
  cases hagss : isAgss ev.raw with
  | false =>
    rw [handleRpc_of_not_agss l cfg s hagss]
    exact ⟨fun st' hst' => ⟨st', hst', .refl st'⟩, fun hf => absurd hf Bool.false_ne_true⟩
  | true =>
    obtain ⟨call, hcall, hinits⟩ := exists_call_of_isAgss hagss
    have hmoves := handleAuthGssapi_spec l cfg ev (isKadm cfg call) (isIprop cfg ev call)
      (hinits.symm.trans h) s.agss
    rw [handleRpc_of_agss l cfg s hcall hagss]
    refine ⟨hmoves.goes, fun _ hd => ?_⟩
    unfold verfNumber
    rw [hcall]
    exact hmoves.dispatched hd

/-! ### Forged records -/

/-- A record of someone without the keys of a context: its verifier does not open.  A record that begins
anew has no verifier and is not among them. -/
def ForgedAgss (l : GssLibs) (g : GssContext) (ev : Event) : Prop :=
  ∀ call, parseCall ev.raw = some call → isAgss ev.raw = true →
    beginsRecord call = false ∧ (g.openToken l call.verf).isOk = false

/-- A verifier that does not open changes nothing. -/
theorem established_of_forged {verf : Str} (h : (ctx.gss.openToken l verf).isOk = false)
    (hctx : st.ctx = some ctx) (draw : Draw) (xid proc : UInt32) (authMsg : Bool) (args : Str) :
    st.established l draw ctx xid proc authMsg verf args = (.denied authBadverf, st, false) := by
  have hunwrap : ∃ e, ctx.gss.unwrapV3 l verf = (.error e, ctx.gss) := by
    unfold GssContext.unwrapV3
    cases hopen : ctx.gss.openToken l verf with
    | error e => exact ⟨e, rfl⟩
    | ok out =>
      rw [hopen] at h
      cases h
  obtain ⟨e, he⟩ := hunwrap
  unfold Agss.established
  rw [he]
  show (AgssAuth.denied authBadverf, { st with ctx := some ctx }, false) = _
  rw [← hctx]

/-- **A forged AUTH_GSSAPI record** changes nothing but for the time. -/
theorem handleAuthGssapi_of_forged
    (hbegins : beginsRecord call = false) (h : ∀ st, cleanClient ev.now agss = some st →
      ∃ ctx, st.ctx = some ctx ∧ (ctx.gss.openToken l call.verf).isOk = false) :
    (handleAuthGssapi l cfg ev call kadm iprop agss).2 = cleanClient ev.now agss := by
  have hauth : ∃ why, svcauthGssapi l cfg ev call agss = (.denied why, cleanClient ev.now agss) := by
    rcases svcauthGssapi_cases l cfg ev call agss with hdenied | ⟨authMsg, handle, st, hcred, hrecord⟩
    · exact hdenied
    · have hst : cleanClient ev.now agss = some st := agssRecord_ok hcred hbegins hrecord
      obtain ⟨ctx, hctx, hopen⟩ := h st hst
      rw [svcauthGssapi_of_record hcred hrecord, next, hctx]
      dsimp only
      rw [established_of_forged hopen hctx, hst]
      exact ⟨_, rfl⟩
  obtain ⟨why, hwhy⟩ := hauth
  unfold handleAuthGssapi
  rw [hwhy]

/-- What an AUTH_GSSAPI record does depends on the record of the connection as the clock leaves it. -/
theorem handleAuthGssapi_congr {agss' : Option Agss}
    (h : cleanClient ev.now agss = cleanClient ev.now agss') :
    handleAuthGssapi l cfg ev call kadm iprop agss = handleAuthGssapi l cfg ev call kadm iprop agss' := by
  unfold handleAuthGssapi svcauthGssapi
  rw [h]

end Record

end Kerber.Admin
