import Kerber.Admin.Auth
import Kerber.Lib.Admission
import Kerber.Lib.Window

/-!
# RPCSEC_GSS calls run at most once

`Remembers` says which numbers the window of a context was given.  A record of the context asks the
window first (`seqWindowOk_spec`), and all that follows leaves the window alone (`Frame`); so no number
is dispatched twice (`rpcsec_step`).  A record that does not verify leaves the context as it was, but
its number stays in the window (`forged_step`).
-/

namespace Kerber.Admin

variable {gss : Option RpcsecGss}

open Gss (GssContext GssLibs)
open Window (Shows Shifted)

/-! ### The window -/

/-- The numbers that a window was given. -/
structure Remembers (gd : RpcsecGss) (seen : Set Nat) : Prop where
  shows : Shows 32 gd.seqmask.toNat (gd.seqlast.toNat + 1) seen
  last : gd.seqlast.toNat = 0 ∨ gd.seqlast.toNat ∈ seen

theorem remembers_new (ctx : Accepted) (svc : UInt32) : Remembers ⟨ctx, 0, 0, svc⟩ ∅ where
  shows := Shows.empty 32 1
  last := .inl rfl

variable {gd gd' : RpcsecGss} {seen : Set Nat} {seq : UInt32}

/-- A number above all others moves the window. -/
theorem seqWindowOk_of_lt (h : Remembers gd seen) (hlt : gd.seqlast < seq) :
    (seqWindowOk gd seq).1 = true ∧ seq.toNat ∉ seen ∧
      Remembers (seqWindowOk gd seq).2 (insert seq.toNat seen) := by
  have hlt' : gd.seqlast.toNat < seq.toNat := hlt
  have hshift : (seq - gd.seqlast).toNat = seq.toNat - gd.seqlast.toNat :=
    UInt32.toNat_sub_of_le _ _ (UInt32.le_of_lt hlt)
  have hmask : Shifted 32 gd.seqmask.toNat (seq.toNat - gd.seqlast.toNat)
      (if seq - gd.seqlast ≥ 32 then 0 else gd.seqmask <<< (seq - gd.seqlast)).toNat := by
    by_cases hbig : seq - gd.seqlast ≥ 32
    · have hbig' : 32 ≤ (seq - gd.seqlast).toNat := hbig
      rw [if_pos hbig]
      exact Window.shifted_zero (by omega) _
    · have hsmall : (seq - gd.seqlast).toNat < 32 := Nat.lt_of_not_le hbig
      rw [if_neg hbig, UInt32.toNat_shiftLeft, Nat.mod_eq_of_lt hsmall, hshift]
      exact Window.shifted_shiftLeft 32 _ _
  have hstep : seqWindowOk gd seq = (true, { gd with
      seqlast := seq
      seqmask := (if seq - gd.seqlast ≥ 32 then 0 else gd.seqmask <<< (seq - gd.seqlast)) ||| 1 }) :=
    if_pos hlt
  rw [hstep]
  refine ⟨rfl, fun hmem => ?_, ?_, .inr (Set.mem_insert _ _)⟩
  · have := h.shows.lt_next _ hmem
    omega
  · show Shows 32 (_ ||| 1 : UInt32).toNat (seq.toNat + 1) _
    rw [UInt32.toNat_or]
    have hdist : seq.toNat - gd.seqlast.toNat = seq.toNat + 1 - (gd.seqlast.toNat + 1) := by omega
    exact h.shows.advance (by omega) (hdist ▸ hmask)

theorem and_bit_ne_zero_iff {x off : UInt32} (hoff : off.toNat < 32) :
    x &&& 1 <<< off ≠ 0 ↔ x.toNat.testBit off.toNat = true := by
  have hbit : ((1 : UInt32) <<< off).toNat = 2 ^ off.toNat := by
    rw [UInt32.toNat_shiftLeft, Nat.mod_eq_of_lt hoff]
    show 1 <<< off.toNat % 2 ^ 32 = _
    rw [Nat.one_shiftLeft]
    exact Nat.mod_eq_of_lt (Nat.pow_lt_pow_right (by decide) hoff)
  rw [← not_iff_not, not_not, Bool.not_eq_true, ← UInt32.toNat_inj, UInt32.toNat_and, hbit]
  show x.toNat &&& 2 ^ off.toNat = 0 ↔ _
  rw [Nat.and_two_pow]
  cases x.toNat.testBit off.toNat <;> simp

theorem toNat_or_bit (x : UInt32) {off : UInt32} (hoff : off.toNat < 32) :
    (x ||| 1 <<< off).toNat = x.toNat ||| 1 <<< off.toNat := by
  rw [UInt32.toNat_or, UInt32.toNat_shiftLeft, Nat.mod_eq_of_lt hoff]
  show x.toNat ||| 1 <<< off.toNat % 2 ^ 32 = _
  have hlt : 1 <<< off.toNat < 2 ^ 32 := by
    rw [Nat.one_shiftLeft]
    exact Nat.pow_lt_pow_right (by decide) hoff
  rw [Nat.mod_eq_of_lt hlt]

/-- **The window.**  A number is refused if it was given before or is 32 or more below another one;
else the window has it from now on. -/
theorem seqWindowOk_spec (h : Remembers gd seen) (seq : UInt32) :
    ((seqWindowOk gd seq).1 = true →
      seq.toNat ∉ seen ∧ Remembers (seqWindowOk gd seq).2 (insert seq.toNat seen)) ∧
    ((seqWindowOk gd seq).1 = false →
      (seqWindowOk gd seq).2 = gd ∧ (seq.toNat ∈ seen ∨ ∃ m ∈ seen, seq.toNat + 32 ≤ m)) := by
  by_cases hlt : gd.seqlast < seq
  · obtain ⟨htrue, hnew⟩ := seqWindowOk_of_lt h hlt
    exact ⟨fun _ => hnew, fun hf => absurd (hf.symm.trans htrue) Bool.false_ne_true⟩
  · have hle : seq.toNat ≤ gd.seqlast.toNat := Nat.le_of_not_lt hlt
    have hoff : (gd.seqlast - seq).toNat = gd.seqlast.toNat - seq.toNat :=
      UInt32.toNat_sub_of_le _ _ hle
    have hstep : seqWindowOk gd seq =
        if gd.seqlast - seq ≥ rpcsecSeqWindow ∨ gd.seqmask &&& (1 <<< (gd.seqlast - seq)) ≠ 0 then
          (false, gd)
        else (true, { gd with seqmask := gd.seqmask ||| (1 <<< (gd.seqlast - seq)) }) :=
      if_neg hlt
    by_cases hfar : gd.seqlast - seq ≥ rpcsecSeqWindow
    · have hfar' : 32 ≤ (gd.seqlast - seq).toNat := hfar
      rw [hstep, if_pos (.inl hfar)]
      refine ⟨fun hf => absurd hf Bool.false_ne_true, fun _ => ⟨rfl, .inr ⟨gd.seqlast.toNat, ?_, by omega⟩⟩⟩
      exact h.last.resolve_left (by omega)
    · have hnear : (gd.seqlast - seq).toNat < 32 := Nat.lt_of_not_le hfar
      have hindex : (gd.seqlast - seq).toNat = gd.seqlast.toNat + 1 - 1 - seq.toNat := by omega
      have hbit : gd.seqmask &&& (1 <<< (gd.seqlast - seq)) ≠ 0 ↔ seq.toNat ∈ seen := by
        rw [and_bit_ne_zero_iff hnear, hindex]
        exact h.shows.testBit_iff (by omega) (by omega)
      by_cases hseen : seq.toNat ∈ seen
      · rw [hstep, if_pos (.inr (hbit.mpr hseen))]
        exact ⟨fun hf => absurd hf Bool.false_ne_true, fun _ => ⟨rfl, .inl hseen⟩⟩
      · have hclear : ¬ (gd.seqlast - seq ≥ rpcsecSeqWindow ∨
            gd.seqmask &&& (1 <<< (gd.seqlast - seq)) ≠ 0) :=
          fun hor => hor.elim hfar fun hne => hseen (hbit.mp hne)
        rw [hstep, if_neg hclear]
        refine ⟨fun _ => ⟨hseen, ?_, h.last.imp_right (Set.mem_insert_of_mem _)⟩,
          fun hf => by cases hf⟩
        show Shows 32 (gd.seqmask ||| 1 <<< (gd.seqlast - seq)).toNat (gd.seqlast.toNat + 1) _
        rw [toNat_or_bit _ hnear, hindex]
        exact h.shows.mark (by omega) (by omega)

/-! ### What the rest of a record leaves alone -/

/-- Two states of one context of the GSS layer. -/
structure SameKeys (g g' : GssContext) : Prop where
  session : g'.session = g.session
  acceptorSubkey : g'.acceptorSubkey = g.acceptorSubkey
  initiator : g'.initiator = g.initiator

namespace SameKeys

variable {l : GssLibs} {g g' g'' : GssContext}

theorem refl (g : GssContext) : SameKeys g g := ⟨rfl, rfl, rfl⟩

theorem trans (h : SameKeys g g') (h' : SameKeys g' g'') : SameKeys g g'' :=
  ⟨h'.session.trans h.session, h'.acceptorSubkey.trans h.acceptorSubkey,
    h'.initiator.trans h.initiator⟩

theorem recvKey (h : SameKeys g g') (flags : UInt8) : g'.recvKey flags = g.recvKey flags := by
  unfold GssContext.recvKey
  rw [h.session, h.acceptorSubkey]

theorem openMic (h : SameKeys g g') (data token : Str) :
    g'.openMic l data token = g.openMic l data token := by
  unfold GssContext.openMic
  simp only [h.recvKey, h.initiator]

theorem openToken (h : SameKeys g g') (token : Str) : g'.openToken l token = g.openToken l token := by
  unfold GssContext.openToken GssContext.openBody GssContext.openSealed GssContext.openInteg
  simp only [h.recvKey, h.initiator]

variable (l : GssLibs) (g : GssContext)

theorem acceptSeq (seq : UInt64) : SameKeys g (g.acceptSeq seq).2 := ⟨rfl, rfl, rfl⟩

theorem getMic (data : Str) : SameKeys g (g.getMic l data).2 := by
  unfold GssContext.getMic
  dsimp only
  split
  · exact refl g
  · exact ⟨rfl, rfl, rfl⟩

theorem verifyMic (data token : Str) : SameKeys g (g.verifyMic l data token).2 := by
  unfold GssContext.verifyMic
  cases g.openMic l data token with
  | error e => exact refl g
  | ok seq => exact acceptSeq g seq

theorem unwrapV3 (token : Str) : SameKeys g (g.unwrapV3 l token).2 := by
  unfold GssContext.unwrapV3
  cases g.openToken l token with
  | error e => exact refl g
  | ok out => exact acceptSeq g out.1

theorem wrapWithRrc (draw : Draw) (plaintext : Str) (rrc : UInt16) :
    SameKeys g (g.wrapWithRrc l draw plaintext rrc).2 := by
  unfold GssContext.wrapWithRrc GssContext.wrapConfInner
  dsimp only
  split
  · exact refl g
  · exact ⟨rfl, rfl, rfl⟩

theorem wrapInteg (plaintext : Str) : SameKeys g (g.wrapInteg l plaintext).2 := by
  unfold GssContext.wrapInteg
  dsimp only
  split
  · exact refl g
  · split
    · exact refl g
    · exact ⟨rfl, rfl, rfl⟩

end SameKeys

/-- The same context and the same window, after some messages. -/
def Frame (gd gd' : RpcsecGss) : Prop :=
  ∃ g, gd' = gd.withGss g ∧ SameKeys gd.ctx.gss g

namespace Frame

variable {l : GssLibs} {gd'' : RpcsecGss}

theorem refl (gd : RpcsecGss) : Frame gd gd := ⟨gd.ctx.gss, rfl, .refl _⟩

theorem withGss {g : GssContext} (h : SameKeys gd.ctx.gss g) : Frame gd (gd.withGss g) := ⟨g, rfl, h⟩

theorem trans (h : Frame gd gd') (h' : Frame gd' gd'') : Frame gd gd'' := by
  obtain ⟨g, rfl, hg⟩ := h
  obtain ⟨g', rfl, hg'⟩ := h'
  exact ⟨g', rfl, hg.trans hg'⟩

theorem remembers (h : Frame gd gd') (hs : Remembers gd seen) : Remembers gd' seen := by
  obtain ⟨g, rfl, -⟩ := h
  exact ⟨hs.shows, hs.last⟩

theorem getMic (l : GssLibs) (gd : RpcsecGss) (data : Str) : Frame gd (gd.getMic l data).2 :=
  withGss (SameKeys.getMic l _ data)

theorem verifyMic (l : GssLibs) (gd : RpcsecGss) (data token : Str) :
    Frame gd (gd.verifyMic l data token).2 :=
  withGss (SameKeys.verifyMic l _ data token)

end Frame

def RpcsecGss.setWindow (gd : RpcsecGss) (last mask : UInt32) : RpcsecGss :=
  { gd with seqlast := last, seqmask := mask }

/-- A step that keeps the keys, and neither reads the window nor moves it. -/
def Blind {α : Type} (step : RpcsecGss → α × RpcsecGss) : Prop :=
  ∀ gd last mask, Frame gd (step gd).2 ∧
    step (gd.setWindow last mask) = ((step gd).1, (step gd).2.setWindow last mask)

section Blind

variable (l : GssLibs)

theorem blind_openArgs (seq : UInt32) (args : Str) : Blind fun gd => gd.openArgs l seq args := by
  intro gd last mask
  have hsvc : (gd.setWindow last mask).svc = gd.svc := rfl
  unfold RpcsecGss.openArgs
  dsimp only
  rw [hsvc]
  split
  · exact ⟨.refl gd, rfl⟩
  · split
    · split
      · exact ⟨.refl gd, rfl⟩
      · split
        · exact ⟨.refl gd, rfl⟩
        · exact ⟨.verifyMic l gd _ _, rfl⟩
    · split
      · exact ⟨.refl gd, rfl⟩
      · exact ⟨.withGss (SameKeys.unwrapV3 l _ _), rfl⟩

theorem blind_sealResult (draw : Draw) (xid : UInt32) (mic : Str) (seq : UInt32) (result : Str) :
    Blind fun gd => gd.sealResult l draw xid mic seq result := by
  intro gd last mask
  have hsvc : (gd.setWindow last mask).svc = gd.svc := rfl
  unfold RpcsecGss.sealResult
  dsimp only
  rw [hsvc]
  split
  · exact ⟨.refl gd, rfl⟩
  · split
    · exact ⟨.getMic l gd _, rfl⟩
    · exact ⟨.withGss (SameKeys.wrapWithRrc l _ _ _ _), rfl⟩

theorem blind_dispatch (cfg : RpcCtx) (ev : Event) (xid proc : UInt32) (args : Str) (iprop : Bool)
    (mic : Str) (seq : UInt32) :
    Blind fun gd => gd.dispatch l cfg ev xid proc args iprop mic seq := by
  intro gd last mask
  have hctx : (gd.setWindow last mask).ctx = gd.ctx := rfl
  have hserved : (gd.setWindow last mask).served cfg iprop = gd.served cfg iprop := rfl
  unfold RpcsecGss.dispatch
  dsimp only
  rw [hctx, hserved]
  split
  · exact ⟨.refl gd, rfl⟩
  · split
    · exact ⟨.refl gd, rfl⟩
    · split
      · exact ⟨.refl gd, rfl⟩
      · split
        · rename_i result _
          obtain ⟨hframe, hset⟩ := blind_sealResult l ev.draw xid mic seq result gd last mask
          dsimp only at hset
          rw [hset]
          exact ⟨hframe, rfl⟩
        · exact ⟨.refl gd, rfl⟩
        · exact ⟨.refl gd, rfl⟩
        · exact ⟨.refl gd, rfl⟩

theorem blind_data (cfg : RpcCtx) (ev : Event) (call : RpcCall) (kadm iprop : Bool) (seq : UInt32) :
    Blind fun gd => gd.data l cfg ev call kadm iprop seq := by
  intro gd last mask
  have hframe := Frame.getMic l gd (be32 seq)
  have hmic : (gd.setWindow last mask).getMic l (be32 seq) =
      ((gd.getMic l (be32 seq)).1, (gd.getMic l (be32 seq)).2.setWindow last mask) := rfl
  unfold RpcsecGss.data
  dsimp only
  rw [hmic]
  revert hframe
  obtain ⟨mic, gd₁⟩ := gd.getMic l (be32 seq)
  intro hframe
  cases mic with
  | error e => exact ⟨hframe, rfl⟩
  | ok mic =>
    dsimp only
    split
    · exact ⟨hframe, rfl⟩
    · split
      · exact ⟨hframe, rfl⟩
      · split
        · exact ⟨hframe, rfl⟩
        · obtain ⟨hopen, hargs⟩ := blind_openArgs l seq call.args gd₁ last mask
          dsimp only at hopen hargs
          rw [hargs]
          revert hopen
          obtain ⟨args, gd₂⟩ := gd₁.openArgs l seq call.args
          intro hopen
          cases args with
          | none => exact ⟨hframe.trans hopen, rfl⟩
          | some args =>
            obtain ⟨hdone, hset⟩ := blind_dispatch l cfg ev call.xid call.proc args iprop mic seq gd₂
              last mask
            exact ⟨(hframe.trans hopen).trans hdone, hset⟩

end Blind

/-! ### One record -/

/-- The head and the credential of an RPCSEC_GSS record. -/
def rpcsecRecord (raw : Str) : Option (RpcCall × Gcred) :=
  (parseCall raw).bind fun call =>
    if call.credFlavor = flavorGss then (rpcsecCred call.cred).map fun g => (call, g) else none

def rpcsecSeq (raw : Str) : Option UInt32 := (rpcsecRecord raw).map fun r => r.2.seqNum

/-- Whether a record that the window lets pass makes a new context. -/
def makes (l : GssLibs) (ev : Event) (call : RpcCall) (g : Gcred) : Bool :=
  (g.proc == rpgInit || g.proc == rpgContinue) && call.proc == 0
    && (rpcsecMake l ev g.service call.args).isOk

/-- Whether a record makes a new RPCSEC_GSS context. -/
def replaces (l : GssLibs) (ev : Event) (s : Session) : Bool :=
  match rpcsecRecord ev.raw with
  | none => false
  | some (call, g) => (windowGate s.gss g.seqNum).1 && makes l ev call g

section Record

variable {l : GssLibs} {cfg : RpcCtx} {s : Session} {ev : Event} {call : RpcCall} {g : Gcred}

theorem rpcsecRecord_eq_some (h : rpcsecRecord ev.raw = some (call, g)) :
    parseCall ev.raw = some call ∧ call.credFlavor = flavorGss ∧ rpcsecCred call.cred = some g := by
  obtain ⟨call', hcall, h⟩ := Option.bind_eq_some_iff.mp h
  split at h
  · rename_i hflavor
    obtain ⟨g', hg, h⟩ := Option.map_eq_some_iff.mp h
    cases h
    exact ⟨hcall, hflavor, hg⟩
  · cases h

/-- Other records leave the context alone, and are not dispatched under it. -/
theorem handleRpc_of_not_rpcsec (h : rpcsecRecord ev.raw = none) :
    (handleRpc l cfg s ev).2.gss = s.gss := by
  unfold handleRpc
  cases hcall : parseCall ev.raw with
  | none => rfl
  | some call =>
    dsimp only
    split
    · rename_i hflavor
      have hcred : rpcsecCred call.cred = none := by
        rw [rpcsecRecord, hcall, Option.bind_some, if_pos hflavor, Option.map_eq_none_iff] at h
        exact h
      rw [handleRpcsecGss, hcred]
    · split
      · rfl
      · split
        · rfl
        · split <;> rfl

/-- What follows when the window has taken the number. -/
def afterWindow (l : GssLibs) (cfg : RpcCtx) (ev : Event) (call : RpcCall) (g : Gcred)
    (gss : Option RpcsecGss) : Outcome × Option RpcsecGss :=
  rpcsecProc l cfg rpcsecHandle ev call (isKadm cfg call) (isIprop cfg ev call) g gss

theorem handleRpc_of_refused (h : rpcsecRecord ev.raw = some (call, g))
    (hgate : windowGate s.gss g.seqNum = (false, gss)) :
    handleRpc l cfg s ev =
      (.refuse (rpcReplyAuthError call.xid rpcsecGssCtxproblem), { s with gss }) := by
  obtain ⟨hcall, hflavor, hcred⟩ := rpcsecRecord_eq_some h
  unfold handleRpc
  rw [hcall]
  dsimp only
  rw [if_pos hflavor, handleRpcsecGss, hcred]
  dsimp only
  rw [hgate]

theorem handleRpc_of_taken (h : rpcsecRecord ev.raw = some (call, g))
    (hgate : windowGate s.gss g.seqNum = (true, gss)) :
    handleRpc l cfg s ev = ((afterWindow l cfg ev call g gss).1,
      { s with gss := (afterWindow l cfg ev call g gss).2 }) := by
  obtain ⟨hcall, hflavor, hcred⟩ := rpcsecRecord_eq_some h
  unfold handleRpc
  rw [hcall]
  dsimp only
  rw [if_pos hflavor, handleRpcsecGss, hcred]
  dsimp only
  rw [hgate]
  rfl

/-- A context that the window has taken a number of. -/
theorem windowGate_some (h : windowGate (some gd) seq = (true, gss)) :
    (seqWindowOk gd seq).1 = true ∧ gss = some (seqWindowOk gd seq).2 := by
  unfold windowGate at h
  dsimp only at h
  split at h
  · cases h
  · obtain ⟨hok, rfl⟩ := Prod.mk.inj h
    exact ⟨hok, rfl⟩

theorem windowGate_refused {gss' : Option RpcsecGss} (h : windowGate gss seq = (false, gss')) :
    gss' = gss := by
  unfold windowGate at h
  split at h
  · cases h
  · rename_i gd
    split at h
    · exact (Prod.mk.inj h).2.symm
    · obtain ⟨hok, rfl⟩ := Prod.mk.inj h
      unfold seqWindowOk at hok ⊢
      split
      · rename_i hlt
        rw [if_pos hlt] at hok
        cases hok
      · rename_i hlt
        rw [if_neg hlt] at hok
        dsimp only at hok ⊢
        split
        · rfl
        · rename_i hclear
          rw [if_neg hclear] at hok
          cases hok

/-! ### After the window -/

theorem rpcsecValidate_some (l : GssLibs) (gd : RpcsecGss) (header verf : Str) :
    rpcsecValidate l (some gd) header verf =
      ((gd.verifyMic l header verf).1.isOk, some (gd.verifyMic l header verf).2) := rfl

/-- A data record keeps the window, and does the same whatever the window is. -/
theorem rpcsecData_some (l : GssLibs) (cfg : RpcCtx) (ev : Event) (call : RpcCall)
    (kadm iprop : Bool) (seq : UInt32) (gd : RpcsecGss) :
    ∃ gd', (rpcsecData l cfg ev call kadm iprop seq (some gd)).2 = some gd' ∧ Frame gd gd' ∧
      ∀ last mask, rpcsecData l cfg ev call kadm iprop seq (some (gd.setWindow last mask)) =
        ((rpcsecData l cfg ev call kadm iprop seq (some gd)).1, some (gd'.setWindow last mask)) := by
  have hverify := Frame.verifyMic l gd call.header call.verf
  have hset : ∀ last mask, (gd.setWindow last mask).verifyMic l call.header call.verf =
      ((gd.verifyMic l call.header call.verf).1,
        (gd.verifyMic l call.header call.verf).2.setWindow last mask) := fun _ _ => rfl
  unfold rpcsecData
  simp only [rpcsecValidate_some, hset]
  cases (gd.verifyMic l call.header call.verf).1.isOk with
  | false => exact ⟨_, rfl, hverify, fun _ _ => rfl⟩
  | true =>
    have hdata := blind_data l cfg ev call kadm iprop seq (gd.verifyMic l call.header call.verf).2
    refine ⟨_, rfl, hverify.trans (hdata 0 0).1, fun last mask => ?_⟩
    have := (hdata last mask).2
    dsimp only at this ⊢
    rw [this]

theorem rpcsecDestroy_some (l : GssLibs) (call : RpcCall) (seq : UInt32) (gd : RpcsecGss) :
    (rpcsecDestroy l call seq (some gd)).1.dispatched = none ∧
    ((rpcsecDestroy l call seq (some gd)).2 = none ∨
      ∃ gd', (rpcsecDestroy l call seq (some gd)).2 = some gd' ∧ Frame gd gd') := by
  have hverify := Frame.verifyMic l gd call.header call.verf
  unfold rpcsecDestroy
  split
  · exact ⟨rfl, .inr ⟨gd, rfl, .refl gd⟩⟩
  · rw [rpcsecValidate_some]
    split
    · rename_i gd₁ hvalid
      obtain ⟨-, hsome⟩ := Prod.mk.inj hvalid
      cases hsome
      have hmic := Frame.getMic l (gd.verifyMic l call.header call.verf).2 (be32 seq)
      split
      · rename_i gd₂ hget
        rw [hget] at hmic
        exact ⟨rfl, .inr ⟨_, rfl, hverify.trans hmic⟩⟩
      · exact ⟨rfl, .inl rfl⟩
    · rename_i gss _ hvalid
      obtain ⟨-, rfl⟩ := Prod.mk.inj hvalid
      exact ⟨rfl, .inr ⟨_, rfl, hverify⟩⟩

/-- The context that an accepted token makes has an empty window. -/
theorem rpcsecMake_ok {service : UInt32} {args : Str} {gd : RpcsecGss} {mic tok : Str}
    (h : rpcsecMake l ev service args = .ok (gd, mic, tok)) : Remembers gd ∅ := by
  unfold rpcsecMake at h
  split at h
  · cases h
  · split at h
    · cases h
    · rename_i ctx outTok _
      have hfirst := Frame.getMic l ⟨ctx, 0, 0, service⟩ (be32 rpcsecSeqWindow)
      split at h
      · cases h
      · rename_i gd₁ hget
        rw [hget] at hfirst
        have hsecond := Frame.getMic l gd₁ (be32 rpcsecSeqWindow)
        split at h
        · cases h
        · rename_i gd₂ hget₂
          rw [hget₂] at hsecond
          cases h
          exact (hfirst.trans hsecond).remembers (remembers_new ctx service)

theorem rpcsecInit_spec (l : GssLibs) (ev : Event) (call : RpcCall) (handle : Str) (service : UInt32) (gss : Option RpcsecGss) :
    (rpcsecInit l handle ev call service gss).1.dispatched = none ∧
    ((call.proc == 0 && (rpcsecMake l ev service call.args).isOk) = true →
      ∃ gd, (rpcsecInit l handle ev call service gss).2 = some gd ∧ Remembers gd ∅) ∧
    ((call.proc == 0 && (rpcsecMake l ev service call.args).isOk) = false →
      (rpcsecInit l handle ev call service gss).2 = gss) := by
  unfold rpcsecInit
  by_cases hproc : call.proc = 0
  · rw [if_neg (not_not.mpr hproc), hproc]
    cases hmake : rpcsecMake l ev service call.args with
    | error why => exact ⟨rfl, fun h => (by cases h), fun _ => rfl⟩
    | ok made =>
      obtain ⟨gd, mic, tok⟩ := made
      exact ⟨rfl, fun _ => ⟨gd, rfl, rpcsecMake_ok hmake⟩, fun h => by cases h⟩
  · rw [if_pos hproc, beq_false_of_ne hproc]
    exact ⟨rfl, fun h => (by cases h), fun _ => rfl⟩

/-- **A record after the window.**  A new context has an empty window, and else the window stays, if the
context does; a call is dispatched under the context there was. -/
theorem afterWindow_spec (l : GssLibs) (cfg : RpcCtx) (ev : Event) (call : RpcCall) (g : Gcred)
    (gss : Option RpcsecGss) :
    (makes l ev call g = true → (afterWindow l cfg ev call g gss).1.dispatched = none ∧
      ∃ gd, (afterWindow l cfg ev call g gss).2 = some gd ∧ Remembers gd ∅) ∧
    (makes l ev call g = false →
      (∀ gd', (afterWindow l cfg ev call g gss).2 = some gd' → ∃ gd, gss = some gd ∧ Frame gd gd') ∧
      ((afterWindow l cfg ev call g gss).1.dispatched.isSome = true → gss.isSome = true)) := by
  have hkeep : (∀ gd', gss = some gd' → ∃ gd, gss = some gd ∧ Frame gd gd') :=
    fun gd' h => ⟨gd', h, .refl gd'⟩
  unfold afterWindow rpcsecProc makes
  by_cases hinit : g.proc = rpgInit ∨ g.proc = rpgContinue
  · have hbool : (g.proc == rpgInit || g.proc == rpgContinue) = true := by
      simpa using hinit
    obtain ⟨hnone, hmade, hsame⟩ := rpcsecInit_spec l ev call rpcsecHandle g.service gss
    rw [if_pos hinit, hbool, Bool.true_and, hnone]
    refine ⟨fun h => ⟨rfl, hmade h⟩, fun h => ⟨?_, fun h => by cases h⟩⟩
    rw [hsame h]
    exact hkeep
  · have hbool : (g.proc == rpgInit || g.proc == rpgContinue) = false := by
      simpa using hinit
    rw [if_neg hinit, hbool]
    refine ⟨fun h => (by cases h), fun _ => ?_⟩
    by_cases hdata : g.proc = rpgData
    · rw [if_pos hdata]
      cases gss with
      | none => exact ⟨fun gd' h => (by cases h), fun h => by cases h⟩
      | some gd =>
        obtain ⟨gd', hsome, hframe, -⟩ := rpcsecData_some l cfg ev call (isKadm cfg call)
          (isIprop cfg ev call) g.seqNum gd
        rw [hsome]
        exact ⟨fun gd₁ h => ⟨gd, rfl, Option.some.inj h ▸ hframe⟩, fun _ => rfl⟩
    · rw [if_neg hdata]
      by_cases hdestroy : g.proc = rpgDestroy
      · rw [if_pos hdestroy]
        cases gss with
        | none =>
          unfold rpcsecDestroy
          split
          · exact ⟨fun gd' h => (by cases h), fun h => by cases h⟩
          · exact ⟨fun gd' h => (by cases h), fun h => by cases h⟩
        | some gd =>
          obtain ⟨hnone, hstate⟩ := rpcsecDestroy_some l call g.seqNum gd
          refine ⟨fun gd₁ h => ⟨gd, rfl, ?_⟩, fun _ => rfl⟩
          rcases hstate with hgone | ⟨gd', hsome, hframe⟩
          · rw [hgone] at h
            cases h
          · rw [hsome] at h
            exact Option.some.inj h ▸ hframe
      · rw [if_neg hdestroy]
        exact ⟨hkeep, fun h => by cases h⟩

/-- The numbers that the window of the present context has at least. -/
def Holds (s : Session) (numbers : Set Nat) : Prop :=
  ∀ gd, s.gss = some gd → ∃ seen, numbers ⊆ seen ∧ Remembers gd seen

theorem Holds.mono {numbers numbers' : Set Nat} (h : Holds s numbers) (hsub : numbers' ⊆ numbers) :
    Holds s numbers' := by
  intro gd hgd
  obtain ⟨seen, hseen, hremembers⟩ := h gd hgd
  exact ⟨seen, hsub.trans hseen, hremembers⟩

/-- **The step of an RPCSEC_GSS context.**  A new context has dispatched nothing; else the number that a
record is dispatched under is new, and is kept. -/
theorem rpcsec_step (l : GssLibs) (cfg : RpcCtx) (ev : Event) {numbers : Set Nat}
    (h : Holds s numbers) :
    (replaces l ev s = true →
      (handleRpc l cfg s ev).1.dispatched = none ∧ Holds (handleRpc l cfg s ev).2 ∅) ∧
    (replaces l ev s = false →
      Holds (handleRpc l cfg s ev).2 numbers ∧
      ∀ n, rpcsecSeq ev.raw = some n → (handleRpc l cfg s ev).1.dispatched.isSome = true →
        n.toNat ∉ numbers ∧ Holds (handleRpc l cfg s ev).2 (insert n.toNat numbers)) := by
  unfold replaces rpcsecSeq
  cases hrecord : rpcsecRecord ev.raw with
  | none =>
    refine ⟨fun hf => absurd hf Bool.false_ne_true, fun _ => ⟨?_, fun n hn => by cases hn⟩⟩
    intro gd hgd
    rw [handleRpc_of_not_rpcsec hrecord] at hgd
    exact h gd hgd
  | some record =>
    obtain ⟨call, g⟩ := record
    dsimp only
    cases hgate : windowGate s.gss g.seqNum with
    | mk ok gss =>
      cases ok with
      | false =>
        rw [handleRpc_of_refused hrecord hgate, windowGate_refused hgate]
        exact ⟨fun hf => absurd hf Bool.false_ne_true, fun _ => ⟨h, fun n _ hd => by cases hd⟩⟩
      | true =>
        rw [handleRpc_of_taken hrecord hgate]
        obtain ⟨hmakes, hkeeps⟩ := afterWindow_spec l cfg ev call g gss
        refine ⟨fun hm => ?_, fun hm => ?_⟩
        · obtain ⟨hnone, gd, hgd, hempty⟩ := hmakes hm
          refine ⟨hnone, fun gd' hgd' => ?_⟩
          obtain rfl : gd = gd' := Option.some.inj (hgd.symm.trans hgd')
          exact ⟨∅, subset_rfl, hempty⟩
        · obtain ⟨hframe, hsome⟩ := hkeeps hm
          -- the number is new to the window of the context that was there
          have hnew : ∀ gd₁, gss = some gd₁ → ∃ seen, numbers ⊆ seen ∧ g.seqNum.toNat ∉ seen ∧
              Remembers gd₁ (insert g.seqNum.toNat seen) := by
            rintro gd₁ rfl
            cases hgss : s.gss with
            | none =>
              rw [hgss] at hgate
              cases (Prod.mk.inj hgate).2
            | some gd =>
              rw [hgss] at hgate
              obtain ⟨hok, hgd₁⟩ := windowGate_some hgate
              obtain rfl := Option.some.inj hgd₁
              obtain ⟨seen, hsub, hseen⟩ := h gd hgss
              exact ⟨seen, hsub, (seqWindowOk_spec hseen g.seqNum).1 hok⟩
          have hholds : Holds { s with gss := (afterWindow l cfg ev call g gss).2 }
              (insert g.seqNum.toNat numbers) := by
            intro gd' hgd'
            obtain ⟨gd₁, hgd₁, hfr⟩ := hframe gd' hgd'
            obtain ⟨seen, hsub, -, hremembers⟩ := hnew gd₁ hgd₁
            exact ⟨_, Set.insert_subset_insert hsub, hfr.remembers hremembers⟩
          refine ⟨hholds.mono (Set.subset_insert _ _), fun n hn hd => ?_⟩
          obtain rfl : g.seqNum = n := Option.some.inj hn
          obtain ⟨gd₁, hgd₁⟩ := Option.isSome_iff_exists.mp (hsome hd)
          obtain ⟨seen, hsub, hnot, -⟩ := hnew gd₁ hgd₁
          exact ⟨fun hmem => hnot (hsub hmem), hholds⟩

/-! ### Forged records -/

/-- A record of someone without the keys of a context: a verifier that does not verify, or a token
that is not accepted. -/
def Forged (l : GssLibs) (ctx : GssContext) (ev : Event) : Prop :=
  ∀ call g, rpcsecRecord ev.raw = some (call, g) →
    (g.proc = rpgData ∨ g.proc = rpgDestroy →
      (ctx.openMic l call.header call.verf).isOk = false) ∧ makes l ev call g = false

theorem verifyMic_of_forged {header verf : Str}
    (h : (gd.ctx.gss.openMic l header verf).isOk = false) :
    (gd.verifyMic l header verf).1.isOk = false ∧ (gd.verifyMic l header verf).2 = gd := by
  unfold RpcsecGss.verifyMic GssContext.verifyMic
  cases hopen : gd.ctx.gss.openMic l header verf with
  | error e => exact ⟨rfl, rfl⟩
  | ok seq =>
    rw [hopen] at h
    cases h

theorem afterWindow_of_forged (cfg : RpcCtx) (hrecord : rpcsecRecord ev.raw = some (call, g))
    (h : Forged l gd.ctx.gss ev) :
    (afterWindow l cfg ev call g (some gd)).1.dispatched = none ∧
      (afterWindow l cfg ev call g (some gd)).2 = some gd := by
  obtain ⟨hverf, hmakes⟩ := h call g hrecord
  unfold afterWindow rpcsecProc
  by_cases hinit : g.proc = rpgInit ∨ g.proc = rpgContinue
  · have hbool : (g.proc == rpgInit || g.proc == rpgContinue) = true := by
      simpa using hinit
    obtain ⟨hnone, -, hsame⟩ := rpcsecInit_spec l ev call rpcsecHandle g.service (some gd)
    unfold makes at hmakes
    rw [hbool, Bool.true_and] at hmakes
    rw [if_pos hinit]
    exact ⟨hnone, hsame hmakes⟩
  · rw [if_neg hinit]
    by_cases hdata : g.proc = rpgData
    · obtain ⟨hbad, hgd⟩ := verifyMic_of_forged (hverf (.inl hdata))
      rw [if_pos hdata, rpcsecData, rpcsecValidate_some, hbad, hgd]
      exact ⟨rfl, rfl⟩
    · rw [if_neg hdata]
      by_cases hdestroy : g.proc = rpgDestroy
      · obtain ⟨hbad, hgd⟩ := verifyMic_of_forged (hverf (.inr hdestroy))
        rw [if_pos hdestroy, rpcsecDestroy, rpcsecValidate_some, hbad, hgd]
        split <;> exact ⟨rfl, rfl⟩
      · rw [if_neg hdestroy]
        exact ⟨rfl, rfl⟩

/-- **A forged record** is not dispatched and leaves the context as it was; only its number stays in the
window. -/
theorem forged_step (cfg : RpcCtx) (hgd : s.gss = some gd) (h : Forged l gd.ctx.gss ev) :
    (rpcsecSeq ev.raw ≠ none → (handleRpc l cfg s ev).1.dispatched = none) ∧
    ((handleRpc l cfg s ev).2.gss = some gd ∨
      ∃ n, rpcsecSeq ev.raw = some n ∧ (seqWindowOk gd n).1 = true ∧
        (handleRpc l cfg s ev).2.gss = some (seqWindowOk gd n).2) := by
  unfold rpcsecSeq
  cases hrecord : rpcsecRecord ev.raw with
  | none =>
    rw [handleRpc_of_not_rpcsec hrecord]
    exact ⟨fun hne => absurd rfl hne, .inl hgd⟩
  | some record =>
    obtain ⟨call, g⟩ := record
    cases hgate : windowGate s.gss g.seqNum with
    | mk ok gss =>
      cases ok with
      | false =>
        rw [handleRpc_of_refused hrecord hgate, windowGate_refused hgate]
        exact ⟨fun _ => rfl, .inl hgd⟩
      | true =>
        rw [handleRpc_of_taken hrecord hgate]
        rw [hgd] at hgate
        obtain ⟨hok, rfl⟩ := windowGate_some hgate
        have hctx : (seqWindowOk gd g.seqNum).2.ctx = gd.ctx := by
          unfold seqWindowOk
          split
          · rfl
          · dsimp only
            split <;> rfl
        obtain ⟨hnone, hsame⟩ := afterWindow_of_forged cfg hrecord (hctx.symm ▸ h)
        exact ⟨fun _ => hnone, .inr ⟨g.seqNum, rfl, hok, hsame⟩⟩

end Record

/-! ### Genuine records -/

theorem seqWindowOk_eq_setWindow (gd : RpcsecGss) (seq : UInt32) :
    ∃ last mask, (seqWindowOk gd seq).2 = gd.setWindow last mask := by
  unfold seqWindowOk
  split
  · exact ⟨_, _, rfl⟩
  · dsimp only
    split
    · exact ⟨gd.seqlast, gd.seqmask, rfl⟩
    · exact ⟨gd.seqlast, _, rfl⟩

theorem handleRpc_of_open (l : GssLibs) (cfg : RpcCtx) {s : Session} {ev : Event} {call : RpcCall}
    {g : Gcred} (hgd : s.gss = some gd) (hs : Remembers gd seen)
    (hrecord : rpcsecRecord ev.raw = some (call, g)) (hdata : g.proc = rpgData)
    (hmax : g.seqNum ≤ maxseq) (hopen : ∀ m ∈ seen, m ≠ g.seqNum.toNat ∧ m < g.seqNum.toNat + 32) :
    Remembers (seqWindowOk gd g.seqNum).2 (insert g.seqNum.toNat seen) ∧
    handleRpc l cfg s ev =
      ((rpcsecData l cfg ev call (isKadm cfg call) (isIprop cfg ev call) g.seqNum
          (some (seqWindowOk gd g.seqNum).2)).1,
        { s with gss := (rpcsecData l cfg ev call (isKadm cfg call) (isIprop cfg ev call) g.seqNum
          (some (seqWindowOk gd g.seqNum).2)).2 }) := by
  obtain ⟨htake, hrefuse⟩ := seqWindowOk_spec hs g.seqNum
  have hok : (seqWindowOk gd g.seqNum).1 = true := by
    by_contra hf
    obtain ⟨-, hmem | ⟨m, hm, hle⟩⟩ := hrefuse (Bool.eq_false_of_not_eq_true hf)
    · exact (hopen _ hmem).1 rfl
    · exact absurd (hopen m hm).2 (Nat.not_lt.mpr hle)
  have hgate : windowGate s.gss g.seqNum = (true, some (seqWindowOk gd g.seqNum).2) := by
    rw [hgd, windowGate, if_neg (UInt32.not_lt.mpr hmax), hok]
  have hproc : ¬ (g.proc = rpgInit ∨ g.proc = rpgContinue) := by
    rw [hdata]
    decide
  refine ⟨(htake hok).2, ?_⟩
  rw [handleRpc_of_taken hrecord hgate]
  unfold afterWindow rpcsecProc
  rw [if_neg hproc, if_pos hdata]

end Kerber.Admin
