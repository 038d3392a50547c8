import Kerber.Admin.Equiv.Agss
import Kerber.Gss.Equiv.Wrap

/-!
# The records of a kadm5 connection

A connection is watched while it takes its records (`watch`): which context a call was dispatched in, and
how many records there were before it.  No RPCSEC_GSS number is dispatched twice in one context
(`tracks_rpcsec`), and no AUTH_GSSAPI record but after 2³¹ others (`tracks_agss`).  Records put in
between by someone without the keys do not change what the genuine calls get, as far as their numbers
do not shut them out of the RPCSEC_GSS window (`rpcsec_insertion_of`, `agss_insertion_of`).
`calls_at_most_once` puts these together.
-/

namespace Kerber.Admin

open List

variable {events : List (Bool × Event)} {g : GssContext} {e : Bool × Event} {ev : Event} {st : Agss}

open Gss (GssContext GssLibs)

variable {l : GssLibs} {cfg : RpcCtx}
variable {agss : Option Agss} {s₁ s₂ : Session} {ctx : Accepted} {seen : Set Nat} {s : Session}

/-! ### Watching a connection -/

/-- A connection, and what it has seen. -/
structure Watch where
  session : Session
  /-- The RPCSEC_GSS contexts that were made. -/
  contexts : Nat
  /-- The AUTH_GSSAPI records that were begun. -/
  records : Nat
  /-- The records received. -/
  received : Nat

/-- A new connection. -/
def Watch.new : Watch := ⟨.new, 0, 0, 0⟩

/-- A record that was dispatched, and when. -/
structure Dispatched where
  raw : Str
  call : Call
  (contexts records received : Nat)

/-- One record. -/
def watch (l : GssLibs) (cfg : RpcCtx) : Machine Watch Event Dispatched := fun w ev =>
  ((handleRpc l cfg w.session ev).1.dispatched.map fun call =>
      ⟨ev.raw, call, w.contexts, w.records, w.received⟩,
    ⟨(handleRpc l cfg w.session ev).2, w.contexts + (replaces l ev w.session).toNat,
      w.records + (agssInits ev.raw).toNat, w.received + 1⟩)

/-- Two calls under one RPCSEC_GSS context have different numbers. -/
def OncePerContext (a b : Dispatched) : Prop :=
  ∀ n, rpcsecSeq a.raw = some n → rpcsecSeq b.raw = some n → a.contexts ≠ b.contexts

/-- An AUTH_GSSAPI record that is dispatched again under its context is so after 2³¹ others. -/
def OnceInLong (a b : Dispatched) : Prop :=
  isAgss a.raw = true → a.raw = b.raw → a.records = b.records → a.received + 2 ^ 31 ≤ b.received

/-- What a window has of the calls that were dispatched. -/
structure RpcsecRecords (w : Watch) (seen : Set Dispatched) : Prop where
  le : ∀ out ∈ seen, out.contexts ≤ w.contexts
  holds : Holds w.session
    {m | ∃ out ∈ seen, out.contexts = w.contexts ∧ ∃ n, rpcsecSeq out.raw = some n ∧ n.toNat = m}

/-- The calls of before, after one more record. -/
theorem RpcsecRecords.step (l : GssLibs) (cfg : RpcCtx) {w : Watch} {seen : Set Dispatched}
    (h : RpcsecRecords w seen) (ev : Event) : RpcsecRecords (watch l cfg w ev).2 seen := by
  obtain ⟨hreplace, hkeep⟩ := rpcsec_step l cfg ev h.holds
  refine ⟨fun k hk => Nat.le_add_right_of_le (h.le k hk), ?_⟩
  show Holds (handleRpc l cfg w.session ev).2 {m | ∃ out ∈ seen, out.contexts =
    w.contexts + (replaces l ev w.session).toNat ∧ _}
  cases hrep : replaces l ev w.session with
  | true =>
    refine (hreplace hrep).2.mono ?_
    rintro m ⟨out, hmem, hctx, -⟩
    have := h.le out hmem
    rw [hctx] at this
    exact absurd this (by simp)
  | false => exact (hkeep hrep).1

theorem tracks_rpcsec (l : GssLibs) (cfg : RpcCtx) :
    Tracks (watch l cfg) (fun _ _ => True) OncePerContext RpcsecRecords where
  takes := by
    rintro w seen ev out h - hout
    obtain ⟨call, hcall, rfl⟩ := Option.map_eq_some_iff.mp hout
    have hdispatched : (handleRpc l cfg w.session ev).1.dispatched.isSome = true := by
      rw [hcall]
      rfl
    obtain ⟨hreplace, hkeep⟩ := rpcsec_step l cfg ev h.holds
    cases hrep : replaces l ev w.session with
    | true =>
      rw [(hreplace hrep).1] at hcall
      cases hcall
    | false =>
      obtain ⟨hsame, hnew⟩ := hkeep hrep
      refine ⟨fun k hk n hkn hn heq => ?_, fun k hk => ?_, ?_⟩
      · exact (hnew n hn hdispatched).1 ⟨k, hk, heq, n, hkn, rfl⟩
      · rcases hk with rfl | hk
        · exact Nat.le_add_right _ _
        · exact (h.step l cfg ev).le k hk
      · show Holds (handleRpc l cfg w.session ev).2 {m | ∃ out ∈ insert _ seen, out.contexts =
          w.contexts + (replaces l ev w.session).toNat ∧ _}
        rw [hrep]
        cases hseq : rpcsecSeq ev.raw with
        | none =>
          refine hsame.mono ?_
          rintro m ⟨out, rfl | hmem, hctx, n, hn, rfl⟩
          · rw [hseq] at hn
            cases hn
          · exact ⟨out, hmem, hctx, n, hn, rfl⟩
        | some n₀ =>
          refine (hnew n₀ hseq hdispatched).2.mono ?_
          rintro m ⟨out, rfl | hmem, hctx, n, hn, rfl⟩
          · rw [hseq] at hn
            exact .inl (congrArg UInt32.toNat (Option.some.inj hn)).symm
          · exact .inr ⟨out, hmem, hctx, n, hn, rfl⟩
  refuses h _ _ := h.step l cfg _

/-! ### AUTH_GSSAPI numbers -/

/-- How far the number that a record expects has moved on from the one of a call. -/
def MovedOn (l : GssLibs) (st : Agss) (ctx : Accepted) (received : Nat) (out : Dispatched) : Prop :=
  ∃ n d, verfNumber l ctx.gss out.raw = some n ∧ st.seq + 1 = n + UInt32.ofNat d ∧ 0 < d ∧
    d ≤ 2 * (received - out.received)

theorem MovedOn.later {st' : Agss} {ctx ctx' : Accepted} {received k : Nat} {out : Dispatched}
    (h : MovedOn l st ctx received out) (hkeys : SameKeys ctx.gss ctx'.gss) (hk : k ≤ 2)
    (hseq : st'.seq = st.seq + UInt32.ofNat k) (hlt : out.received < received) :
    MovedOn l st' ctx' (received + 1) out := by
  obtain ⟨n, d, hn, hd, hpos, hle⟩ := h
  refine ⟨n, d + k, ?_, ?_, by omega, by omega⟩
  · unfold verfNumber at hn ⊢
    simpa only [hkeys.openedNumber] using hn
  · have hsum : UInt32.ofNat (d + k) = UInt32.ofNat d + UInt32.ofNat k := UInt32.ofNat_add _ _
    rw [hseq, hsum, ← UInt32.add_assoc, ← hd, UInt32.add_assoc, UInt32.add_comm (UInt32.ofNat k),
      ← UInt32.add_assoc]

/-- A number that comes again has gone all the way round. -/
theorem MovedOn.far {received : Nat} {out : Dispatched} (h : MovedOn l st ctx received out)
    (hlt : out.received < received) (hagain : verfNumber l ctx.gss out.raw = some (st.seq + 1)) :
    out.received + 2 ^ 31 ≤ received := by
  obtain ⟨n, d, hn, hd, hpos, hle⟩ := h
  obtain rfl : n = st.seq + 1 := Option.some.inj (hn.symm.trans hagain)
  have hzero : UInt32.ofNat d = 0 := UInt32.left_eq_add.mp hd
  have hmod : d % 2 ^ 32 = 0 := by
    have := congrArg UInt32.toNat hzero
    rwa [UInt32.toNat_ofNat'] at this
  omega

/-- What the record of a connection has of the calls that were dispatched. -/
structure AgssRecords (l : GssLibs) (w : Watch) (seen : Set Dispatched) : Prop where
  le : ∀ out ∈ seen, out.records ≤ w.records ∧ out.received < w.received
  moved : ∀ out ∈ seen, isAgss out.raw = true → out.records = w.records →
    ∀ st, w.session.agss = some st → ∃ ctx, st.ctx = some ctx ∧ MovedOn l st ctx w.received out

/-- The calls of before, after one more record. -/
theorem AgssRecords.step (cfg : RpcCtx) {w : Watch} {seen : Set Dispatched}
    (h : AgssRecords l w seen) (ev : Event) : AgssRecords l (watch l cfg w ev).2 seen := by
  refine ⟨fun out hout => ?_, fun out hout hraw hrec st' hst' => ?_⟩
  · obtain ⟨hrecords, hreceived⟩ := h.le out hout
    exact ⟨Nat.le_add_right_of_le hrecords, Nat.lt_succ_of_lt hreceived⟩
  · obtain ⟨hrecords, hreceived⟩ := h.le out hout
    have hsum : out.records = w.records + (agssInits ev.raw).toNat := hrec
    -- a record that was begun just now has had no call
    have hinits : agssInits ev.raw = false := by
      cases hbegins : agssInits ev.raw with
      | false => rfl
      | true =>
        rw [hbegins, Bool.toNat_true] at hsum
        omega
    rw [hinits] at hsum
    obtain ⟨st, hst, hgoes⟩ := (handleRpc_moves l cfg w.session hinits).1 st' hst'
    obtain ⟨ctx, hctx, hmoved⟩ := h.moved out hout hraw hsum st hst
    obtain ⟨⟨ctx', hctx', hkeys⟩, k, hk, hseq⟩ := hgoes ctx hctx
    exact ⟨ctx', hctx', hmoved.later hkeys hk hseq hreceived⟩

theorem not_dispatched_of_inits (cfg : RpcCtx) (s : Session) (h : agssInits ev.raw = true) :
    (handleRpc l cfg s ev).1.dispatched = none := by
  have hagss : isAgss ev.raw = true := (Bool.and_eq_true_iff.mp h).1
  obtain ⟨call, hcall, hinits⟩ := exists_call_of_isAgss hagss
  rw [handleRpc_of_agss l cfg s hcall hagss]
  exact handleAuthGssapi_of_begins (hinits.symm.trans h) s.agss

theorem tracks_agss (l : GssLibs) (cfg : RpcCtx) :
    Tracks (watch l cfg) (fun _ _ => True) OnceInLong (AgssRecords l) where
  takes := by
    intro w seen ev out h _ hout
    obtain ⟨call, hcall, rfl⟩ := Option.map_eq_some_iff.mp hout
    have hdispatched : (handleRpc l cfg w.session ev).1.dispatched.isSome = true := by
      rw [hcall]
      rfl
    have hinits : agssInits ev.raw = false := by
      rw [← Bool.not_eq_true]
      intro hbegins
      rw [not_dispatched_of_inits cfg w.session hbegins] at hcall
      cases hcall
    obtain ⟨-, hnew⟩ := handleRpc_moves l cfg w.session hinits
    have hseen := h.step cfg ev
    refine ⟨fun k hk hraw heq hrec => ?_, fun k hk => ?_, fun k hk hraw hrec st hst => ?_⟩
    · have hsame : k.raw = ev.raw := heq
      obtain ⟨st, ctx, hst, hctx, hnumber, -⟩ := hnew (hsame ▸ hraw) hdispatched
      obtain ⟨ctx', hctx', hmoved⟩ := h.moved k hk hraw hrec st hst
      obtain rfl := Option.some.inj (hctx.symm.trans hctx')
      exact hmoved.far (h.le k hk).2 (hsame ▸ hnumber)
    · rcases hk with rfl | hk
      · exact ⟨Nat.le_add_right _ _, Nat.lt_succ_self _⟩
      · exact hseen.le k hk
    · rcases hk with rfl | hk
      · obtain ⟨st₀, ctx₀, -, -, hnumber, hstate⟩ := hnew hraw hdispatched
        obtain ⟨hseq, ctx, hctx, hkeys⟩ := hstate st hst
        refine ⟨ctx, hctx, st₀.seq + 1, 2, ?_, ?_, by omega, ?_⟩
        · unfold verfNumber at hnumber ⊢
          simpa only [hkeys.openedNumber] using hnumber
        · rw [hseq, UInt32.add_assoc, UInt32.add_assoc, UInt32.add_comm 2]
          rfl
        · show 2 ≤ 2 * (w.received + 1 - w.received)
          omega
      · exact hseen.moved k hk hraw hrec st hst
  refuses h _ _ := h.step cfg _

/-! ### Records put in between -/

/-- What the genuine records of a connection get; the others are marked. -/
def genuineReplies (l : GssLibs) (cfg : RpcCtx) : Session → List (Bool × Event) → List Outcome
  | _, [] => []
  | s, (forged, ev) :: rest =>
    let replies := genuineReplies l cfg (handleRpc l cfg s ev).2 rest
    if forged then replies else (handleRpc l cfg s ev).1 :: replies

/-- The genuine records alone. -/
def genuineOnly (events : List (Bool × Event)) : List (Bool × Event) :=
  events.filter fun e => !e.1

/-- The numbers of genuine records rise, and one put in before neither has the number of a genuine
record nor one 32 or more above it. -/
def Clear (a b : Bool × Event) : Prop :=
  b.1 = false → ∀ m n, rpcsecSeq a.2.raw = some m → rpcsecSeq b.2.raw = some n →
    if a.1 then m ≠ n ∧ m.toNat < n.toNat + 32 else m < n

/-- Genuine calls of an RPCSEC_GSS context, and forged records. -/
structure RpcsecMix (l : GssLibs) (g : GssContext) (events : List (Bool × Event)) : Prop where
  forged : ∀ e ∈ events, e.1 = true → Forged l g e.2
  genuine : ∀ e ∈ events, e.1 = false → ∃ call gc, rpcsecRecord e.2.raw = some (call, gc) ∧
    gc.proc = rpgData ∧ gc.seqNum ≤ maxseq
  clear : events.Pairwise Clear

/-- The numbers of genuine records to come are open to a window. -/
def Open (seen : Set Nat) (events : List (Bool × Event)) : Prop :=
  ∀ e ∈ events, e.1 = false → ∀ n, rpcsecSeq e.2.raw = some n →
    ∀ m ∈ seen, m ≠ n.toNat ∧ m < n.toNat + 32

theorem Open.tail (h : Open seen (e :: events)) : Open seen events:=
  fun e' he' => h e' (mem_cons_of_mem e he')

theorem Open.insert {m : UInt32} (h : Open seen (e :: events))
    (hclear : ∀ e' ∈ events, Clear e e') (hm : rpcsecSeq e.2.raw = some m) :
    Open (insert m.toNat seen) events := by
  intro e' he' hgenuine n hn k hk
  rcases hk with rfl | hk
  · have hrel := hclear e' he' hgenuine m n hm hn
    split at hrel
    · exact ⟨fun heq => hrel.1 (UInt32.toNat_inj.mp heq), hrel.2⟩
    · have hlt : m.toNat < n.toNat := hrel
      exact ⟨Nat.ne_of_lt hlt, by omega⟩
  · exact h.tail e' he' hgenuine n hn k hk

theorem RpcsecMix.tail (h : RpcsecMix l g (e :: events)) : RpcsecMix l g events :=
  ⟨fun e' he' => h.forged e' (mem_cons_of_mem e he'),
    fun e' he' => h.genuine e' (mem_cons_of_mem e he'), (pairwise_cons.mp h.clear).2⟩

theorem Forged.sameKeys {g' : GssContext} (h : Forged l g ev)
    (hkeys : SameKeys g g') : Forged l g' ev := by
  intro call gc hrecord
  obtain ⟨hverf, hmakes⟩ := h call gc hrecord
  refine ⟨fun hproc => ?_, hmakes⟩
  rw [hkeys.openMic]
  exact hverf hproc

/-- Two runs of a context, one of which has also seen the forged records. -/
theorem rpcsec_insertion_of {gd₁ gd₂ : RpcsecGss} {seen₁ seen₂ : Set Nat}
    (hgd₁ : s₁.gss = some gd₁) (hgd₂ : s₂.gss = some gd₂)
    (htwin : ∃ last mask, gd₂ = gd₁.setWindow last mask) (hkeys : SameKeys g gd₁.ctx.gss)
    (hs₁ : Remembers gd₁ seen₁) (hs₂ : Remembers gd₂ seen₂) (hopen₁ : Open seen₁ events)
    (hopen₂ : Open seen₂ events) (hmix : RpcsecMix l g events) :
    genuineReplies l cfg s₂ events = genuineReplies l cfg s₁ (genuineOnly events) := by
  induction events generalizing s₁ s₂ gd₁ gd₂ seen₁ seen₂ with
  | nil => rfl
  | cons e events ih =>
    obtain ⟨forged, ev⟩ := e
    have hclear := (pairwise_cons.mp hmix.clear).1
    obtain ⟨last, mask, rfl⟩ := htwin
    cases forged with
    | true =>
      have hforged : Forged l (gd₁.setWindow last mask).ctx.gss ev :=
        (hmix.forged _ mem_cons_self rfl).sameKeys hkeys
      obtain ⟨-, hsame | ⟨n, hn, hok, hmoved⟩⟩ := forged_step cfg hgd₂ hforged
      · exact ih hgd₁ hsame ⟨last, mask, rfl⟩ hkeys hs₁ hs₂ hopen₁.tail hopen₂.tail hmix.tail
      · obtain ⟨last', mask', hwindow⟩ := seqWindowOk_eq_setWindow (gd₁.setWindow last mask) n
        have hremembers := ((seqWindowOk_spec hs₂ n).1 hok).2
        rw [hwindow] at hmoved hremembers
        exact ih hgd₁ hmoved ⟨last', mask', rfl⟩ hkeys hs₁ hremembers hopen₁.tail
          (hopen₂.insert hclear hn) hmix.tail
    | false =>
      obtain ⟨call, gc, hrecord, hdata, hmax⟩ := hmix.genuine _ mem_cons_self rfl
      have hseq : rpcsecSeq ev.raw = some gc.seqNum := by
        rw [rpcsecSeq, hrecord]
        rfl
      obtain ⟨hr₁, hstep₁⟩ := handleRpc_of_open l cfg hgd₁ hs₁ hrecord hdata hmax
        (hopen₁ _ mem_cons_self rfl _ hseq)
      obtain ⟨hr₂, hstep₂⟩ := handleRpc_of_open l cfg hgd₂ hs₂ hrecord hdata hmax
        (hopen₂ _ mem_cons_self rfl _ hseq)
      obtain ⟨last₁, mask₁, hw₁⟩ := seqWindowOk_eq_setWindow gd₁ gc.seqNum
      obtain ⟨last₂, mask₂, hw₂⟩ := seqWindowOk_eq_setWindow (gd₁.setWindow last mask) gc.seqNum
      have htwin : (seqWindowOk (gd₁.setWindow last mask) gc.seqNum).2
          = (seqWindowOk gd₁ gc.seqNum).2.setWindow last₂ mask₂ := by
        rw [hw₂, hw₁]
        rfl
      obtain ⟨gd', hgd', hframe, hset⟩ := rpcsecData_some l cfg ev call (isKadm cfg call)
        (isIprop cfg ev call) gc.seqNum (seqWindowOk gd₁ gc.seqNum).2
      have hdata₂ := hset last₂ mask₂
      rw [← htwin] at hdata₂
      have hframe₂ : Frame (seqWindowOk (gd₁.setWindow last mask) gc.seqNum).2
          (gd'.setWindow last₂ mask₂) := by
        obtain ⟨g', rfl, hg'⟩ := hframe
        rw [htwin]
        exact ⟨g', rfl, hg'⟩
      have hkeys' : SameKeys g gd'.ctx.gss := by
        obtain ⟨g', rfl, hg'⟩ := hframe
        rw [hw₁] at hg'
        exact hkeys.trans hg'
      show (handleRpc l cfg s₂ ev).1 :: genuineReplies l cfg (handleRpc l cfg s₂ ev).2 events
        = (handleRpc l cfg s₁ ev).1 :: genuineReplies l cfg (handleRpc l cfg s₁ ev).2
          (genuineOnly events)
      rw [hstep₁, hstep₂, hdata₂, hgd']
      congr 1
      exact ih rfl rfl ⟨last₂, mask₂, rfl⟩ hkeys' (hframe.remembers hr₁) (hframe₂.remembers hr₂)
        (hopen₁.insert hclear hseq) (hopen₂.insert hclear hseq) hmix.tail

/-- Genuine calls of an AUTH_GSSAPI context, and forged records, in the order of the clock. -/
structure AgssMix (l : GssLibs) (g : GssContext) (events : List (Bool × Event)) : Prop where
  forged : ∀ e ∈ events, e.1 = true → ForgedAgss l g e.2
  genuine : ∀ e ∈ events, e.1 = false → isAgss e.2.raw = true ∧ agssInits e.2.raw = false
  sorted : events.Pairwise fun a b => a.2.now ≤ b.2.now

theorem AgssMix.tail (h : AgssMix l g (e :: events)) : AgssMix l g events :=
  ⟨fun e' he' => h.forged e' (mem_cons_of_mem e he'),
    fun e' he' => h.genuine e' (mem_cons_of_mem e he'), (pairwise_cons.mp h.sorted).2⟩

/-- The record of a connection, if there is one, has a context with the given keys. -/
def Established (g : GssContext) (agss : Option Agss) : Prop :=
  ∀ st, agss = some st → ∃ ctx, st.ctx = some ctx ∧ SameKeys g ctx.gss

theorem cleanClient_cleanClient {now now' : UInt32} (h : now ≤ now') (agss : Option Agss) :
    cleanClient now' (cleanClient now agss) = cleanClient now' agss := by
  unfold cleanClient
  rw [Option.filter_filter]
  congr 1
  funext st
  by_cases hexpired : st.expires < now'
  · rw [decide_eq_true hexpired, Bool.not_true, Bool.and_false]
  · have halive : ¬ st.expires < now := fun hlt => hexpired (UInt32.lt_of_lt_of_le hlt h)
    rw [decide_eq_false hexpired, decide_eq_false halive]
    rfl

theorem Established.clean (h : Established g agss) (now : UInt32) :
    Established g (cleanClient now agss) :=
  fun st hst => h st (cleanClient_eq_some hst)

/-- A forged record leaves the record of the connection to the clock. -/
theorem agss_of_forged (cfg : RpcCtx) (h : ForgedAgss l g ev) (hs : Established g s.agss) :
    (handleRpc l cfg s ev).2.agss = s.agss ∨
      (handleRpc l cfg s ev).2.agss = cleanClient ev.now s.agss := by
  cases hagss : isAgss ev.raw with
  | false => exact .inl (handleRpc_of_not_agss l cfg s hagss)
  | true =>
    obtain ⟨call, hcall, -⟩ := exists_call_of_isAgss hagss
    obtain ⟨hbegins, hverf⟩ := h call hcall hagss
    rw [handleRpc_of_agss l cfg s hcall hagss]
    refine .inr (handleAuthGssapi_of_forged hbegins fun st hst => ?_)
    obtain ⟨ctx, hctx, hkeys⟩ := hs st (cleanClient_eq_some hst)
    refine ⟨ctx, hctx, ?_⟩
    rw [hkeys.openToken]
    exact hverf

theorem Established.handleRpc (h : Established g s.agss) (cfg : RpcCtx)
    (hinits : agssInits ev.raw = false) : Established g (handleRpc l cfg s ev).2.agss := by
  intro st' hst'
  obtain ⟨st, hst, hgoes⟩ := (handleRpc_moves l cfg s hinits).1 st' hst'
  obtain ⟨ctx, hctx, hkeys⟩ := h st hst
  obtain ⟨⟨ctx', hctx', hkeys'⟩, -⟩ := hgoes ctx hctx
  exact ⟨ctx', hctx', hkeys.trans hkeys'⟩

/-- Two runs of a record, one of which has also seen the forged records. -/
theorem agss_insertion_of (hs₁ : Established g s₁.agss) (hs₂ : Established g s₂.agss)
    (hlike : ∀ e ∈ events, cleanClient e.2.now s₁.agss = cleanClient e.2.now s₂.agss)
    (hmix : AgssMix l g events) :
    genuineReplies l cfg s₂ events = genuineReplies l cfg s₁ (genuineOnly events) := by
  induction events generalizing s₁ s₂ with
  | nil => rfl
  | cons e events ih =>
    obtain ⟨forged, ev⟩ := e
    cases forged with
    | true =>
      have hforged := hmix.forged _ mem_cons_self rfl
      rcases agss_of_forged cfg hforged hs₂ with hsame | hclean
      · refine ih hs₁ (hsame ▸ hs₂) (fun e' he' => ?_) hmix.tail
        rw [hsame]
        exact hlike e' (mem_cons_of_mem _ he')
      · refine ih hs₁ (hclean ▸ hs₂.clean ev.now) (fun e' he' => ?_) hmix.tail
        have hle : ev.now ≤ e'.2.now := (pairwise_cons.mp hmix.sorted).1 e' he'
        rw [hclean, cleanClient_cleanClient hle]
        exact hlike e' (mem_cons_of_mem _ he')
    | false =>
      obtain ⟨hagss, hinits⟩ := hmix.genuine _ mem_cons_self rfl
      obtain ⟨call, hcall, -⟩ := exists_call_of_isAgss hagss
      have hsame : handleAuthGssapi l cfg ev call (isKadm cfg call) (isIprop cfg ev call) s₁.agss
          = handleAuthGssapi l cfg ev call (isKadm cfg call) (isIprop cfg ev call) s₂.agss :=
        handleAuthGssapi_congr (hlike _ mem_cons_self)
      have hout : (handleRpc l cfg s₂ ev).1 = (handleRpc l cfg s₁ ev).1 := by
        rw [handleRpc_of_agss l cfg s₁ hcall hagss, handleRpc_of_agss l cfg s₂ hcall hagss]
        exact (congrArg Prod.fst hsame).symm
      have hnext : (handleRpc l cfg s₂ ev).2.agss = (handleRpc l cfg s₁ ev).2.agss := by
        rw [handleRpc_of_agss l cfg s₁ hcall hagss, handleRpc_of_agss l cfg s₂ hcall hagss]
        exact (congrArg Prod.snd hsame).symm
      show (handleRpc l cfg s₂ ev).1 :: genuineReplies l cfg (handleRpc l cfg s₂ ev).2 events
        = (handleRpc l cfg s₁ ev).1 :: genuineReplies l cfg (handleRpc l cfg s₁ ev).2
          (genuineOnly events)
      rw [hout]
      congr 1
      refine ih (hs₁.handleRpc cfg hinits) (hs₂.handleRpc cfg hinits) (fun e' _ => ?_) hmix.tail
      rw [hnext]

/-- **Calls run at most once.**  On every connection no RPCSEC_GSS number is dispatched twice in one
context, and no AUTH_GSSAPI record twice in one context but with 2³¹ records from the one to the other.  A
forged RPCSEC_GSS record is not dispatched and leaves the context as it was but for its number in the
window; the genuine calls of a context get what they get without the forged records, if none of these
has the number of a later call or one 32 or more above it.  A forged AUTH_GSSAPI call leaves the
context as the clock does, and changes nothing for the genuine ones. -/
theorem calls_at_most_once (l : GssLibs) (cfg : RpcCtx) :
    (∀ events, ((watch l cfg).outputs .new events).Pairwise fun a b =>
      OncePerContext a b ∧ OnceInLong a b) ∧
    (∀ s gd ev, s.gss = some gd → Forged l gd.ctx.gss ev →
      (rpcsecSeq ev.raw ≠ none → (handleRpc l cfg s ev).1.dispatched = none) ∧
      ((handleRpc l cfg s ev).2.gss = some gd ∨
        ∃ n, rpcsecSeq ev.raw = some n ∧ (handleRpc l cfg s ev).2.gss = some (seqWindowOk gd n).2)) ∧
    (∀ s gd events, s.gss = some gd → Remembers gd ∅ → RpcsecMix l gd.ctx.gss events →
      genuineReplies l cfg s events = genuineReplies l cfg s (genuineOnly events)) ∧
    (∀ s g ev, Established g s.agss → ForgedAgss l g ev → (handleRpc l cfg s ev).2.agss = s.agss ∨
      (handleRpc l cfg s ev).2.agss = cleanClient ev.now s.agss) ∧
    (∀ s g events, Established g s.agss → AgssMix l g events →
      genuineReplies l cfg s events = genuineReplies l cfg s (genuineOnly events)) := by
  refine ⟨fun events => ?_, fun s gd ev hgd hforged => ?_, fun s gd events hgd hnew hmix => ?_,
    fun s g ev hs hforged => agss_of_forged cfg hforged hs,
    fun s g events hs hmix => agss_insertion_of hs hs (fun _ _ => rfl) hmix⟩
  · have hlegal : (watch l cfg).Legal (fun _ _ => True) .new events :=
      Machine.legal_of_forall (fun _ _ => trivial) _
    have hrpcsec : RpcsecRecords .new ∅ :=
      ⟨fun out hout => hout.elim, fun gd hgd => by cases hgd⟩
    have hagss : AgssRecords l .new ∅ :=
      ⟨fun out hout => hout.elim, fun out hout => hout.elim⟩
    exact ((tracks_rpcsec l cfg).pairwise hrpcsec hlegal).and
      ((tracks_agss l cfg).pairwise hagss hlegal)
  · obtain ⟨hnone, hsame | ⟨n, hn, -, hmoved⟩⟩ := forged_step cfg hgd hforged
    · exact ⟨hnone, .inl hsame⟩
    · exact ⟨hnone, .inr ⟨n, hn, hmoved⟩⟩
  · have hopen : Open ∅ events := fun _ _ _ _ _ m hm => hm.elim
    exact rpcsec_insertion_of hgd hgd ⟨gd.seqlast, gd.seqmask, rfl⟩ (.refl _) hnew hnew hopen hopen
      hmix

/-! ### A connection that is shut out -/

namespace Sample

open Gss (markLibs markCtx sound_markLibs Peers IsBody)

def kadmind : RpcCtx := ⟨str "R", 300, true, true, [], none⟩

/-- The administrator's context, after some replies. -/
def ctxAt (sendSeq : UInt64) : Accepted where
  gss := { markCtx false with sendSeq }
  client := some (str "admin@R")
  acceptor := some ⟨PrincipalName.ntPrincipal, [str "kadmin", str "admin"]⟩
  ticketRealm := some (str "R")
  ticketInitial := true
  lifetimeEnd := 0

/-- A record of a connection that answers every call with nothing, and accepts no token. -/
def eventOf (raw : Str) : Event :=
  ⟨raw, 0, false, fun _ => .error .truncated, fun _ _ => .error .truncated, some 0, fun _ => .ok [], []⟩

def recordOf (proc flavor : UInt32) (cred verf args : Str) : Str :=
  be32 1 ++ be32 msgCall ++ be32 rpcVersion ++ be32 kadmProg ++ be32 kadmVers ++ be32 proc
    ++ be32 flavor ++ putOpaque cred ++ be32 flavor ++ putOpaque verf ++ args

/-- The checksum of `markLibs`. -/
def mark : Str := 1 :: List.replicate 11 0

def dataRecord (seq : UInt32) (verf : Str) : Event :=
  eventOf (recordOf 5 flavorGss
    (be32 rpcsecGssVers ++ be32 rpgData ++ be32 seq ++ be32 gssNone ++ putOpaque []) verf [])

def genuineData (seq : UInt32) : Event := dataRecord seq (Gss.micHeader true 0 0 ++ mark)

def rpcsecSession : Session := ⟨some ⟨ctxAt 0, 0, 0, gssNone⟩, none⟩

/-- The verifier of an AUTH_GSSAPI call. -/
def agssVerf (n : UInt32) : Str := ((markCtx true).header false 12 0 0).bytes ++ (be32 n ++ mark)

/-- Its arguments. -/
def agssArgs (n : UInt32) : Str :=
  putOpaque (((markCtx true).header true 0 0 0).bytes
    ++ (be32 n ++ [] ++ ((markCtx true).header true 0 0 0).bytes))

/-- An AUTH_GSSAPI call. -/
def agssCall (n : UInt32) : Event :=
  eventOf (recordOf 5 flavorAuthGssapi (be32 2 ++ be32 0 ++ putOpaque agssHandle) (agssVerf n)
    (agssArgs n))

/-- A record that begins an AUTH_GSSAPI context with `token`. -/
def beginRecord (token : Str) : Str :=
  recordOf authGssapiInit flavorAuthGssapi (be32 2 ++ be32 1 ++ putOpaque []) []
    (be32 1 ++ putOpaque token)

/-- A genuine one, whose context is to start after the number 7. -/
def agssBegin : Event :=
  { eventOf (beginRecord []) with
    acceptAuthGssapi := fun _ _ => .ok (ctxAt 0, none)
    isn := some 7 }

/-- A connection with an AUTH_GSSAPI context that expects the number after `n`. -/
def agssSession (n : UInt32) (sendSeq : UInt64) : Session :=
  ⟨none, some ⟨some (ctxAt sendSeq), agssHandle, n, agssIndefExpire⟩⟩

theorem parseCall_recordOf (proc flavor : UInt32) {cred verf : Str} (args : Str)
    (hcred : cred.length ≤ maxAuthBytes) (hverf : verf.length ≤ maxAuthBytes) :
    ∃ header, parseCall (recordOf proc flavor cred verf args)
      = some ⟨1, kadmProg, kadmVers, proc, flavor, cred, header, verf, args⟩ := by
  have hlong : ¬ (cred.length > maxAuthBytes ∨ verf.length > maxAuthBytes) := by omega
  have hmax : maxAuthBytes < 2 ^ 32 := by decide
  simp only [parseCall, recordOf, append_assoc, xdrU32_be32,
    xdrOpaque_putOpaque (Nat.lt_of_le_of_lt hcred hmax),
    xdrOpaque_putOpaque (Nat.lt_of_le_of_lt hverf hmax), bind, Option.bind, ne_eq, not_true_eq_false,
    if_false, if_neg hlong]
  exact ⟨_, rfl⟩

theorem peers_ctxAt (q : UInt64) : Peers (markCtx true) (ctxAt q).gss := ⟨rfl, rfl, rfl, rfl⟩

theorem unwrap_agssVerf (m : UInt32) (q : UInt64) :
    (ctxAt q).gss.unwrapV3 markLibs (agssVerf m) = (.ok (be32 m, false), (ctxAt q).gss) :=
  (peers_ctxAt q).unwraps sound_markLibs (.integ rfl rfl)

theorem agssUnwrapArgs_agssArgs (m : UInt32) (q : UInt64) :
    agssUnwrapArgs markLibs (ctxAt q).gss m (agssArgs m) = (some (be32 m), (ctxAt q).gss) := by
  let sealed : Str := ((markCtx true).header true 0 0 0).bytes
    ++ (be32 m ++ [] ++ ((markCtx true).header true 0 0 0).bytes)
  have hopen : (ctxAt q).gss.unwrapV3 markLibs sealed = (.ok (be32 m, true), (ctxAt q).gss) :=
    (peers_ctxAt q).unwraps sound_markLibs (@IsBody.conf markLibs (markCtx true) 0 (be32 m) [] [] _ 0 rfl rfl)
  have hlen : sealed.length < 2 ^ 32 := by
    show 36 < 2 ^ 32
    decide
  have hread : xdrOpaque (putOpaque sealed) = some (sealed, []) := by
    rw [← append_nil (putOpaque sealed)]
    exact xdrOpaque_putOpaque hlen []
  rw [agssUnwrapArgs, show agssArgs m = putOpaque sealed from rfl, hread]
  dsimp only
  rw [hopen]
  dsimp only
  rw [if_pos (show (be32 m).take 4 = be32 m from rfl)]

theorem established_agssVerf (n : UInt32) (q : UInt64) (args : Str) : ∃ replyVerf,
    Agss.established markLibs [] ⟨some (ctxAt q), agssHandle, n, agssIndefExpire⟩ (ctxAt q) 1 5 false
        (agssVerf (n + 1)) args
      = (.dispatch replyVerf, ⟨some (ctxAt (q + 1)), agssHandle, n + 1 + 1, agssIndefExpire⟩, false) := by
  have hnumber : verifierSeq (.ok (be32 (n + 1), false)) = some (n + 1) := by
    rw [verifierSeq, if_pos (length_be32 _), ← append_nil (be32 (n + 1)), be32At_be32]
  obtain ⟨replyVerf, hreply⟩ : ∃ replyVerf, (ctxAt q).gss.wrapInteg markLibs (be32 (n + 1 + 1))
      = (.ok replyVerf, (ctxAt (q + 1)).gss) := ⟨_, rfl⟩
  refine ⟨replyVerf, ?_⟩
  rw [Agss.established, unwrap_agssVerf]
  dsimp only
  rw [hnumber]
  dsimp only
  rw [if_neg (not_not_intro rfl), hreply]
  rfl

theorem serve_agssArgs (m : UInt32) (q : UInt64) (replyVerf : Str) : ∃ out,
    Agss.serve markLibs kadmind (agssCall m) ⟨some (ctxAt q), agssHandle, m + 1, agssIndefExpire⟩ (ctxAt q) 1 5
        (agssArgs m) replyVerf
      = (out, ⟨some (ctxAt (q + 1)), agssHandle, m + 1, agssIndefExpire⟩) ∧ out.dispatched.isSome = true := by
  rw [Agss.serve]
  rw [UInt32.add_sub_cancel, agssUnwrapArgs_agssArgs]
  exact ⟨_, rfl, rfl⟩

/-- What a record of `agssCall` says. -/
def agssRpcCall (header : Str) (n : UInt32) : RpcCall :=
  ⟨1, kadmProg, kadmVers, 5, flavorAuthGssapi, be32 2 ++ be32 0 ++ putOpaque agssHandle, header,
    agssVerf n, agssArgs n⟩

theorem parseCall_agssCall (n : UInt32) :
    ∃ header, parseCall (agssCall n).raw = some (agssRpcCall header n) :=
  parseCall_recordOf 5 flavorAuthGssapi (agssArgs n) (by decide) (show 32 ≤ maxAuthBytes by decide)

theorem isAgss_agssCall (n : UInt32) : isAgss (agssCall n).raw = true := by
  obtain ⟨header, hparse⟩ := parseCall_agssCall n
  rw [isAgss, hparse]
  rfl

theorem agssCred_agssRpcCall (header : Str) (n : UInt32) :
    agssCred (agssRpcCall header n).cred = some (2, false, agssHandle) := by
  show agssCred (be32 2 ++ be32 0 ++ putOpaque agssHandle) = _
  decide

theorem agssInits_agssCall (n : UInt32) : agssInits (agssCall n).raw = false := by
  obtain ⟨header, hparse⟩ := parseCall_agssCall n
  rw [agssInits, hparse, Option.any_some, beginsRecord, agssCred_agssRpcCall]
  exact Bool.and_false _

theorem svcauthGssapi_agssCall (header : Str) (n : UInt32) (q : UInt64) : ∃ replyVerf,
    svcauthGssapi markLibs kadmind (agssCall (n + 1)) (agssRpcCall header (n + 1))
        (agssSession n q).agss
      = (.dispatch replyVerf, (agssSession (n + 1 + 1) (q + 1)).agss) := by
  obtain ⟨replyVerf, hverf⟩ := established_agssVerf n q (agssArgs (n + 1))
  have hrecord : agssRecord (agssCall (n + 1)) (cleanClient 0 (agssSession n q).agss) 5 false agssHandle
      = .ok ⟨some (ctxAt q), agssHandle, n, agssIndefExpire⟩ := rfl
  refine ⟨replyVerf, ?_⟩
  rw [svcauthGssapi, agssCred_agssRpcCall]
  dsimp only
  rw [if_neg (by decide), show (agssRpcCall header (n + 1)).proc = 5 from rfl,
    show (agssCall (n + 1)).now = 0 from rfl, hrecord]
  rw [show (agssCall (n + 1)).draw = [] from rfl]
  simp only [agssRpcCall, hverf]
  rfl

theorem dispatch_of_served {xid proc : UInt32} {args replyVerf : Str} (hctx : st.ctx = some ctx)
    (hproc : proc ≠ 0) (hserved : ¬ (proc > createAlias ∨ proc = setv4keyPrincipal)) :
    st.dispatch l cfg ev xid proc args replyVerf = st.serve l cfg ev ctx xid proc args replyVerf := by
  rw [Agss.dispatch, hctx]
  dsimp only
  rw [if_neg hproc, if_neg hserved]

theorem agssCall_step (n : UInt32) (q : UInt64) : ∃ out,
    handleRpc markLibs kadmind (agssSession n q) (agssCall (n + 1))
      = (out, agssSession (n + 1 + 1) (q + 1 + 1)) ∧ out.dispatched.isSome = true := by
  obtain ⟨header, hparse⟩ := parseCall_agssCall (n + 1)
  obtain ⟨replyVerf, hauth⟩ := svcauthGssapi_agssCall header n q
  obtain ⟨out, hout, hdispatched⟩ := serve_agssArgs (n + 1) (q + 1) replyVerf
  have hserve : handleProgram markLibs kadmind (agssCall (n + 1)) (agssRpcCall header (n + 1)) true false
      (some replyVerf) (agssSession (n + 1 + 1) (q + 1)).agss
      = (out, (agssSession (n + 1 + 1) (q + 1 + 1)).agss) := by
    have hvers : ¬ (true = true ∧ (agssRpcCall header (n + 1)).vers ≠ kadmVers) := fun h => h.2 rfl
    unfold handleProgram
    rw [if_neg hvers, if_neg (fun h => Bool.false_ne_true h.1), if_neg (by decide)]
    dsimp only [agssSession]
    dsimp only [agssRpcCall]
    rw [if_pos rfl, dispatch_of_served rfl (show (5 : UInt32) ≠ 0 by decide) (by decide), hout]
  refine ⟨out, ?_, hdispatched⟩
  rw [handleRpc_of_agss markLibs kadmind _ hparse (isAgss_agssCall (n + 1)), handleAuthGssapi, hauth]
  dsimp only
  rw [show isKadm kadmind (agssRpcCall header (n + 1)) = true from rfl,
    show isIprop kadmind (agssCall (n + 1)) (agssRpcCall header (n + 1)) = false from rfl, hserve]
  rfl

/-- Call after call, `k` of them. -/
def agssCalls : UInt32 → Nat → List Event
  | _, 0 => []
  | n, k + 1 => agssCall (n + 1) :: agssCalls (n + 1 + 1) k

theorem mem_outputs_agssCalls (k : Nat) {w : Watch} {n : UInt32} {q : UInt64}
    (hw : w.session = agssSession n q) :
    ∃ out ∈ (watch markLibs kadmind).outputs w (agssCalls n (k + 1)),
      out.raw = (agssCall (n + 1 + UInt32.ofNat (2 * k))).raw ∧ out.records = w.records := by
  induction k generalizing w n q with
  | zero =>
    obtain ⟨out, hstep, hdispatched⟩ := agssCall_step n q
    obtain ⟨call, hcall⟩ := Option.isSome_iff_exists.mp hdispatched
    have htaken : (watch markLibs kadmind w (agssCall (n + 1))).1
        = some ⟨(agssCall (n + 1)).raw, call, w.contexts, w.records, w.received⟩ := by
      rw [watch, hw, hstep, hcall]
      rfl
    refine ⟨_, Machine.mem_outputs_cons htaken, ?_, rfl⟩
    rw [show UInt32.ofNat (2 * 0) = 0 from rfl, UInt32.add_zero]
  | succ k ih =>
    obtain ⟨out, hstep, -⟩ := agssCall_step n q
    have hnext : (watch markLibs kadmind w (agssCall (n + 1))).2.session
        = agssSession (n + 1 + 1) (q + 1 + 1) := by
      rw [watch, hw, hstep]
    obtain ⟨last, hlast, hraw, hrecords⟩ := ih hnext
    refine ⟨last, mem_append_right _ hlast, ?_, ?_⟩
    · rw [hraw]
      have hnumber : n + 1 + 1 + 1 + UInt32.ofNat (2 * k) = n + 1 + UInt32.ofNat (2 * (k + 1)) := by
        rw [Nat.mul_add, UInt32.ofNat_add, UInt32.add_assoc (n + 1), UInt32.add_assoc (n + 1),
          UInt32.add_comm (UInt32.ofNat (2 * k))]
        rfl
      rw [hnumber]
    · rw [hrecords, watch, agssInits_agssCall]
      rfl

/-- Two RPCSEC_GSS records of someone without the keys, one of them far ahead. -/
def near : Event := dataRecord 5 []

def far : Event := dataRecord 0x80000000 []

/-- An AUTH_GSSAPI record of someone without the keys: its token is not accepted. -/
def garbageBegin : Event := eventOf (beginRecord (str "garbage"))

def forgedCall : Event :=
  eventOf (recordOf 5 flavorAuthGssapi (be32 2 ++ be32 0 ++ putOpaque agssHandle) [] [])

end Sample

open Sample

open Gss (markLibs)

/-- **Records without the keys shut a connection out.**  One RPCSEC_GSS record far ahead makes the
genuine call refused, and so does one AUTH_GSSAPI record that begins anew.  An AUTH_GSSAPI record is
dispatched again when its number comes round, and in another context with the same key and number. -/
theorem genuine_call_shut_out :
    ((genuineReplies markLibs kadmind rpcsecSession [(false, genuineData 1)]).map
        (·.dispatched.isSome) = [true] ∧
      (genuineReplies markLibs kadmind rpcsecSession [(true, far), (false, genuineData 1)]).map
        (·.dispatched.isSome) = [false]) ∧
    ((genuineReplies markLibs kadmind (agssSession 7 0) [(false, agssCall 8)]).map
        (·.dispatched.isSome) = [true] ∧
      (genuineReplies markLibs kadmind (agssSession 7 0) [(true, garbageBegin), (false, agssCall 8)]).map
        (·.dispatched.isSome) = [false]) ∧
    ((watch markLibs kadmind).outputs .new [agssBegin, agssCall 8, agssBegin, agssCall 8]).map (·.raw)
      = [(agssCall 8).raw, (agssCall 8).raw] ∧
    ¬ ((watch markLibs kadmind).outputs .new (agssBegin :: agssCalls 7 (2 ^ 31 + 1))).Pairwise
      fun a b => isAgss a.raw = true → a.raw = b.raw → a.records ≠ b.records := by
  refine ⟨by decide +kernel, by decide +kernel, by decide +kernel, fun hpairwise => ?_⟩
  -- after 2³¹ calls the number is that of the first one again
  have hbegin : watch markLibs kadmind .new agssBegin = (none, ⟨agssSession 7 1, 0, 1, 1⟩) := rfl
  let w : Watch := ⟨agssSession 7 1, 0, 1, 1⟩
  obtain ⟨out, hstep, hdispatched⟩ := agssCall_step 7 1
  obtain ⟨call, hcall⟩ := Option.isSome_iff_exists.mp hdispatched
  have hfirst : (watch markLibs kadmind w (agssCall (7 + 1))).1
      = some ⟨(agssCall (7 + 1)).raw, call, 0, 1, 1⟩ := by
    rw [watch, show w.session = agssSession 7 1 from rfl, hstep, hcall]
    rfl
  have hnext : (watch markLibs kadmind w (agssCall (7 + 1))).2.session
      = agssSession (7 + 1 + 1) (1 + 1 + 1) := by
    rw [watch, show w.session = agssSession 7 1 from rfl, hstep]
  have hrecords : (watch markLibs kadmind w (agssCall (7 + 1))).2.records = 1 := by
    rw [watch, agssInits_agssCall]
    rfl
  obtain ⟨last, hlast, hraw, hlastRecords⟩ := mem_outputs_agssCalls (2 ^ 31 - 1) hnext
  rw [Machine.outputs_cons_of_none (by rw [hbegin]), hbegin] at hpairwise
  have hpair : ((watch markLibs kadmind).outputs w
      (agssCall (7 + 1) :: agssCalls (7 + 1 + 1) (2 ^ 31 - 1 + 1))).Pairwise _ := hpairwise
  rw [Machine.outputs_cons_of_some hfirst] at hpair
  refine (List.pairwise_cons.mp hpair).1 last hlast (isAgss_agssCall _) ?_ ?_
  · exact hraw.symm
  · rw [hlastRecords, hrecords]

theorem forged_near : Forged markLibs (ctxAt 0).gss near := by
  have hall : (rpcsecRecord near.raw).all (fun r =>
      !((ctxAt 0).gss.openMic markLibs r.1.header r.1.verf).isOk && !makes markLibs near r.1 r.2)
      = true := by decide +kernel
  intro call g hrecord
  rw [hrecord, Option.all_some, Bool.and_eq_true, Bool.not_eq_true', Bool.not_eq_true'] at hall
  exact ⟨fun _ => hall.1, hall.2⟩

theorem forgedAgss_forgedCall : ForgedAgss markLibs (ctxAt 0).gss forgedCall := by
  have hall : (parseCall forgedCall.raw).all (fun call =>
      !beginsRecord call && !((ctxAt 0).gss.openToken markLibs call.verf).isOk) = true := by
    decide +kernel
  intro call hcall _
  rw [hcall, Option.all_some, Bool.and_eq_true, Bool.not_eq_true', Bool.not_eq_true'] at hall
  exact hall

/-- Forged records between the calls of two connections. -/
theorem calls_at_most_once_forged :
    genuineReplies markLibs kadmind rpcsecSession [(true, near), (false, genuineData 1)]
      = genuineReplies markLibs kadmind rpcsecSession [(false, genuineData 1)] ∧
    genuineReplies markLibs kadmind (agssSession 7 0) [(true, forgedCall), (false, agssCall 8)]
      = genuineReplies markLibs kadmind (agssSession 7 0) [(false, agssCall 8)] := by
  obtain ⟨-, -, hrpcsec, -, hagss⟩ := calls_at_most_once markLibs kadmind
  refine ⟨hrpcsec rpcsecSession _ _ rfl (remembers_new _ _) ⟨?_, ?_, ?_⟩,
    hagss (agssSession 7 0) (ctxAt 0).gss _ ?_ ⟨?_, ?_, ?_⟩⟩
  · rintro e he hforged
    rcases List.mem_pair.mp he with rfl | rfl
    · exact forged_near
    · cases hforged
  · rintro e he hgenuine
    rcases List.mem_pair.mp he with rfl | rfl
    · cases hgenuine
    · have hsome : (rpcsecRecord (genuineData 1).raw).any (fun r =>
          decide (r.2.proc = rpgData ∧ r.2.seqNum ≤ maxseq)) = true := by decide +kernel
      obtain ⟨⟨call, gc⟩, hrecord, hdata⟩ := (Option.any_eq_true _ _).mp hsome
      exact ⟨call, gc, hrecord, of_decide_eq_true hdata⟩
  · refine List.pairwise_pair.mpr fun _ m n hm hn => ?_
    have hnear : rpcsecSeq near.raw = some 5 := by decide +kernel
    have hgenuine : rpcsecSeq (genuineData 1).raw = some 1 := by decide +kernel
    cases hnear.symm.trans hm
    cases hgenuine.symm.trans hn
    decide
  · rintro st hst
    cases hst
    exact ⟨ctxAt 0, rfl, .refl _⟩
  · rintro e he hforged
    rcases List.mem_pair.mp he with rfl | rfl
    · exact forgedAgss_forgedCall
    · cases hforged
  · rintro e he hgenuine
    rcases List.mem_pair.mp he with rfl | rfl
    · cases hgenuine
    · exact ⟨isAgss_agssCall 8, agssInits_agssCall 8⟩
  · exact List.pairwise_pair.mpr (by decide)

end Kerber.Admin
