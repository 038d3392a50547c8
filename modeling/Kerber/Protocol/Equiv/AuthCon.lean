import Kerber.Protocol.AuthCon
import Kerber.Protocol.Equiv.Replay

/-!
# How often a KRB-PRIV or KRB-SAFE is taken

With timestamps, a message is taken while the clock is within the skew of its time, and its tag is held
for the skew after it arrived.  `message_taken_again`: for any messages in the order of the clock, one
that is taken again was dated not before the clock at the first time, as long as the clock has 32 bits,
and more than the skew has passed.  `message_taken_twice`: such messages are taken again.
-/

namespace Kerber.Protocol

open ReplayCache (Records)

namespace AcceptorAuthContext

/-- The two kinds of messages. -/
inductive Kind
  | priv
  | safe
deriving DecidableEq

/-- A message, and when it comes. -/
structure Delivery where
  clock : Nat
  kind : Kind
  raw : Str
deriving DecidableEq

variable {l : AuthLibs} {ctx ctx' : AcceptorAuthContext} {d : Delivery} {body : KrbSafeBody}
  {tag : Str} {data : Str} {last : Nat} {events : Set (Nat × ReplayKey)}

/-- `rd_priv` or `rd_safe`. -/
def rd (l : AuthLibs) (ctx : AcceptorAuthContext) (d : Delivery) :
    Except Error Str × AcceptorAuthContext :=
  match d.kind with
  | .priv => ctx.rdPriv l d.clock d.raw
  | .safe => ctx.rdSafe l d.clock d.raw

/-- The body of a message and its tag, and the context with the cipher state after it. -/
def opened (l : AuthLibs) (ctx : AcceptorAuthContext) (d : Delivery) :
    Except Error (KrbSafeBody × Str) × AcceptorAuthContext :=
  match d.kind with
  | .priv =>
    match readPriv l d.raw with
    | .error e => (.error e, ctx)
    | .ok enc =>
      let ctx' := { ctx with cstate := (ctx.decryptPriv l enc).2 }
      (ctx'.openPriv l enc (ctx.decryptPriv l enc).1, ctx')
  | .safe =>
    ((l.verifyKrbSafeChecksumIn ctx.recvKey d.raw ctx.remoteAddr ctx.localAddr ctx.hostAddrs).map
      fun msg => (msg.safeBody, msg.cksum.checksum), ctx)

def tagOf (l : AuthLibs) (key : ProtocolKey) (kind : Kind) (raw : Str) : Option Str :=
  match kind with
  | .priv => (readPriv l raw).toOption.bind fun enc => (ciphertextTag key.etype enc.cipher).toOption
  | .safe => (l.krbSafe raw).toOption.map (·.cksum.checksum)

/-! ### Opening a message -/

/-- What every part of reading a message leaves as it is. -/
structure Same (ctx ctx' : AcceptorAuthContext) : Prop where
  flags : ctx'.flags = ctx.flags
  recvKey : ctx'.recvKey = ctx.recvKey
  clockskew : ctx'.clockskew = ctx.clockskew

theorem Same.trans {ctx'' : AcceptorAuthContext} (h : Same ctx ctx') (h' : Same ctx' ctx'') :
    Same ctx ctx'' :=
  ⟨h'.flags.trans h.flags, h'.recvKey.trans h.recvKey, h'.clockskew.trans h.clockskew⟩

theorem opened_same (l : AuthLibs) (ctx : AcceptorAuthContext) (d : Delivery) :
    Same ctx (ctx.opened l d).2 ∧ (ctx.opened l d).2.memrcache = ctx.memrcache := by
  unfold opened
  cases d.kind with
  | priv =>
    cases readPriv l d.raw with
    | error e => exact ⟨⟨rfl, rfl, rfl⟩, rfl⟩
    | ok enc => exact ⟨⟨rfl, rfl, rfl⟩, rfl⟩
  | safe => exact ⟨⟨rfl, rfl, rfl⟩, rfl⟩

theorem tagOf_of_openPriv {enc : EncryptedData} {plain : Except CryptoError Str}
    (h : ctx.openPriv l enc plain = .ok (body, tag)) :
    ciphertextTag ctx.recvKey.etype enc.cipher = .ok tag := by
  obtain ⟨_, -, h⟩ := bind_ok h
  obtain ⟨_, -, h⟩ := bind_ok h
  obtain ⟨_, -, h⟩ := bind_ok h
  obtain ⟨tag', htag, h⟩ := bind_ok h
  obtain ⟨-, rfl⟩ := Prod.mk.inj (Except.ok.inj h)
  exact htag

theorem krbSafe_of_verify {key : ProtocolKey} {raw : Str} {remote local_ : Option HostAddress}
    {hosts : Option HostAddresses} {msg : KrbSafe}
    (h : l.verifyKrbSafeChecksumIn key raw remote local_ hosts = .ok msg) :
    l.krbSafe raw = .ok msg := by
  obtain ⟨-, h⟩ := rejectIf_bind_ok h
  obtain ⟨msg', hmsg, h⟩ := bind_ok h
  obtain ⟨_, -, h⟩ := bind_ok h
  obtain ⟨-, h⟩ := rejectIf_bind_ok h
  obtain ⟨-, h⟩ := rejectIf_bind_ok h
  obtain ⟨_, -, h⟩ := bind_ok h
  obtain ⟨_, -, h⟩ := bind_ok h
  obtain ⟨-, h⟩ := rejectIf_bind_ok h
  obtain rfl := Except.ok.inj h
  exact hmsg

theorem tagOf_of_opened (h : (ctx.opened l d).1 = .ok (body, tag)) :
    tagOf l ctx.recvKey d.kind d.raw = some tag := by
  unfold opened at h
  unfold tagOf
  cases hkind : d.kind with
  | priv =>
    rw [hkind] at h
    dsimp only at h ⊢
    cases hread : readPriv l d.raw with
    | error e =>
      rw [hread] at h
      cases h
    | ok enc =>
      rw [hread] at h
      have htag : ciphertextTag ctx.recvKey.etype enc.cipher = .ok tag := tagOf_of_openPriv h
      exact congrArg Except.toOption htag
  | safe =>
    rw [hkind] at h
    obtain ⟨msg, hmsg, heq⟩ := map_ok h
    obtain ⟨-, rfl⟩ := Prod.mk.inj heq
    rw [krbSafe_of_verify hmsg]
    rfl

/-- Reading a message is opening it and then taking it. -/
theorem rd_eq (l : AuthLibs) (ctx : AcceptorAuthContext) (d : Delivery) :
    ctx.rd l d = match (ctx.opened l d).1 with
      | .error e => (.error e, (ctx.opened l d).2)
      | .ok (body, tag) => (ctx.opened l d).2.accept d.clock body tag := by
  unfold rd opened
  cases d.kind with
  | priv =>
    unfold rdPriv
    cases readPriv l d.raw with
    | error e => rfl
    | ok enc => rfl
  | safe =>
    unfold rdSafe
    cases l.verifyKrbSafeChecksumIn ctx.recvKey d.raw ctx.remoteAddr ctx.localAddr
      ctx.hostAddrs with
    | error e => rfl
    | ok msg => rfl

/-! ### Taking a message -/

def CacheRecords (skew last : Nat) (ctx : AcceptorAuthContext) (events : Set (Nat × ReplayKey)) :
    Prop :=
  ∀ start, Records skew last (ctx.memrcache.getD (.new start)) events

theorem checkSeq_same (ctx : AcceptorAuthContext) (body : KrbSafeBody) :
    Same ctx (ctx.checkSeq body).2 ∧ (ctx.checkSeq body).2.memrcache = ctx.memrcache := by
  unfold checkSeq
  split_ifs
  · exact ⟨⟨rfl, rfl, rfl⟩, rfl⟩
  · dsimp only
    split_ifs
    · exact ⟨⟨rfl, rfl, rfl⟩, rfl⟩
    · exact ⟨⟨rfl, rfl, rfl⟩, rfl⟩

/-- The step of `check_replay` with timestamps. -/
theorem checkReplay_spec {clock : Nat} (htime : ctx.flags &&& authContextDoTime ≠ 0)
    (h : CacheRecords ctx.clockskew.toNat last ctx events) (hle : last ≤ clock)
    (body : KrbSafeBody) (tag : Str) :
    Same ctx (ctx.checkReplay clock body tag).2 ∧
    CacheRecords ctx.clockskew.toNat clock (ctx.checkReplay clock body tag).2 events ∧
    ((ctx.checkReplay clock body tag).1 = .ok () →
      (((wall clock).unixSeconds : Int) - sentAt body).natAbs ≤ ctx.clockskew ∧
      (∀ t, (t, ReplayKey.ofTag tag) ∈ events → t + ctx.clockskew.toNat * nanosPerSec < clock) ∧
      CacheRecords ctx.clockskew.toNat clock (ctx.checkReplay clock body tag).2
        (insert (clock, .ofTag tag) events)) := by
  unfold checkReplay
  rw [if_neg htime]
  by_cases hskew : ctx.clockskew < (((wall clock).unixSeconds : Int) - sentAt body).natAbs
  · simp only [if_pos hskew]
    exact ⟨⟨rfl, rfl, rfl⟩, fun start => (h start).later hle, fun hok => by cases hok⟩
  · simp only [if_neg hskew]
    have hstep := (h clock).checkAndStore _ hle (ReplayKey.ofTag tag)
    refine ⟨⟨rfl, rfl, rfl⟩, fun _ => hstep.1, fun hok => ?_⟩
    have hnew : ((ctx.memrcache.getD (.new clock)).checkAndStore clock (.ofTag tag)
        ctx.clockskew).1 = false := by
      cases hreplay : ((ctx.memrcache.getD (.new clock)).checkAndStore clock (.ofTag tag)
          ctx.clockskew).1 with
      | true =>
        rw [hreplay, if_pos rfl] at hok
        cases hok
      | false => rfl
    obtain ⟨hlate, hrecords⟩ := hstep.2 hnew
    exact ⟨Int.not_lt.mp hskew, hlate, fun _ => hrecords⟩

/-- **One message.**  The context keeps its record, on which the tag of a message that is taken goes
too; and if that was on record before, it came more than the skew ago. -/
theorem rd_spec (htime : ctx.flags &&& authContextDoTime ≠ 0)
    (h : CacheRecords ctx.clockskew.toNat last ctx events) (hle : last ≤ d.clock) :
    Same ctx (ctx.rd l d).2 ∧
    CacheRecords ctx.clockskew.toNat d.clock (ctx.rd l d).2 events ∧
    ∀ data, (ctx.rd l d).1 = .ok data → ∃ body tag, (ctx.opened l d).1 = .ok (body, tag) ∧
      tagOf l ctx.recvKey d.kind d.raw = some tag ∧
      (((wall d.clock).unixSeconds : Int) - sentAt body).natAbs ≤ ctx.clockskew ∧
      (∀ t, (t, ReplayKey.ofTag tag) ∈ events → t + ctx.clockskew.toNat * nanosPerSec < d.clock) ∧
      CacheRecords ctx.clockskew.toNat d.clock (ctx.rd l d).2
        (insert (d.clock, .ofTag tag) events) := by
  obtain ⟨hsame, hcache⟩ := opened_same l ctx d
  rw [rd_eq]
  cases hopen : (ctx.opened l d).1 with
  | error e =>
    refine ⟨hsame, fun start => ?_, fun data hdata => by cases hdata⟩
    rw [hcache]
    exact (h start).later hle
  | ok x =>
    obtain ⟨body, tag⟩ := x
    have htag := tagOf_of_opened hopen
    set ctx' := (ctx.opened l d).2 with hctx'
    have h' : CacheRecords ctx'.clockskew.toNat last ctx' events := by
      intro start
      rw [hsame.clockskew, hcache]
      exact h start
    obtain ⟨hsame', hkept, htaken⟩ := checkReplay_spec (by rw [hsame.flags]; exact htime) h' hle
      body tag
    rw [hsame.clockskew] at hkept htaken
    dsimp only
    unfold accept
    cases hreplay : ctx'.checkReplay d.clock body tag with
    | mk out ctx'' =>
      rw [hreplay] at hsame' hkept htaken
      cases out with
      | error e => exact ⟨hsame.trans hsame', hkept, fun data hdata => by cases hdata⟩
      | ok _ =>
        obtain ⟨hskew, hlate, hrecords⟩ := htaken rfl
        obtain ⟨hsame'', hcache''⟩ := checkSeq_same ctx'' body
        have hseq : ∀ {evs}, CacheRecords ctx.clockskew.toNat d.clock ctx'' evs →
            CacheRecords ctx.clockskew.toNat d.clock (ctx''.checkSeq body).2 evs := by
          intro evs hevs start
          rw [hcache'']
          exact hevs start
        exact ⟨(hsame.trans hsame').trans hsame'', hseq hkept, fun data _ =>
          ⟨body, tag, rfl, htag, hskew, hlate, hseq hrecords⟩⟩

/-! ### The receiver -/

/-- A receiver: its context, and the clock at the last message. -/
structure Receiver where
  clock : Nat
  ctx : AcceptorAuthContext
deriving DecidableEq

/-- One message, and its body if it is taken. -/
def step (l : AuthLibs) : Machine Receiver Delivery (Delivery × KrbSafeBody) := fun s d =>
  ((s.ctx.rd l d).1.toOption.bind fun _ => (s.ctx.opened l d).1.toOption.map fun x => (d, x.1),
    ⟨d.clock, (s.ctx.rd l d).2⟩)

/-- How two messages of the same text that are both taken lie to its time. -/
def Again (skew : Nat) (a b : Delivery × KrbSafeBody) : Prop :=
  a.1.kind = b.1.kind → a.1.raw = b.1.raw →
    (b.1.clock / nanosPerSec < 2 ^ 32 → a.1.clock / nanosPerSec ≤ sentAt b.2) ∧
    a.1.clock + skew * nanosPerSec < b.1.clock

/-- A message that is taken more than the skew after some time is dated not before that. -/
theorem le_sentAt_of_late {clock clock' : Nat} {skew : Int}
    (h : (((wall clock').unixSeconds : Int) - sentAt body).natAbs ≤ skew)
    (hlate : clock + skew.toNat * nanosPerSec < clock') (h32 : clock' / nanosPerSec < 2 ^ 32) :
    clock / nanosPerSec ≤ sentAt body := by
  have hwall : (wall clock').unixSeconds = clock' / nanosPerSec := if_pos h32
  rw [hwall] at h
  unfold nanosPerSec at *
  omega

/-- The tags of the messages taken, and when they came. -/
def eventsOf (l : AuthLibs) (key : ProtocolKey) (taken : Set (Delivery × KrbSafeBody)) :
    Set (Nat × ReplayKey) :=
  {x | ∃ a ∈ taken, a.1.clock = x.1 ∧ (tagOf l key a.1.kind a.1.raw).map .ofTag = some x.2}

/-- The record of a receiver whose context began as `ctx₀`. -/
structure Remembers (l : AuthLibs) (ctx₀ : AcceptorAuthContext) (s : Receiver)
    (taken : Set (Delivery × KrbSafeBody)) : Prop where
  same : Same ctx₀ s.ctx
  records : CacheRecords ctx₀.clockskew.toNat s.clock s.ctx (eventsOf l ctx₀.recvKey taken)

/-- The receiver keeps its record, and takes a message again only as `Again` says. -/
theorem tracks_step (l : AuthLibs) {ctx₀ : AcceptorAuthContext}
    (htime : ctx₀.flags &&& authContextDoTime ≠ 0) :
    Tracks (step l) (fun s d => s.clock ≤ d.clock ∧ True) (Again ctx₀.clockskew.toNat)
      (Remembers l ctx₀) where
  takes := by
    rintro s taken d ⟨d', body⟩ ⟨hsame, hrec⟩ ⟨hle, -⟩ hout
    rw [← hsame.flags] at htime
    rw [← hsame.clockskew] at hrec ⊢
    obtain ⟨hsame', -, htaken⟩ := rd_spec (l := l) htime hrec hle
    obtain ⟨data, hdata, hout⟩ := Option.bind_eq_some_iff.mp hout
    obtain ⟨data', hdata'⟩ : ∃ data', (s.ctx.rd l d).1 = .ok data' := by
      cases hrd : (s.ctx.rd l d).1 with
      | error e =>
        rw [hrd] at hdata
        cases hdata
      | ok x => exact ⟨x, rfl⟩
    obtain ⟨body', tag, hopen, htag, hskew, hlate, hrecords⟩ := htaken data' hdata'
    rw [hopen] at hout
    obtain ⟨rfl, rfl⟩ := Prod.mk.inj (Option.some.inj hout)
    rw [hsame.recvKey] at htag
    constructor
    · intro a ha hkind hraw
      have hlate' := hlate a.1.clock ⟨a, ha, rfl, by rw [hkind, hraw]; exact congrArg _ htag⟩
      exact ⟨le_sentAt_of_late hskew hlate', hlate'⟩
    · refine ⟨hsame.trans hsame', fun start => ?_⟩
      rw [← hsame.clockskew]
      refine (hrecords start).mono ?_
      rintro x ⟨a, rfl | ha, hclock, hkey⟩
      · rw [htag] at hkey
        exact .inl (Prod.ext hclock.symm (Option.some.inj hkey).symm)
      · exact .inr ⟨a, ha, hclock, hkey⟩
  refuses := by
    rintro s taken d ⟨hsame, hrec⟩ ⟨hle, -⟩ -
    rw [← hsame.flags] at htime
    rw [← hsame.clockskew] at hrec
    obtain ⟨hsame', hkept, -⟩ := rd_spec (l := l) htime hrec hle
    refine ⟨hsame.trans hsame', fun start => ?_⟩
    rw [← hsame.clockskew]
    exact hkept start

/-- **A message is taken again only late.**  For every context with timestamps, with a cache of its
own, and every sequence of messages in the order of the clock, a message that is taken twice is dated
not before the clock at the first time, unless the clock has left 32 bits, and more than the skew lies
between the two. -/
theorem message_taken_again (l : AuthLibs) {ctx : AcceptorAuthContext}
    (htime : ctx.flags &&& authContextDoTime ≠ 0) (hcache : ctx.memrcache = none)
    {deliveries : List Delivery} (hsorted : deliveries.Pairwise fun a b => a.clock ≤ b.clock) :
    ((step l).outputs ⟨0, ctx⟩ deliveries).Pairwise (Again ctx.clockskew.toNat) := by
  have hlegal : (step l).Legal (fun s d => s.clock ≤ d.clock ∧ True) ⟨0, ctx⟩ deliveries :=
    Machine.legal_of_sorted (fun _ _ => rfl) hsorted (fun _ _ => trivial) fun d _ => Nat.zero_le _
  have hinit : Remembers l ctx ⟨0, ctx⟩ ∅ := by
    refine ⟨⟨rfl, rfl, rfl⟩, fun start => ?_⟩
    rw [hcache]
    exact (ReplayCache.records_withLimits _ 0 250000 start).mono fun _ ⟨_, hc, _⟩ => hc.elim
  exact (tracks_step l htime).pairwise hinit hlegal

/-! ### Messages that are taken twice -/

/-- Libraries under which a message is its body, and four of its bytes the time. -/
def plainAuthLibs : AuthLibs where
  macs := ⟨fun _ _ _ => .ok [], fun _ _ _ _ => .ok [], fun _ _ => []⟩
  ciphers := ⟨fun _ _ _ plain => .ok plain, fun _ _ cipher => .ok cipher, fun key _ _ => .ok key⟩
  decryptWithState _ _ state cipher := (.ok cipher, state)
  krbPriv raw := .ok ⟨17, none, raw⟩
  encKrbPrivPart plain := .ok
    { userData := str "data"
      timestamp := some ⟨((plain.drop 1).take 4).foldl (fun n b => n * 256 + b.toNat) (0 : Nat)⟩
      seqNumber := none, sAddress := ⟨2, []⟩, rAddress := none }
  krbSafe _ := .error .truncatedReply
  safeBodyDer _ := none
  encodeSafeWithBody _ _ := .error .truncatedReply
  osLocaladdr := .ok []

/-- A context with timestamps and a skew of five seconds. -/
def plainCtx : AcceptorAuthContext :=
  ⟨authContextDoTime, ⟨.aes128CtsHmacSha196, List.replicate 16 7⟩, none, .new 0, none, none, none,
    none, none, 5⟩

/-- A KRB-PRIV dated at a second, which comes at another. -/
def privAt (second : Nat) (b3 b2 b1 b0 : UInt8) : Delivery :=
  ⟨second * nanosPerSec, .priv, [0x75, b3, b2, b1, b0] ++ List.replicate 23 b0⟩

/-- A message dated at 105 that comes at 100, another one, and the first again. -/
def futureDeliveries : List Delivery :=
  [privAt 100 0 0 0 105, privAt 106 0 0 0 106, privAt 106 0 0 0 105]

/-- A message from the end of the 32 bits that comes in time, one after the end, and the first
again. -/
def lastDeliveries : List Delivery :=
  [privAt (2 ^ 32 - 1) 255 255 255 253, privAt (2 ^ 32 + 10) 255 255 255 255,
    privAt (2 ^ 32 + 10) 255 255 255 253]

/-- **Messages from the future, and from the end of the 32 bits, are taken twice.** -/
theorem message_taken_twice :
    ((step plainAuthLibs).outputs ⟨0, plainCtx⟩ futureDeliveries).map (·.1) = futureDeliveries ∧
      ((step plainAuthLibs).outputs ⟨0, plainCtx⟩ lastDeliveries).map (·.1) = lastDeliveries := by
  refine ⟨?_, ?_⟩ <;> decide +kernel

/-- A message of the past is not. -/
theorem message_taken_again_past :
    ((step plainAuthLibs).outputs ⟨0, plainCtx⟩
      [privAt 100 0 0 0 98, privAt 103 0 0 0 103, privAt 103 0 0 0 98]).Pairwise
        (Again plainCtx.clockskew.toNat) := by
  have htime : plainCtx.flags &&& authContextDoTime ≠ 0 := by decide
  have hsorted : [privAt 100 0 0 0 98, privAt 103 0 0 0 103, privAt 103 0 0 0 98].Pairwise
      fun a b => a.clock ≤ b.clock := by
    decide +kernel
  exact message_taken_again plainAuthLibs htime rfl hsorted

end AcceptorAuthContext

end Kerber.Protocol
