import Kerber.Protocol.ApReq
import Kerber.Protocol.Equiv.Replay

/-!
# How often an AP-REQ is taken

An AP-REQ is taken while the clock is within the skew of its authenticator's time, and its tag is held
for the skew after it arrived.  `apReq_taken_again`: for any calls in the order of the clock, a message
is taken again only if it was dated not before the clock at the first time, and when more than the skew
has passed.  `future_apReq_taken_twice`: such a message is taken again.
-/

namespace Kerber.Protocol

open ReplayCache (Records)

namespace ApLibs

variable {l : ApLibs} {c : Call} {g : ReplayCache} {o : Opened} {r : ApVerifyOk} {skew : Nat}

def tagOf (l : ApLibs) (raw : Str) : Option ReplayKey :=
  (l.apReq raw).toOption.bind replayKey

theorem tagOf_of_openAp {params : ApVerifyParams} {raw : Str}
    (h : l.openAp params raw = .ok o) : l.tagOf raw = some o.key := by
  obtain ⟨-, h⟩ := rejectIf_bind_ok h
  obtain ⟨ap, hap, h⟩ := bind_ok h
  obtain ⟨part, -, h⟩ := bind_ok h
  obtain ⟨opened, -, h⟩ := bind_ok h
  obtain ⟨authenticator, -, h⟩ := bind_ok h
  obtain ⟨-, h⟩ := rejectIf_bind_ok h
  obtain ⟨-, h⟩ := rejectIf_bind_ok h
  obtain ⟨_, -, h⟩ := bind_ok h
  obtain ⟨key, hkey, h⟩ := bind_ok h
  obtain rfl := Except.ok.inj h
  rw [tagOf, hap]
  exact elim_ok hkey

theorem ctime_of_finishAp {params : ApVerifyParams} {clock : Nat} {appCksum : Option Str}
    (h : l.finishAp params clock appCksum o = .ok r) :
    ((params.now.getD (wall clock)).deltaSeconds r.authenticator.ctime).natAbs ≤ params.skew := by
  obtain ⟨_, -, h⟩ := bind_ok h
  obtain ⟨hskew, h⟩ := rejectIf_bind_ok h
  obtain ⟨-, h⟩ := rejectIf_bind_ok h
  obtain ⟨_, -, h⟩ := bind_ok h
  obtain rfl := Except.ok.inj h
  rw [decide_eq_false_iff_not, Int.not_lt] at hskew
  exact hskew

/-- **One call.**  The cache keeps its record, on which the tag of a message that is taken goes too;
and if that was on record before, it arrived more than the skew ago. -/
theorem verifyApReqEx_spec {last : Nat} {events : Set (Nat × ReplayKey)}
    (h : Records skew last g events) (hle : last ≤ c.clock) (hskew : c.params.skew = skew) :
    Records skew c.clock (l.verifyApReqEx g c).2 events ∧
    ∀ r, (l.verifyApReqEx g c).1 = .ok r → ∃ key, l.tagOf c.raw = some key ∧
      ((c.params.now.getD (wall c.clock)).deltaSeconds r.authenticator.ctime).natAbs ≤ skew ∧
      (∀ t, (t, key) ∈ events → t + skew * nanosPerSec < c.clock) ∧
      Records skew c.clock (l.verifyApReqEx g c).2 (insert (c.clock, key) events) := by
  unfold verifyApReqEx
  cases hopen : l.openAp c.params c.raw with
  | error e => exact ⟨h.later hle, fun r hr => by cases hr⟩
  | ok o =>
    have hstep := ReplayCache.Records.checkAndStore skew h hle o.key
    rw [hskew]
    dsimp only
    cases hreplay : (g.checkAndStore c.clock o.key skew).1 with
    | true => exact ⟨hstep.1, fun r hr => by cases hr⟩
    | false =>
      obtain ⟨hlate, hrecords⟩ := hstep.2 hreplay
      refine ⟨hstep.1, fun r hr => ⟨o.key, tagOf_of_openAp hopen, ?_, hlate, hrecords⟩⟩
      have hctime := ctime_of_finishAp hr
      rw [hskew] at hctime
      exact_mod_cast hctime

/-! ### The acceptor -/

/-- An acceptor: its cache, and the clock at the last call. -/
structure Acceptor where
  clock : Nat
  cache : ReplayCache
deriving DecidableEq

def step (l : ApLibs) : Machine Acceptor Call (Call × ApVerifyOk) := fun s c =>
  ((l.verifyApReqEx s.cache c).1.toOption.map (c, ·), ⟨c.clock, (l.verifyApReqEx s.cache c).2⟩)

theorem step_eq_some_iff {s : Acceptor} {x : Call × ApVerifyOk} :
    (l.step s c).1 = some x ↔ x.1 = c ∧ (l.verifyApReqEx s.cache c).1 = .ok x.2 := by
  obtain ⟨c', r⟩ := x
  unfold step
  cases (l.verifyApReqEx s.cache c).1 with
  | error e => simp [Except.toOption]
  | ok r' => simp [Except.toOption, eq_comm]

/-- A call with the skew of the run and the machine's clock. -/
structure Call.Regular (skew : Nat) (c : Call) : Prop where
  skew : c.params.skew = skew
  now : ∀ t ∈ c.params.now, t = wall c.clock

theorem Call.Regular.now_eq (h : c.Regular skew) :
    c.params.now.getD (wall c.clock) = wall c.clock := by
  cases hnow : c.params.now with
  | none => rfl
  | some t => exact h.now t hnow

/-- How two calls that take the same message lie to the time of its authenticator. -/
def Again (skew : Nat) (a b : Call × ApVerifyOk) : Prop :=
  a.1.raw = b.1.raw →
    (wall a.1.clock).timestamp ≤ b.2.authenticator.ctime.timestamp ∧
    a.1.clock + skew * nanosPerSec < b.1.clock

theorem le_ctime_of_late {clock : Nat} {ctime : KerberosTime}
    (h : ((wall c.clock).deltaSeconds ctime).natAbs ≤ skew)
    (hlate : clock + skew * nanosPerSec < c.clock) : (wall clock).timestamp ≤ ctime.timestamp := by
  have hdelta : (((c.clock / nanosPerSec : Nat) : Int) - ctime.timestamp).natAbs ≤ skew := h
  show ((clock / nanosPerSec : Nat) : Int) ≤ ctime.timestamp
  unfold nanosPerSec at *
  omega

/-- The tags of the messages taken, and when they came. -/
def events (l : ApLibs) (taken : Set (Call × ApVerifyOk)) : Set (Nat × ReplayKey) :=
  {x | ∃ a ∈ taken, a.1.clock = x.1 ∧ l.tagOf a.1.raw = some x.2}

/-- The acceptor keeps its record, and takes a message again only as `Again` says. -/
theorem tracks_step (l : ApLibs) (skew : Nat) :
    Tracks l.step (fun s c => s.clock ≤ c.clock ∧ c.Regular skew) (Again skew)
      (fun s taken => Records skew s.clock s.cache (l.events taken)) where
  takes := by
    rintro s taken c ⟨c', r⟩ hrec ⟨hle, hreg⟩ hout
    obtain ⟨rfl, hr⟩ := step_eq_some_iff.mp hout
    obtain ⟨key, htag, hctime, hlate, hrecords⟩ := (verifyApReqEx_spec hrec hle hreg.skew).2 r hr
    rw [hreg.now_eq] at hctime
    constructor
    · intro a ha hraw
      have hlate' := hlate a.1.clock ⟨a, ha, rfl, hraw ▸ htag⟩
      exact ⟨le_ctime_of_late hctime hlate', hlate'⟩
    · refine hrecords.mono ?_
      rintro x ⟨a, rfl | ha, hclock, hkey⟩
      · rw [htag] at hkey
        exact .inl (Prod.ext hclock.symm (Option.some.inj hkey).symm)
      · exact .inr ⟨a, ha, hclock, hkey⟩
  refuses := by
    rintro s taken c hrec ⟨hle, hreg⟩ -
    exact (verifyApReqEx_spec hrec hle hreg.skew).1

/-- **An AP-REQ is taken again only late.**  For every run of calls that share a cache, in the order of
the clock and with one skew, a message that is taken by two calls is dated not before the clock at the
first of them, and more than the skew lies between them. -/
theorem apReq_taken_again (l : ApLibs) {skew maxEntries start : Nat} {calls : List Call}
    (hsorted : calls.Pairwise fun a b => a.clock ≤ b.clock)
    (hregular : ∀ c ∈ calls, c.Regular skew) :
    (l.step.outputs ⟨0, .withLimits maxEntries start⟩ calls).Pairwise (Again skew) := by
  have hlegal : l.step.Legal (fun s c => s.clock ≤ c.clock ∧ c.Regular skew)
      ⟨0, .withLimits maxEntries start⟩ calls :=
    Machine.legal_of_sorted (fun _ _ => rfl) hsorted hregular fun c _ => Nat.zero_le _
  have hinit : Records skew 0 (.withLimits maxEntries start) (l.events ∅) :=
    (ReplayCache.records_withLimits skew 0 maxEntries start).mono fun _ ⟨_, hc, _⟩ => hc.elim
  exact (tracks_step l skew).pairwise hinit hlegal

/-! ### A message from the future -/

/-- Libraries under which a message is its authenticator, and the first byte its time. -/
def plainApLibs : ApLibs where
  macs := ⟨fun _ _ _ => .ok [], fun _ _ _ _ => .ok [], fun _ _ => []⟩
  ciphers := ⟨fun _ _ _ plain => .ok plain, fun _ _ cipher => .ok cipher, fun key _ _ => .ok key⟩
  apReq raw := .ok ⟨false, ⟨str "R", ⟨PrincipalName.ntPrincipal, [str "host"]⟩, ⟨17, none, []⟩⟩,
    ⟨17, none, raw⟩⟩
  authenticator plain := .ok ⟨str "R", ⟨PrincipalName.ntPrincipal, [str "alice"]⟩, none,
    ⟨(plain.headD 0).toNat⟩, none⟩
  decryptTicket _ _ := .ok
    { flags := KerberosFlags.none, crealm := str "R", cname := ⟨PrincipalName.ntPrincipal, [str "alice"]⟩
      authtime := ⟨0⟩, starttime := none, endtime := ⟨1000⟩, renewTill := none
      key := ⟨17, List.replicate 16 7⟩, transited := ⟨1, []⟩, caddr := none
      authorizationData := none }
  checkTransited _ _ := .ok ()
  errorMessage _ := []

def messageAt (second : UInt8) : Str := List.replicate 28 second

def callAt (second : Nat) (raw : Str) : Call :=
  ⟨second * nanosPerSec, raw, ⟨none, none, false, 5, false, none, none⟩, none⟩

/-- A message dated at 105 that comes at 100, another one, and the first again. -/
def futureCalls : List Call :=
  [callAt 100 (messageAt 105), callAt 106 (messageAt 106), callAt 106 (messageAt 105)]

/-- **A message from the future is taken twice.** -/
theorem future_apReq_taken_twice :
    (plainApLibs.step.outputs ⟨0, .new 0⟩ futureCalls).map (·.1) = futureCalls := by
  decide +kernel

/-- A message of the past is not. -/
theorem apReq_taken_again_past :
    (plainApLibs.step.outputs ⟨0, .withLimits 250000 0⟩
      [callAt 100 (messageAt 98), callAt 103 (messageAt 103), callAt 103 (messageAt 98)]).Pairwise
        (Again 5) := by
  refine apReq_taken_again plainApLibs (by decide +kernel) ?_
  intro c hc
  have hcalls : c = callAt 100 (messageAt 98) ∨ c = callAt 103 (messageAt 103)
      ∨ c = callAt 103 (messageAt 98) := by
    simpa using hc
  rcases hcalls with rfl | rfl | rfl
  all_goals exact ⟨rfl, fun t ht => by cases ht⟩

end ApLibs

end Kerber.Protocol
