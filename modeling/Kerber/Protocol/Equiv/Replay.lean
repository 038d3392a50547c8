import Kerber.Lib.Admission
import Kerber.Protocol.Replay

/-!
# How long a tag is held

`Keeps` says what a replay cache has on record of the tags it has stored: as long as the clock has not
passed the skew after the tag's arrival, the tag is in the cache.  `Records` says the same by the
machine's clock, and `Records.checkAndStore` is the step: a tag that is stored again arrived more than
the skew ago.  `retention` is about calls with skews of their own: a tag is held for its skew, but one
that has expired stays behind a bucket that has not, and counts when the cache is full.
-/

namespace Kerber.Protocol

open List

namespace ReplayCache

variable {g : ReplayCache} {now last skew expiry : Nat} {key k : ReplayKey} {b : Bucket}
  {buckets : List Bucket} {seen : Finset ReplayKey} {stored : Set (Nat × ReplayKey)}

def keysOf (buckets : List Bucket) : List ReplayKey := buckets.flatMap Prod.snd

theorem keysOf_cons (b : Bucket) (rest : List Bucket) : keysOf (b :: rest) = b.2 ++ keysOf rest :=
  flatMap_cons

theorem mem_keysOf_of_mem (hb : b ∈ buckets) (hk : k ∈ b.2) : k ∈ keysOf buckets :=
  mem_flatMap.mpr ⟨b, hb, hk⟩

/-! ### Eviction -/

theorem mem_foldl_erase (keys : List ReplayKey) (seen : Finset ReplayKey) :
    k ∈ keys.foldl (fun s k => s.erase k) seen ↔ k ∈ seen ∧ k ∉ keys := by
  induction keys generalizing seen with
  | nil => simp
  | cons a keys ih =>
    rw [foldl_cons, ih, Finset.mem_erase, mem_cons]
    tauto

/-- What is evicted is a first part of the buckets, all of the past, and their tags go with them. -/
theorem evict_spec (now : Nat) (hnodup : (keysOf buckets).Nodup) (hseen : ∀ k, k ∈ seen ↔ k ∈ keysOf buckets) :
    (keysOf (evict now buckets seen).1).Nodup ∧
    (∀ k, k ∈ (evict now buckets seen).2 ↔ k ∈ keysOf (evict now buckets seen).1) ∧
    ∀ b ∈ buckets, now ≤ b.1 → b ∈ (evict now buckets seen).1 := by
  induction buckets generalizing seen with
  | nil => exact ⟨hnodup, hseen, fun b hb => absurd hb not_mem_nil⟩
  | cons front rest ih =>
    obtain ⟨e, keys⟩ := front
    rw [keysOf_cons] at hnodup hseen
    unfold evict
    by_cases hpast : e < now
    · rw [if_pos hpast]
      obtain ⟨-, hrest, hdisj⟩ := nodup_append.mp hnodup
      have hseen' : ∀ k, k ∈ keys.foldl (fun s k => s.erase k) seen ↔ k ∈ keysOf rest := by
        intro k
        rw [mem_foldl_erase, hseen, mem_append]
        constructor
        · rintro ⟨hk | hk, hnot⟩
          · exact absurd hk hnot
          · exact hk
        · intro hk
          -- no tag is in two buckets
          exact ⟨.inr hk, fun hfront => hdisj k hfront k hk rfl⟩
      obtain ⟨h1, h2, h3⟩ := ih hrest hseen'
      refine ⟨h1, h2, fun b hb hle => ?_⟩
      rcases mem_cons.mp hb with rfl | hb
      · exact absurd hle (Nat.not_le.mpr hpast)
      · exact h3 b hb hle
    · rw [if_neg hpast]
      exact ⟨by rw [keysOf_cons]; exact hnodup, fun k => by rw [keysOf_cons]; exact hseen k,
        fun b hb _ => hb⟩

theorem mem_of_mem_evict (h : k ∈ (evict now buckets seen).2) : k ∈ seen := by
  induction buckets generalizing seen with
  | nil => exact h
  | cons front rest ih =>
    unfold evict at h
    split at h
    · exact ((mem_foldl_erase _ _).mp (ih h)).1
    · exact h

/-! ### Storing -/

theorem keysOf_pushKey (expiry : Nat) (key : ReplayKey) (buckets : List Bucket) :
    keysOf (pushKey expiry key buckets) = keysOf buckets ++ [key] := by
  induction buckets using pushKey.induct expiry with
  | case1 => rfl
  | case2 keys =>
    rw [pushKey, if_pos rfl, keysOf_cons, keysOf_cons]
    simp [keysOf]
  | case3 e keys hne =>
    rw [pushKey, if_neg hne]
    simp [keysOf]
  | case4 b c rest ih =>
    rw [pushKey, keysOf_cons, ih, keysOf_cons b, append_assoc]

theorem exists_mem_pushKey (expiry : Nat) (key : ReplayKey) (hb : b ∈ buckets) :
    ∃ b' ∈ pushKey expiry key buckets, b'.1 = b.1 ∧ b.2 ⊆ b'.2 := by
  induction buckets using pushKey.induct expiry with
  | case1 => exact absurd hb not_mem_nil
  | case2 keys =>
    obtain rfl := mem_singleton.mp hb
    rw [pushKey, if_pos rfl]
    exact ⟨_, mem_singleton_self _, rfl, subset_append_left _ _⟩
  | case3 e keys hne =>
    obtain rfl := mem_singleton.mp hb
    rw [pushKey, if_neg hne]
    exact ⟨_, mem_cons_self, rfl, List.Subset.refl _⟩
  | case4 c d rest ih =>
    rw [pushKey]
    rcases mem_cons.mp hb with rfl | hb
    · exact ⟨_, mem_cons_self, rfl, List.Subset.refl _⟩
    · obtain ⟨b', hb', hfst, hsnd⟩ := ih hb
      exact ⟨b', mem_cons_of_mem _ hb', hfst, hsnd⟩

theorem exists_mem_pushKey_self (expiry : Nat) (key : ReplayKey) (buckets : List Bucket) :
    ∃ b ∈ pushKey expiry key buckets, b.1 = expiry ∧ key ∈ b.2 := by
  induction buckets using pushKey.induct expiry with
  | case1 => exact ⟨_, mem_singleton_self _, rfl, mem_singleton_self _⟩
  | case2 keys =>
    rw [pushKey, if_pos rfl]
    exact ⟨_, mem_singleton_self _, rfl, mem_append_right _ (mem_singleton_self _)⟩
  | case3 e keys hne =>
    rw [pushKey, if_neg hne]
    exact ⟨_, mem_cons_of_mem _ (mem_singleton_self _), rfl, mem_singleton_self _⟩
  | case4 c d rest ih =>
    obtain ⟨b, hb, hexpiry, hkey⟩ := ih
    rw [pushKey]
    exact ⟨b, mem_cons_of_mem _ hb, hexpiry, hkey⟩

/-! ### The record -/

/-- What a cache has on record at a second of its clock: the tags in its buckets are those it has
seen, and a tag whose time is not over is in a bucket that is not over before it. -/
structure Keeps (skew last : Nat) (g : ReplayCache) (stored : Set (Nat × ReplayKey)) : Prop where
  nodup : (keysOf g.buckets).Nodup
  seen : ∀ k, k ∈ g.seen ↔ k ∈ keysOf g.buckets
  kept : ∀ x ∈ stored, last ≤ x.1 + skew → ∃ b ∈ g.buckets, x.1 + skew ≤ b.1 ∧ x.2 ∈ b.2

theorem keeps_withLimits (skew maxEntries clock : Nat) :
    Keeps skew 0 (withLimits maxEntries clock) ∅ where
  nodup := nodup_nil
  seen _ := iff_of_false (Finset.notMem_empty _) not_mem_nil
  kept x hx := absurd hx (Set.notMem_empty x)

/-- Time passes. -/
theorem Keeps.later (h : Keeps skew last g stored) (hle : last ≤ now) : Keeps skew now g stored where
  nodup := h.nodup
  seen := h.seen
  kept x hx hlive := h.kept x hx (Nat.le_trans hle hlive)

/-- Less is on record. -/
theorem Keeps.mono {stored' : Set (Nat × ReplayKey)} (h : Keeps skew last g stored)
    (hsub : stored' ⊆ stored) : Keeps skew last g stored' where
  nodup := h.nodup
  seen := h.seen
  kept x hx := h.kept x (hsub hx)

theorem Keeps.prune (h : Keeps skew last g stored) (hle : last ≤ now) :
    Keeps skew now (g.prune now) stored := by
  obtain ⟨hnodup, hseen, hkeep⟩ := evict_spec now h.nodup h.seen
  refine ⟨hnodup, hseen, fun x hx hlive => ?_⟩
  obtain ⟨b, hb, hexpiry, hmem⟩ := h.kept x hx (Nat.le_trans hle hlive)
  exact ⟨b, hkeep b hb (Nat.le_trans hlive hexpiry), hexpiry, hmem⟩

theorem Keeps.store (h : Keeps skew now g stored) (hnew : key ∉ g.seen) (t : Nat) :
    Keeps skew now (g.store (t + skew) key) (insert (t, key) stored) where
  nodup := by
    show (keysOf (pushKey _ _ _)).Nodup
    rw [keysOf_pushKey, nodup_append]
    refine ⟨h.nodup, nodup_singleton _, fun k hk k' hk' => ?_⟩
    obtain rfl := mem_singleton.mp hk'
    rintro rfl
    exact hnew ((h.seen k).mpr hk)
  seen k := by
    show k ∈ insert key g.seen ↔ k ∈ keysOf (pushKey _ _ _)
    rw [keysOf_pushKey, Finset.mem_insert, h.seen, mem_append, mem_singleton, or_comm]
  kept x hx hlive := by
    rcases hx with rfl | hx
    · obtain ⟨b, hb, hexpiry, hmem⟩ := exists_mem_pushKey_self (t + skew) key g.buckets
      exact ⟨b, hb, hexpiry.ge, hmem⟩
    · obtain ⟨b, hb, hexpiry, hmem⟩ := h.kept x hx hlive
      obtain ⟨b', hb', hfst, hsnd⟩ := exists_mem_pushKey (t + skew) key hb
      exact ⟨b', hb', hfst ▸ hexpiry, hsnd hmem⟩

/-- A tag on record that is not in the cache had its time. -/
theorem Keeps.expired (h : Keeps skew last g stored) (hnew : key ∉ g.seen) {t : Nat}
    (ht : (t, key) ∈ stored) : t + skew < last := by
  by_contra hlive
  obtain ⟨b, hb, -, hmem⟩ := h.kept _ ht (Nat.not_lt.mp hlive)
  exact hnew ((h.seen key).mpr (mem_keysOf_of_mem hb hmem))

/-- What a call can do. -/
theorem checkAndStore_cases (g : ReplayCache) (clock : Nat) (key : ReplayKey) (s : Int) :
    (g.poisoned = true ∨ key ∈ g.seen) ∧ g.checkAndStore clock key s = (true, g) ∨
    key ∉ g.seen ∧ (g.maxEntries ≤ (g.prune (g.seconds clock)).seen.card ∧
        g.checkAndStore clock key s = (true, g.prune (g.seconds clock)) ∨
      (g.prune (g.seconds clock)).seen.card < g.maxEntries ∧ g.checkAndStore clock key s
        = (false, (g.prune (g.seconds clock)).store (g.seconds clock + s.toNat) key)) := by
  unfold checkAndStore
  by_cases hpoisoned : g.poisoned = true
  · exact .inl ⟨.inl hpoisoned, if_pos hpoisoned⟩
  rw [if_neg hpoisoned]
  by_cases hheld : key ∈ g.seen
  · exact .inl ⟨.inr hheld, if_pos hheld⟩
  rw [if_neg hheld]
  refine .inr ⟨hheld, ?_⟩
  by_cases hfull : g.maxEntries ≤ (g.prune (g.seconds clock)).seen.card
  · exact .inl ⟨hfull, if_pos hfull⟩
  · exact .inr ⟨Nat.not_le.mp hfull, if_neg hfull⟩

/-- **The step of the cache.**  The record is kept; a tag that is stored goes on record, and if it was
on record before, its time is over. -/
theorem checkAndStore_spec {clock : Nat} (h : Keeps skew last g stored)
    (hle : last ≤ g.seconds clock) (key : ReplayKey) (s : Int) :
    ((g.checkAndStore clock key s).1 = true →
      Keeps skew (g.seconds clock) (g.checkAndStore clock key s).2 stored) ∧
    ((g.checkAndStore clock key s).1 = false →
      (∀ t, (t, key) ∈ stored → t + skew < g.seconds clock) ∧
      ∀ t, t + skew = g.seconds clock + s.toNat →
        Keeps skew (g.seconds clock) (g.checkAndStore clock key s).2 (insert (t, key) stored)) := by
  rcases checkAndStore_cases g clock key s with
    ⟨-, hcall⟩ | ⟨hheld, ⟨-, hcall⟩ | ⟨-, hcall⟩⟩ <;> rw [hcall]
  · exact ⟨fun _ => h.later hle, fun hf => absurd hf.symm Bool.false_ne_true⟩
  · exact ⟨fun _ => h.prune hle, fun hf => absurd hf.symm Bool.false_ne_true⟩
  · refine ⟨fun hf => absurd hf Bool.false_ne_true, fun _ => ⟨fun t ht => ?_, fun t ht => ?_⟩⟩
    · exact Nat.lt_of_lt_of_le (h.expired hheld ht) hle
    · -- the tag is not among those that are left, since it was not in the cache before
      rw [← ht]
      exact (h.prune hle).store (fun hmem => hheld (mem_of_mem_evict hmem)) t

/-! ### The record by the clock -/

theorem start_checkAndStore (g : ReplayCache) (clock : Nat) (key : ReplayKey) (skew : Int) :
    (g.checkAndStore clock key skew).2.start = g.start := by
  rcases checkAndStore_cases g clock key skew with ⟨-, h⟩ | ⟨-, ⟨-, h⟩ | ⟨-, h⟩⟩ <;> rw [h] <;> rfl

theorem seconds_mono (g : ReplayCache) {clock clock' : Nat} (h : clock ≤ clock') :
    g.seconds clock ≤ g.seconds clock' :=
  Nat.div_le_div_right (Nat.sub_le_sub_right h _)

/-- What lies more than `n` whole seconds of the cache apart lies more than `n` seconds apart. -/
theorem add_lt_of_seconds (g : ReplayCache) {clock clock' n : Nat}
    (h : g.seconds clock + n < g.seconds clock') : clock + n * nanosPerSec < clock' := by
  unfold seconds nanosPerSec at h
  unfold nanosPerSec
  omega

/-- When tags came to the cache, in its own seconds. -/
def arrivals (g : ReplayCache) (events : Set (Nat × ReplayKey)) : Set (Nat × ReplayKey) :=
  {y | ∃ x ∈ events, g.seconds x.1 = y.1 ∧ x.2 = y.2}

/-- What a cache has on record of tags that came at some points of the clock, the last of which is
`last`. -/
structure Records (skew last : Nat) (g : ReplayCache) (events : Set (Nat × ReplayKey)) : Prop where
  past : ∀ x ∈ events, x.1 ≤ last
  keeps : Keeps skew (g.seconds last) g (g.arrivals events)

variable {clock : Nat} {events events' : Set (Nat × ReplayKey)}

theorem records_withLimits (skew last maxEntries start : Nat) :
    Records skew last (withLimits maxEntries start) ∅ where
  past x hx := absurd hx (Set.notMem_empty x)
  keeps := by
    have hnone : (withLimits maxEntries start).arrivals ∅ = ∅ := by
      ext y
      exact iff_of_false (fun ⟨x, hx, _⟩ => Set.notMem_empty x hx) (Set.notMem_empty y)
    rw [hnone]
    exact (keeps_withLimits skew maxEntries start).later (Nat.zero_le _)

theorem Records.later (h : Records skew last g events) (hle : last ≤ clock) :
    Records skew clock g events where
  past x hx := Nat.le_trans (h.past x hx) hle
  keeps := h.keeps.later (g.seconds_mono hle)

theorem Records.mono (h : Records skew last g events) (hsub : events' ⊆ events) :
    Records skew last g events' where
  past x hx := h.past x (hsub hx)
  keeps := h.keeps.mono fun _ ⟨x, hx, hy⟩ => ⟨x, hsub hx, hy⟩

/-- **The step of the cache, by the clock.** -/
theorem Records.checkAndStore (skew : Int) (h : Records skew.toNat last g events)
    (hle : last ≤ clock) (key : ReplayKey) :
    Records skew.toNat clock (g.checkAndStore clock key skew).2 events ∧
    ((g.checkAndStore clock key skew).1 = false →
      (∀ t, (t, key) ∈ events → t + skew.toNat * nanosPerSec < clock) ∧
      Records skew.toNat clock (g.checkAndStore clock key skew).2
        (insert (clock, key) events)) := by
  obtain ⟨hheld, hnew⟩ := checkAndStore_spec h.keeps (g.seconds_mono hle) key skew
  have hseconds : (g.checkAndStore clock key skew).2.seconds = g.seconds := by
    funext t
    unfold seconds
    rw [start_checkAndStore]
  have harrivals : (g.checkAndStore clock key skew).2.arrivals = g.arrivals := by
    funext events
    unfold arrivals
    rw [hseconds]
  have hstored : (g.checkAndStore clock key skew).1 = false →
      Records skew.toNat clock (g.checkAndStore clock key skew).2
        (insert (clock, key) events) := by
    intro hfalse
    constructor
    · rintro x (rfl | hx)
      · exact Nat.le_refl _
      · exact Nat.le_trans (h.past x hx) hle
    · rw [hseconds, harrivals]
      refine ((hnew hfalse).2 _ rfl).mono ?_
      rintro y ⟨x, rfl | hx, hsec, hkey⟩
      · exact .inl (Prod.ext hsec.symm hkey.symm)
      · exact .inr ⟨x, hx, hsec, hkey⟩
  cases hreplay : (g.checkAndStore clock key skew).1 with
  | true =>
    refine ⟨⟨fun x hx => Nat.le_trans (h.past x hx) hle, ?_⟩, fun hf => by cases hf⟩
    rw [hseconds, harrivals]
    exact hheld hreplay
  | false =>
    refine ⟨(hstored hreplay).mono (Set.subset_insert _ _), fun _ => ⟨fun t ht => ?_,
      hstored hreplay⟩⟩
    exact g.add_lt_of_seconds ((hnew hreplay).1 _ ⟨(t, key), ht, rfl, rfl⟩)

/-! ### Calls with skews of their own -/

structure Call where
  clock : Nat
  key : ReplayKey
  skew : Int

/-- The cache, with the calls that stored their tag. -/
def Call.on (st : ReplayCache × List Call) (c : Call) : ReplayCache × List Call :=
  let r := st.1.checkAndStore c.clock c.key c.skew
  (r.2, if r.1 then st.2 else c :: st.2)

/-- A new cache after some calls. -/
def after (maxEntries start : Nat) (calls : List Call) : ReplayCache × List Call :=
  calls.foldl Call.on (withLimits maxEntries start, [])

/-- The tags of some calls, with the seconds that they are held to. -/
def due (g : ReplayCache) (calls : List Call) : Set (Nat × ReplayKey) :=
  {x | ∃ c ∈ calls, g.seconds c.clock + c.skew.toNat = x.1 ∧ c.key = x.2}

/-- What holds of a cache after calls of which the last was at `last`. -/
structure Retains (maxEntries last : Nat) (st : ReplayCache × List Call) : Prop where
  limit : st.1.maxEntries = max maxEntries 1
  lock : st.1.poisoned = false
  card : st.1.seen.card ≤ max maxEntries 1
  keeps : Keeps 0 (st.1.seconds last) st.1 (due st.1 st.2)

variable {maxEntries start : Nat} {st : ReplayCache × List Call} {c : Call} {calls : List Call}

theorem retains_withLimits : Retains maxEntries 0 (withLimits maxEntries start, []) where
  limit := rfl
  lock := rfl
  card := Nat.zero_le _
  keeps := by
    refine ((keeps_withLimits 0 maxEntries start).later (Nat.zero_le _)).mono ?_
    rintro x ⟨c, hc, -⟩
    cases hc

theorem card_prune_le (g : ReplayCache) (now : Nat) : (g.prune now).seen.card ≤ g.seen.card :=
  Finset.card_le_card fun _ => mem_of_mem_evict

theorem Retains.on (h : Retains maxEntries last st) (hle : last ≤ c.clock) :
    Retains maxEntries c.clock (Call.on st c) := by
  obtain ⟨g, stored⟩ := st
  obtain ⟨hlimit, hlock, hcard, hkeeps⟩ := h
  obtain ⟨hheld, hnew⟩ := checkAndStore_spec hkeeps (g.seconds_mono hle) c.key c.skew
  unfold Call.on
  rcases checkAndStore_cases g c.clock c.key c.skew with
    ⟨-, hcall⟩ | ⟨-, ⟨-, hcall⟩ | ⟨hroom, hcall⟩⟩ <;> rw [hcall] at hheld hnew ⊢
  · exact ⟨hlimit, hlock, hcard, hheld rfl⟩
  · exact ⟨hlimit, hlock, (card_prune_le g _).trans hcard, hheld rfl⟩
  · refine ⟨hlimit, hlock, ?_, ((hnew rfl).2 _ rfl).mono ?_⟩
    · refine (Finset.card_insert_le _ _).trans ?_
      rw [← hlimit]
      exact hroom
    · rintro x ⟨c', hc', hsec, hkey⟩
      rcases mem_cons.mp hc' with rfl | hc'
      · exact .inl (Prod.ext hsec.symm hkey.symm)
      · exact .inr ⟨c', hc', hsec, hkey⟩

theorem retains_foldl (h : Retains maxEntries last st)
    (htimes : calls.Pairwise fun a b => a.clock ≤ b.clock) (hlast : ∀ c ∈ calls, last ≤ c.clock)
    (hend : ∀ c ∈ calls, c.clock ≤ now) (hle : last ≤ now) :
    Retains maxEntries now (calls.foldl Call.on st) := by
  induction calls generalizing last st with
  | nil => exact ⟨h.limit, h.lock, h.card, h.keeps.later (seconds_mono _ hle)⟩
  | cons c calls ih =>
    obtain ⟨hfirst, htimes⟩ := pairwise_cons.mp htimes
    obtain ⟨hc, hend⟩ := forall_mem_cons.mp hend
    exact ih (h.on (hlast c mem_cons_self)) htimes hfirst hend hc

/-- **Retention in the replay cache.**  After any calls at times that do not decrease, with skews of
their own, a tag that was stored is a replay up to its skew after the time it was stored at, and no
more tags are held than the limit.  A tag that is not held is refused only when the cache is full once
the buckets that have expired are dropped from its front. -/
theorem retention (maxEntries start : Nat) (calls : List Call) (c : Call)
    (htimes : (calls ++ [c]).Pairwise fun a b => a.clock ≤ b.clock) :
    (∀ c' ∈ (after maxEntries start calls).2, c'.key = c.key →
      c.clock ≤ c'.clock + c'.skew.toNat * nanosPerSec →
        ((after maxEntries start calls).1.checkAndStore c.clock c.key c.skew).1 = true) ∧
    (after maxEntries start calls).1.seen.card ≤ max maxEntries 1 ∧
    (c.key ∉ (after maxEntries start calls).1.seen →
      ((after maxEntries start calls).1.checkAndStore c.clock c.key c.skew).1 = true →
        max maxEntries 1 ≤ ((after maxEntries start calls).1.prune
          ((after maxEntries start calls).1.seconds c.clock)).seen.card) := by
  obtain ⟨hcalls, -, hlast⟩ := List.pairwise_append.mp htimes
  obtain ⟨hlimit, hlock, hcard, hkeeps⟩ : Retains maxEntries c.clock (after maxEntries start calls) :=
    retains_foldl retains_withLimits hcalls (fun _ _ => Nat.zero_le _)
      (fun c' hc' => hlast c' hc' c List.mem_cons_self) (Nat.zero_le _)
  generalize after maxEntries start calls = st at hlimit hlock hcard hkeeps ⊢
  refine ⟨fun c' hc' hkey hclock => ?_, hcard, fun hnew hreplay => ?_⟩
  · by_contra hnot
    rw [Bool.not_eq_true] at hnot
    have hover := ((checkAndStore_spec hkeeps (Nat.le_refl _) c.key c.skew).2 hnot).1 _
      ⟨c', hc', rfl, hkey⟩
    have := st.1.add_lt_of_seconds hover
    omega
  · rcases checkAndStore_cases st.1 c.clock c.key c.skew with
      ⟨hpoisoned | hheld, -⟩ | ⟨-, ⟨hfull, -⟩ | ⟨-, hcall⟩⟩
    · rw [hlock] at hpoisoned
      cases hpoisoned
    · exact absurd hheld hnew
    · rwa [hlimit] at hfull
    · rw [hcall] at hreplay
      cases hreplay

/-- A tag that was taken is a replay six nanoseconds later. -/
theorem retention_one :
    let c : Call := ⟨3, .ofTag [1], 5⟩
    c ∈ (after 2 0 [c]).2 ∧ ((after 2 0 [c]).1.checkAndStore 9 (.ofTag [1]) 5).1 = true := by
  refine ⟨by simp [after, Call.on, checkAndStore, withLimits, prune, evict], ?_⟩
  refine (retention 2 0 [⟨3, .ofTag [1], 5⟩] ⟨9, .ofTag [1], 5⟩ (by simp)).1 ⟨3, .ofTag [1], 5⟩ ?_ rfl
    (by decide)
  simp [after, Call.on, checkAndStore, withLimits, prune, evict]

/-- A tag that has expired stays behind one that has not, and a new tag is refused for it. -/
theorem refused_for_expired :
    let st := after 2 0 [⟨0, .ofTag [1], 1000⟩, ⟨0, .ofTag [2], 0⟩]
    let clock := 10 * nanosPerSec
    (st.1.checkAndStore clock (.ofTag [3]) 0).1 = true ∧ .ofTag [3] ∉ st.1.seen ∧
      st.2.countP (fun c => clock ≤ c.clock + c.skew.toNat * nanosPerSec) < 2 := by
  decide +kernel

end ReplayCache

end Kerber.Protocol
