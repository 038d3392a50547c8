import Kerber.Kdc.Lookaside
import Mathlib.Data.List.Induction
import Mathlib.Data.List.ReduceOption

/-!
# What the lookaside cache remembers

`Consistent` ties the map, the queue and the size counter together, and every call keeps it
(`keeps_calls`).  `left_call` says what a call does to the entry of a request; from it
`lookaside_correct` follows for every sequence of calls: a hit is the reply last finished for the same
bytes, and the entry has been there since.
-/

namespace Kerber.Lookaside

open List Option HashMap

variable {key : Str} {cs : List Call} {reply : Str}

/-! ### The map, the queue and the counter -/

/-- A live entry has its own slot in the queue, a filled slot its live entry, and the counter is the sum
of the sizes. -/
structure Consistent (c : Lookaside) : Prop where
  slot : ∀ {k e}, c.map.lookup k = some e → ∃ i, e.seq = c.head + i ∧ c.order[i]? = some (some k)
  live : ∀ {i k}, c.order[i]? = some (some k) → ∃ e, c.map.lookup k = some e ∧ e.seq = c.head + i
  size : ∀ {k e}, c.map.lookup k = some e → e.size = sizeOf k e.reply
  total : c.total = HashMap.sum (fun k e => sizeOf k e.reply) c.map

/-- Entries only leave, and the limits stay. -/
structure Shrinks (c c' : Lookaside) : Prop where
  maxSize : c'.maxSize = c.maxSize
  lookup : ∀ k, c'.map.lookup k = none ∨ c'.map.lookup k = c.map.lookup k

namespace Shrinks

theorem refl (c : Lookaside) : Shrinks c c := ⟨rfl, fun _ => .inr rfl⟩

theorem trans {a b c : Lookaside} (hab : Shrinks a b) (hbc : Shrinks b c) : Shrinks a c := by
  refine ⟨hbc.maxSize.trans hab.maxSize, fun k => ?_⟩
  rcases hbc.lookup k with h | h
  · exact .inl h
  · rw [h]
    exact hab.lookup k

end Shrinks

theorem consistent_withLimits (maxSize stale : Nat) : Consistent (withLimits maxSize stale) where
  slot h := nomatch h
  live h := nomatch h
  size h := nomatch h
  total := rfl

namespace Consistent

variable {c c' : Lookaside} {k : Str} {e : Entry}

/-- An entry without its slot in the queue: the map and the counter of `discard` and `evict`. -/
theorem erase (h : Consistent c) (he : c.map.lookup k = some e) (order : List (Option Str))
    (head : Nat)
    (hslot : ∀ {k' e'}, k' ≠ k → c.map.lookup k' = some e' →
      ∃ i, e'.seq = head + i ∧ order[i]? = some (some k'))
    (hlive : ∀ {i k'}, order[i]? = some (some k') →
      k' ≠ k ∧ ∃ e', c.map.lookup k' = some e' ∧ e'.seq = head + i)
    (hmap : c'.map = c.map.erase k) (htotal : c'.total = c.total - e.size) (horder : c'.order = order)
    (hhead : c'.head = head) : Consistent c' := by
  subst horder hhead
  have hlookup : ∀ {k' e'}, c'.map.lookup k' = some e' → k' ≠ k ∧ c.map.lookup k' = some e' := by
    intro k' e' h'
    rw [hmap, lookup_erase] at h'
    split at h'
    · cases h'
    · rename_i hne
      exact ⟨hne, h'⟩
  refine ⟨fun h' => ?_, fun h' => ?_, fun h' => h.size (hlookup h').2, ?_⟩
  · obtain ⟨hne, h'⟩ := hlookup h'
    exact hslot hne h'
  · obtain ⟨hne, e', he', hseq⟩ := hlive h'
    refine ⟨e', ?_, hseq⟩
    rw [hmap, lookup_erase, if_neg hne]
    exact he'
  · have hsum := sum_erase (f := fun k e => sizeOf k e.reply) he
    rw [htotal, hmap, h.total, h.size he]
    omega

theorem slot_inj (h : Consistent c) {i j : Nat} (hi : c.order[i]? = some (some k))
    (hj : c.order[j]? = some (some k)) : i = j := by
  obtain ⟨e, he, hseq⟩ := h.live hi
  obtain ⟨e', he', hseq'⟩ := h.live hj
  obtain rfl := some.inj (he.symm.trans he')
  omega

theorem shrinks_erase (hmap : c'.map = c.map.erase k) (hmax : c'.maxSize = c.maxSize) :
    Shrinks c c' := by
  refine ⟨hmax, fun k' => ?_⟩
  rw [hmap, lookup_erase]
  split
  · exact .inl rfl
  · exact .inr rfl

/-- The queue lists every live entry once. -/
theorem perm_keys (h : Consistent c) : c.order.reduceOption.Perm c.map.keys := by
  have hnodup : c.order.reduceOption.Nodup := by
    rw [reduceOption, List.Nodup, pairwise_filterMap, pairwise_iff_getElem]
    rintro i j hi hj hij a ha b hb rfl
    have hi' : c.order[i]? = some (some a) := (getElem?_eq_getElem hi).trans (congrArg some ha)
    have hj' : c.order[j]? = some (some a) := (getElem?_eq_getElem hj).trans (congrArg some hb)
    exact absurd (h.slot_inj hi' hj') (Nat.ne_of_lt hij)
  rw [perm_ext_iff_of_nodup hnodup c.map.keys_nodup]
  intro k
  rw [reduceOption_mem_iff, mem_keys_iff]
  constructor
  · intro hmem
    obtain ⟨i, hi⟩ := mem_iff_getElem?.mp hmem
    obtain ⟨e, he, -⟩ := h.live hi
    exact ⟨e, he⟩
  · rintro ⟨e, he⟩
    obtain ⟨i, -, hi⟩ := h.slot he
    exact mem_iff_getElem?.mpr ⟨i, hi⟩

end Consistent

/-! ### Discarding and evicting -/

variable {c c' : Lookaside} {req : Str}

theorem lookup_discard (req k : Str) (c : Lookaside) :
    (c.discard req).map.lookup k = if k = req then none else c.map.lookup k := by
  unfold discard
  split
  · rename_i hnone
    split
    · rename_i hk
      rw [hk, hnone]
    · rfl
  · exact lookup_erase req k c.map

theorem maxSize_discard (req : Str) (c : Lookaside) : (c.discard req).maxSize = c.maxSize := by
  unfold discard
  split <;> rfl

theorem consistent_discard (h : Consistent c) (req : Str) : Consistent (c.discard req) := by
  unfold discard
  split
  · exact h
  · rename_i e he
    obtain ⟨i, hseq, hi⟩ := h.slot he
    have hle : c.head ≤ e.seq := by omega
    have hpos : e.seq - c.head = i := by omega
    rw [if_pos hle, hpos]
    refine h.erase he (c.order.set i none) c.head ?_ ?_ rfl rfl rfl rfl
    · intro k' e' hne he'
      obtain ⟨j, hj, hslot⟩ := h.slot he'
      refine ⟨j, hj, ?_⟩
      have hij : i ≠ j := by
        rintro rfl
        exact hne (some.inj (some.inj (hslot.symm.trans hi)))
      rw [getElem?_set_ne hij]
      exact hslot
    · intro j k' hslot
      rw [getElem?_set] at hslot
      split at hslot
      · split at hslot <;> cases hslot
      · rename_i hij
        refine ⟨?_, h.live hslot⟩
        rintro rfl
        exact hij (h.slot_inj hi hslot)

theorem Consistent.liveEntry_front (h : Consistent c) {front : Option Str} {order : List (Option Str)}
    (horder : c.order = front :: order) :
    (∃ k e, front = some k ∧ c.map.lookup k = some e ∧ c.liveEntry front = some e) ∨
      (front = none ∧ c.liveEntry front = none) := by
  cases front with
  | none => exact .inr ⟨rfl, rfl⟩
  | some k =>
    obtain ⟨e, he, hseq⟩ := h.live (i := 0) (by rw [horder]; rfl)
    refine .inl ⟨k, e, rfl, he, ?_⟩
    rw [liveEntry, bind_some, he, filter_some, if_pos (by simpa using hseq)]

/-- What a round of the eviction does: the front slot goes, and its entry with it; it stops when there
is none or when there is room. -/
theorem evictFront_spec (h : Consistent c) (now incoming : Nat) :
    match c.evictFront now incoming with
    | none => c.order = [] ∨ c.total + incoming ≤ c.maxSize
    | some c' => Consistent c' ∧ Shrinks c c' ∧ c'.order.length + 1 = c.order.length := by
  unfold evictFront
  cases horder : c.order with
  | nil => exact .inl rfl
  | cons front order =>
    have hshift : ∀ {i k}, c.order[i + 1]? = some (some k) ↔ order[i]? = some (some k) := by
      intro i k
      rw [horder, getElem?_cons_succ]
    rcases h.liveEntry_front horder with ⟨k, e, rfl, he, hlive⟩ | ⟨rfl, hlive⟩
    · have hfront : c.order[0]? = some (some k) := by rw [horder]; rfl
      have hslot : ∀ {k' e'}, k' ≠ k → c.map.lookup k' = some e' →
          ∃ i, e'.seq = c.head + 1 + i ∧ order[i]? = some (some k') := by
        intro k' e' hne he'
        obtain ⟨i, hseq, hi⟩ := h.slot he'
        cases i with
        | zero => exact absurd (some.inj (some.inj (hi.symm.trans hfront))) hne
        | succ i => exact ⟨i, by omega, hshift.mp hi⟩
      have hrest : ∀ {i k'}, order[i]? = some (some k') →
          k' ≠ k ∧ ∃ e', c.map.lookup k' = some e' ∧ e'.seq = c.head + 1 + i := by
        intro i k' hi
        have hi := hshift.mpr hi
        obtain ⟨e', he', hseq⟩ := h.live hi
        refine ⟨?_, e', he', by omega⟩
        rintro rfl
        exact absurd (h.slot_inj hfront hi) (Nat.succ_ne_zero i).symm
      dsimp only
      rw [hlive]
      dsimp only
      by_cases hroom : (!decide (c.stale < now - e.timein)
          && decide (c.total + incoming ≤ c.maxSize)) = true
      · rw [if_pos hroom]
        exact .inr (by simpa using (Bool.and_eq_true_iff.mp hroom).2)
      · rw [if_neg hroom]
        refine ⟨?_, ?_, ?_⟩
        · split
          · exact h.erase he _ _ hslot hrest rfl rfl rfl rfl
          · exact h.erase he _ _ hslot hrest rfl rfl rfl rfl
        · split
          · exact Consistent.shrinks_erase (k := k) rfl rfl
          · exact Consistent.shrinks_erase (k := k) rfl rfl
        · split <;> rfl
    · dsimp only
      rw [hlive]
      refine ⟨⟨fun he => ?_, fun hi => ?_, h.size, h.total⟩, ⟨rfl, fun _ => .inr rfl⟩, rfl⟩
      · obtain ⟨i, hseq, hi⟩ := h.slot he
        cases i with
        | zero => rw [horder] at hi; cases hi
        | succ i => exact ⟨i, by show _ = c.head + 1 + i; omega, hshift.mp hi⟩
      · obtain ⟨e, he, hseq⟩ := h.live (hshift.mpr hi)
        exact ⟨e, he, by show _ = c.head + 1 + _; omega⟩

theorem evictLoop_spec (h : Consistent c) (now incoming : Nat) {rounds : Nat}
    (hrounds : c.order.length ≤ rounds) :
    Consistent (evictLoop now incoming rounds c) ∧ Shrinks c (evictLoop now incoming rounds c) ∧
      ((evictLoop now incoming rounds c).order = [] ∨
        (evictLoop now incoming rounds c).total + incoming ≤ c.maxSize) := by
  induction rounds generalizing c with
  | zero =>
    rw [evictLoop]
    exact ⟨h, .refl c, .inl (eq_nil_of_length_eq_zero (by omega))⟩
  | succ rounds ih =>
    have hspec := evictFront_spec h now incoming
    unfold evictLoop
    cases hfront : c.evictFront now incoming with
    | none =>
      rw [hfront] at hspec
      exact ⟨h, .refl c, hspec⟩
    | some c' =>
      rw [hfront] at hspec
      obtain ⟨h', hshrinks, hlen⟩ := hspec
      obtain ⟨hcons, hshrinks', hend⟩ := ih h' (by omega)
      rw [hshrinks.maxSize] at hend
      exact ⟨hcons, hshrinks.trans hshrinks', hend⟩

/-! ### Inserting -/

theorem lookup_insert_self (key : Str) (reply : Option Str) (clock : Clock) (c : Lookaside) :
    ∃ e, (c.insert key reply clock).map.lookup key = some e ∧ e.reply = reply :=
  ⟨_, AList.lookup_insert _, rfl⟩

/-- What `insert` does for a request that has no entry. -/
theorem insert_spec (h : Consistent c) (habsent : c.map.lookup key = none) (reply : Option Str)
    (clock : Clock) :
    Consistent (c.insert key reply clock) ∧
      ((c.insert key reply clock).total ≤ c.maxSize ∨ (c.insert key reply clock).map.keys.length = 1) ∧
      (c.insert key reply clock).maxSize = c.maxSize ∧
      ∀ k ≠ key, (c.insert key reply clock).map.lookup k = none ∨
        (c.insert key reply clock).map.lookup k = c.map.lookup k := by
  obtain ⟨hcons, hshrinks, hend⟩ :=
    evictLoop_spec h clock.evictAt (sizeOf key reply) (le_refl c.order.length)
  have habsent' : (c.evict clock.evictAt (sizeOf key reply)).map.lookup key = none := by
    rcases hshrinks.lookup key with hnone | hsame
    · exact hnone
    · exact hsame.trans habsent
  generalize hc' : c.evict clock.evictAt (sizeOf key reply) = c' at *
  change evictLoop _ _ _ _ = c' at hc'
  rw [hc'] at hcons hshrinks hend
  have hinsert : c.insert key reply clock = { c' with
      order := c'.order ++ [some key]
      total := c'.total + sizeOf key reply
      map := c'.map.insert key
        ⟨clock.insertAt, reply, c'.head + c'.order.length, sizeOf key reply⟩ } := by
    rw [insert, evict, hc']
  have hlookup : ∀ {k}, (c.insert key reply clock).map.lookup k
      = if k = key then some ⟨clock.insertAt, reply, c'.head + c'.order.length, sizeOf key reply⟩
        else c'.map.lookup k := by
    intro k
    rw [hinsert]
    exact lookup_insert key k _ c'.map
  have htotal : (c.insert key reply clock).total = c'.total + sizeOf key reply := by rw [hinsert]
  have horder : (c.insert key reply clock).order = c'.order ++ [some key] := by rw [hinsert]
  have hhead : (c.insert key reply clock).head = c'.head := by rw [hinsert]
  refine ⟨⟨fun he => ?_, fun hi => ?_, fun he => ?_, ?_⟩, ?_, ?_, fun k hk => ?_⟩
  · rw [hlookup] at he
    rw [hhead, horder]
    split at he
    · rename_i hk
      obtain rfl := some.inj he
      exact ⟨c'.order.length, rfl, by rw [hk, getElem?_concat_length]⟩
    · obtain ⟨i, hseq, hi⟩ := hcons.slot he
      refine ⟨i, hseq, ?_⟩
      rw [getElem?_append_left (List.getElem?_eq_some_iff.mp hi).1]
      exact hi
  · rw [horder] at hi
    rw [hhead]
    rename_i i k
    by_cases hlt : i < c'.order.length
    · rw [getElem?_append_left hlt] at hi
      obtain ⟨e, he, hseq⟩ := hcons.live hi
      refine ⟨e, ?_, hseq⟩
      rw [hlookup, if_neg]
      · exact he
      · rintro rfl
        exact absurd (habsent'.symm.trans he) (by simp)
    · obtain ⟨rfl, rfl⟩ : i = c'.order.length ∧ key = k := by
        rw [getElem?_append_right (by omega)] at hi
        obtain ⟨hlt', hget⟩ := List.getElem?_eq_some_iff.mp hi
        rw [length_singleton] at hlt'
        refine ⟨by omega, ?_⟩
        simpa using hget
      rw [hlookup, if_pos rfl]
      exact ⟨_, rfl, rfl⟩
  · rw [hlookup] at he
    split at he
    · rename_i hk
      obtain rfl := some.inj he
      rw [hk]
    · exact hcons.size he
  · rw [htotal, hcons.total, hinsert]
    exact (sum_insert (f := fun k e => sizeOf k e.reply) habsent'
      ⟨clock.insertAt, reply, c'.head + c'.order.length, sizeOf key reply⟩).symm
  · rcases hend with hempty | hroom
    · -- nothing was left in the queue, so the new entry is alone
      right
      have hkeys : c'.map.keys = [] := by
        have := hcons.perm_keys
        rw [hempty] at this
        exact nil_perm.mp this
      rw [hinsert]
      show (c'.map.insert key _).keys.length = 1
      rw [AList.keys_insert, hkeys]
      rfl
    · left
      rw [htotal]
      exact hroom
  · rw [hinsert]
    exact hshrinks.maxSize
  · rw [hlookup, if_neg hk]
    exact hshrinks.lookup k

/-! ### Calls -/

/-- The total stays below the limit as long as there are two entries. -/
def Bounded (c : Lookaside) : Prop := c.total ≤ c.maxSize ∨ c.map.keys.length ≤ 1

theorem bounded_insert (h : Consistent c) (habsent : c.map.lookup key = none) (reply : Option Str)
    (clock : Clock) : Bounded (c.insert key reply clock) := by
  obtain ⟨-, hbound, hmax, -⟩ := insert_spec h habsent reply clock
  rw [Bounded, hmax]
  exact hbound.imp_right le_of_eq

theorem bounded_discard (hb : Bounded c) (req : Str) : Bounded (c.discard req) := by
  unfold discard
  split
  · exact hb
  · refine hb.imp (fun hle => le_trans (Nat.sub_le _ _) hle) fun hle => ?_
    exact le_trans ((kerase_sublist req c.map.entries).map Sigma.fst).length_le hle

theorem lookup_discard_self (req : Str) (c : Lookaside) : (c.discard req).map.lookup req = none := by
  rw [lookup_discard, if_pos rfl]

/-- The map, the queue, the counter and the limit stay together. -/
structure Keeps (c c' : Lookaside) : Prop where
  consistent : Consistent c'
  bounded : Bounded c'
  maxSize : c'.maxSize = c.maxSize

theorem keeps_insert (h : Consistent c) (habsent : c.map.lookup key = none) (reply : Option Str)
    (clock : Clock) : Keeps c (c.insert key reply clock) := by
  obtain ⟨hcons, -, hmax, -⟩ := insert_spec h habsent reply clock
  exact ⟨hcons, bounded_insert h habsent reply clock, hmax⟩

section

variable (h : Consistent c) (hb : Bounded c)

include h hb

theorem keeps_checkOrMark (req : Str) (clock : Clock) :
    Keeps c (c.checkOrMark req clock).2 := by
  unfold checkOrMark
  split
  · split
    · exact ⟨h, hb, rfl⟩
    · exact ⟨h, hb, rfl⟩
  · rename_i habsent
    exact keeps_insert h habsent none clock

theorem keeps_finish (req : Str) (reply : Option Str)
    (clock : Clock) : Keeps c (c.finish req reply clock) := by
  have hd : Keeps c (c.discard req) :=
    ⟨consistent_discard h req, bounded_discard hb req, maxSize_discard req c⟩
  unfold finish
  split
  · split
    · rename_i bytes _
      have hi := keeps_insert hd.consistent (lookup_discard_self req c) (some bytes) clock
      exact ⟨hi.consistent, hi.bounded, hi.maxSize.trans hd.maxSize⟩
    · exact hd
  · exact hd

theorem keeps_call (call : Call) : Keeps c (c.call call) := by
  cases call with
  | check req clock => exact keeps_checkOrMark h hb req clock
  | finish req reply clock => exact keeps_finish h hb req reply clock

theorem keeps_calls (cs : List Call) : Keeps c (c.calls cs) := by
  induction cs generalizing c with
  | nil => exact ⟨h, hb, rfl⟩
  | cons call cs ih =>
    have hone := keeps_call h hb call
    have hrest := ih hone.consistent hone.bounded
    exact ⟨hrest.consistent, hrest.bounded, hrest.maxSize.trans hone.maxSize⟩

end

/-! ### What is remembered of a request -/

/-- What the cache has on a request: nothing, a mark or a reply. -/
def view (c : Lookaside) (req : Str) : Option (Option Str) :=
  (c.map.lookup req).map (·.reply)

/-- A call that settles what the cache has on a request: `finish` for it. -/
def Call.Finishes (req : Str) : Call → Prop
  | .check _ _ => False
  | .finish req' _ _ => req' = req

/-- What `finish` leaves for its own request: a reply that is not empty. -/
theorem view_finish_self (req : Str) (reply : Option Str) (clock : Clock) (c : Lookaside) :
    (c.finish req reply clock).view req = (reply.filter (· ≠ [])).map some := by
  unfold finish view
  split
  · rename_i bytes
    split
    · rename_i hne
      obtain ⟨e, he, hreply⟩ := lookup_insert_self req (some bytes) clock (c.discard req)
      rw [he, map_some, hreply, filter_some, if_pos (by simpa using hne),
        map_some]
    · rename_i hne
      rw [lookup_discard_self, filter_some, if_neg (by simpa using hne)]
      rfl
  · rw [lookup_discard_self]
    rfl

/-- What the cache has on a request was left or dropped, or is a mark where there was nothing. -/
def Left (req : Str) (c c' : Lookaside) : Prop :=
  c'.view req = none ∨ c'.view req = c.view req ∨ c.view req = none ∧ c'.view req = some none

theorem left_of_lookup
    (h : c'.map.lookup req = none ∨ c'.map.lookup req = c.map.lookup req) : Left req c c' := by
  unfold Left view
  rcases h with hnone | hsame
  · rw [hnone]
    exact .inl rfl
  · rw [hsame]
    exact .inr (.inl rfl)

theorem left_checkOrMark (h : Consistent c) (req req' : Str) (clock : Clock) :
    Left req c (c.checkOrMark req' clock).2 := by
  unfold checkOrMark
  split
  · split
    · exact left_of_lookup (.inr rfl)
    · exact left_of_lookup (.inr rfl)
  · rename_i habsent
    by_cases hreq : req = req'
    · subst hreq
      obtain ⟨e, he, hreply⟩ := lookup_insert_self req none clock c
      refine .inr (.inr ⟨?_, ?_⟩)
      · rw [view, habsent]
        rfl
      · rw [view, he, map_some, hreply]
    · obtain ⟨-, -, -, hothers⟩ := insert_spec h habsent none clock
      exact left_of_lookup (hothers req hreq)

theorem left_finish (h : Consistent c) {req req' : Str} (hreq : req ≠ req') (reply : Option Str)
    (clock : Clock) : Left req c (c.finish req' reply clock) := by
  have hkept : (c.discard req').map.lookup req = c.map.lookup req := by
    rw [lookup_discard, if_neg hreq]
  unfold finish
  split
  · split
    · rename_i bytes _
      obtain ⟨-, -, -, hothers⟩ := insert_spec (consistent_discard h req') (lookup_discard_self req' c)
        (some bytes) clock
      have hothers := hothers req hreq
      rw [hkept] at hothers
      exact left_of_lookup hothers
    · exact left_of_lookup (.inr hkept)
  · exact left_of_lookup (.inr hkept)

/-- **Only `finish` settles what the cache has on a request.** -/
theorem left_call (h : Consistent c) {call : Call} {req : Str} (hother : ¬ call.Finishes req) :
    Left req c (c.call call) := by
  cases call with
  | check req' clock => exact left_checkOrMark h req req' clock
  | finish req' reply clock => exact left_finish h (Ne.symm hother) reply clock

theorem checkOrMark_hit_iff (req reply : Str) (clock : Clock) (c : Lookaside) :
    (c.checkOrMark req clock).1 = .hit reply ↔ c.view req = some (some reply) := by
  unfold checkOrMark view
  cases c.map.lookup req with
  | none => simp
  | some e =>
    rcases e with ⟨_, _ | reply', _, _⟩ <;> simp

/-! ### Runs -/

/-- The reply was the last one finished for the request, and the entry has been there since. -/
def Stands (c : Lookaside) (cs : List Call) (req reply : Str) : Prop :=
  ∃ before after clock, cs = before ++ .finish req (some reply) clock :: after ∧ reply ≠ [] ∧
    (∀ call ∈ after, ¬ call.Finishes req) ∧
    ∀ since, since <+: after →
      ((c.calls (before ++ .finish req (some reply) clock :: since)).map.lookup req).isSome = true

theorem calls_concat (c : Lookaside) (cs : List Call) (call : Call) :
    c.calls (cs ++ [call]) = (c.calls cs).call call := by
  rw [calls, foldl_append]
  rfl

theorem isSome_lookup (c : Lookaside) (req : Str) :
    (c.map.lookup req).isSome = (c.view req).isSome := by
  rw [view, isSome_map]

theorem view_of_stands (h : Consistent c) (hb : Bounded c) (hstands : c.Stands cs req reply) :
    (c.calls cs).view req = some (some reply) := by
  obtain ⟨before, after, clock, rfl, hne, hquiet, hthere⟩ := hstands
  -- call by call after the reply was finished
  induction after using reverseRecOn with
  | nil =>
    rw [calls_concat]
    show ((c.calls before).finish req (some reply) clock).view req = _
    rw [view_finish_self, filter_some, if_pos (by simpa using hne), map_some]
  | append_singleton after call ih =>
    have hbefore := ih (fun call' hmem => hquiet call' (mem_append_left _ hmem))
      fun since hsince => hthere since (hsince.trans (prefix_append _ _))
    have hcons := (keeps_calls h hb (before ++ .finish req (some reply) clock :: after)).consistent
    have hstill := hthere (after ++ [call]) (prefix_rfl)
    have hquiet' := hquiet call (mem_append_right _ (mem_singleton_self _))
    rw [← cons_append, ← append_assoc, calls_concat] at hstill ⊢
    rw [isSome_lookup] at hstill
    rcases left_call hcons hquiet' with hnone | hsame | ⟨hnone, -⟩
    · rw [hnone] at hstill
      cases hstill
    · rw [hsame, hbefore]
    · rw [hbefore] at hnone
      cases hnone

theorem stands_of_view {maxSize stale : Nat}
    (hview : ((withLimits maxSize stale).calls cs).view req = some (some reply)) :
    (withLimits maxSize stale).Stands cs req reply := by
  induction cs using reverseRecOn with
  | nil => cases hview
  | append_singleton cs call ih =>
    have hcons := (keeps_calls (consistent_withLimits maxSize stale) (.inl (Nat.zero_le _)) cs).consistent
    have hview' := hview
    rw [calls_concat] at hview'
    by_cases hfin : call.Finishes req
    · -- the last call finished the request
      cases call with
      | check => exact hfin.elim
      | finish req' reply' clock =>
        obtain rfl : req' = req := hfin
        change (Lookaside.finish req' reply' clock _).view req' = _ at hview'
        rw [view_finish_self] at hview'
        obtain ⟨bytes, hbytes, hreply⟩ := map_eq_some_iff.mp hview'
        obtain rfl := some.inj hreply
        obtain ⟨rfl, hne⟩ := filter_eq_some_iff.mp hbytes
        refine ⟨cs, [], clock, rfl, by simpa using hne, ?_, ?_⟩
        · intro call hmem
          cases hmem
        intro since hsince
        obtain rfl := prefix_nil.mp hsince
        rw [isSome_lookup, hview]
        rfl
    · rcases left_call hcons hfin with hnone | hsame | ⟨-, hmark⟩
      · rw [hnone] at hview'
        cases hview'
      · obtain ⟨before, after, clock, rfl, hne, hquiet, hthere⟩ := ih (hsame.symm.trans hview')
        refine ⟨before, after ++ [call], clock, by simp, hne, ?_, ?_⟩
        · intro call' hmem
          rcases mem_append.mp hmem with hmem | hmem
          · exact hquiet call' hmem
          · rw [mem_singleton.mp hmem]
            exact hfin
        · intro since hsince
          rcases prefix_concat_iff.mp hsince with rfl | hsince
          · rw [← cons_append, ← append_assoc, isSome_lookup, hview]
            rfl
          · exact hthere since hsince
      · rw [hmark] at hview'
        cases hview'

/-- **The lookaside cache is correct.**  After any calls, a check gives a reply exactly when that was the
last one finished for the same bytes and its entry has been there since; the total is the sum of the
sizes of the live entries, the queue lists each of them once, and the total is over the limit only when
one is left. -/
theorem lookaside_correct (maxSize stale : Nat) (cs : List Call) :
    (∀ req reply clock, ((((withLimits maxSize stale).calls cs).checkOrMark req clock).1 = .hit reply ↔
      (withLimits maxSize stale).Stands cs req reply)) ∧
    ((withLimits maxSize stale).calls cs).total
      = HashMap.sum (fun key e => sizeOf key e.reply) ((withLimits maxSize stale).calls cs).map ∧
    ((withLimits maxSize stale).calls cs).order.reduceOption.Perm
      ((withLimits maxSize stale).calls cs).map.keys ∧
    (maxSize < ((withLimits maxSize stale).calls cs).total →
      ((withLimits maxSize stale).calls cs).map.keys.length = 1) := by
  have hinit := consistent_withLimits maxSize stale
  have hbinit : Bounded (withLimits maxSize stale) := .inl (Nat.zero_le _)
  obtain ⟨hcons, hbound, hmax⟩ := keeps_calls hinit hbinit cs
  refine ⟨fun req reply clock => ?_, hcons.total, hcons.perm_keys, fun hover => ?_⟩
  · rw [checkOrMark_hit_iff]
    exact ⟨stands_of_view, view_of_stands hinit hbinit⟩
  · rw [Bounded, hmax] at hbound
    have hone := hbound.resolve_left (Nat.not_le.mpr hover)
    -- an empty cache has a total of zero
    refine le_antisymm hone (Nat.pos_of_ne_zero fun hzero => ?_)
    have hempty : ((withLimits maxSize stale).calls cs).map.entries = [] :=
      List.map_eq_nil_iff.mp (List.eq_nil_of_length_eq_zero hzero)
    rw [hcons.total, HashMap.sum, hempty] at hover
    exact absurd hover (Nat.not_lt_zero _)

end Kerber.Lookaside
