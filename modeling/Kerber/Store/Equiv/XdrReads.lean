import Kerber.Store.Equiv.IpropXdr
import Kerber.Store.Kdbe
import Mathlib.Data.List.Forall2

/-!
# Readers and the parsers that skip

A reader that takes exactly the bytes of a piece is said to read it (`Reads`); counted sequences are read
item by item, and none of the limits on their counts is met (`reads_counted`).  A skipping parser ends where
the reader does (`Follows`), and what is read does not depend on the bytes behind it (`Local`), only on how
many they are: a count is compared with what is left.  The parsers of an update are made so that both hold
(`Walks`).
-/

namespace Kerber.Store.XdrIn

open List

variable {α β γ : Type} {item : XdrIn → Except XdrError (α × XdrIn)} {piece : Str} {x : α}
  {step : XdrIn → Except XdrError XdrIn} {pieces : List Str} {min : Nat}

/-! ### Readers and what they take -/

/-- A reader takes the bytes of a piece and gives a value. -/
def Reads (item : XdrIn → Except XdrError (α × XdrIn)) (piece : Str) (x : α) : Prop :=
  ∀ rest pos, item ⟨piece ++ rest, pos⟩ = .ok (x, ⟨rest, pos + piece.length⟩)

def Skips (step : XdrIn → Except XdrError XdrIn) (piece : Str) : Prop :=
  ∀ rest pos, step ⟨piece ++ rest, pos⟩ = .ok ⟨rest, pos + piece.length⟩

theorem Reads.bind (h : Reads item piece x) (k : α × XdrIn → Except XdrError β) (rest : Str)
    (pos : Nat) : (item ⟨piece ++ rest, pos⟩ >>= k) = k (x, ⟨rest, pos + piece.length⟩) := by
  rw [h]
  rfl

theorem Skips.bind (h : Skips step piece) (k : XdrIn → Except XdrError β) (rest : Str) (pos : Nat) :
    (step ⟨piece ++ rest, pos⟩ >>= k) = k ⟨rest, pos + piece.length⟩ := by
  rw [h]
  rfl

theorem reads_u32 (n : UInt32) : Reads u32 (be32 n) n := fun rest pos => u32_append n rest pos

theorem reads_bool (b : Bool) : Reads bool (be32 (if b then 1 else 0)) b := by
  intro rest pos
  rw [bool, (reads_u32 _).bind]
  cases b <;> rfl

theorem length_xdrOpaque (s : Str) : (xdrOpaque s).length = 4 + s.length + xdrPad s.length := by
  rw [xdrOpaque, length_append, length_append, length_be32, length_replicate]

theorem reads_bytes {s : Str} (h : (xdrOpaque s).length < 2 ^ 32) : Reads bytes (xdrOpaque s) s := by
  intro rest pos
  have hs : s.length < 2 ^ 32 := by
    rw [length_xdrOpaque] at h
    omega
  rw [bytes_append hs, length_xdrOpaque, Nat.add_assoc, Nat.add_assoc, Nat.add_assoc]

theorem Reads.readAs (h : Reads item piece x) (f : α → β) : Reads (readAs f item) piece (f x) := by
  intro rest pos
  rw [Store.readAs, h.bind]
  rfl

/-! ### Counted sequences -/

theorem length_le_flatten (h : ∀ p ∈ pieces, min ≤ p.length) :
    pieces.length * min ≤ pieces.flatten.length := by
  induction pieces with
  | nil => simp
  | cons p pieces ih =>
    have hp := h p mem_cons_self
    have ih := ih fun q hq => h q (mem_cons_of_mem p hq)
    rw [length_cons, flatten_cons, length_append, Nat.succ_mul]
    omega

/-- The count of a sequence whose items are not shorter than the reader expects. -/
theorem count_putCounted (hmin : ∀ p ∈ pieces, max min 1 ≤ p.length)
    (hlen : (putCounted pieces).length < 2 ^ 32) (rest : Str) (pos : Nat) :
    count min ⟨putCounted pieces ++ rest, pos⟩
      = .ok (pieces.length, ⟨pieces.flatten ++ rest, pos + 4⟩) := by
  have hle := length_le_flatten hmin
  have hcount : pieces.length ≤ pieces.length * max min 1 :=
    Nat.le_mul_of_pos_right _ (by omega)
  rw [putCounted, putCount, length_append, length_be32] at hlen
  have htoNat : (u32OrMax pieces.length).toNat = pieces.length := by
    have hlt : pieces.length < 2 ^ 32 := by omega
    rw [u32OrMax, if_pos hlt]
    exact UInt32.toNat_ofNat_of_lt' hlt
  have hfits : ¬ (pieces.length * max min 1 > (pieces.flatten ++ rest).length) := by
    rw [length_append]
    omega
  rw [count, putCounted, putCount, append_assoc, (reads_u32 _).bind]
  dsimp only
  rw [htoNat, if_neg hfits]
  rfl

theorem length_putCounted (pieces : List Str) :
    (putCounted pieces).length = 4 + pieces.flatten.length := by
  rw [putCounted, length_append]
  rfl

theorem readMany_pieces {xs : List α} (h : List.Forall₂ (Reads item) pieces xs)
    (rest : Str) (pos : Nat) :
    readMany item pieces.length ⟨pieces.flatten ++ rest, pos⟩
      = .ok (xs, ⟨rest, pos + pieces.flatten.length⟩) := by
  induction h generalizing pos with
  | nil => rfl
  | @cons p x pieces xs hp _ ih =>
    rw [length_cons, readMany, flatten_cons, append_assoc, hp.bind]
    dsimp only
    rw [ih, length_append, Nat.add_assoc]
    rfl

/-- **A counted sequence is read item by item.** -/
theorem reads_counted {xs : List α}
    (h : List.Forall₂ (Reads item) pieces xs) (hmin : ∀ p ∈ pieces, max min 1 ≤ p.length)
    (hlen : (putCounted pieces).length < 2 ^ 32) :
    Reads (counted min item) (putCounted pieces) xs := by
  intro rest pos
  rw [counted, count_putCounted hmin hlen]
  show readMany item pieces.length _ = _
  rw [readMany_pieces h, length_putCounted, Nat.add_assoc]

theorem length_le_of_mem {p : Str} (h : p ∈ pieces) : p.length ≤ (putCounted pieces).length := by
  have hle : p.length ≤ pieces.flatten.length := (sublist_flatten_of_mem h).length_le
  rw [length_putCounted]
  omega

/-- The values of a list, each written to a piece of its own. -/
theorem reads_each {put : α → Str} {xs : List α}
    (h : ∀ x ∈ xs, (put x).length < 2 ^ 32 → Reads item (put x) x)
    (hmin : ∀ x, max min 1 ≤ (put x).length) (hlen : (putCounted (xs.map put)).length < 2 ^ 32) :
    Reads (counted min item) (putCounted (xs.map put)) xs := by
  refine reads_counted (forall₂_map_left_iff.mpr (forall₂_same.mpr fun x hx => ?_)) ?_ hlen
  · exact h x hx (Nat.lt_of_le_of_lt (length_le_of_mem (mem_map_of_mem hx)) hlen)
  · intro p hp
    obtain ⟨x, -, rfl⟩ := mem_map.mp hp
    exact hmin x

/-! ### What is read depends on the bytes that are read -/

/-- What is read, and where reading ends, is the same whatever stands behind it, if it is as long. -/
def Local (item : XdrIn → Except XdrError (α × XdrIn)) : Prop :=
  ∀ s pos x r, item ⟨s, pos⟩ = .ok (x, r) → ∃ p, s = p ++ r.rest ∧ r.pos = pos + p.length
    ∧ ∀ t, t.length = r.rest.length → item ⟨p ++ t, pos⟩ = .ok (x, ⟨t, r.pos⟩)

theorem Local.bind {k : α → XdrIn → Except XdrError (β × XdrIn)} (h : Local item)
    (h' : ∀ x, Local (k x)) : Local fun r => item r >>= fun y => k y.1 y.2 := by
  intro s pos y r hrun
  obtain ⟨⟨x, r₁⟩, hitem, hk⟩ := bind_ok hrun
  obtain ⟨p, hs, hpos, hsame⟩ := h s pos x r₁ hitem
  obtain ⟨p', hs', hpos', hsame'⟩ := h' x r₁.rest r₁.pos y r hk
  refine ⟨p ++ p', ?_, ?_, fun t ht => ?_⟩
  · rw [hs, hs', append_assoc]
  · rw [hpos', hpos, length_append]
    omega
  · have hlen : (p' ++ t).length = r₁.rest.length := by
      rw [hs', length_append, length_append, ht]
    show (item ⟨p ++ p' ++ t, pos⟩ >>= fun y => k y.1 y.2) = _
    rw [append_assoc, hsame (p' ++ t) hlen]
    exact hsame' t ht

theorem Local.value (v : Except XdrError γ)
    {k : γ → XdrIn → Except XdrError (β × XdrIn)} (h : ∀ x, Local (k x)) :
    Local fun r => v >>= fun x => k x r := by
  intro s pos y r hrun
  obtain ⟨x, rfl, hk⟩ := bind_ok hrun
  exact h x s pos y r hk

theorem local_pure (x : α) : Local fun r => .ok (x, r) := by
  intro s pos y r hrun
  cases hrun
  exact ⟨[], rfl, rfl, fun t _ => rfl⟩

theorem local_made (v : Except XdrError γ) (f : γ → β) :
    Local fun r => v >>= fun x => .ok (f x, r) :=
  Local.value v fun x => local_pure (f x)

theorem local_take (n : Nat) : Local (take n) := by
  intro s pos x r h
  rw [take] at h
  split at h
  · rename_i hle
    cases h
    refine ⟨s.take n, (take_append_drop n s).symm, ?_, fun t _ => ?_⟩
    · rw [length_take, Nat.min_eq_left hle]
    · exact take_append (by rw [length_take, Nat.min_eq_left hle]) pos
  · cases h

theorem local_u32 : Local u32 :=
  (local_take 4).bind fun s =>
    local_pure (joinBytes32 (s.getD 3 0) (s.getD 2 0) (s.getD 1 0) (s.getD 0 0))

theorem local_bool : Local bool :=
  local_u32.bind fun n => local_pure (n != 0)

theorem local_bytes : Local bytes :=
  local_u32.bind fun n => (local_take n.toNat).bind fun s =>
    (local_take (xdrPad n.toNat)).bind fun _ => local_pure s

/-- A count looks at how much is left, not at what it is. -/
theorem local_count (min : Nat) : Local (count min) := by
  have hfits : ∀ n : UInt32, Local fun r => if n.toNat * max min 1 > r.rest.length then .error .short
      else .ok (n.toNat, r) := by
    intro n s pos x r h
    dsimp only at h
    split at h
    · cases h
    · rename_i hfits
      cases h
      refine ⟨[], rfl, rfl, fun t ht => ?_⟩
      show (if n.toNat * max min 1 > t.length then _ else _) = _
      rw [ht, if_neg hfits]
      rfl
  exact local_u32.bind hfits

theorem Local.readMany (h : Local item) (n : Nat) : Local (readMany item n) := by
  induction n with
  | zero => exact local_pure []
  | succ n ih => exact h.bind fun x => ih.bind fun xs => local_pure (x :: xs)

theorem Local.counted (h : Local item) (min : Nat) : Local (counted min item) :=
  (local_count min).bind fun n => h.readMany n

/-! ### Skipping what is read -/

/-- Where the reader succeeds, the skipping parser does, and ends at the same place. -/
def Follows (step : XdrIn → Except XdrError XdrIn) (item : XdrIn → Except XdrError (α × XdrIn)) :
    Prop :=
  ∀ r x r', item r = .ok (x, r') → step r = .ok r'

theorem Follows.skips (h : Follows step item) (hreads : Reads item piece x) : Skips step piece :=
  fun rest pos => h _ _ _ (hreads rest pos)

/-- A reader and the parser that steps over what it reads. -/
def Walks (step : XdrIn → Except XdrError XdrIn) (item : XdrIn → Except XdrError (α × XdrIn)) :
    Prop :=
  Follows step item ∧ Local item

theorem Walks.bind {step' : XdrIn → Except XdrError XdrIn}
    {k : α → XdrIn → Except XdrError (β × XdrIn)} (h : Walks step item) (h' : ∀ x, Walks step' (k x)) :
    Walks (fun r => step r >>= step') fun r => item r >>= fun y => k y.1 y.2 := by
  refine ⟨fun r y r' hrun => ?_, h.2.bind fun x => (h' x).2⟩
  obtain ⟨⟨x, r₁⟩, hitem, hk⟩ := bind_ok hrun
  show (step r >>= step') = .ok r'
  rw [h.1 r x r₁ hitem]
  exact (h' x).1 r₁ y r' hk

theorem Walks.value (v : Except XdrError γ)
    {k : γ → XdrIn → Except XdrError (β × XdrIn)} (h : ∀ x, Walks step (k x)) :
    Walks step fun r => v >>= fun x => k x r := by
  refine ⟨fun r y r' hrun => ?_, Local.value v fun x => (h x).2⟩
  obtain ⟨x, -, hk⟩ := bind_ok hrun
  exact (h x).1 r y r' hk

/-- Of what was read last a value is made. -/
theorem Walks.made (h : Walks step item) (v : α → Except XdrError γ) (f : α → γ → β) :
    Walks step fun r => item r >>= fun y => v y.1 >>= fun z => .ok (f y.1 z, y.2) := by
  refine ⟨fun r y r' hrun => ?_, h.2.bind fun x => local_made (v x) (f x)⟩
  obtain ⟨⟨x, r₁⟩, hitem, hk⟩ := bind_ok hrun
  obtain ⟨z, -, hz⟩ := bind_ok hk
  cases hz
  exact h.1 r x r₁ hitem

theorem Walks.readAs (h : Walks step item) (f : α → β) : Walks step (readAs f item) :=
  h.made (fun x => .ok x) fun _ => f

theorem walks_u32 : Walks skipU32 u32 := by
  refine ⟨fun r x r' h => ?_, local_u32⟩
  rw [skipU32, h]
  rfl

theorem walks_bytes : Walks skipBytes bytes := by
  refine ⟨fun r x r' h => ?_, local_bytes⟩
  rw [skipBytes, h]
  rfl

theorem walks_bool : Walks skipU32 bool := walks_u32.readAs (· != 0)

theorem Follows.repeated (h : Follows step item) (n : Nat) :
    Follows (repeated step n) (readMany item n) := by
  induction n with
  | zero =>
    intro r xs r' hrun
    cases hrun
    rfl
  | succ n ih =>
    intro r xs r' hrun
    obtain ⟨⟨x, r₁⟩, hitem, hrest⟩ := bind_ok hrun
    obtain ⟨⟨xs', r₂⟩, hmany, hreturn⟩ := bind_ok hrest
    cases hreturn
    rw [XdrIn.repeated, h r x r₁ hitem]
    exact ih r₁ xs' r' hmany

theorem Walks.counted (h : Walks step item) (min : Nat) :
    Walks (skipCounted min step) (counted min item) := by
  refine ⟨fun r xs r' hrun => ?_, h.2.counted min⟩
  obtain ⟨⟨n, r₁⟩, hcount, hmany⟩ := bind_ok hrun
  rw [skipCounted, hcount]
  exact h.1.repeated n r₁ xs r' hmany

end Kerber.Store.XdrIn
