import Mathlib.Data.List.Forall2

/-!
# Reading what was written

A reader takes bytes from an input and knows how many there were before; a writer adds bytes to what it
holds.  `ReadsBack` says that a reader takes exactly the bytes a writer added, as far as it does not
fail; `ReadsBack.bind` puts readers and writers together step by step.  `Ensures` says what holds of
all that a reader gives.
-/

namespace Kerber

open List

/-- The bytes that are left, and the number of those before. -/
structure Input where
  pos : Nat
  rest : List UInt8

abbrev ByteReader (ε α : Type) := StateT Input (Except ε) α

variable {σ ε α β γ : Type}

namespace ByteReader

def times (r : ByteReader ε α) : Nat → ByteReader ε (List α)
  | 0 => pure []
  | n + 1 => do
    let x ← r
    let xs ← times r n
    return x :: xs

def each (r : α → ByteReader ε β) : List α → ByteReader ε (List β)
  | [] => pure []
  | a :: as => do
    let x ← r a
    let xs ← each r as
    return x :: xs

theorem times_eq_each (r : ByteReader ε α) (as : List β) : r.times as.length = each (fun _ => r) as := by
  induction as with
  | nil => rfl
  | cons a as ih => rw [length_cons, times, each, ih]

theorem run_bind_ok {r : ByteReader ε α} {k : α → ByteReader ε β} {s : Input} {out : β × Input}
    (h : (r >>= k).run s = .ok out) :
    ∃ x s', r.run s = .ok (x, s') ∧ (k x).run s' = .ok out := by
  rw [StateT.run_bind] at h
  cases hr : r.run s with
  | error e =>
    rw [hr] at h
    cases h
  | ok xs =>
    rw [hr] at h
    exact ⟨xs.1, xs.2, rfl, h⟩

end ByteReader

/-! ### What a reader gives -/

def Ensures (r : ByteReader ε α) (P : α → Prop) : Prop :=
  ∀ s x s', r.run s = .ok (x, s') → P x

namespace Ensures

variable {P : α → Prop} {Q : β → Prop} {r : ByteReader ε α} {k : α → ByteReader ε β}

theorem bind (hr : Ensures r P) (hk : ∀ x, P x → Ensures (k x) Q) : Ensures (r >>= k) Q := by
  intro s y s' h
  obtain ⟨x, s₁, hx, hy⟩ := ByteReader.run_bind_ok h
  exact hk x (hr s x s₁ hx) s₁ y s' hy

theorem skip (hk : ∀ x, Ensures (k x) Q) : Ensures (r >>= k) Q :=
  bind (P := fun _ => True) (fun _ _ _ _ => trivial) fun x _ => hk x

theorem mono {P' : α → Prop} (hr : Ensures r P) (h : ∀ x, P x → P' x) : Ensures r P' :=
  fun s x s' hrun => h x (hr s x s' hrun)

theorem pure {x : α} (h : P x) : Ensures (Pure.pure x : ByteReader ε α) P := by
  intro s y s' hy
  cases hy
  exact h

theorem throw {e : ε} : Ensures (MonadExcept.throw e : ByteReader ε α) P := by
  intro s y s' hy
  cases hy

theorem ite {c : Prop} [Decidable c] {r' : ByteReader ε α} (ht : c → Ensures r P)
    (hf : ¬ c → Ensures r' P) : Ensures (if c then r else r') P := by
  split
  · exact ht (by assumption)
  · exact hf (by assumption)

theorem each (as : List α) (hr : ∀ a ∈ as, Ensures (k a) Q) :
    Ensures (ByteReader.each k as) fun xs => xs.length = as.length ∧ ∀ x ∈ xs, Q x := by
  induction as with
  | nil => exact .pure ⟨rfl, fun x hx => absurd hx not_mem_nil⟩
  | cons a as ih =>
    have htail := ih fun b hb => hr b (mem_cons_of_mem a hb)
    refine (hr a mem_cons_self).bind fun x hx => htail.bind fun xs ⟨hlen, hxs⟩ => .pure ⟨?_, ?_⟩
    · rw [length_cons, length_cons, hlen]
    · exact forall_mem_cons.mpr ⟨hx, hxs⟩

theorem times (hr : Ensures r P) (n : Nat) :
    Ensures (r.times n) fun xs => xs.length = n ∧ ∀ x ∈ xs, P x := by
  have heach := each (replicate n ()) fun _ _ => hr
  rwa [← ByteReader.times_eq_each, length_replicate] at heach

end Ensures

/-! ### Reading back -/

/-- A reader that starts where a writer did, and does not fail, stops where the writer stopped. -/
def ReadsBack (bytes : σ → List UInt8) (live : σ → Prop) (r : ByteReader ε α) (w w' : σ) (P : α → Prop) :
    Prop :=
  live w → live w' ∧ ∃ piece, bytes w' = bytes w ++ piece ∧ ∀ rest x s,
    r.run ⟨(bytes w).length, piece ++ rest⟩ = .ok (x, s) → P x ∧ s = ⟨(bytes w').length, rest⟩

namespace ReadsBack

variable {bytes : σ → List UInt8} {live : σ → Prop} {r : ByteReader ε α} {k : α → ByteReader ε β} {w w' w'' : σ}
  {P : α → Prop} {Q : β → Prop}

/-- **Step by step.** -/
theorem bind (hr : ReadsBack bytes live r w w' P) (hk : ∀ x, P x → ReadsBack bytes live (k x) w' w'' Q)
    (hx : ∃ x, P x) : ReadsBack bytes live (r >>= k) w w'' Q := by
  intro hw
  obtain ⟨hw', piece, hpiece, hread⟩ := hr hw
  obtain ⟨x₀, hx₀⟩ := hx
  obtain ⟨hw'', piece₂, hpiece₂, -⟩ := hk x₀ hx₀ hw'
  refine ⟨hw'', piece ++ piece₂, ?_, fun rest y s hrun => ?_⟩
  · rw [hpiece₂, hpiece, append_assoc]
  · obtain ⟨x, s', hrun, hrun₂⟩ := ByteReader.run_bind_ok hrun
    rw [append_assoc] at hrun
    obtain ⟨hx, rfl⟩ := hread _ x s' hrun
    -- the second reader is given the same bytes, whatever the first one gave
    obtain ⟨-, piece', hpiece', hread'⟩ := hk x hx hw'
    rw [hpiece₂] at hpiece'
    rw [append_cancel_left hpiece'] at hrun₂
    exact hread' rest y s hrun₂

theorem step {x : α} (hr : ReadsBack bytes live r w w' (· = x))
    (hk : ReadsBack bytes live (k x) w' w'' Q) : ReadsBack bytes live (r >>= k) w w'' Q :=
  hr.bind (fun y hy => by rw [hy]; exact hk) ⟨x, rfl⟩

theorem pure {x : α} (h : P x) : ReadsBack bytes live (Pure.pure x : ByteReader ε α) w w P := by
  intro hw
  refine ⟨hw, [], (append_nil _).symm, fun rest y s hrun => ?_⟩
  cases hrun
  exact ⟨h, rfl⟩

theorem mono {P' : α → Prop} (hr : ReadsBack bytes live r w w' P) (h : ∀ x, P x → P' x) :
    ReadsBack bytes live r w w' P' := by
  intro hw
  obtain ⟨hw', piece, hpiece, hread⟩ := hr hw
  refine ⟨hw', piece, hpiece, fun rest x s hrun => ?_⟩
  obtain ⟨hx, hs⟩ := hread rest x s hrun
  exact ⟨h x hx, hs⟩

theorem fails (hw : live w → live w' ∧ ∃ piece, bytes w' = bytes w ++ piece)
    (h : ∀ s out, r.run s ≠ .ok out) : ReadsBack bytes live r w w' P := by
  intro hlive
  obtain ⟨hw', piece, hpiece⟩ := hw hlive
  exact ⟨hw', piece, hpiece, fun rest x s hrun => absurd hrun (h _ _)⟩

theorem exists_forall₂ {R : γ → α → Prop} {cs : List γ} (h : ∀ c ∈ cs, ∃ x, R c x) :
    ∃ xs, List.Forall₂ R cs xs := by
  induction cs with
  | nil => exact ⟨[], .nil⟩
  | cons c cs ih =>
    obtain ⟨x, hx⟩ := h c mem_cons_self
    obtain ⟨xs, hxs⟩ := ih fun c' hc' => h c' (mem_cons_of_mem c hc')
    exact ⟨x :: xs, .cons hx hxs⟩

/-- A list that is written item by item. -/
theorem each {put : σ → γ → σ} {R : γ → α → Prop} {S : γ → β → Prop} {cs : List γ} {as : List α}
    (has : List.Forall₂ R cs as)
    (hr : ∀ c ∈ cs, ∀ a w, R c a → ReadsBack bytes live (k a) w (put w c) (S c))
    (hS : ∀ c ∈ cs, ∃ x, S c x) :
    ReadsBack bytes live (ByteReader.each k as) w (cs.foldl put w) (List.Forall₂ S cs) := by
  induction has generalizing w with
  | nil => exact .pure .nil
  | @cons c a cs as hca _ ih =>
    have hScs : ∀ c' ∈ cs, ∃ x, S c' x := fun c' hc' => hS c' (mem_cons_of_mem c hc')
    have hcs := ih (w := put w c) (fun c' hc' => hr c' (mem_cons_of_mem c hc')) hScs
    refine (hr c mem_cons_self a w hca).bind (fun x hx => ?_) (hS c mem_cons_self)
    exact hcs.bind (fun xs hxs => .pure (.cons hx hxs)) (exists_forall₂ hScs)

theorem times {put : σ → γ → σ} {R : γ → α → Prop} {r : ByteReader ε α} (cs : List γ)
    (hr : ∀ c ∈ cs, ∀ w, ReadsBack bytes live r w (put w c) (R c)) (hR : ∀ c ∈ cs, ∃ x, R c x) :
    ReadsBack bytes live (r.times cs.length) w (cs.foldl put w) (List.Forall₂ R cs) := by
  have hsame : List.Forall₂ (fun _ _ => True) cs cs := forall₂_same.mpr fun _ _ => trivial
  rw [ByteReader.times_eq_each]
  exact each hsame (fun c hc _ w _ => hr c hc w) hR

end ReadsBack

end Kerber
