import Mathlib.Algebra.Order.Ring.Int
import Mathlib.Data.List.Induction

/-!
# Fallible computations

A check that may end a computation early, and how to take a successful computation apart:
`bind_ok` peels off its first step, `rejectIf_bind_ok` a check in front of the rest.  `readMany`
reads a counted sequence of items off the front of an input, and `readMany_flatMap` lifts the round
trip of one item to the sequence.
-/

namespace Kerber

open List

variable {ε α β : Type}
variable {xs : List α} {b : β} {ys : List β}

/-- Ends the computation with `e` when `cond` holds. -/
def rejectIf (cond : Bool) (e : ε) : Except ε Unit :=
  if cond then .error e else .ok ()

theorem bind_ok {x : Except ε α} {f : α → Except ε β} (h : (x >>= f) = .ok b) :
    ∃ a, x = .ok a ∧ f a = .ok b := by
  cases x with
  | error e => cases h
  | ok a => exact ⟨a, rfl, h⟩

@[simp] theorem ok_bind (a : α) (f : α → Except ε β) : (Except.ok a >>= f) = f a :=
  rfl

@[simp] theorem rejectIf_false_bind (e : ε) (f : Unit → Except ε α) :
    (rejectIf false e >>= f) = f () :=
  rfl

theorem rejectIf_ok {c : Bool} {e : ε} (h : rejectIf c e = .ok ()) : c = false := by
  cases c
  · rfl
  · cases h

/-- A computation behind a check succeeds only when the check passes. -/
theorem rejectIf_bind_ok {c : Bool} {e : ε} {f : Unit → Except ε α} {a : α}
    (h : (rejectIf c e >>= f) = .ok a) : c = false ∧ f () = .ok a := by
  cases c
  · exact ⟨rfl, h⟩
  · cases h

theorem mapError_ok {δ : Type} {x : Except ε α} {f : ε → δ} {a : α} (h : x.mapError f = .ok a) :
    x = .ok a := by
  cases x with
  | error e => cases h
  | ok b =>
    cases h
    rfl

theorem discard_ok {x : Except ε α} (h : (discard x : Except ε Unit) = .ok ()) :
    ∃ a, x = .ok a := by
  cases x with
  | error e => cases h
  | ok a => exact ⟨a, rfl⟩

theorem exists_of_isOk {x : Except ε α} (h : x.isOk = true) : ∃ a, x = .ok a := by
  cases x with
  | error e => cases h
  | ok a => exact ⟨a, rfl⟩

theorem map_ok {x : Except ε α} {f : α → β} (h : x.map f = .ok b) : ∃ a, x = .ok a ∧ f a = b := by
  cases x with
  | error e => cases h
  | ok a => exact ⟨a, rfl, Except.ok.inj h⟩

/-- What is read off a result is a fact about the value. -/
theorem map_ok_inj {x : Except ε α} {f : α → β} {a : α} (h : x = .ok a) (hf : x.map f = .ok b) :
    f a = b := by
  rw [h] at hf
  exact Except.ok.inj hf

/-- A value that had to be there. -/
theorem elim_ok {o : Option α} {e : ε} {a : α} (h : o.elim (Except.error e) .ok = .ok a) :
    o = some a := by
  cases o with
  | none => cases h
  | some b => exact congrArg some (Except.ok.inj h)

/-- A computation for each item that only changes what another gives. -/
theorem mapM_map_ok {γ : Type} {f : α → Except ε β} {g : β → γ} {ys : List γ}
    (h : (xs.mapM fun x => (f x).map g) = .ok ys) : ∃ zs, xs.mapM f = .ok zs ∧ ys = zs.map g := by
  induction xs generalizing ys with
  | nil =>
    cases h
    exact ⟨[], rfl, rfl⟩
  | cons x xs ih =>
    rw [mapM_cons] at h
    obtain ⟨y, hy, h⟩ := bind_ok h
    obtain ⟨ys', hys, h⟩ := bind_ok h
    cases h
    cases hx : f x with
    | error e =>
      rw [hx] at hy
      cases hy
    | ok z =>
      rw [hx] at hy
      cases hy
      obtain ⟨zs, hzs, rfl⟩ := ih hys
      refine ⟨z :: zs, ?_, rfl⟩
      rw [mapM_cons, hx, hzs]
      rfl

/-- What holds of every result holds of the results together. -/
theorem forall_mem_of_mapM_ok {P : β → Prop} {f : α → Except ε β} (h : xs.mapM f = .ok ys)
    (hP : ∀ x ∈ xs, ∀ y, f x = .ok y → P y) : ∀ y ∈ ys, P y := by
  induction xs generalizing ys with
  | nil =>
    cases h
    exact fun _ h => nomatch h
  | cons x xs ih =>
    rw [mapM_cons] at h
    obtain ⟨y, hy, h⟩ := bind_ok h
    obtain ⟨ys', hys, h⟩ := bind_ok h
    cases h
    intro z hz
    rcases mem_cons.mp hz with rfl | hz
    · exact hP x mem_cons_self _ hy
    · exact ih hys (fun w hw => hP w (mem_cons_of_mem _ hw)) z hz

theorem length_of_mapM_ok {f : α → Except ε β} (h : xs.mapM f = .ok ys) :
    ys.length = xs.length := by
  induction xs generalizing ys with
  | nil =>
    cases h
    rfl
  | cons x xs ih =>
    rw [mapM_cons] at h
    obtain ⟨y, -, h⟩ := bind_ok h
    obtain ⟨ys', hys, h⟩ := bind_ok h
    cases h
    exact congrArg (· + 1) (ih hys)

/-- A computation for each index that finds the items of a list. -/
theorem mapM_range_ok {f : Nat → Except ε α}
    (h : ∀ ys x zs, xs = ys ++ x :: zs → f ys.length = .ok x) :
    (range xs.length).mapM f = .ok xs := by
  suffices hsuff : ∀ ys zs, xs = ys ++ zs → (range ys.length).mapM f = .ok ys from
    hsuff xs [] (append_nil xs).symm
  intro ys
  induction ys using reverseRecOn with
  | nil => exact fun _ _ => rfl
  | append_singleton ys y ih =>
    intro zs hxs
    rw [append_assoc] at hxs
    have hlast := h ys y zs hxs
    rw [length_append, length_singleton, range_succ, mapM_append,
      ih _ hxs, mapM_cons, hlast]
    rfl

/-! ### Counted items -/

/-- `n` items off the front of an input. -/
def readMany {σ : Type} (item : σ → Except ε (α × σ)) : Nat → σ → Except ε (List α × σ)
  | 0, rest => .ok ([], rest)
  | n + 1, rest => do
    let (x, rest) ← item rest
    let (xs, rest) ← readMany item n rest
    return (x :: xs, rest)

/-- **Items read back one by one read back together.** -/
theorem readMany_flatMap {τ : Type} {item : List τ → Except ε (α × List τ)} {enc : α → List τ}
    (h : ∀ x ∈ xs, ∀ rest, item (enc x ++ rest) = .ok (x, rest)) (rest : List τ) :
    readMany item xs.length (xs.flatMap enc ++ rest) = .ok (xs, rest) := by
  induction xs with
  | nil => rfl
  | cons x xs ih =>
    have hitem := h x mem_cons_self (xs.flatMap enc ++ rest)
    have hrest := ih fun y hy => h y (mem_cons_of_mem _ hy)
    rw [length_cons, flatMap_cons, append_assoc, readMany, hitem]
    show (readMany item xs.length (xs.flatMap enc ++ rest) >>= _) = _
    rw [hrest]
    rfl

end Kerber
