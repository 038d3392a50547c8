import Mathlib.Data.List.Nodup
import Mathlib.Data.Set.Insert

/-!
# Machines that take or refuse their inputs

A machine takes one input after the other and gives something out for each one that it takes.  A
relation between the states and the sets of outputs says what a state has on record.  When one step
keeps the relation (`Tracks`), the outputs of a run are related as the step demands
(`Tracks.pairwise`; no two are the same, for one), and the last state has them on record
(`Tracks.after`).
-/

namespace Kerber

open List

variable {σ α β : Type}

/-- A step: the output, if the input is taken, and the next state. -/
abbrev Machine (σ α β : Type) := σ → α → Option β × σ

namespace Machine

/-- The state after some inputs. -/
def after (m : Machine σ α β) : σ → List α → σ
  | s, [] => s
  | s, a :: as => m.after (m s a).2 as

def outputs (m : Machine σ α β) : σ → List α → List β
  | _, [] => []
  | s, a :: as => (m s a).1.toList ++ m.outputs (m s a).2 as

/-- Every input meets a condition in the state that it arrives in. -/
def Legal (m : Machine σ α β) (ok : σ → α → Prop) : σ → List α → Prop
  | _, [] => True
  | s, a :: as => ok s a ∧ m.Legal ok (m s a).2 as

variable {m : Machine σ α β} {s : σ} {a : α} {b : β} {as : List α}

theorem outputs_cons_of_some (h : (m s a).1 = some b) :
    m.outputs s (a :: as) = b :: m.outputs (m s a).2 as := by
  rw [outputs, h]
  rfl

theorem outputs_cons_of_none (h : (m s a).1 = none) :
    m.outputs s (a :: as) = m.outputs (m s a).2 as := by
  rw [outputs, h]
  rfl

theorem mem_outputs_cons (h : (m s a).1 = some b) : b ∈ m.outputs s (a :: as) := by
  rw [outputs_cons_of_some h]
  exact mem_cons_self

theorem exists_of_mem_outputs (h : b ∈ m.outputs s as) : ∃ a ∈ as, ∃ s', (m s' a).1 = some b := by
  induction as generalizing s with
  | nil => exact absurd h not_mem_nil
  | cons a as ih =>
    rcases mem_append.mp h with h | h
    · exact ⟨a, mem_cons_self, s, Option.mem_toList.mp h⟩
    · obtain ⟨a', ha', hout⟩ := ih h
      exact ⟨a', mem_cons_of_mem a ha', hout⟩

/-- A condition on the inputs alone. -/
theorem legal_of_forall {ok : α → Prop} (h : ∀ a ∈ as, ok a) (s : σ) :
    m.Legal (fun _ => ok) s as := by
  induction as generalizing s with
  | nil => trivial
  | cons a as ih =>
    exact ⟨h a mem_cons_self, ih (fun b hb => h b (mem_cons_of_mem a hb)) _⟩

/-- Inputs in the order of their time, for a machine that keeps the time of its last input. -/
theorem legal_of_sorted {ok : α → Prop} {clock : σ → Nat} {time : α → Nat}
    (hclock : ∀ s a, clock (m s a).2 = time a) (hsorted : as.Pairwise fun a b => time a ≤ time b)
    (hok : ∀ a ∈ as, ok a) (hstart : ∀ a ∈ as, clock s ≤ time a) :
    m.Legal (fun s a => clock s ≤ time a ∧ ok a) s as := by
  induction as generalizing s with
  | nil => trivial
  | cons a as ih =>
    rw [pairwise_cons] at hsorted
    refine ⟨⟨hstart a mem_cons_self, hok a mem_cons_self⟩, ?_⟩
    apply ih hsorted.2
    · intro b hb
      exact hok b (mem_cons_of_mem a hb)
    · intro b hb
      rw [hclock]
      exact hsorted.1 b hb

end Machine

/-- **The law of a step.**  The outputs on record are related to a new one, which then is on record
too; an input that is refused leaves the record as it is. -/
structure Tracks (m : Machine σ α β) (ok : σ → α → Prop) (P : β → β → Prop)
    (R : σ → Set β → Prop) : Prop where
  takes : ∀ {s seen a b}, R s seen → ok s a → (m s a).1 = some b →
    (∀ k ∈ seen, P k b) ∧ R (m s a).2 (insert b seen)
  refuses : ∀ {s seen a}, R s seen → ok s a → (m s a).1 = none → R (m s a).2 seen

namespace Tracks

variable {m : Machine σ α β} {ok : σ → α → Prop} {P : β → β → Prop} {R : σ → Set β → Prop} {s : σ}
  {seen : Set β} {as : List α} (h : Tracks m ok P R) (hs : R s seen) (hok : m.Legal ok s as)

include h hs hok

theorem pairwise_of : (m.outputs s as).Pairwise P ∧ ∀ b ∈ m.outputs s as, ∀ k ∈ seen, P k b := by
  induction as generalizing s seen with
  | nil => exact ⟨List.Pairwise.nil, fun b hb => absurd hb not_mem_nil⟩
  | cons a as ih =>
    obtain ⟨hoka, hokas⟩ := hok
    cases ha : (m s a).1 with
    | some b =>
      obtain ⟨hnew, hnext⟩ := h.takes hs hoka ha
      obtain ⟨hpair, hrel⟩ := ih hnext hokas
      rw [Machine.outputs_cons_of_some ha]
      constructor
      · rw [pairwise_cons]
        exact ⟨fun c hc => hrel c hc b (Set.mem_insert _ _), hpair⟩
      · intro c hc k hk
        rcases mem_cons.mp hc with rfl | hc
        · exact hnew k hk
        · exact hrel c hc k (Set.mem_insert_of_mem _ hk)
    | none =>
      rw [Machine.outputs_cons_of_none ha]
      exact ih (h.refuses hs hoka ha) hokas

/-- **The outputs of a run**, each related to those after it. -/
theorem pairwise : (m.outputs s as).Pairwise P :=
  (h.pairwise_of hs hok).1

/-- **What is on record after a run.** -/
theorem after : R (m.after s as) (seen ∪ {b | b ∈ m.outputs s as}) := by
  induction as generalizing s seen with
  | nil =>
    have hnone : {b | b ∈ m.outputs s []} = (∅ : Set β) := by
      ext b
      exact iff_of_false not_mem_nil (Set.notMem_empty b)
    rw [hnone, Set.union_empty]
    exact hs
  | cons a as ih =>
    obtain ⟨hoka, hokas⟩ := hok
    cases ha : (m s a).1 with
    | some b =>
      have hrest := ih (h.takes hs hoka ha).2 hokas
      have hrecord : seen ∪ {c | c ∈ m.outputs s (a :: as)}
          = insert b seen ∪ {c | c ∈ m.outputs (m s a).2 as} := by
        ext c
        rw [Machine.outputs_cons_of_some ha]
        simp only [mem_cons, Set.mem_union, Set.mem_ofPred_eq, Set.mem_insert_iff]
        tauto
      rw [hrecord]
      exact hrest
    | none =>
      rw [Machine.outputs_cons_of_none ha]
      exact ih (h.refuses hs hoka ha) hokas

end Tracks

end Kerber
