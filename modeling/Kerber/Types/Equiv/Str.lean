import Kerber.Types.Str
import Mathlib.Data.List.TakeWhile

/-!
# UTF-8

A text that is UTF-8 is one character after another (`isUtf8_induction`), and
`String::from_utf8_lossy` leaves it as it is (`fromUtf8Lossy_eq_self`).  An ASCII byte is always a
character of its own, so whatever stands before it is read without it
(`fromUtf8Lossy_append_ascii`).
-/

namespace Kerber

open List

variable {a : UInt8} {s : Str} {n : Nat}
variable {b : UInt8} {P : Str → Prop}

/-! ### The front of a text -/

/-- How many bytes a character that begins with a byte takes; 0 when none does. -/
def utf8Need (a : UInt8) : Nat :=
  if a < 0x80 then 1
  else if 0xC2 ≤ a && a ≤ 0xDF then 2
  else if 0xE0 ≤ a && a ≤ 0xEF then 3
  else if 0xF0 ≤ a && a ≤ 0xF4 then 4
  else 0

def isContinuation (b : UInt8) : Bool := 0x80 ≤ b && b ≤ 0xBF

/-- Which second bytes a first one allows. -/
def utf8Second (a b : UInt8) : Bool :=
  if a == 0xE0 then 0xA0 ≤ b && b ≤ 0xBF
  else if a == 0xED then 0x80 ≤ b && b ≤ 0x9F
  else if a == 0xF0 then 0x90 ≤ b && b ≤ 0xBF
  else if a == 0xF4 then 0x80 ≤ b && b ≤ 0x8F
  else isContinuation b

/-- The continuations behind the second byte. -/
def utf8More (n : Nat) (rest : Str) : Str :=
  (rest.take n).takeWhile isContinuation

theorem utf8Head_need_zero (h : utf8Need a = 0) (rest : Str) :
    utf8Head (a :: rest) = (1, false) := by
  show (match utf8Need a, rest with | 0, _ => _ | 1, _ => _ | _, _ :: _ => _ | _, [] => _) = _
  rw [h]
  rfl

theorem utf8Head_need_one (h : utf8Need a = 1) (rest : Str) : utf8Head (a :: rest) = (1, true) := by
  show (match utf8Need a, rest with | 0, _ => _ | 1, _ => _ | _, _ :: _ => _ | _, [] => _) = _
  rw [h]
  rfl

theorem utf8Head_single (h : utf8Need a = n + 2) : utf8Head [a] = (1, false) := by
  rw [utf8Need] at h
  simp only [utf8Head, h]

theorem utf8Head_multi (h : utf8Need a = n + 2) (b : UInt8) (rest : Str) :
    utf8Head (a :: b :: rest)
      = if !utf8Second a b then (1, false)
        else if (utf8More n rest).length = n then (n + 2, true)
        else (2 + (utf8More n rest).length, false) := by
  rw [utf8Need] at h
  simp only [utf8Head, h]
  rfl

theorem utf8Need_eq_one (h : a < 0x80) : utf8Need a = 1 :=
  if_pos h

theorem le_of_utf8Need (h : utf8Need a = n + 2) : 0x80 ≤ a := by
  unfold utf8Need at h
  grind

theorem le_of_utf8Second (h : utf8Second a b = true) : 0x80 ≤ b := by
  unfold utf8Second isContinuation at h
  grind

theorem le_of_isContinuation (h : isContinuation b = true) : 0x80 ≤ b := by
  unfold isContinuation at h
  grind

theorem utf8More_append {rest : Str} (hlen : rest.length = n)
    (h : ∀ b ∈ rest, isContinuation b = true) (t : Str) : utf8More n (rest ++ t) = rest := by
  rw [utf8More, ← hlen, take_left]
  exact takeWhile_eq_self_iff.mpr h

/-! ### Characters -/

/-- The bytes of one character, as `Utf8Chunks` takes them off the front of a text. -/
structure IsChar (ch : Str) : Prop where
  ne_nil : ch ≠ []
  head : ∀ t, utf8Head (ch ++ t) = (ch.length, true)
  ascii : (∃ a, a < 0x80 ∧ ch = [a]) ∨ ∀ b ∈ ch, 0x80 ≤ b

theorem isChar_ascii (h : a < 0x80) : IsChar [a] := by
  refine ⟨by simp, fun t => ?_, .inl ⟨a, h, rfl⟩⟩
  exact utf8Head_need_one (utf8Need_eq_one h) t

theorem isChar_multi {rest : Str} (hneed : utf8Need a = rest.length + 2)
    (hsecond : utf8Second a b = true) (hrest : ∀ c ∈ rest, isContinuation c = true) :
    IsChar (a :: b :: rest) := by
  refine ⟨by simp, fun t => ?_, .inr ?_⟩
  · have hhead := utf8Head_multi hneed b (rest ++ t)
    rw [utf8More_append rfl hrest, hsecond] at hhead
    simpa using hhead
  · intro c hc
    rcases mem_cons.mp hc with rfl | hc
    · exact le_of_utf8Need hneed
    · rcases mem_cons.mp hc with rfl | hc
      · exact le_of_utf8Second hsecond
      · exact le_of_isContinuation (hrest c hc)

theorem utf8Need_cases (a : UInt8) : utf8Need a = 0 ∨ utf8Need a = 1 ∨ ∃ n, utf8Need a = n + 2 := by
  rcases hneed : utf8Need a with _ | _ | n
  · exact .inl rfl
  · exact .inr (.inl rfl)
  · exact .inr (.inr ⟨n, rfl⟩)

theorem length_utf8More_le (n : Nat) (rest : Str) : (utf8More n rest).length ≤ rest.length := by
  refine Nat.le_trans ( takeWhile_prefix _).length_le ?_
  rw [length_take]
  exact Nat.min_le_right _ _

/-- What is at the front of a text: no character, or one of one byte or more. -/
theorem utf8Head_cases (a : UInt8) (rest : Str) :
    (∃ k, utf8Head (a :: rest) = (k + 1, false) ∧ k ≤ rest.length) ∨
    (utf8Need a = 1 ∧ utf8Head (a :: rest) = (1, true)) ∨
    ∃ b cs t, rest = b :: (cs ++ t) ∧ utf8Need a = cs.length + 2 ∧ utf8Second a b = true ∧
      (∀ c ∈ cs, isContinuation c = true) ∧ utf8Head (a :: rest) = (cs.length + 2, true) := by
  rcases utf8Need_cases a with hneed | hneed | ⟨n, hneed⟩
  · exact .inl ⟨0, utf8Head_need_zero hneed rest, Nat.zero_le _⟩
  · exact .inr (.inl ⟨hneed, utf8Head_need_one hneed rest⟩)
  cases rest with
  | nil => exact .inl ⟨0, utf8Head_single hneed, Nat.le_refl _⟩
  | cons b rest =>
    have hhead := utf8Head_multi hneed b rest
    have hle := length_utf8More_le n rest
    split at hhead
    · exact .inl ⟨0, hhead, Nat.zero_le _⟩
    rename_i hsecond
    split at hhead
    · rename_i hmore
      have hlen : (rest.take n).length = n := by
        rw [length_take]
        omega
      refine .inr (.inr ⟨b, rest.take n, rest.drop n, by rw [take_append_drop], by rw [hlen, hneed],
        by simpa using hsecond, ?_, by rw [hlen, hhead]⟩)
      -- as many continuations as there are bytes
      exact takeWhile_eq_self_iff.mp
        (( takeWhile_prefix _).eq_of_length (hmore.trans hlen.symm))
    · refine .inl ⟨_, hhead.trans (by rw [Nat.add_comm 2]), ?_⟩
      rw [length_cons]
      omega

theorem utf8Head_bounds (a : UInt8) (rest : Str) :
    0 < (utf8Head (a :: rest)).1 ∧ (utf8Head (a :: rest)).1 ≤ (a :: rest).length := by
  rcases utf8Head_cases a rest with ⟨k, hhead, hle⟩ | ⟨-, hhead⟩ | ⟨b, cs, t, rfl, -, -, -, hhead⟩
  · rw [hhead]
    exact ⟨Nat.succ_pos k, Nat.succ_le_succ hle⟩
  · rw [hhead]
    exact ⟨Nat.one_pos, Nat.succ_pos _⟩
  · rw [hhead]
    simp

/-- Induction along the steps of the decoder, each of which takes a byte. -/
theorem utf8Chunks_induction (nil : P [])
    (step : ∀ a rest, P ((a :: rest).drop (utf8Head (a :: rest)).1) → P (a :: rest)) (s : Str) : P s := by
  induction hn : s.length using Nat.strong_induction_on generalizing s with
  | _ n ih =>
    cases s with
    | nil => exact nil
    | cons a rest =>
      have hpos := (utf8Head_bounds a rest).1
      refine step a rest (ih _ ?_ _ rfl)
      rw [length_drop, hn]
      rw [length_cons] at hn
      omega

/-- **A text in UTF-8 is one character after another.** -/
theorem isUtf8_induction (nil : P [])
    (char : ∀ ch rest, IsChar ch → isUtf8 rest = true → P rest → P (ch ++ rest))
    (h : isUtf8 s = true) : P s := by
  fun_induction isUtf8 s with
  | case1 => exact nil
  | case2 a rest ha ih => exact char [a] rest (isChar_ascii ha) h (ih h)
  | case3 a cont ha b rest ha2 ih =>
    rw [Bool.and_eq_true] at h
    refine char [a, b] rest (isChar_multi ?_ ?_ (by simp)) h.2 (ih h.2)
    · unfold utf8Need
      grind
    · unfold utf8Second isContinuation
      grind
  | case4 | case5 | case6 =>
    rename_i ih
    simp only [Bool.and_eq_true] at h
    refine char [_, _, _] _ (isChar_multi ?_ ?_ ?_) h.2 (ih h.2)
    · unfold utf8Need
      grind
    · unfold utf8Second isContinuation
      grind
    · unfold isContinuation
      grind
  | case7 | case8 | case9 =>
    rename_i ih
    simp only [Bool.and_eq_true] at h
    refine char [_, _, _, _] _ (isChar_multi ?_ ?_ ?_) h.2 (ih h.2)
    · unfold utf8Need
      grind
    · unfold utf8Second isContinuation
      grind
    · unfold isContinuation
      grind
  | case10 | case11 | case12 | case13 => cases h

/-! ### `String::from_utf8_lossy` -/

/-- What a step of the decoder writes. -/
def utf8Chunk (s : Str) : Str :=
  if (utf8Head s).2 then s.take (utf8Head s).1 else [0xEF, 0xBF, 0xBD]

theorem fromUtf8Lossy_go_succ (fuel : Nat) (a : UInt8) (rest : Str) :
    fromUtf8Lossy.go (fuel + 1) (a :: rest)
      = utf8Chunk (a :: rest)
        ++ fromUtf8Lossy.go fuel ((a :: rest).drop (utf8Head (a :: rest)).1) := by
  rw [fromUtf8Lossy.go, utf8Chunk]
  · rcases utf8Head (a :: rest) with ⟨n, _ | _⟩ <;> rfl
  · exact cons_ne_nil a rest

theorem fromUtf8Lossy_go_of_le {fuel : Nat} (h : s.length ≤ fuel) :
    fromUtf8Lossy.go fuel s = fromUtf8Lossy s := by
  -- more steps than bytes change nothing
  induction s using utf8Chunks_induction generalizing fuel with
  | nil => cases fuel <;> rfl
  | step a rest ih =>
    rw [length_cons] at h
    obtain ⟨fuel, rfl⟩ : ∃ k, fuel = k + 1 := ⟨fuel - 1, by omega⟩
    have hpos := (utf8Head_bounds a rest).1
    have hle : ((a :: rest).drop (utf8Head (a :: rest)).1).length ≤ rest.length := by
      rw [length_drop, length_cons]
      omega
    rw [fromUtf8Lossy, length_cons, fromUtf8Lossy_go_succ, fromUtf8Lossy_go_succ,
      ih (Nat.le_trans hle (Nat.le_of_succ_le_succ h)), ih hle]

/-- The decoder, one step. -/
theorem fromUtf8Lossy_cons (a : UInt8) (rest : Str) :
    fromUtf8Lossy (a :: rest)
      = utf8Chunk (a :: rest) ++ fromUtf8Lossy ((a :: rest).drop (utf8Head (a :: rest)).1) := by
  have hpos := (utf8Head_bounds a rest).1
  rw [fromUtf8Lossy, length_cons, fromUtf8Lossy_go_succ, fromUtf8Lossy_go_of_le]
  rw [length_drop, length_cons]
  omega

theorem fromUtf8Lossy_char {ch : Str} (h : IsChar ch) (t : Str) :
    fromUtf8Lossy (ch ++ t) = ch ++ fromUtf8Lossy t := by
  obtain ⟨a, rest, rfl⟩ := exists_cons_of_ne_nil h.ne_nil
  have hhead := h.head t
  rw [cons_append] at hhead
  rw [cons_append, fromUtf8Lossy_cons, utf8Chunk, hhead, if_pos rfl, ← cons_append,
    take_left, drop_left]

theorem fromUtf8Lossy_ascii (h : a < 0x80) (t : Str) :
    fromUtf8Lossy (a :: t) = a :: fromUtf8Lossy t :=
  fromUtf8Lossy_char (isChar_ascii h) t

/-- **UTF-8 is left as it is.** -/
theorem fromUtf8Lossy_eq_self (h : isUtf8 s = true) : fromUtf8Lossy s = s := by
  refine isUtf8_induction (P := fun s => fromUtf8Lossy s = s) rfl ?_ h
  intro ch rest hch _ ih
  rw [fromUtf8Lossy_char hch, ih]

/-- One character after another. -/
def IsText (s : Str) : Prop :=
  ∃ chars : List Str, (∀ ch ∈ chars, IsChar ch) ∧ s = chars.flatten

theorem isText_nil : IsText [] := ⟨[], fun _ h => (nomatch h), rfl⟩

theorem IsText.push {ch : Str} (hs : IsText s) (hch : IsChar ch) : IsText (s ++ ch) := by
  obtain ⟨chars, hchars, rfl⟩ := hs
  refine ⟨chars ++ [ch], ?_, by simp⟩
  exact forall_mem_append.mpr ⟨hchars, fun c hc => mem_singleton.mp hc ▸ hch⟩

/-- **A text is left as it is.** -/
theorem IsText.fromUtf8Lossy_eq (h : IsText s) : fromUtf8Lossy s = s := by
  obtain ⟨chars, hchars, rfl⟩ := h
  induction chars with
  | nil => rfl
  | cons ch chars ih =>
    rw [flatten_cons, fromUtf8Lossy_char (hchars ch mem_cons_self),
      ih fun c hc => hchars c (mem_cons_of_mem ch hc)]

/-! ### An ASCII byte behind a text -/

section Behind

variable (hb : b < 0x80)

include hb

theorem utf8Second_ascii (a : UInt8) : utf8Second a b = false := by
  unfold utf8Second isContinuation
  grind

theorem isContinuation_ascii : isContinuation b = false := by
  unfold isContinuation
  grind

theorem utf8More_append_ascii (n : Nat) (rest t : Str) :
    utf8More n (rest ++ b :: t) = utf8More n rest := by
  induction rest generalizing n with
  | nil =>
    cases n with
    | zero => rfl
    | succ n => simp [utf8More, isContinuation_ascii hb]
  | cons c rest ih =>
    cases n with
    | zero => rfl
    | succ n =>
      have ih := ih n
      simp only [utf8More, cons_append, take_succ_cons, takeWhile_cons] at ih ⊢
      rw [ih]

theorem utf8Head_append_ascii (a : UInt8) (rest t : Str) :
    utf8Head (a :: rest ++ b :: t) = utf8Head (a :: rest) := by
  rw [cons_append]
  rcases utf8Need_cases a with h | h | ⟨n, h⟩
  · rw [utf8Head_need_zero h, utf8Head_need_zero h]
  · rw [utf8Head_need_one h, utf8Head_need_one h]
  · cases rest with
    | nil => rw [nil_append, utf8Head_multi h, utf8Second_ascii hb, utf8Head_single h]; rfl
    | cons c rest =>
      rw [cons_append, utf8Head_multi h, utf8Head_multi h, utf8More_append_ascii hb]

end Behind

/-- **What stands before an ASCII byte is read without it.** -/
theorem fromUtf8Lossy_append_ascii (hb : b < 0x80) (s t : Str) :
    fromUtf8Lossy (s ++ b :: t) = fromUtf8Lossy s ++ b :: fromUtf8Lossy t := by
  induction s using utf8Chunks_induction with
  | nil => exact fromUtf8Lossy_ascii hb t
  | step a rest ih =>
    have hle := (utf8Head_bounds a rest).2
    have hhead := utf8Head_append_ascii hb a rest t
    have hchunk : utf8Chunk (a :: rest ++ b :: t) = utf8Chunk (a :: rest) := by
      rw [utf8Chunk, utf8Chunk, hhead, take_append_of_le_length hle]
    rw [cons_append, fromUtf8Lossy_cons, ← cons_append, hchunk, hhead,
      drop_append_of_le_length hle, ih, ← append_assoc, ← fromUtf8Lossy_cons]

end Kerber
